import InterpreterHost.Proofs.Broker.Order

/-!
# The end of the interpreter

When the channel is empty and no more jobs can come the owning thread finalizes the interpreter and ends.  The
thread that took the sender waits for that.  A thread that finds the sender taken does not.

## Main definitions

* `Lifetime` — a process and whether its interpreter was finalized
* `Lifetime.Step`, `Lifetime.Run` — one step, and any steps
* `Lifetime.Down` — all that was accepted has run, and the interpreter is gone
* `Lifetime.Shutdown` — what holds when a thread that ends the process goes on

## Main statements

* `Lifetime.down_iff` — the interpreter is down from the moment that it was finalized
* `Lifetime.steps_join` — the thread that took the sender comes to an end
* `Lifetime.shutdown_of_run` — all of this after any steps
* `Lifetime.exists_not_down` — a thread that finds the sender taken goes on while jobs run
-/

namespace InterpreterHost

/-- A process, and whether its interpreter was finalized. -/
structure Lifetime (V : Type) where
  process : Process V := {}
  finalized : Bool := false

namespace Lifetime

variable {V : Type} {s s' s'' : Lifetime V}

/-- One step of a process, or the end of the interpreter, which is no step of the process.  The owning thread
ends the interpreter before it ends itself. -/
inductive Step (s : Lifetime V) : Option (Happening V) → Lifetime V → Prop
  | finalize (receiving : s.process.turn = .receiving) (empty : s.process.line = [])
      (silent : s.process.connected = false) (before : s.finalized = false) :
      Step s none { s with finalized := true }
  | proceed {e : Happening V} {p : Process V} (next : Process.Step s.process e p)
      (order : e = .leave → s.finalized = true) : Step s (some e) { s with process := p }

/-- Steps from the moment that the owning thread has started, and what has become of the process. -/
inductive Run : List (Option (Happening V)) → Lifetime V → Prop
  | start : Run [] {}
  | step {past : List (Option (Happening V))} {s s' : Lifetime V} {e : Option (Happening V)} (before : Run past s)
      (next : Step s e s') : Run (past ++ [e]) s'

/-- Steps from one state to another. -/
inductive Steps : Lifetime V → List (Option (Happening V)) → Lifetime V → Prop
  | nil {s : Lifetime V} : Steps s [] s
  | cons {s s' s'' : Lifetime V} {e : Option (Happening V)} {es : List (Option (Happening V))}
      (next : Step s e s') (rest : Steps s' es s'') : Steps s (e :: es) s''

variable {past es es' : List (Option (Happening V))}

theorem Steps.append (first : Steps s es s') (second : Steps s' es' s'') : Steps s (es ++ es') s'' := by
  induction first with
  | nil => exact second
  | cons next rest ih => exact .cons next (ih second)

theorem Run.append (run : Run past s) (steps : Steps s es s') : Run (past ++ es) s' := by
  induction steps generalizing past with
  | nil => rwa [List.append_nil]
  | cons next rest ih =>
    rw [← List.singleton_append, ← List.append_assoc]
    exact ih (run.step next)

/-- The steps of the process among any steps. -/
theorem Run.process (run : Run past s) : Process.Run (past.filterMap id) s.process := by
  induction run with
  | start => exact .start
  | step before next ih =>
    rw [List.filterMap_append]
    cases next with
    | finalize => exact (List.append_nil _).symm ▸ ih
    | proceed next order => exact ih.step next

/-! ## The interpreter is down -/

/-- All that was accepted has run to its end, no job runs or waits, and the interpreter was finalized. -/
structure Down (s : Lifetime V) : Prop where
  ran : ∀ t ∈ s.process.accepted, ∃ outcome, (t, outcome) ∈ s.process.finished
  completed : s.process.completed = s.process.accepted
  idle : s.process.turn.hand = []
  empty : s.process.line = []
  finalized : s.finalized = true

/-- The interpreter is finalized when no more jobs can come, the owning thread has not ended before that, and who
waits for it to end has let go of the sender. -/
structure Finalizing (s : Lifetime V) : Prop where
  silent : s.finalized = true → s.process.connected = false ∧ s.process.line = [] ∧ s.process.turn.hand = []
  left : s.process.turn = .left → s.finalized = true
  joining : ∀ i, s.process.phase (.thread i) = .joining → s.process.connected = false

/-- What is known of who waits is not changed by a caller that goes on to something else. -/
theorem Finalizing.joining_update (finalizing : Finalizing s) {c : Caller} {p : Phase} (other : p ≠ .joining)
    (i : Nat) (joining : Function.update s.process.phase c p (.thread i) = .joining) :
    s.process.connected = false := by
  rw [Function.update_apply] at joining
  split at joining
  · exact absurd joining other
  · exact finalizing.joining i joining

theorem Finalizing.step {e : Option (Happening V)} (finalizing : Finalizing s) (locked : Process.Locked s.process)
    (next : Step s e s') : Finalizing s' := by
  cases next with
  | finalize receiving empty silent before =>
    refine ⟨fun _ => ⟨silent, empty, ?_⟩, fun _ => rfl, finalizing.joining⟩
    change s.process.turn.hand = []
    rw [receiving, Turn.hand]
  | proceed next order =>
    cases next with
    | refuse | reentrant | closeAgain => exact finalizing
    | enter | count | lose | answer | forsake | join | close =>
      exact ⟨finalizing.silent, finalizing.left, finalizing.joining_update (by simp)⟩
    | disconnect => exact ⟨fun finalized => ⟨rfl, (finalizing.silent finalized).2⟩, finalizing.left, fun _ _ => rfl⟩
    | @accept c waits counted heard =>
      refine ⟨fun finalized => ?_, finalizing.left, finalizing.joining_update (by cases waits <;> simp)⟩
      -- who holds the lock has found the sender, which is gone
      have closed := locked.silent (finalizing.silent finalized).1
      have inside := (locked.readers.mem_iff c).2 (by rw [counted]; rfl)
      rw [locked.unlocked closed] at inside
      cases inside
    | take receiving line =>
      refine ⟨fun finalized => ?_, fun left => (by cases left), finalizing.joining⟩
      cases line.symm.trans (finalizing.silent finalized).2.1
    | finish running free outcome =>
      refine ⟨fun finalized => ?_, fun left => (by cases left), finalizing.joining⟩
      have idle := (finalizing.silent finalized).2.2
      rw [running] at idle
      cases idle
    | reply ended waiter =>
      refine ⟨fun finalized => ?_, fun left => (by cases left), finalizing.joining⟩
      have idle := (finalizing.silent finalized).2.2
      rw [ended] at idle
      cases idle
    | complete done =>
      refine ⟨fun finalized => ?_, fun left => (by cases left), finalizing.joining⟩
      obtain ⟨silent, empty, -⟩ := finalizing.silent finalized
      exact ⟨silent, empty, rfl⟩
    | leave receiving empty silent => exact ⟨fun _ => ⟨silent, empty, rfl⟩, fun _ => order rfl, finalizing.joining⟩

theorem finalizing_of_run (run : Run past s) : Finalizing s := by
  induction run with
  | start =>
    exact ⟨fun finalized => (nomatch finalized), fun left => (nomatch left), fun _ joining => (nomatch joining)⟩
  | step before next ih => exact ih.step (Process.locked_of_run before.process) next

/-- The interpreter is down from the moment that it was finalized. -/
theorem down_iff (run : Run past s) : Down s ↔ s.finalized = true := by
  refine ⟨Down.finalized, fun finalized => ?_⟩
  obtain ⟨-, empty, idle⟩ := (finalizing_of_run run).silent finalized
  have queued := Process.queued_of_run run.process
  have completed : s.process.accepted = s.process.completed := by
    rw [queued.line, queued.hand, empty, idle, List.append_nil, List.append_nil]
  have ran : s.process.finished.map Prod.fst = s.process.accepted := by
    have none : s.process.turn.ran = [] := by
      cases turn : s.process.turn <;> simp_all [Turn.ran, Turn.hand]
    rw [queued.ran, none, List.append_nil, completed]
  refine ⟨fun t mem => ?_, completed.symm, idle, empty, finalized⟩
  obtain ⟨⟨t, outcome⟩, listed, rfl⟩ := List.mem_map.1 (ran ▸ mem : t ∈ s.process.finished.map Prod.fst)
  exact ⟨outcome, listed⟩

/-- A finalized interpreter stays so. -/
theorem Step.finalized {e : Option (Happening V)} (next : Step s e s') (finalized : s.finalized = true) :
    s'.finalized = true := by
  cases next with
  | finalize => rfl
  | proceed => exact finalized

/-- A thread that has waited for the owning thread to end goes on when the interpreter is down. -/
theorem Step.join {i : Nat} (finalizing : Finalizing s) (next : Step s (some (.join i)) s') :
    s'.finalized = true := by
  cases next with
  | proceed next order =>
    cases next with
    | join joining left => exact finalizing.left left

/-- So it is from then on. -/
theorem finalized_of_join {i : Nat} (run : Run past s) (mem : some (.join i) ∈ past) : s.finalized = true := by
  induction run with
  | start => cases mem
  | step before next ih =>
    rcases List.mem_append.1 mem with earlier | now
    · exact next.finalized (ih earlier)
    · cases List.mem_singleton.1 now
      exact next.join (finalizing_of_run before)

/-! ## The thread that took the sender comes to an end -/

/-- The owning thread does not come back. -/
theorem left_of_step {p p' : Process V} {e : Happening V} (next : Process.Step p e p') (left : p.turn = .left) :
    p'.turn = .left := by
  cases next with
  | take receiving => cases left.symm.trans receiving
  | finish running => cases left.symm.trans running
  | reply ended => cases left.symm.trans ended
  | complete done =>
    rcases done with replied | ⟨outcome, ended, -⟩
    · cases left.symm.trans replied
    · cases left.symm.trans ended
  | leave => rfl
  | enter | refuse | count | accept | lose | reentrant | answer | forsake | close | closeAgain | disconnect
  | join => exact left

theorem left_of_steps {p p' : Process V} {es : List (Happening V)} (steps : Process.Steps p es p')
    (left : p.turn = .left) : p'.turn = .left := by
  induction steps with
  | nil => exact left
  | cons next rest ih => exact ih (left_of_step next left)

/-- As long as the owning thread is there, steps of the process are steps. -/
theorem Steps.lift {p p' : Process V} {es : List (Happening V)} (steps : Process.Steps p es p')
    (heard : p'.turn ≠ .left) (finalized : Bool) : Steps ⟨p, finalized⟩ (es.map some) ⟨p', finalized⟩ := by
  induction steps with
  | nil => exact .nil
  | cons next rest ih =>
    refine .cons (.proceed next ?_) (ih heard)
    -- if this were the end of the owning thread it would not be there
    rintro rfl
    cases next
    exact absurd (left_of_steps rest rfl) heard

/-- The owning thread does this, or the thread lets go of the sender that it has taken, and what becomes of jobs
is as told. -/
def Alone (i : Nat) (outcome : Ticket → Except Panic V) : Option (Happening V) → Prop
  | none => True
  | some (.disconnect j) => j = i
  | some e => e.OfOwner outcome

theorem alone_of_owner {i : Nat} {outcome : Ticket → Except Panic V} {e : Happening V} (own : e.OfOwner outcome) :
    Alone i outcome (some e) := by
  cases e with
  | disconnect => cases own
  | _ => exact own

/-- The owning thread ends once all is done: it finalizes the interpreter, and who waits for that goes on. -/
theorem steps_leave {i : Nat} (finalized : Bool) {p : Process V} (receiving : p.turn = .receiving)
    (empty : p.line = []) (silent : p.connected = false) (joining : p.phase (.thread i) = .joining)
    (outcome : Ticket → Except Panic V) :
    ∃ before, Steps ⟨p, finalized⟩ (before ++ [some (.join i)])
        ⟨{ p with turn := .left, phase := Function.update p.phase (.thread i) .free }, true⟩ ∧
      ∀ e ∈ before, Alone i outcome e := by
  have ending : Steps ⟨p, true⟩ [some .leave, some (.join i)]
      ⟨{ p with turn := .left, phase := Function.update p.phase (.thread i) .free }, true⟩ :=
    .cons (.proceed (.leave receiving empty silent) fun _ => rfl)
      (.cons (.proceed (.join joining rfl) fun wrong => (nomatch wrong)) .nil)
  cases finalized with
  | true => exact ⟨[some .leave], ending, by simp [Alone, Happening.OfOwner]⟩
  | false =>
    exact ⟨[none, some .leave], .cons (.finalize receiving empty silent rfl) ending,
      by simp [Alone, Happening.OfOwner]⟩

/-- What the owning thread does leaves the threads of the process where they are. -/
theorem phase_of_owner {p p' : Process V} {e : Happening V} {outcome : Ticket → Except Panic V}
    (next : Process.Step p e p') (own : e.OfOwner outcome) (i : Nat) :
    p'.phase (.thread i) = p.phase (.thread i) := by
  cases next with
  | count | accept =>
    cases own
    rfl
  | take | finish | reply | complete | leave => rfl
  | enter | refuse | lose | reentrant | answer | forsake | close | closeAgain | disconnect | join => cases own

theorem phase_of_owners {p p' : Process V} {es : List (Happening V)} {outcome : Ticket → Except Panic V}
    (steps : Process.Steps p es p') (own : ∀ e ∈ es, e.OfOwner outcome) (i : Nat) :
    p'.phase (.thread i) = p.phase (.thread i) := by
  induction steps with
  | nil => rfl
  | cons next rest ih =>
    rw [List.forall_mem_cons] at own
    exact (ih own.2).trans (phase_of_owner next own.1 i)

/-- The thread that waits for the owning thread to end goes on in the end, whatever becomes of the jobs. -/
theorem steps_join {i : Nat} (run : Run past s) (joining : s.process.phase (.thread i) = .joining)
    (outcome : Ticket → Except Panic V) :
    ∃ es s', Steps s (es ++ [some (.join i)]) s' ∧ ∀ e ∈ es, Alone i outcome e := by
  by_cases left : s.process.turn = .left
  · exact ⟨[], _, .cons (.proceed (.join joining left) fun wrong => (nomatch wrong)) .nil, List.forall_mem_nil _⟩
  · obtain ⟨es, p, steps, own, empty, receiving, connected⟩ := Process.steps_serve_all run.process outcome left
    have silent := connected.trans ((finalizing_of_run run).joining i joining)
    obtain ⟨before, ending, alone⟩ := steps_leave s.finalized receiving empty silent
      ((phase_of_owners steps own i).trans joining) outcome
    have all := (Steps.lift steps (by simp [receiving]) s.finalized).append ending
    rw [← List.append_assoc] at all
    refine ⟨_, _, all, List.forall_mem_append.2 ⟨?_, alone⟩⟩
    rintro _ mem
    obtain ⟨e, listed, rfl⟩ := List.mem_map.1 mem
    exact alone_of_owner (own e listed)

/-- So does the one that has taken the sender and not yet let go of it. -/
theorem steps_close {i : Nat} (run : Run past s) (closing : s.process.phase (.thread i) = .closing)
    (outcome : Ticket → Except Panic V) :
    ∃ es s', Steps s (es ++ [some (.join i)]) s' ∧ ∀ e ∈ es, Alone i outcome e := by
  have next : Step s (some (.disconnect i)) _ := .proceed (.disconnect closing) fun wrong => (nomatch wrong)
  obtain ⟨es, s', steps, alone⟩ := steps_join (run.step next) (Process.update_same _ _ _) outcome
  exact ⟨some (.disconnect i) :: es, s', .cons next steps, List.forall_mem_cons.2 ⟨rfl, alone⟩⟩

/-! ## What a host does -/

theorem exists_of_steps_append {p p'' : Process V} {es es' : List (Happening V)}
    (steps : Process.Steps p (es ++ es') p'') : ∃ p', Process.Steps p es p' ∧ Process.Steps p' es' p'' := by
  induction es generalizing p with
  | nil => exact ⟨p, .nil, steps⟩
  | cons e es ih =>
    cases steps with
    | cons next rest =>
      obtain ⟨p', first, second⟩ := ih rest
      exact ⟨p', .cons next first, second⟩

/-- A thread that ends the process, where nobody else does anything, goes on when the interpreter is down. -/
theorem steps_terminate [Inhabited V] {h : Host} (run : Run past s) (rests : Process.Rests s.process h) (i : Nat) :
    ∃ h' es s', Action.terminate.run h = (.ok (.ok ()), h') ∧ Steps s es s' ∧ Process.Rests s'.process h' ∧
      s'.finalized = true := by
  obtain ⟨h', es, p, terminated, steps, rests', closed, ends | ends⟩ :=
    Process.steps_terminate (V := V) rests (rests.shows.started run.process) i
  · obtain ⟨after, rfl, -⟩ := ends
    obtain ⟨p₁, first, last⟩ := exists_of_steps_append steps
    cases last with
    | cons leave last =>
      cases leave with
      | leave receiving empty silent =>
        cases last with
        | cons join last =>
          cases join with
          | join joining left =>
            cases last
            obtain ⟨before, ending, -⟩ :=
              steps_leave s.finalized receiving empty silent joining fun _ => .ok default
            have lifted := Steps.lift first (by simp [receiving]) s.finalized
            exact ⟨h', _, _, terminated, lifted.append ending, rests', rfl⟩
  · obtain ⟨rfl, -⟩ := ends
    cases steps with
    | cons next rest =>
      cases rest
      have left : p.turn = .left := by rw [rests'.turn, if_neg (by simp [closed])]
      have again : Step s (some (.closeAgain i)) { s with process := p } :=
        .proceed next fun wrong => (nomatch wrong)
      exact ⟨h', _, _, terminated, .cons again .nil, rests', (finalizing_of_run (run.step again)).left left⟩

/-! ## After any steps -/

/-- What holds when a thread that ends the process goes on. -/
structure Shutdown [Inhabited V] (past : List (Option (Happening V))) (s : Lifetime V) : Prop where
  /-- One thread takes the sender. -/
  once : (past.filterMap id).countP Happening.closes ≤ 1
  /-- When it goes on the interpreter is down, -/
  joins : ∀ i s', Step s (some (.join i)) s' → Down s'
  /-- and so it is from then on. -/
  stays : ∀ i, some (.join i) ∈ past → Down s
  /-- It goes on when the owning thread has come to its end, whatever becomes of the jobs. -/
  returns : ∀ i, s.process.phase (.thread i) = .closing ∨ s.process.phase (.thread i) = .joining →
    ∀ outcome, ∃ es s', Steps s (es ++ [some (.join i)]) s' ∧ ∀ e ∈ es, Alone i outcome e
  /-- A thread that finds the sender taken goes on at once and changes nothing.  The interpreter is down then if it
  was finalized before. -/
  again : ∀ i s', Step s (some (.closeAgain i)) s' → s' = s ∧ (Down s' ↔ s.finalized = true)
  /-- When nobody else does anything the interpreter is down after either. -/
  carries : ∀ h, Process.Rests s.process h → ∃ h' es s', Action.terminate.run h = (.ok (.ok ()), h') ∧
    Steps s es s' ∧ Process.Rests s'.process h' ∧ Down s'

theorem shutdown_of_run [Inhabited V] (run : Run past s) : Shutdown past s := by
  refine ⟨(Process.closing_of_run run.process).once, ?_, ?_, ?_, ?_, ?_⟩
  · intro i s' next
    exact (down_iff (run.step next)).2 (next.join (finalizing_of_run run))
  · intro i mem
    exact (down_iff run).2 (finalized_of_join run mem)
  · rintro i (closing | joining) outcome
    · exact steps_close run closing outcome
    · exact steps_join run joining outcome
  · intro i s' next
    have same : s' = s := by
      cases next with
      | proceed next order =>
        cases next
        rfl
    rw [same]
    exact ⟨rfl, down_iff run⟩
  · intro h rests
    obtain ⟨h', es, s', terminated, steps, rests', finalized⟩ := steps_terminate run rests 0
    exact ⟨h', es, s', terminated, steps, rests', (down_iff (run.append steps)).2 finalized⟩

theorem Steps.exists_cons {e : Option (Happening V)} {P : Lifetime V → Prop} (next : Step s e s')
    (rest : ∃ s'', Steps s' es s'' ∧ P s'') : ∃ s'', Steps s (e :: es) s'' ∧ P s'' := by
  obtain ⟨s'', steps, holds⟩ := rest
  exact ⟨s'', .cons next steps, holds⟩

/-- A step of the process that is not the end of the owning thread. -/
theorem Step.of {e : Happening V} {p : Process V} (next : Process.Step s.process e p) (other : e ≠ .leave) :
    Step s (some e) { s with process := p } := .proceed next fun same => absurd same other

/-- One thread queues a job, another ends the process, and the owning thread comes to its end. -/
def farewell : List (Option (Happening Nat)) :=
  [some (.enter (.thread 0) false), some (.count (.thread 0)), some (.accept (.thread 0) ⟨0, none⟩), some (.close 1),
    some (.take ⟨0, none⟩), some (.disconnect 1), some (.finish ⟨0, none⟩ (.ok 0)), some (.complete ⟨0, none⟩), none,
    some .leave, some (.join 1)]

theorem steps_farewell : ∃ s : Lifetime Nat, Steps {} farewell s ∧ s.process.accepted = [⟨0, none⟩] := by
  refine Steps.exists_cons (.of (.enter rfl trivial rfl) nofun) ?_
  refine Steps.exists_cons (.of (.count rfl) nofun) ?_
  refine Steps.exists_cons (.of (@Process.Step.accept _ _ _ false rfl nofun) nofun) ?_
  refine Steps.exists_cons (.of (.close rfl rfl rfl) nofun) ?_
  refine Steps.exists_cons (.of (.take rfl rfl) nofun) ?_
  refine Steps.exists_cons (.of (.disconnect rfl) nofun) ?_
  refine Steps.exists_cons (.of (.finish rfl rfl _) nofun) ?_
  refine Steps.exists_cons (.of (.complete (.inr ⟨_, rfl, rfl⟩)) nofun) ?_
  refine Steps.exists_cons (.finalize rfl rfl rfl rfl) ?_
  refine Steps.exists_cons (.proceed (.leave rfl rfl rfl) fun _ => rfl) ?_
  refine Steps.exists_cons (.of (.join rfl rfl) nofun) ?_
  exact ⟨_, .nil, rfl⟩

theorem shutdown_farewell : ∃ s : Lifetime Nat, Run farewell s ∧ s.process.accepted = [⟨0, none⟩] ∧
    Shutdown farewell s ∧ Down s := by
  obtain ⟨s, steps, accepted⟩ := steps_farewell
  have run : Run farewell s := Run.start.append steps
  have shutdown := shutdown_of_run run
  exact ⟨s, run, accepted, shutdown, shutdown.stays 1 (by simp [farewell])⟩

/-- Two threads queue jobs, and while the first one runs another thread takes the sender. -/
def overtaking : List (Option (Happening Nat)) :=
  [some (.enter (.thread 0) false), some (.count (.thread 0)), some (.accept (.thread 0) ⟨0, none⟩),
    some (.enter (.thread 1) false), some (.count (.thread 1)), some (.accept (.thread 1) ⟨1, none⟩),
    some (.take ⟨0, none⟩), some (.close 2)]

theorem steps_overtaking : ∃ s : Lifetime Nat, Steps {} overtaking s ∧ s.process.phase (.thread 3) = .free ∧
    s.process.broker.stage = .terminated ∧ s.process.turn = .running ⟨0, none⟩ ∧
    s.process.line = [⟨1, none⟩] ∧ s.finalized = false := by
  refine Steps.exists_cons (.of (.enter rfl trivial rfl) nofun) ?_
  refine Steps.exists_cons (.of (.count rfl) nofun) ?_
  refine Steps.exists_cons (.of (@Process.Step.accept _ _ _ false rfl nofun) nofun) ?_
  refine Steps.exists_cons (.of (.enter rfl trivial rfl) nofun) ?_
  refine Steps.exists_cons (.of (.count rfl) nofun) ?_
  refine Steps.exists_cons (.of (@Process.Step.accept _ _ _ false rfl nofun) nofun) ?_
  refine Steps.exists_cons (.of (.take rfl rfl) nofun) ?_
  refine Steps.exists_cons (.of (.close rfl rfl rfl) nofun) ?_
  exact ⟨_, .nil, rfl, rfl, rfl, rfl, rfl⟩

/-- A thread that finds the sender taken goes on while a job runs and another one waits, and the interpreter is
there. -/
theorem exists_not_down : ∃ s s' : Lifetime Nat, Run overtaking s ∧ Step s (some (.closeAgain 3)) s' ∧
    s'.process.turn = .running ⟨0, none⟩ ∧ s'.process.line = [⟨1, none⟩] ∧ s'.finalized = false ∧ ¬ Down s' := by
  obtain ⟨s, steps, free, closed, running, line, finalized⟩ := steps_overtaking
  refine ⟨s, s, Run.start.append steps, .of (.closeAgain free closed) nofun, running, line, finalized, ?_⟩
  intro down
  cases down.finalized.symm.trans finalized

end Lifetime

end InterpreterHost
