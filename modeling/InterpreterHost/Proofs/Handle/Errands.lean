import InterpreterHost.Proofs.Handle.Custody

/-!
# Handles on a host, as steps

To drop a handle, to release it or to get a second one is an action of a host.  Where no other thread is in the
middle of anything, it is a sequence of the steps that the references to the object are followed through.

## Main definitions

* `Custody.At` — the references are where a host says they are
* `Custody.Sends`, `Custody.Waits` — how far a thread has come with its job
* `Custody.Spares` — code that gives up no reference that handles hold
* `Custody.Carries` — what a host does with handles are steps

## Main statements

* `Custody.steps_drain` — the owning thread gives up what was queued
* `Custody.steps_drop`, `Custody.steps_await`, `Custody.steps_refuse` — a thread goes on at once, waits for its
  job, or is told that there is none
* `Custody.steps_call` — a thread calls the object
* `Custody.steps_terminate` — a thread ends the process
* `Custody.carries` — all actions, wherever steps have led

## Design notes

The tasks in line on such a host are references to this object that are to be given up, so that its actions can
follow one another in any order.
-/

namespace InterpreterHost.Custody

variable {V : Type} {r : Ref} {s s' s'' : Custody V} {b : Broker} {o : Owner} {h : Host}

theorem Run.steps (run : Run r s) (steps : Steps r s s') : Run r s' := by
  induction steps with
  | refl => exact run
  | tail _ next ih => exact ih.step next

/-! ## Where the references are -/

/-- The process is where the broker says it is, and what waits in line are references to be given up. -/
structure Shown (r : Ref) (s : Custody V) (b : Broker) (o : Owner) : Prop where
  shows : Process.Shows s.process b
  owner : s.owner = o
  tasks : ∀ task ∈ b.queue, task = .of (Job.release r)
  line : ∀ t ∈ s.process.line, s.jobs t.number = some .drop

/-- The references are where a host says they are, and no thread is in the middle of anything. -/
structure At (r : Ref) (s : Custody V) (h : Host) : Prop where
  rests : Process.Rests s.process h
  owner : s.owner = h.owner
  idle : s.errands = []
  tasks : ∀ task ∈ h.broker.queue, task = .of (Job.release r)
  line : ∀ t ∈ s.process.line, s.jobs t.number = some .drop

theorem At.shown (rests : At r s h) : Shown r s h.broker h.owner :=
  ⟨rests.rests.shows, rests.owner, rests.tasks, rests.line⟩

theorem At.free (rests : At r s h) (c : Caller) : s.process.phase c = .free := by rw [rests.rests.phase]

theorem At.errand (rests : At r s h) (i : Nat) : s.errand i = none := by
  unfold Custody.errand
  rw [rests.idle]
  rfl

/-- Callers are at the same points, and everything is where it was but what the owner has. -/
structure Alike (s s' : Custody V) : Prop where
  process : Process.Alike s.process s'.process
  handles : s'.handles = s.handles
  errands : s'.errands = s.errands
  elsewhere : s'.elsewhere = s.elsewhere

theorem Alike.refl (s : Custody V) : Alike s s := ⟨.refl _, rfl, rfl, rfl⟩

theorem Alike.trans (first : Alike s s') (second : Alike s' s'') : Alike s s'' :=
  ⟨first.process.trans second.process, second.handles.trans first.handles, second.errands.trans first.errands,
    second.elsewhere.trans first.elsewhere⟩

/-- A step of the process that moves no references. -/
theorem Step.quiet {e : Happening V} {p : Process V} (next : Process.Step s.process e p) (allowed : s.Allows e)
    (same : s.effect r e = s) : Step r s { s with process := p } := by
  have step := Step.proceed (r := r) next allowed
  rwa [same] at step

/-- A job that is about the handle comes to its end. -/
theorem Step.finish {t : Ticket} {e : Errand} {v : V} {p : Process V}
    (next : Process.Step s.process (.finish t (.ok v)) p) (about : s.jobs t.number = some e) :
    Step r s { s.carryOut r e with process := p } := by
  have allowed : s.Allows (.finish t (.ok v)) := by
    simp only [Allows, about]
    exact ⟨v, rfl⟩
  have same : s.effect r (.finish t (.ok v)) = s.carryOut r e := by simp only [effect, about]
  have step := Step.proceed (r := r) next allowed
  rwa [same] at step

/-- A thread has handed over the job, which is about what the thread was. -/
theorem Step.accept {i : Nat} {t : Ticket} {p : Process V}
    (next : Process.Step s.process (.accept (.thread i) t) p) : Step r s { s with
      process := p
      errands := s.errandsWithout i
      jobs := Function.update s.jobs t.number (s.errand i) } := .proceed next trivial

/-! ## What was queued -/

/-- The owning thread takes the first task in line. -/
theorem steps_take {task : Task} {rest : List Task} (shown : Shown r s b o)
    (receiving : s.process.turn = .receiving) (queue : b.queue = task :: rest) :
    ∃ t s', Steps r s s' ∧ Shown r s' { b with queue := rest } o ∧ Alike s s' ∧ s'.process.turn = .running t ∧
      s'.jobs t.number = some .drop ∧ t.waiter = none ∧ task = .of (Job.release r) := by
  have tasks := shown.tasks
  rw [queue, List.forall_mem_cons] at tasks
  have length := shown.shows.line
  rw [queue, List.length_cons] at length
  obtain ⟨t, tail, line⟩ := List.exists_cons_of_length_eq_add_one length
  have about := shown.line
  rw [line, List.forall_mem_cons] at about
  have nobody := shown.shows.nobody
  rw [line, List.forall_mem_cons] at nobody
  rw [line, List.length_cons] at length
  exact ⟨t, _, .head (.quiet (.take receiving line) trivial rfl) .refl,
    ⟨⟨shown.shows.broker, Nat.succ.inj length, nobody.2, shown.shows.job⟩, shown.owner, tasks.2, about.2⟩,
    ⟨⟨rfl, rfl, rfl⟩, rfl, rfl, rfl⟩, rfl, about.1, nobody.1, tasks.1⟩

/-- The owning thread gives up a reference, for which nobody waits. -/
theorem steps_give [Inhabited V] {t : Ticket} (shown : Shown r s b o) (running : s.process.turn = .running t)
    (about : s.jobs t.number = some .drop) (nobody : t.waiter = none) :
    ∃ s', Steps r s s' ∧ Shown r s' (b.finish false) ((Job.release r).run o).2 ∧ Alike s s' ∧
      s'.process.turn = .receiving := by
  refine ⟨_, .head (.finish (.finish running shown.shows.job (.ok default)) about)
    (.head (.quiet (.complete (.inr ⟨_, rfl, nobody⟩)) trivial rfl) .refl),
    ⟨⟨?_, shown.shows.line, shown.shows.nobody, shown.shows.job⟩, ?_, shown.tasks, shown.line⟩,
    ⟨⟨rfl, rfl, rfl⟩, rfl, rfl, rfl⟩, rfl⟩
  · change ({ s.process.broker with panicked := _, completed := _ } : Broker) = _
    rw [shown.shows.broker]
    rfl
  · change s.releasedOnce r = _
    rw [← shown.owner]
    rfl

/-- The owning thread gives up all that was queued. -/
theorem steps_drain [Inhabited V] (shown : Shown r s b o) (receiving : s.process.turn = .receiving) :
    ∃ s', Steps r s s' ∧ Shown r s' (b.drain o).1 (b.drain o).2 ∧ Alike s s' ∧ s'.process.turn = .receiving := by
  fun_induction Broker.drain b o generalizing s with
  | case1 b o empty => exact ⟨s, .refl, shown, .refl s, receiving⟩
  | case2 b o task rest queued after =>
    rename_i ih
    obtain ⟨t, s₁, took, shown₁, alike₁, running, about, nobody, rfl⟩ := steps_take shown receiving queued
    obtain ⟨s₂, gave, shown₂, alike₂, receiving₂⟩ := steps_give shown₁ running about nobody
    obtain ⟨s₃, steps, shown₃, alike₃, receiving₃⟩ := ih shown₂ receiving₂
    exact ⟨s₃, (took.trans gave).trans steps, shown₃, (alike₁.trans alike₂).trans alike₃, receiving₃⟩

/-! ## While jobs are accepted -/

/-- A thread is about to send its job, and the owning thread has nothing to do but what is in line. -/
structure Sends (r : Ref) (s : Custody V) (b : Broker) (o : Owner) (i : Nat) (waits : Bool)
    (about : Option Errand) : Prop where
  shown : Shown r s b o
  phase : s.process.phase = Function.update (fun _ => .free) (.thread i) (.counted waits)
  readers : s.process.readers = [.thread i]
  connected : s.process.connected = true
  receiving : s.process.turn = .receiving
  errands : s.errands = about.toList.map fun e => (i, e)

/-- A thread waits for its job, which runs, and nothing is in line. -/
structure Waits (r : Ref) (s : Custody V) (b : Broker) (o : Owner) (i n : Nat) (about : Option Errand) : Prop where
  shown : Shown r s b o
  phase : s.process.phase = Function.update (fun _ => .free) (.thread i) (.waiting n)
  readers : s.process.readers = []
  connected : s.process.connected = true
  running : s.process.turn = .running ⟨n, some i⟩
  errands : s.errands = []
  about : s.jobs n = about
  empty : b.queue = []

variable {i k n : Nat} {e : Errand} {waits : Bool} {about : Option Errand}

theorem Shown.line_of_empty (shown : Shown r s b o) (empty : b.queue = []) : s.process.line = [] := by
  rw [← List.length_eq_zero_iff, shown.shows.line, empty, List.length_nil]

/-- What a thread is about if it is the only one that is about anything. -/
theorem errand_of (errands : s.errands = about.toList.map fun e => (i, e)) : s.errand i = about := by
  unfold Custody.errand
  rw [errands]
  cases about with
  | none => rfl
  | some e => exact List.lookup_cons_self

theorem Sends.errandsWithout (sends : Sends r s b o i waits about) : s.errandsWithout i = [] := by
  unfold Custody.errandsWithout
  rw [sends.errands]
  cases about <;> simp

theorem Sends.ready (sends : Sends r s b o i waits about) : s.process.phase (.thread i) = .counted waits := by
  rw [sends.phase, Process.update_same]

theorem Sends.heard (sends : Sends r s b o i waits about) : s.process.turn ≠ .left := by simp [sends.receiving]

/-- A thread finds the sender, and its job is counted. -/
theorem steps_enter (waits : Bool) (rests : At r s h) (running : h.broker.stage = .running)
    (process : s'.process = s.process) (owner : s'.owner = s.owner) (jobs : s'.jobs = s.jobs)
    (errands : s'.errands = about.toList.map fun e => (i, e)) (same : ∀ e, about = some e → waits = e.waits) :
    ∃ s'', Steps r s' s'' ∧
      Sends r s'' { h.broker with submitted := h.broker.submitted + 1 } h.owner i waits about ∧
      s''.handles = s'.handles ∧ s''.elsewhere = s'.elsewhere := by
  obtain ⟨shows, -, tasks, line⟩ := rests.shown
  have idle := rests.rests
  rw [← process] at shows line idle
  rw [← jobs] at line
  have free : s'.process.phase (.thread i) = .free := by rw [idle.phase]
  have allowed : s'.Allows (.enter (.thread i) waits) := by
    intro e about'
    exact same e ((errand_of errands).symm.trans about')
  refine ⟨_, .head (.quiet (.enter free trivial (shows.stage.trans running)) allowed rfl)
      (.head (.quiet (.count (Process.update_same _ _ _)) trivial rfl) .refl),
    ⟨⟨{ shows with broker := ?_ }, owner.trans rests.owner, tasks, line⟩, ?_, ?_, ?_, ?_, errands⟩,
    rfl, rfl⟩
  · change ({ s'.process.broker with submitted := s'.process.broker.submitted + 1 } : Broker) = _
    rw [shows.broker]
  · change Function.update (Function.update s'.process.phase _ _) _ _ = _
    rw [Function.update_idem, idle.phase]
  · change .thread i :: s'.process.readers = _
    rw [idle.readers]
  · change s'.process.connected = true
    rw [idle.connected, decide_eq_true running]
  · change s'.process.turn = .receiving
    rw [idle.turn, if_pos running]

/-- A thread that begins something with a handle finds the sender, and its job is counted. -/
theorem steps_counted (rests : At r s h) (running : h.broker.stage = .running)
    (holds : s.handles[k]? = some (.of r)) (e : Errand) (i : Nat) :
    ∃ s', Steps r s s' ∧
      Sends r s' { h.broker with submitted := h.broker.submitted + 1 } h.owner i e.waits (some e) ∧
      s'.handles = (s.begun i k e).handles := by
  have begun : Step r s (s.begun i k e) := .begin e (rests.free _) (rests.errand i) holds
  have errands : (s.begun i k e).errands = (some e).toList.map fun e => (i, e) := congrArg ((i, e) :: ·) rests.idle
  have process : (s.begun i k e).process = s.process := rfl
  obtain ⟨s', steps, sends, handles, -⟩ := steps_enter e.waits rests running process rfl rfl errands
    fun e' same => congrArg Errand.waits (Option.some.inj same)
  exact ⟨s', steps.head begun, sends, handles⟩

/-- A thread that drops a handle hands over the job and goes on. -/
theorem steps_drop (rests : At r s h) (running : h.broker.stage = .running)
    (holds : s.handles[k]? = some (.of r)) (i : Nat) :
    ∃ s', Steps r s s' ∧ At r s' { h with broker := { h.broker with
        submitted := h.broker.submitted + 1
        queue := h.broker.queue ++ [.of (Job.release r)] } } ∧ s'.handles = s.handles.set k .null := by
  obtain ⟨s₁, counted, sends, handles⟩ := steps_counted rests running holds .drop i
  have shown := sends.shown
  refine ⟨_, counted.trans (.head (.accept (.accept sends.ready sends.heard)) .refl),
    ⟨⟨⟨shown.shows.broker, ?_, ?_, shown.shows.job⟩, ?_, ?_, ?_, ?_, rests.rests.outside⟩, shown.owner,
      sends.errandsWithout, ?_, ?_⟩, handles⟩
  · change (s₁.process.line ++ [_]).length = (h.broker.queue ++ [_]).length
    rw [List.length_append, List.length_append, shown.shows.line]
    rfl
  · exact List.forall_mem_append.2 ⟨shown.shows.nobody, List.forall_mem_singleton.2 rfl⟩
  · change Function.update s₁.process.phase (.thread i) .free = _
    rw [sends.phase, Function.update_idem, Process.update_free rfl]
  · change s₁.process.readers.erase (.thread i) = []
    rw [sends.readers, List.erase_cons_head]
  · exact sends.receiving.trans (if_pos running).symm
  · exact sends.connected.trans (decide_eq_true running).symm
  · exact List.forall_mem_append.2 ⟨rests.tasks, List.forall_mem_singleton.2 rfl⟩
  · -- the job has a number of its own, but what the jobs before it are about is the same
    intro t mem
    change Function.update s₁.jobs _ (s₁.errand i) t.number = _
    rw [Function.update_apply, errand_of sends.errands]
    split
    · rfl
    · next other =>
      rcases List.mem_append.1 mem with before | last
      · exact shown.line t before
      · rw [List.mem_singleton.1 last] at other
        exact absurd rfl other

/-- Before a thread hands over its job the owning thread gives up all that was queued. -/
theorem Sends.drain [Inhabited V] (sends : Sends r s b o i waits about) :
    ∃ s', Steps r s s' ∧ Sends r s' (b.drain o).1 (b.drain o).2 i waits about ∧ s'.handles = s.handles ∧
      s'.elsewhere = s.elsewhere := by
  obtain ⟨s', drained, shown, alike, receiving⟩ := steps_drain sends.shown sends.receiving
  exact ⟨s', drained, ⟨shown, alike.process.phase.trans sends.phase, alike.process.readers.trans sends.readers,
    alike.process.connected.trans sends.connected, receiving, alike.errands.trans sends.errands⟩, alike.handles,
    alike.elsewhere⟩

/-- A thread hands over its job and waits, and the owning thread takes it. -/
theorem steps_handOver (sends : Sends r s b o i true about) (empty : b.queue = []) :
    ∃ n s', Steps r s s' ∧ Waits r s' b o i n about ∧ s'.handles = s.handles ∧ s'.elsewhere = s.elsewhere ∧
      s'.refs = s.refs := by
  have shown := sends.shown
  have first : s.process.line ++ [⟨s.process.accepted.length, some i⟩] = [⟨s.process.accepted.length, some i⟩] := by
    rw [shown.line_of_empty empty, List.nil_append]
  refine ⟨s.process.accepted.length, _, .head (.accept (.accept sends.ready sends.heard))
    (.head (.quiet (.take sends.receiving first) trivial rfl) .refl),
    ⟨⟨⟨shown.shows.broker, ?_, List.forall_mem_nil _, shown.shows.job⟩, shown.owner, shown.tasks,
      List.forall_mem_nil _⟩, ?_, ?_, sends.connected, rfl, sends.errandsWithout, ?_, empty⟩, rfl, rfl, rfl⟩
  · rw [empty]
    rfl
  · change Function.update s.process.phase (.thread i) (.waiting _) = _
    rw [sends.phase, Function.update_idem]
  · change s.process.readers.erase (.thread i) = []
    rw [sends.readers, List.erase_cons_head]
  · exact (Function.update_self _ _ _).trans (errand_of sends.errands)

/-- The job that a thread waits for comes to its end, and the thread has its answer. -/
theorem steps_answer {m : Custody V} (outcome : Except Panic V) (waiting : Waits r s b o i n about)
    (finish : ∀ p, Process.Step s.process (.finish ⟨n, some i⟩ outcome) p → Step r s { m with process := p })
    (errands : m.errands = s.errands) (stage : b.stage = .running)
    (outside : h.insideJob = false) :
    ∃ s', Steps r s s' ∧ At r s' { h with owner := m.owner, broker := b.finish (Turn.isPanic outcome) } ∧
      s'.handles = m.handles := by
  have shown := waiting.shown
  have empty := shown.line_of_empty waiting.empty
  have phase : s.process.phase (.thread i) = .waiting n := by rw [waiting.phase, Process.update_same]
  refine ⟨_, .head (finish _ (.finish waiting.running shown.shows.job outcome))
    (.head (.quiet (.reply rfl rfl) trivial rfl) (.head (.quiet (.complete (.inl rfl)) trivial rfl)
      (.head (.quiet (.answer phase (Function.update_self _ _ _)) trivial rfl) .refl))),
    ⟨⟨⟨?_, shown.shows.line, shown.shows.nobody, shown.shows.job⟩, ?_, waiting.readers, (if_pos stage).symm,
      waiting.connected.trans (decide_eq_true stage).symm, outside⟩, rfl, errands.trans waiting.errands, ?_, ?_⟩, rfl⟩
  · change ({ s.process.broker with panicked := _, completed := _ } : Broker) = _
    rw [shown.shows.broker]
    rfl
  · change Function.update s.process.phase (.thread i) .free = _
    rw [waiting.phase, Function.update_idem, Process.update_free rfl]
  · exact shown.tasks
  · change ∀ t ∈ s.process.line, _
    rw [empty]
    exact List.forall_mem_nil _

/-- A thread hands over the job that it is about and waits.  The owning thread comes to it after what was queued. -/
theorem steps_await [Inhabited V] (rests : At r s h) (running : h.broker.stage = .running)
    (holds : s.handles[k]? = some (.of r)) (waits : e.waits = true) (i : Nat) :
    ∃ m s' : Custody V, Steps r s s' ∧ m.owner = h.ownerAfterTasks ∧ m.handles = (s.begun i k e).handles ∧
      At r s' { h with
        owner := (m.carryOut r e).owner
        broker := ({ h.broker with submitted := h.broker.submitted + 1 }.drain h.owner).1.finish false } ∧
      s'.handles = (m.carryOut r e).handles := by
  obtain ⟨s₁, counted, sends₁, handles₁⟩ := steps_counted rests running holds e i
  rw [waits] at sends₁
  obtain ⟨s₂, drained, sends₂, handles₂, -⟩ := sends₁.drain
  obtain ⟨n, s₃, handed, waiting, handles₃, -⟩ := steps_handOver sends₂ (Process.queue_drain _ _)
  obtain ⟨s₄, answered, rests', handles₄⟩ := steps_answer (.ok default) waiting
    (fun p next => .finish next waiting.about) (by cases e <;> rfl)
    ((Broker.stage_drain _ _).trans running) rests.rests.outside
  exact ⟨s₃, s₄, counted.trans (drained.trans (handed.trans answered)), waiting.shown.owner,
    handles₃.trans (handles₂.trans handles₁), rests', handles₄⟩

/-! ## Calls -/

/-- Code gives up at most as many references to the object as there are elsewhere. -/
def Spares {α : Type} (r : Ref) (elsewhere : Nat) (code : Job α) : Prop :=
  ∀ o : Owner, r < o.interpreter.heap.cells.size → r < (code.run o).2.interpreter.heap.cells.size ∧
    o.interpreter.heap.count r ≤ (code.run o).2.interpreter.heap.count r + elsewhere

/-- The job of a thread that is about no handle runs code and comes to its end. -/
theorem steps_code [Inhabited V] {α : Type} {code : Job α} (waiting : Waits r s b o i n none) (balanced : Balanced r s)
    (nothing : s.refs = 0) (spares : Spares r s.elsewhere code) (stage : b.stage = .running)
    (outside : h.insideJob = false) :
    ∃ s', Steps r s s' ∧ At r s' { h with
        owner := (code.run o).2
        broker := b.finish (Turn.isPanic (code.run o).1) } ∧ s'.handles = s.handles := by
  obtain ⟨⟨shows, owner, tasks, line⟩, phase, readers, connected, running, errands, about, empty⟩ := waiting
  subst owner
  obtain ⟨place, enough⟩ := spares s.owner balanced.place
  rcases ran : code.run s.owner with ⟨outcome, o'⟩
  rw [ran] at place enough
  -- what there is elsewhere afterwards is what the count says
  have deed : Inside r s { s with
      owner := o'
      elsewhere := o'.interpreter.heap.count r + s.elsewhere - s.heap.count r } :=
    .code place (Nat.add_sub_of_le enough).symm
  have waiting' : Waits r { s with
      owner := o'
      elsewhere := o'.interpreter.heap.count r + s.elsewhere - s.heap.count r } b o' i n none :=
    ⟨⟨shows, rfl, tasks, line⟩, phase, readers, connected, running, errands, about, empty⟩
  obtain ⟨s', steps, rests, handles⟩ := steps_answer (outcome.map fun _ => default) waiting'
    (fun p next => .quiet next (by simp only [Allows, about]; exact nothing) (by simp only [effect, about]))
    rfl stage outside
  have same : Turn.isPanic (outcome.map fun _ => (default : V)) = Turn.isPanic outcome := by cases outcome <;> rfl
  rw [same] at rests
  exact ⟨s', steps.head (.inside running about deed), rests, handles⟩

/-- A thread has code run as a job and waits for it. -/
theorem steps_job [Inhabited V] {α : Type} {code : Job α} (run : Run r s) (rests : At r s h)
    (running : h.broker.stage = .running) (spares : Spares r s.elsewhere code) (i : Nat) :
    ∃ result h' s', (Action.execSync (Action.job code)).run h = (.ok result, h') ∧ Steps r s s' ∧ At r s' h' ∧
      s'.handles = s.handles := by
  have process : s.process = s.process := rfl
  have idle : s.errands = (none : Option Errand).toList.map fun e => (i, e) := rests.idle
  obtain ⟨s₁, entered, sends₁, handles₁, elsewhere₁⟩ := steps_enter true rests running process rfl rfl idle
    fun _ wrong => (nomatch wrong)
  obtain ⟨s₂, drained, sends₂, handles₂, elsewhere₂⟩ := sends₁.drain
  have nothing := (balanced_of_run (run.steps (entered.trans drained))).refs_eq_zero sends₂.receiving
  obtain ⟨n, s₃, handed, waiting, handles₃, elsewhere₃, refs₃⟩ := steps_handOver sends₂ (Process.queue_drain _ _)
  have before := entered.trans (drained.trans handed)
  rw [← elsewhere₁, ← elsewhere₂, ← elsewhere₃] at spares
  obtain ⟨s₄, ended, rests', handles₄⟩ := steps_code waiting (balanced_of_run (run.steps before))
    (refs₃.trans nothing) spares ((Broker.stage_drain _ _).trans running) rests.rests.outside
  exact ⟨_, _, s₄, Action.run_execSync_job rests.rests.outside (Process.accept_of_running running) code,
    before.trans ended, rests', handles₄.trans (handles₃.trans (handles₂.trans handles₁))⟩

/-! ## Once no more jobs are accepted -/

/-- The owner once a thread is told that its job is not accepted: it has warned if nobody else would hear of it. -/
def warned (e : Errand) (o : Owner) : Owner :=
  if e = .drop then ((Job.warn Handle.leakWarning).run o).2 else o

/-- Who is told that a job is not accepted leaves the interpreter as it is. -/
theorem refuse_of (about : s.errand i = some e) : s.refuse i = { s with
    owner := warned e s.owner
    errands := s.errandsWithout i
    leaked := s.leaked + if e.gives then 1 else 0 } := by
  unfold Custody.refuse
  rw [about]
  cases e <;> rfl

/-- A thread that is about something is told that its job is not accepted. -/
theorem Step.refuse {waits : Bool} {error : BrokerError}
    (next : Process.Step s.process (.refuse (.thread i) waits error) s.process) (about : s.errand i = some e)
    (same : waits = e.waits) : Step r s (s.refuse i) := by
  have allowed : s.Allows (.refuse (.thread i) waits error) := by
    intro e' about'
    rw [about] at about'
    cases about'
    exact same
  have step := Step.proceed (r := r) next allowed
  simp only [effect] at step
  rwa [← s.process_refuse i] at step

/-- A thread that begins something with a handle is told that its job is not accepted. -/
theorem steps_refuse (rests : At r s h) (closed : h.broker.stage = .terminated)
    (holds : s.handles[k]? = some (.of r)) (e : Errand) (i : Nat) :
    ∃ s', Steps r s s' ∧ At r s' { h with owner := warned e h.owner } ∧
      s'.handles = (s.begun i k e).handles := by
  have free := rests.free (.thread i)
  have about : (s.begun i k e).errand i = some e := List.lookup_cons_self
  have refused : s.process.broker.accept = .error .terminated :=
    Process.accept_of_not_running (by simp [rests.shown.shows.stage, closed])
  have told : Step r (s.begun i k e) _ := .refuse (.refuse free trivial refused) about rfl
  rw [refuse_of about] at told
  refine ⟨_, .head (.begin e free (rests.errand i) holds) (.head told .refl),
    ⟨⟨rests.rests.shows, rests.rests.phase, rests.rests.readers, rests.rests.turn, rests.rests.connected,
      rests.rests.outside⟩, congrArg (warned e) rests.owner, ?_, rests.tasks, rests.line⟩, rfl⟩
  change ((i, e) :: s.errands).eraseP (i == ·.1) = []
  rw [rests.idle]
  simp

/-! ## The end of the process -/

/-- A thread ends the process, or finds that this was done. -/
theorem steps_terminate [Inhabited V] (rests : At r s h) (started : h.broker.stage ≠ .idle) (i : Nat) :
    ∃ h' s', Action.terminate.run h = (.ok (.ok ()), h') ∧ Steps r s s' ∧ At r s' h' ∧ s'.handles = s.handles ∧
      h'.broker.stage = .terminated := by
  have free := rests.free (.thread i)
  have errand := rests.errand i
  have shown := rests.shown
  cases stage : h.broker.stage with
  | idle => exact absurd stage started
  | terminated =>
    exact ⟨h, _, Process.run_terminate_closed rests.rests.outside stage,
      .head (.quiet (.closeAgain free (shown.shows.stage.trans stage)) errand rfl) .refl,
      { rests with }, rfl, stage⟩
  | running =>
    have receiving : s.process.turn = .receiving := by rw [rests.rests.turn, if_pos stage]
    obtain ⟨s₁, closed, shown₁, phase₁, readers₁, connected₁, receiving₁, errands₁, handles₁⟩ :
        ∃ s₁, Steps r s s₁ ∧ Shown r s₁ h.broker.close h.owner ∧
          s₁.process.phase = Function.update s.process.phase (.thread i) .joining ∧ s₁.process.readers = [] ∧
          s₁.process.connected = false ∧ s₁.process.turn = .receiving ∧ s₁.errands = [] ∧
          s₁.handles = s.handles := by
      refine ⟨_, .head (.quiet (.close free (shown.shows.stage.trans stage) rests.rests.readers) errand rfl)
        (.head (.quiet (.disconnect (Process.update_same _ _ _)) trivial rfl) .refl),
        { shown with shows := { shown.shows with broker := ?_ } },
        Function.update_idem _ _ _, rests.rests.readers, rfl, receiving, rests.idle, rfl⟩
      change s.process.broker.close = _
      rw [shown.shows.broker]
      rfl
    obtain ⟨s₂, drained, shown₂, alike, receiving₂⟩ := steps_drain shown₁ receiving₁
    have line := shown₂.line_of_empty (Process.queue_drain h.broker.close h.owner)
    have joining : s₂.process.phase (.thread i) = .joining := by
      rw [alike.process.phase, phase₁, Process.update_same]
    have silent : s₂.process.connected = false := alike.process.connected.trans connected₁
    have still : (h.broker.close.drain h.owner).1.stage = .terminated := Broker.stage_drain _ _
    refine ⟨_, _, Process.run_terminate rests.rests.outside stage, closed.trans (drained.trans
      (.head (.quiet (.leave receiving₂ line silent) trivial rfl)
        (.head (.quiet (.join joining rfl) trivial rfl) .refl))),
      ⟨⟨⟨shown₂.shows.broker, shown₂.shows.line, shown₂.shows.nobody, shown₂.shows.job⟩, ?_, ?_, ?_, ?_,
        rests.rests.outside⟩, shown₂.owner, alike.errands.trans errands₁, shown₂.tasks, shown₂.line⟩,
      alike.handles.trans handles₁, still⟩
    · change Function.update s₂.process.phase (.thread i) .free = _
      rw [alike.process.phase, phase₁, Function.update_idem, Process.update_free free, rests.rests.phase]
    · exact alike.process.readers.trans readers₁
    · rw [if_neg (by simp [still])]
    · exact silent.trans (decide_eq_false (by simp [still])).symm

/-! ## Actions of a host -/

/-- A thread calls the object of a handle, or finds that no more jobs are accepted. -/
theorem steps_call [Inhabited V] {α : Type} {code : Ref → Call α} (run : Run r s) (rests : At r s h)
    (ready : h.Ready) (spares : Spares r s.elsewhere (code r).run) (released name : String) :
    ∃ result h' s', (Action.callOn (.of r) released name code).run h = (.ok result, h') ∧ Steps r s s' ∧
      At r s' h' ∧ s'.handles = s.handles := by
  have outside := rests.rests.outside
  unfold Action.callOn
  dsimp only [Handle.of]
  unfold Action.runCall
  rw [Action.run_bind_of_ok (Action.ensure_of_ready ready)]
  by_cases running : h.broker.stage = .running
  · obtain ⟨result, h', s', ran, steps, rests', handles⟩ := steps_job run rests running spares 0
    rw [Action.run_bind_of_ok ran]
    cases result with
    | error e => exact ⟨_, h', s', rfl, steps, rests', handles⟩
    | ok result => exact ⟨_, h', s', rfl, steps, rests', handles⟩
  · rw [Action.run_bind_of_ok (Process.run_execSync_closed outside ready.started running)]
    exact ⟨_, h, s, rfl, .refl, rests, rfl⟩

/-- What a thread does with a handle, on a host where nobody else does anything, are steps, and so are calls of the
object and the end of the process.  What a thread gets is decided by whether jobs are accepted. -/
structure Carries (r : Ref) (s : Custody V) (h : Host) : Prop where
  drop : ∀ k : Nat, s.handles[k]? = some (.of r) → ∃ result h' s', (Handle.of r).drop.run h = (result, h') ∧
    (h.broker.stage = .running → result = .ok ()) ∧
    Steps r s s' ∧ At r s' h' ∧ s'.handles = s.handles.set k .null
  release : ∀ k : Nat, s.handles[k]? = some (.of r) → ∃ result h' s',
    (Handle.of r).release.run h = (.ok (.null, result), h') ∧
    result = (if h.broker.stage = .running then .ok () else .error .terminated) ∧
    Steps r s s' ∧ At r s' h' ∧ s'.handles = s.handles.set k .null
  clone : ∀ k : Nat, s.handles[k]? = some (.of r) → ∃ (result : Except BrokerError Handle) (h' : Host)
    (s' : Custody V), (Handle.of r).clone.run h = (.ok result, h') ∧
    result = (if h.broker.stage = .running then .ok (.of r) else .error .terminated) ∧
    Steps r s s' ∧ At r s' h' ∧ s'.handles = s.handles ++ result.toOption.toList
  /-- Calls are made once the session has started. -/
  call : h.config.isSome = true → ∀ {α : Type} (released name : String) (code : Ref → Call α),
    Spares r s.elsewhere (code r).run → ∃ result h' s',
      (Action.callOn (.of r) released name code).run h = (.ok result, h') ∧
      Steps r s s' ∧ At r s' h' ∧ s'.handles = s.handles
  terminate : ∃ h' s', Action.terminate.run h = (.ok (.ok ()), h') ∧
    Steps r s s' ∧ At r s' h' ∧ s'.handles = s.handles ∧ h'.broker.stage = .terminated

theorem carries [Inhabited V] (run : Run r s) (rests : At r s h) : Carries r s h := by
  obtain ⟨past, process⟩ := exists_run run
  have started := rests.rests.shows.started process
  have outside := rests.rests.outside
  have serves : h.broker.stage = .running ∨ h.broker.stage = .terminated := by
    cases stage : h.broker.stage with
    | idle => exact absurd stage started
    | running => exact .inl rfl
    | terminated => exact .inr rfl
  refine ⟨fun k holds => ?_, fun k holds => ?_, fun k holds => ?_, fun configured _ released name code spares =>
    steps_call run rests ⟨configured, started⟩ spares released name, steps_terminate rests started 0⟩
  · rcases serves with running | closed
    · obtain ⟨s', steps, rests', handles⟩ := steps_drop rests running holds 0
      exact ⟨_, _, s', Handle.run_drop outside running r, fun _ => rfl, steps, rests', handles⟩
    · obtain ⟨s', steps, rests', handles⟩ := steps_refuse rests closed holds .drop 0
      exact ⟨_, _, s', Handle.run_drop_closed outside closed r, fun running => (nomatch closed.symm.trans running),
        steps, rests', handles⟩
  · rcases serves with running | closed
    · obtain ⟨m, s', steps, owner, handles, rests', handles'⟩ :=
        steps_await (e := .release) rests running holds rfl 0
      refine ⟨_, _, s', Handle.run_release_of outside running r, (if_pos running).symm, steps, ?_,
        handles'.trans handles⟩
      rw [← owner]
      exact rests'
    · obtain ⟨s', steps, rests', handles⟩ := steps_refuse rests closed holds .release 0
      exact ⟨_, _, s', Handle.run_release_closed outside closed r, (if_neg (by simp [closed])).symm, steps, rests',
        handles⟩
  · rcases serves with running | closed
    · obtain ⟨m, s', steps, owner, handles, rests', handles'⟩ :=
        steps_await (e := .clone) rests running holds rfl 0
      refine ⟨_, _, s', Handle.run_clone outside running r, (if_pos running).symm, steps, ?_, ?_⟩
      · rw [← owner]
        exact rests'
      · exact handles'.trans (congrArg (· ++ [Handle.of r]) handles)
    · obtain ⟨s', steps, rests', handles⟩ := steps_refuse rests closed holds .clone 0
      exact ⟨_, _, s', Handle.run_clone_closed outside closed r, (if_neg (by simp [closed])).symm, steps, rests',
        handles.trans (List.append_nil _).symm⟩

end InterpreterHost.Custody
