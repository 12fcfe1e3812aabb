import InterpreterHost.Proofs.Broker.Interleaving
import InterpreterHost.Proofs.Host.Ready

/-!
# Actions as steps

What a thread does alone is one way in which the steps of threads can follow one another.  While it
waits for a job the owning thread runs what is in line, and then the job; while it ends the process the
owning thread runs what is left.  Each job ends as its code does where the jobs before it left the interpreter.

## Main definitions

* `Broker.outcomes`, `Host.atTurn` — what comes of the tasks in line, and the host that a job finds after them
* `Process.Shows` — the process is where the broker says it is
* `Process.Alike` — two processes in which the same callers are at the same points
* `Process.Ended` — how the jobs ended that came to their end in between
* `Process.Rests`, `Process.Busy` — the process is where a host says it is, while no job runs and while
  one does
* `Process.HandsOver` — code that does no more to the broker than hand over tasks
* `Process.Served`, `Process.Emptied` — the thread had its job run after the tasks in line, or these and no other
* `Process.Carries`, `Process.CarriesInside` — the actions of a thread and of a job are steps

## Main statements

* `Process.steps_drain` — running all tasks
* `Process.steps_exec`, `Process.steps_execSync`, `Process.steps_terminate` — the actions of a thread
* `Process.carries`, `Process.carriesInside` — all actions, wherever steps have led
-/

namespace InterpreterHost

/-- What comes of the tasks in line, of each where the ones before it left the interpreter. -/
def Broker.outcomes (b : Broker) (o : Owner) : List (Except Panic Unit) :=
  match _queued : b.queue with
  | [] => []
  | t :: rest =>
    let after := run { b with queue := rest } t o
    (t.work.run o).1 :: outcomes after.1 after.2
termination_by Task.weightAll b.queue
decreasing_by
  rw [_queued]
  exact weightAll_run_lt b t rest o

theorem Broker.outcomes_of_empty {b : Broker} (empty : b.queue = []) (o : Owner) : b.outcomes o = [] := by
  unfold outcomes
  split
  · rfl
  · next queued => cases empty.symm.trans queued

theorem Broker.outcomes_of_cons {b : Broker} {t : Task} {rest : List Task} (queue : b.queue = t :: rest) (o : Owner) :
    b.outcomes o = (t.work.run o).1 ::
      (run { b with queue := rest } t o).1.outcomes (run { b with queue := rest } t o).2 := by
  conv => lhs; unfold outcomes
  split
  · next queued => cases queue.symm.trans queued
  · next queued =>
    cases queue.symm.trans queued
    rfl

/-- The host as the code of a job finds it that is accepted now: all tasks in line have run. -/
def Host.atTurn (h : Host) : Host :=
  let (broker, owner) := ({ h.broker with submitted := h.broker.submitted + 1 } : Broker).drain h.owner
  { h with broker, owner, insideJob := true }

end InterpreterHost

namespace InterpreterHost.Process

variable {V : Type} {s s' s'' : Process V} {b : Broker}

/-- The process has the counters of the broker, the same number of jobs in line, for which nobody
waits, and no job is about to hand over another. -/
structure Shows (s : Process V) (b : Broker) : Prop where
  broker : s.broker = { b with queue := [] }
  line : s.line.length = b.queue.length
  nobody : ∀ t ∈ s.line, t.waiter = none
  job : s.phase .job = .free

/-- The callers are at the same points. -/
structure Alike (s s' : Process V) : Prop where
  phase : s'.phase = s.phase
  readers : s'.readers = s.readers
  connected : s'.connected = s.connected

theorem Alike.refl (s : Process V) : Alike s s := ⟨rfl, rfl, rfl⟩

theorem Alike.trans (first : Alike s s') (second : Alike s' s'') : Alike s s'' :=
  ⟨second.phase.trans first.phase, second.readers.trans first.readers,
    second.connected.trans first.connected⟩

/-- The jobs that came to their end in between ended in these ways, one after the other. -/
def Ended (s s' : Process V) (outcomes : List (Except Panic V)) : Prop :=
  s'.finished.map Prod.snd = s.finished.map Prod.snd ++ outcomes

theorem Ended.of_same (same : s'.finished = s.finished) : Ended s s' [] := by
  rw [Ended, same, List.append_nil]

theorem Ended.trans {outcomes outcomes' : List (Except Panic V)} (first : Ended s s' outcomes)
    (second : Ended s' s'' outcomes') : Ended s s'' (outcomes ++ outcomes') := by
  rw [Ended, second, first, List.append_assoc]

theorem Ended.of_finish {t : Ticket} {outcome : Except Panic V}
    (finished : s'.finished = s.finished ++ [(t, outcome)]) : Ended s s' [outcome] := by
  rw [Ended, finished, List.map_append, List.map_singleton]

theorem Shows.stage (shows : Shows s b) : s.broker.stage = b.stage := by rw [shows.broker]

theorem accept_of_running {b : Broker} (running : b.stage = .running) :
    b.accept = .ok { b with submitted := b.submitted + 1 } := if_pos running

theorem accept_of_not_running {b : Broker} (closed : b.stage ≠ .running) : b.accept = .error .terminated :=
  if_neg closed

/-! ## Handing over a job -/

theorem Step.congr {e : Happening V} (next : Step s e s') (same : s' = s'') : Step s e s'' := same ▸ next

/-- A caller that finds the sender hands over its job in three steps. -/
theorem steps_handOver {c : Caller} {waits : Bool} (free : s.phase c = .free) (may : s.MayEnter c waits)
    (running : s.broker.stage = .running) (heard : s.turn ≠ .left) :
    Steps s [.enter c waits, .count c, .accept c ⟨s.accepted.length, c.waiter waits⟩]
      { s with
        broker := { s.broker with submitted := s.broker.submitted + 1 }
        phase := Function.update s.phase c (if waits then .waiting s.accepted.length else .free)
        line := s.line ++ [⟨s.accepted.length, c.waiter waits⟩]
        accepted := s.accepted ++ [⟨s.accepted.length, c.waiter waits⟩] } := by
  refine .cons (.enter free may running) (.cons (.count (update_same s.phase c (.entered waits)))
    (.cons ?_ .nil))
  refine Step.congr (.accept (update_same _ c (.counted waits)) heard) ?_
  simp only [Function.update_idem, List.erase_cons_head]

theorem update_free {phase : Caller → Phase} {c : Caller} (free : phase c = .free) :
    Function.update phase c .free = phase := by
  rw [← free]
  exact Function.update_eq_self c phase

/-- A caller that does not wait is where it was once its job is handed over. -/
theorem steps_submit {c : Caller} (shows : Shows s b) (free : s.phase c = .free)
    (may : s.MayEnter c false) (heard : b.stage = .running → s.turn ≠ .left) (task : Task) :
    ∃ es s', Steps s es s' ∧ Shows s' ((b.submit task).toOption.getD b) ∧ Alike s s' ∧ Ended s s' [] ∧
      s'.turn = s.turn ∧
      (∀ b', b.submit task = .ok b' →
        es = [.enter c false, .count c, .accept c ⟨s.accepted.length, none⟩]) ∧
      ∀ e, b.submit task = .error e → es = [.refuse c false e] := by
  by_cases able : b.stage = .running
  · have submitted : b.submit task = .ok { b with
        submitted := b.submitted + 1
        queue := b.queue ++ [task] } := by
      rw [Broker.submit, accept_of_running able]
      rfl
    have nobody : c.waiter false = none := by cases c <;> rfl
    rw [submitted]
    refine ⟨_, _, steps_handOver free may (shows.stage.trans able) (heard able), ⟨?_, ?_, ?_, ?_⟩, ⟨?_, rfl, rfl⟩,
      .of_same rfl, rfl, ?_, fun e wrong => (nomatch wrong)⟩
    · rw [shows.broker]
      rfl
    · change (s.line ++ [_]).length = (b.queue ++ [task]).length
      rw [List.length_append, List.length_append, shows.line]
      rfl
    · intro t mem
      rw [List.mem_append, List.mem_singleton] at mem
      rcases mem with before | rfl
      · exact shows.nobody t before
      · exact nobody
    · change Function.update s.phase c .free .job = .free
      rw [update_free free]
      exact shows.job
    · exact update_free free
    · intro b' _
      rw [nobody]
  · have refused : s.broker.accept = .error .terminated :=
      accept_of_not_running (by rw [shows.stage]; exact able)
    have same : b.submit task = .error .terminated := by
      rw [Broker.submit, accept_of_not_running able]
      rfl
    rw [same]
    refine ⟨_, s, .cons (.refuse free may refused) .nil, shows, .refl s, .of_same rfl, rfl,
      fun b' wrong => (nomatch wrong), fun e right => ?_⟩
    cases right
    rfl

/-- A job that runs hands over jobs one after the other. -/
theorem steps_submitAll {t : Ticket} (tasks : List Task) (shows : Shows s b)
    (running : s.turn = .running t) :
    ∃ es s', Steps s es s' ∧ Shows s' (b.submitAll tasks) ∧ Alike s s' ∧ Ended s s' [] ∧ s'.turn = .running t := by
  induction tasks generalizing s b with
  | nil => exact ⟨[], s, .nil, shows, .refl s, .of_same rfl, running⟩
  | cons task tasks ih =>
    obtain ⟨es, s₁, steps, shows₁, alike, ended, turn, -, -⟩ :=
      steps_submit shows shows.job ⟨rfl, t, running⟩ (fun _ => by simp [running]) task
    obtain ⟨es', s₂, steps', shows₂, alike', ended', turn'⟩ := ih shows₁ (turn.trans running)
    exact ⟨es ++ es', s₂, steps.append steps', shows₂, alike.trans alike', ended.trans ended', turn'⟩

/-! ## Running tasks -/

/-- The job that runs ends, and nobody waits for it. -/
theorem steps_finish {t : Ticket} (shows : Shows s b) (running : s.turn = .running t)
    (nobody : t.waiter = none) (outcome : Except Panic V) :
    ∃ es s', Steps s es s' ∧ Shows s' (b.finish (Turn.isPanic outcome)) ∧ Alike s s' ∧ Ended s s' [outcome] ∧
      s'.turn = .receiving := by
  have finish := Step.finish running shows.job outcome
  refine ⟨_, _, .cons finish (.cons (.complete (.inr ⟨outcome, rfl, nobody⟩)) .nil),
    { shows with broker := ?_ }, ⟨rfl, rfl, rfl⟩, .of_finish rfl, rfl⟩
  change ({ s.broker with panicked := _, completed := _ } : Broker) = _
  rw [shows.broker]
  rfl

/-- The job has no value that anyone waits for. -/
def unvalued [Inhabited V] (outcome : Except Panic Unit) : Except Panic V := outcome.map fun _ => default

theorem run_eq_finish [Inhabited V] (b : Broker) (task : Task) (o : Owner) : (b.run task o).1 =
    (b.submitAll task.queued).finish (Turn.isPanic (unvalued (V := V) (task.work.run o).1)) := by
  unfold Broker.run
  split
  · next o' ran => rw [ran]; rfl
  · next p o' ran => rw [ran]; rfl

/-- The owning thread takes the first task, runs it and is done with it. -/
theorem steps_run [Inhabited V] {task : Task} {rest : List Task} (o : Owner) (shows : Shows s b)
    (receiving : s.turn = .receiving) (queue : b.queue = task :: rest) :
    ∃ es s', Steps s es s' ∧ Shows s' (Broker.run { b with queue := rest } task o).1 ∧ Alike s s' ∧
      Ended s s' [unvalued (task.work.run o).1] ∧ s'.turn = .receiving := by
  have length := shows.line
  rw [queue, List.length_cons] at length
  obtain ⟨t, tail, line⟩ := List.exists_cons_of_length_eq_add_one length
  have nobody : t.waiter = none := shows.nobody t (by rw [line]; exact List.mem_cons_self)
  obtain ⟨s₁, take, shows₁, alike₁, ended₁, running⟩ : ∃ s₁, Step s (.take t) s₁ ∧
      Shows s₁ { b with queue := rest } ∧ Alike s s₁ ∧ Ended s s₁ [] ∧ s₁.turn = .running t := by
    refine ⟨_, .take receiving line, ⟨shows.broker, ?_, ?_, shows.job⟩, ⟨rfl, rfl, rfl⟩, .of_same rfl, rfl⟩
    · rw [line, List.length_cons] at length
      exact Nat.succ.inj length
    · intro t' mem
      exact shows.nobody t' (by rw [line]; exact List.mem_cons_of_mem _ mem)
  obtain ⟨es₂, s₂, steps₂, shows₂, alike₂, ended₂, running₂⟩ := steps_submitAll task.queued shows₁ running
  obtain ⟨es₃, s₃, steps₃, shows₃, alike₃, ended₃, receiving₃⟩ :=
    steps_finish shows₂ running₂ nobody (unvalued (task.work.run o).1)
  rw [run_eq_finish (V := V)]
  exact ⟨_, s₃, .cons take (steps₂.append steps₃), shows₃, (alike₁.trans alike₂).trans alike₃,
    (ended₁.trans ended₂).trans ended₃, receiving₃⟩

/-- The owning thread runs all tasks. -/
theorem steps_drain [Inhabited V] (o : Owner) (shows : Shows s b) (receiving : s.turn = .receiving) :
    ∃ es s', Steps s es s' ∧ Shows s' (b.drain o).1 ∧ Alike s s' ∧
      Ended s s' ((b.outcomes o).map unvalued) ∧ s'.turn = .receiving := by
  fun_induction Broker.drain b o generalizing s with
  | case1 b o empty =>
    rw [Broker.outcomes_of_empty empty]
    exact ⟨[], s, .nil, shows, .refl s, .of_same rfl, receiving⟩
  | case2 b o task rest queued after =>
    rename_i ih
    rw [Broker.outcomes_of_cons queued]
    obtain ⟨es, s₁, steps, shows₁, alike, ended, turn⟩ := steps_run o shows receiving queued
    obtain ⟨es', s₂, steps', shows₂, alike', ended', turn'⟩ := ih shows₁ turn
    exact ⟨es ++ es', s₂, steps.append steps', shows₂, alike.trans alike', ended.trans ended', turn'⟩

theorem queue_drain (b : Broker) (o : Owner) : (b.drain o).1.queue = [] := by
  fun_induction Broker.drain b o with
  | case1 b o empty => exact empty
  | case2 b o t rest queued after ih => exact ih

/-! ## Jobs that someone waits for -/

/-- The job that runs ends, and who waits for it has the answer. -/
theorem steps_reply {t : Ticket} {i : Nat} (shows : Shows s b) (running : s.turn = .running t)
    (waiter : t.waiter = some i) (outcome : Except Panic V) :
    ∃ s', Steps s [.finish t outcome, .reply t, .complete t] s' ∧
      Shows s' (b.finish (Turn.isPanic outcome)) ∧ Alike s s' ∧ Ended s s' [outcome] ∧ s'.turn = .receiving ∧
      s'.mail t.number = some (Turn.answer outcome) := by
  refine ⟨_, .cons (.finish running shows.job outcome) (.cons (.reply rfl waiter)
    (.cons (.complete (.inl rfl)) .nil)), { shows with broker := ?_ }, ⟨rfl, rfl, rfl⟩, .of_finish rfl, rfl, ?_⟩
  · change ({ s.broker with panicked := _, completed := _ } : Broker) = _
    rw [shows.broker]
    rfl
  · exact Function.update_self t.number _ _

/-- A thread finds the sender and its job is counted. -/
theorem steps_counted {i : Nat} (shows : Shows s b) (free : s.phase (.thread i) = .free)
    (running : b.stage = .running) :
    ∃ s', Steps s [.enter (.thread i) true, .count (.thread i)] s' ∧
      Shows s' { b with submitted := b.submitted + 1 } ∧
      s'.phase = Function.update s.phase (.thread i) (.counted true) ∧
      s'.readers = .thread i :: s.readers ∧ s'.connected = s.connected ∧ Ended s s' [] ∧ s'.turn = s.turn := by
  refine ⟨_, .cons (.enter free trivial (shows.stage.trans running))
    (.cons (.count (update_same s.phase _ (.entered true))) .nil), { shows with broker := ?_ },
    Function.update_idem _ _ _, rfl, rfl, .of_same rfl, rfl⟩
  change ({ s.broker with submitted := s.broker.submitted + 1 } : Broker) = _
  rw [shows.broker]

/-- A thread hands over a job that it will wait for, and the owning thread comes to it. -/
theorem steps_await [Inhabited V] {i : Nat} (o : Owner) (shows : Shows s b) (free : s.phase (.thread i) = .free)
    (running : b.stage = .running) (receiving : s.turn = .receiving) :
    ∃ n es s', Steps s es s' ∧ Shows s' ({ b with submitted := b.submitted + 1 }.drain o).1 ∧
      s'.phase = Function.update s.phase (.thread i) (.waiting n) ∧ s'.readers = s.readers ∧
      s'.connected = s.connected ∧
      Ended s s' (({ b with submitted := b.submitted + 1 }.outcomes o).map unvalued) ∧
      s'.turn = .running ⟨n, some i⟩ := by
  obtain ⟨s₁, counted, shows₁, phase₁, readers₁, connected₁, ended₁, turn₁⟩ := steps_counted shows free running
  -- before the job is in line the owning thread comes to an end with all that was
  obtain ⟨es, s₂, drained, shows₂, alike, ended₂, receiving₂⟩ := steps_drain o shows₁ (turn₁.trans receiving)
  have empty : s₂.line = [] := by
    rw [← List.length_eq_zero_iff, shows₂.line, queue_drain]
    rfl
  have ready : s₂.phase (.thread i) = .counted true := by
    rw [alike.phase, phase₁]
    exact update_same s.phase _ _
  have heard : s₂.turn ≠ .left := by simp [receiving₂]
  have taken : s₂.line ++ [⟨s₂.accepted.length, some i⟩] = [⟨s₂.accepted.length, some i⟩] := by rw [empty]; rfl
  refine ⟨s₂.accepted.length, _, _,
    counted.append (drained.append (.cons (.accept ready heard) (.cons (.take receiving₂ taken) .nil))),
    ⟨shows₂.broker, ?_, fun t mem => (nomatch mem), ?_⟩, ?_, ?_, alike.connected.trans connected₁,
    ended₁.trans ended₂, rfl⟩
  · rw [queue_drain]
    rfl
  · exact shows₂.job
  · change Function.update s₂.phase (.thread i) (.waiting _) = _
    rw [alike.phase, phase₁, Function.update_idem]
  · change s₂.readers.erase (.thread i) = s.readers
    rw [alike.readers, readers₁, List.erase_cons_head]

/-- The job that runs hands over jobs and ends, and the thread that waits for it gets the answer. -/
theorem steps_serve {i n : Nat} (tasks : List Task) (outcome : Except Panic V) (shows : Shows s b)
    (running : s.turn = .running ⟨n, some i⟩) (waiting : s.phase (.thread i) = .waiting n) :
    ∃ before s', Steps s (before ++ [.answer i n (Turn.answer outcome)]) s' ∧
      Shows s' ((b.submitAll tasks).finish (Turn.isPanic outcome)) ∧
      s'.phase = Function.update s.phase (.thread i) .free ∧ s'.readers = s.readers ∧
      s'.connected = s.connected ∧ Ended s s' [outcome] ∧ s'.turn = .receiving := by
  obtain ⟨es, s₁, handed, shows₁, alike₁, ended₁, running₁⟩ := steps_submitAll tasks shows running
  obtain ⟨s₂, replied, shows₂, alike₂, ended₂, receiving, mail⟩ := steps_reply shows₁ running₁ rfl outcome
  have alike := alike₁.trans alike₂
  have waiting₂ : s₂.phase (.thread i) = .waiting n := by rw [alike.phase, waiting]
  refine ⟨_, _, (handed.append replied).append (.cons (.answer waiting₂ mail) .nil),
    ⟨shows₂.broker, shows₂.line, shows₂.nobody, shows₂.job⟩, ?_, alike.readers, alike.connected,
    ended₁.trans ended₂, receiving⟩
  change Function.update s₂.phase (.thread i) .free = _
  rw [alike.phase]

theorem run_observe {α : Type} (code : Action α) (h : Host) :
    (Action.observe code).run h = (.ok (code.run h).1, (code.run h).2) := by
  change (ExceptT.tryCatch (code >>= fun a => pure (Except.ok a)) fun p => pure (Except.error p)).run h = _
  simp only [ExceptT.tryCatch, ExceptT.run, ExceptT.mk, bind, StateT.bind, ExceptT.bind]
  rcases code h with ⟨result, h'⟩
  cases result <;> rfl

/-- A job that was accepted gives its result, or the panic that it ended in. -/
theorem run_runAccepted {α : Type} {code : Action α} {h h' : Host} {outcome : Except Panic α}
    (run : code.run { h with insideJob := true } = (outcome, h')) :
    (Action.runAccepted code).run h = (.ok (Turn.answer outcome),
      { h' with insideJob := false, broker := h'.broker.finish (Turn.isPanic outcome) }) := by
  have observed := run_observe code { h with insideJob := true }
  rw [run] at observed
  unfold Action.runAccepted
  have marked : (modify ({ · with insideJob := true }) : Action PUnit).run h =
    (.ok ⟨⟩, { h with insideJob := true }) := rfl
  rw [Action.run_bind_of_ok marked, Action.run_bind_of_ok observed]
  cases outcome <;> rfl


/-! ## What a thread does alone -/

/-- The process is where a host says it is, and nobody is about anything. -/
structure Rests (s : Process V) (h : Host) : Prop where
  shows : Shows s h.broker
  phase : s.phase = fun _ => .free
  readers : s.readers = []
  turn : s.turn = if h.broker.stage = .running then .receiving else .left
  connected : s.connected = decide (h.broker.stage = .running)
  outside : h.insideJob = false

/-- A host whose owning thread has just started. -/
theorem rests_start {h : Host} (broker : h.broker = { stage := .running }) (outside : h.insideJob = false) :
    Rests ({} : Process V) h := by
  refine ⟨?_, rfl, rfl, ?_, ?_, outside⟩
  · rw [broker]
    exact ⟨rfl, rfl, fun t mem => (nomatch mem), rfl⟩
  · rw [broker]
    rfl
  · rw [broker]
    rfl

/-- Whatever the code does as part of a job, to the broker it does no more than hand over tasks. -/
def HandsOver {α : Type} (code : Action α) : Prop :=
  ∀ h, h.insideJob = true → h.broker.stage ≠ .idle →
    (code.run h).2.insideJob = true ∧ ∃ tasks, (code.run h).2.broker = h.broker.submitAll tasks

variable {α β : Type} {h : Host}

/-- A job that changes the interpreter hands over nothing, even if it panics. -/
theorem handsOver_job (code : Job α) : HandsOver (Action.job code) := by
  intro h inside _
  rw [Action.run_job]
  exact ⟨inside, [], rfl⟩

theorem run_exec (started : h.broker.stage ≠ .idle) (task : Task) :
    (Action.exec task).run h = (.ok ((h.broker.submit task).map fun _ => ()),
      { h with broker := (h.broker.submit task).toOption.getD h.broker }) := by
  unfold Action.exec
  rw [Action.run_bind_of_ok (Action.ensureStarted_of_started started), Action.run_get_bind]
  cases h.broker.submit task <;> rfl

/-- A job may not wait for another, since it would wait for itself to end. -/
theorem run_execSync_inside (code : Action α) (inside : h.insideJob = true) :
    (Action.execSync code).run h = (.ok (.error .reentrant), h) := by
  unfold Action.execSync
  rw [Action.run_get_bind, if_pos inside]
  rfl

theorem run_terminate_inside (inside : h.insideJob = true) (started : h.broker.stage ≠ .idle) :
    Action.terminate.run h = (.ok (.error .reentrant), h) := by
  unfold Action.terminate
  rw [Action.run_get_bind, if_neg started, if_pos inside]
  rfl

/-- A thread queues a task. -/
theorem steps_exec {task : Task} (rests : Rests s h) (started : h.broker.stage ≠ .idle) (i : Nat) :
    ∃ result h' es s', (Action.exec task).run h = (.ok result, h') ∧ Steps s es s' ∧ Rests s' h' ∧ Ended s s' [] ∧
      (result = .ok () ∧ es = [.enter (.thread i) false, .count (.thread i),
          .accept (.thread i) ⟨s.accepted.length, none⟩] ∨
        ∃ e, result = .error e ∧ es = [.refuse (.thread i) false e]) := by
  have free : s.phase (.thread i) = .free := by rw [rests.phase]
  have heard : h.broker.stage = .running → s.turn ≠ .left := by
    intro running
    rw [rests.turn, if_pos running]
    exact fun left => (nomatch left)
  obtain ⟨es, s', steps, shows, alike, ended, turn, taken, refused⟩ :=
    steps_submit rests.shows free trivial heard task
  have stage : ((h.broker.submit task).toOption.getD h.broker).stage = h.broker.stage :=
    Broker.stage_submitAll h.broker [task]
  refine ⟨_, _, es, s', run_exec started task, steps, ⟨shows, ?_, ?_, ?_, ?_, rests.outside⟩, ended, ?_⟩
  · exact alike.phase.trans rests.phase
  · exact alike.readers.trans rests.readers
  · rw [turn, rests.turn, stage]
  · rw [alike.connected, rests.connected, stage]
  · rcases submitted : h.broker.submit task with e | b'
    · exact .inr ⟨e, rfl, refused e submitted⟩
    · exact .inl ⟨rfl, taken b' submitted⟩

theorem run_drain (h : Host) : Action.drain.run h =
    (.ok (), { h with broker := (h.broker.drain h.owner).1, owner := (h.broker.drain h.owner).2 }) := rfl

theorem run_execSync_closed {code : Action α} (outside : h.insideJob = false) (started : h.broker.stage ≠ .idle)
    (closed : h.broker.stage ≠ .running) : (Action.execSync code).run h = (.ok (.error .terminated), h) := by
  unfold Action.execSync
  rw [Action.run_get_bind, outside, if_neg Bool.false_ne_true,
    Action.run_bind_of_ok (Action.ensureStarted_of_started started), Action.run_get_bind,
    accept_of_not_running closed]
  rfl

/-- A job that is accepted runs after all tasks that were queued before it. -/
theorem run_execSync {code : Action α} {outcome : Except Panic α} {h' : Host} {b : Broker} {o : Owner}
    (outside : h.insideJob = false) (running : h.broker.stage = .running)
    (drained : ({ h.broker with submitted := h.broker.submitted + 1 } : Broker).drain h.owner = (b, o))
    (run : code.run { h with broker := b, owner := o, insideJob := true } = (outcome, h')) :
    (Action.execSync code).run h = (.ok (Turn.answer outcome),
      { h' with insideJob := false, broker := h'.broker.finish (Turn.isPanic outcome) }) := by
  have before : Action.drain.run { h with broker := { h.broker with submitted := h.broker.submitted + 1 } } =
      (.ok (), { h with broker := b, owner := o }) := by
    rw [run_drain]
    change (Except.ok (), { h with broker := _, owner := _ }) = _
    rw [drained]
  unfold Action.execSync
  rw [Action.run_get_bind, outside, if_neg Bool.false_ne_true,
    Action.run_bind_of_ok (Action.ensureStarted_of_started (by simp [running])), Action.run_get_bind,
    accept_of_running running]
  change (Action.drain >>= fun _ => Action.runAccepted code).run _ = _
  rw [Action.run_bind_of_ok before]
  exact run_runAccepted run

/-- The thread had its job run after the tasks in line, where they had left the host, and has what came of it. -/
structure Served [Inhabited V] {α : Type} (s s' : Process V) (h h' : Host) (code : Action α) (f : α → V)
    (result : Except BrokerError α) : Prop where
  result : result = Turn.answer (code.run h.atTurn).1
  owner : h'.owner = (code.run h.atTurn).2.owner
  ended : Ended s s' (({ h.broker with submitted := h.broker.submitted + 1 }.outcomes h.owner).map unvalued ++
    [(code.run h.atTurn).1.map f])

/-- A thread has a job run and waits for it. -/
theorem steps_execSync [Inhabited V] {code : Action α} (handsOver : HandsOver code) (f : α → V)
    (rests : Rests s h) (started : h.broker.stage ≠ .idle) (i : Nat) :
    ∃ result h' es s', (Action.execSync code).run h = (.ok result, h') ∧ Steps s es s' ∧ Rests s' h' ∧
      ((∃ n before, es = before ++ [.answer i n (result.map f)] ∧ Served s s' h h' code f result) ∨
        ∃ e, result = .error e ∧ es = [.refuse (.thread i) true e]) := by
  have free : s.phase (.thread i) = .free := by rw [rests.phase]
  by_cases running : h.broker.stage = .running
  · have receiving : s.turn = .receiving := by rw [rests.turn, if_pos running]
    obtain ⟨n, es, s₁, awaited, shows₁, phase₁, readers₁, connected₁, ended₁, running₁⟩ :=
      steps_await h.owner rests.shows free running receiving
    have stage := Broker.stage_drain { h.broker with submitted := h.broker.submitted + 1 } h.owner
    rcases drained : ({ h.broker with submitted := h.broker.submitted + 1 } : Broker).drain h.owner with ⟨b, o⟩
    have turn : h.atTurn = { h with broker := b, owner := o, insideJob := true } := by
      rw [Host.atTurn, drained]
    rw [drained] at shows₁ stage
    replace stage : b.stage = .running := stage.trans running
    rcases run : code.run { h with broker := b, owner := o, insideJob := true } with ⟨outcome, h'⟩
    obtain ⟨-, tasks, handed⟩ :=
      handsOver { h with broker := b, owner := o, insideJob := true } rfl (by simp [stage])
    rw [run] at handed
    replace handed : h'.broker = b.submitAll tasks := handed
    obtain ⟨before, s₂, served, shows₂, phase₂, readers₂, connected₂, ended₂, receiving₂⟩ :=
      steps_serve tasks (outcome.map f) shows₁ running₁ (by rw [phase₁, update_same])
    have same : Turn.isPanic (outcome.map f) = Turn.isPanic outcome := by cases outcome <;> rfl
    have running₂ : (h'.broker.finish (Turn.isPanic outcome)).stage = .running := by
      rw [handed]
      exact (Broker.stage_submitAll b tasks).trans stage
    rw [same, ← handed] at shows₂
    refine ⟨_, _, _, s₂, run_execSync rests.outside running drained run, awaited.append served,
      ⟨shows₂, ?_, ?_, ?_, ?_, rfl⟩, .inl ⟨n, es ++ before, ?_, ?_, ?_, ?_⟩⟩
    · rw [phase₂, phase₁, Function.update_idem, update_free free, rests.phase]
    · rw [readers₂, readers₁, rests.readers]
    · rw [receiving₂, if_pos running₂]
    · rw [connected₂, connected₁, rests.connected]
      exact decide_eq_decide.2 ⟨fun _ => running₂, fun _ => running⟩
    · rw [List.append_assoc]
      cases outcome <;> rfl
    · rw [turn, run]
    · rw [turn, run]
    · rw [turn, run]
      exact ended₁.trans ended₂
  · have refused : s.broker.accept = .error .terminated :=
      accept_of_not_running (by rw [rests.shows.stage]; exact running)
    exact ⟨_, h, _, s, run_execSync_closed rests.outside started running,
      .cons (.refuse free trivial refused) .nil, rests, .inr ⟨_, rfl, rfl⟩⟩

theorem run_terminate (outside : h.insideJob = false) (running : h.broker.stage = .running) :
    Action.terminate.run h = (.ok (.ok ()), { h with
      broker := (h.broker.close.drain h.owner).1
      owner := (h.broker.close.drain h.owner).2 }) := by
  unfold Action.terminate
  rw [Action.run_get_bind, if_neg (by simp [running]), if_neg (by simp [outside]), if_pos running]
  rfl

theorem run_terminate_closed (outside : h.insideJob = false) (closed : h.broker.stage = .terminated) :
    Action.terminate.run h = (.ok (.ok ()), h) := by
  unfold Action.terminate
  rw [Action.run_get_bind, if_neg (by simp [closed]), if_neg (by simp [outside]), if_neg (by simp [closed])]
  rfl

/-- The thread ended the process once all tasks in line had run. -/
structure Emptied [Inhabited V] (s s' : Process V) (h h' : Host) : Prop where
  owner : h'.owner = (h.broker.close.drain h.owner).2
  ended : Ended s s' ((h.broker.close.outcomes h.owner).map unvalued)

/-- A thread ends the process, or finds that this was done. -/
theorem steps_terminate [Inhabited V] (rests : Rests s h) (started : h.broker.stage ≠ .idle) (i : Nat) :
    ∃ h' es s', Action.terminate.run h = (.ok (.ok ()), h') ∧ Steps s es s' ∧ Rests s' h' ∧
      h'.broker.stage = .terminated ∧
      ((∃ after, es = .close i :: after ++ [.leave, .join i] ∧ Emptied s s' h h') ∨
        es = [.closeAgain i] ∧ h' = h) := by
  have free : s.phase (.thread i) = .free := by rw [rests.phase]
  by_cases running : h.broker.stage = .running
  · have receiving : s.turn = .receiving := by rw [rests.turn, if_pos running]
    obtain ⟨s₁, closed, shows₁, phase₁, readers₁, connected₁, ended₁, receiving₁⟩ :
        ∃ s₁, Steps s [.close i, .disconnect i] s₁ ∧ Shows s₁ h.broker.close ∧
          s₁.phase = Function.update s.phase (.thread i) .joining ∧ s₁.readers = s.readers ∧
          s₁.connected = false ∧ Ended s s₁ [] ∧ s₁.turn = .receiving := by
      refine ⟨_, .cons (.close free (rests.shows.stage.trans running) rests.readers)
        (.cons (.disconnect (update_same s.phase _ .closing)) .nil),
        ⟨?_, rests.shows.line, rests.shows.nobody, rests.shows.job⟩, Function.update_idem _ _ _, rfl, rfl,
        .of_same rfl, receiving⟩
      change s.broker.close = _
      rw [rests.shows.broker]
      rfl
    obtain ⟨es, s₂, drained, shows₂, alike, ended₂, receiving₂⟩ := steps_drain h.owner shows₁ receiving₁
    have empty : s₂.line = [] := by
      rw [← List.length_eq_zero_iff, shows₂.line, queue_drain]
      rfl
    have joining : s₂.phase (.thread i) = .joining := by rw [alike.phase, phase₁, update_same]
    have silent : s₂.connected = false := alike.connected.trans connected₁
    have stage : (h.broker.close.drain h.owner).1.stage = .terminated := Broker.stage_drain _ _
    refine ⟨_, _, _, run_terminate rests.outside running,
      closed.append (drained.append (.cons (.leave receiving₂ empty silent) (.cons (.join joining rfl) .nil))),
      ⟨⟨shows₂.broker, shows₂.line, shows₂.nobody, shows₂.job⟩, ?_, ?_, ?_, ?_, rests.outside⟩, stage,
      .inl ⟨.disconnect i :: es, ?_, rfl, ended₁.trans ended₂⟩⟩
    · change Function.update s₂.phase (.thread i) .free = _
      rw [alike.phase, phase₁, Function.update_idem, update_free free, rests.phase]
    · exact (alike.readers.trans readers₁).trans rests.readers
    · rw [if_neg (by simp [stage])]
    · change s₂.connected = _
      simp [silent, stage]
    · rfl
  · have closed : h.broker.stage = .terminated := by
      cases stage : h.broker.stage with
      | idle => exact absurd stage started
      | running => exact absurd stage running
      | terminated => rfl
    exact ⟨h, _, s, run_terminate_closed rests.outside closed,
      .cons (.closeAgain free (rests.shows.stage.trans closed)) .nil, rests, closed, .inr ⟨rfl, rfl⟩⟩

/-! ## What a job does -/

/-- The process is where a host says it is, and a job runs that is not about to hand over another. -/
structure Busy (s : Process V) (h : Host) : Prop where
  shows : Shows s h.broker
  turn : ∃ t, s.turn = .running t
  inside : h.insideJob = true

/-- A job queues a task. -/
theorem steps_exec_inside {task : Task} (busy : Busy s h) (started : h.broker.stage ≠ .idle) :
    ∃ result h' es s', (Action.exec task).run h = (.ok result, h') ∧ Steps s es s' ∧ Busy s' h' ∧ Ended s s' [] ∧
      (result = .ok () ∧ es = [.enter .job false, .count .job, .accept .job ⟨s.accepted.length, none⟩] ∨
        ∃ e, result = .error e ∧ es = [.refuse .job false e]) := by
  obtain ⟨t, running⟩ := busy.turn
  obtain ⟨es, s', steps, shows, alike, ended, turn, taken, refused⟩ :=
    steps_submit busy.shows busy.shows.job ⟨rfl, t, running⟩ (fun _ => by simp [running]) task
  refine ⟨_, _, es, s', run_exec started task, steps, ⟨shows, ⟨t, turn.trans running⟩, busy.inside⟩,
    ended, ?_⟩
  rcases submitted : h.broker.submit task with e | b'
  · exact .inr ⟨e, rfl, refused e submitted⟩
  · exact .inl ⟨rfl, taken b' submitted⟩

/-! ## Actions of a host -/

/-- What a thread does on a host where nobody else does anything are steps of the process, which tell
what it gets.  The jobs that end meanwhile are the tasks in line and the job that the thread waits for, and they end
as their code does. -/
structure Carries [Inhabited V] (s : Process V) (h : Host) : Prop where
  exec : ∀ i task, ∃ result h' es s', (Action.exec task).run h = (.ok result, h') ∧ Steps s es s' ∧
    Rests s' h' ∧ Ended s s' [] ∧ (result = .ok () ∧ es = [.enter (.thread i) false, .count (.thread i),
        .accept (.thread i) ⟨s.accepted.length, none⟩] ∨
      ∃ e, result = .error e ∧ es = [.refuse (.thread i) false e])
  execSync : ∀ i {α : Type} (code : Action α) (f : α → V), HandsOver code → ∃ result h' es s',
    (Action.execSync code).run h = (.ok result, h') ∧ Steps s es s' ∧ Rests s' h' ∧
      ((∃ n before, es = before ++ [.answer i n (result.map f)] ∧ Served s s' h h' code f result) ∨
        ∃ e, result = .error e ∧ es = [.refuse (.thread i) true e])
  terminate : ∀ i, ∃ h' es s', Action.terminate.run h = (.ok (.ok ()), h') ∧ Steps s es s' ∧ Rests s' h' ∧
    h'.broker.stage = .terminated ∧
      ((∃ after, es = .close i :: after ++ [.leave, .join i] ∧ Emptied s s' h h') ∨ es = [.closeAgain i] ∧ h' = h)

/-- What a job does are steps of the process, which tell what it gets. -/
structure CarriesInside (s : Process V) (h : Host) : Prop where
  exec : ∀ task, ∃ result h' es s', (Action.exec task).run h = (.ok result, h') ∧ Steps s es s' ∧
    Busy s' h' ∧ Ended s s' [] ∧ (result = .ok () ∧
        es = [.enter .job false, .count .job, .accept .job ⟨s.accepted.length, none⟩] ∨
      ∃ e, result = .error e ∧ es = [.refuse .job false e])
  execSync : ∀ {α : Type} (code : Action α), ∃ e,
    (Action.execSync code).run h = (.ok (.error e), h) ∧ Step s (.reentrant e) s
  terminate : ∃ e, Action.terminate.run h = (.ok (.error e), h) ∧ Step s (.reentrant e) s

variable {past : List (Happening V)}

theorem Shows.started (run : Run past s) (shows : Shows s b) : b.stage ≠ .idle := by
  rw [← shows.stage]
  exact (locked_of_run run).started

theorem carries [Inhabited V] (run : Run past s) (rests : Rests s h) : Carries s h where
  exec i _ := steps_exec rests (rests.shows.started run) i
  execSync i _ _ f handsOver := steps_execSync handsOver f rests (rests.shows.started run) i
  terminate i := steps_terminate rests (rests.shows.started run) i

theorem carriesInside (run : Run past s) (busy : Busy s h) : CarriesInside s h := by
  obtain ⟨t, running⟩ := busy.turn
  exact
    { exec := fun _ => steps_exec_inside busy (busy.shows.started run)
      execSync := fun code => ⟨_, run_execSync_inside code busy.inside, .reentrant running busy.shows.job⟩
      terminate := ⟨_, run_terminate_inside busy.inside (busy.shows.started run),
        .reentrant running busy.shows.job⟩ }

end InterpreterHost.Process
