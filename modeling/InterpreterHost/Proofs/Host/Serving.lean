import InterpreterHost.Proofs.Broker.Actions
import InterpreterHost.Proofs.Owner.Keeping

/-!
# Hosts that serve

A host serves while the session has started, the broker runs and no job is under way.  Calls leave such
a host, and they leave of the owner whatever their own jobs and the tasks in line keep of it.

## Main definitions

* `Task.Maintains` — whatever comes of the task, a property of the owner stays
* `Host.Serves` — the host serves, and its tasks keep a property that the owner has
* `Host.ownerAfterTasks` — the owner once the tasks in line have run

## Main statements

* `Action.run_execSync_job` — what becomes of a host when a job is waited for
* `Action.serves_runCall`, `Action.serves_drop` — calls and handles leave a host that serves
* `Handle.run_release` — a handle gives up its reference, once
-/

namespace InterpreterHost

/-! ## Tasks -/

/-- The task keeps a property of the owner, and so do the tasks that it queues. -/
inductive Task.Maintains (I : Owner → Prop) : Task → Prop
  | mk {work : Job Unit} {queued : List Task} (work_maintains : Job.Maintains I work)
      (queued_maintain : ∀ t ∈ queued, Task.Maintains I t) : Task.Maintains I (.mk work queued)

namespace Task.Maintains

variable {I : Owner → Prop} {t : Task}

theorem work (maintains : Task.Maintains I t) : Job.Maintains I t.work := by
  cases maintains with
  | mk work_maintains _ => exact work_maintains

theorem queued (maintains : Task.Maintains I t) : ∀ u ∈ t.queued, Task.Maintains I u := by
  cases maintains with
  | mk _ queued_maintain => exact queued_maintain

/-- Every task keeps what always holds. -/
theorem of_true : ∀ t : Task, Task.Maintains (fun _ => True) t
  | .mk _ _ => .mk (fun _ _ => trivial) fun t _ => of_true t

theorem of {code : Job Unit} (maintains : Job.Maintains I code) : Task.Maintains I (.of code) :=
  .mk maintains (List.forall_mem_nil _)

end Task.Maintains

namespace Broker

variable {I : Owner → Prop}

/-- The tasks that are in line once a task was run are those that were, and those that it queued. -/
theorem mem_queue_submitAll {b : Broker} {tasks : List Task} {t : Task}
    (mem : t ∈ (b.submitAll tasks).queue) : t ∈ b.queue ∨ t ∈ tasks := by
  induction tasks generalizing b with
  | nil => exact .inl mem
  | cons u tasks ih =>
    rcases ih mem with earlier | later
    · rcases b.queue_submit u with same | added
      · rw [same] at earlier
        exact .inl earlier
      · rw [added, List.mem_append, List.mem_singleton] at earlier
        exact earlier.imp_right fun (same : t = u) => same ▸ List.mem_cons_self
    · exact .inr (List.mem_cons_of_mem _ later)

/-- Running tasks keeps what they keep. -/
theorem maintains_drain (settles : Owner.Settles I) (b : Broker) (o : Owner)
    (tasks : ∀ t ∈ b.queue, t.Maintains I) (holds : I o) : I (b.drain o).2 := by
  fun_induction drain b o with
  | case1 b o empty => exact holds
  | case2 b o t rest queued after ih =>
    rw [queued, List.forall_mem_cons] at tasks
    refine ih ?_ ?_
    · intro u mem
      change u ∈ (run { b with queue := rest } t o).1.queue at mem
      rw [queue_run] at mem
      rcases mem_queue_submitAll mem with earlier | later
      · exact tasks.2 u earlier
      · exact tasks.1.queued u later
    · have kept := tasks.1.work o holds
      change I (run { b with queue := rest } t o).2
      unfold run
      split
      · next o' worked => rwa [worked] at kept
      · next p o' panicked =>
        rw [panicked] at kept
        exact settles o' _ ⟨rfl, rfl, rfl, rfl, rfl⟩ kept

end Broker

/-! ## Hosts -/

/-- The host serves: the session has started, the broker runs and no job is under way.  The owner has
the property, and the tasks in line keep it. -/
structure Host.Serves (I : Owner → Prop) (h : Host) : Prop where
  configured : h.config.isSome = true
  running : h.broker.stage = .running
  outside : h.insideJob = false
  owner : I h.owner
  tasks : ∀ t ∈ h.broker.queue, t.Maintains I

namespace Host.Serves

variable {I : Owner → Prop} {h : Host}

theorem ready (serves : h.Serves I) : h.Ready := ⟨serves.configured, by simp [serves.running]⟩

theorem of_owner (serves : h.Serves I) {o : Owner} (holds : I o) : Host.Serves I { h with owner := o } :=
  { serves with owner := holds }

/-- Of a host of which nothing more is asked. -/
theorem of_running (configured : h.config.isSome = true) (running : h.broker.stage = .running)
    (outside : h.insideJob = false) : h.Serves fun _ => True :=
  ⟨configured, running, outside, trivial, fun t _ => .of_true t⟩

end Host.Serves

namespace Action

variable {α ε : Type} {I : Owner → Prop} {panics : Prop}

/-- A job that is waited for runs after the tasks in line, and its answer is what it gives, or its
panic. -/
theorem run_execSync_job {h : Host} {accepted : Broker} (outside : h.insideJob = false)
    (accept : h.broker.accept = .ok accepted) (code : Job α) :
    (execSync (job code)).run h =
      (.ok (Turn.answer (code.run (accepted.drain h.owner).2).1),
        { h with
          owner := (code.run (accepted.drain h.owner).2).2
          broker := (accepted.drain h.owner).1.finish
            (Turn.isPanic (code.run (accepted.drain h.owner).2).1) }) := by
  obtain ⟨running, -⟩ := Broker.stage_of_accept accept
  have counted := accept
  rw [Process.accept_of_running running] at counted
  cases counted
  rw [Process.run_execSync outside running rfl (run_job code _), ← outside]

/-- A call inside a job is refused, since the job would have to wait for another. -/
theorem run_runCall_inside {h : Host} (ready : h.Ready) (inside : h.insideJob = true) (name : String)
    (code : Job (Except CallError α)) : (runCall name code).run h = (.ok (.error (.broker .reentrant)), h) := by
  unfold runCall
  rw [run_bind_of_ok (ensure_of_ready ready), run_bind_of_ok (Process.run_execSync_inside _ inside)]
  rfl

/-- A call is refused once no more jobs are accepted. -/
theorem run_runCall_closed {h : Host} (ready : h.Ready) (outside : h.insideJob = false)
    (closed : h.broker.stage ≠ .running) (name : String) (code : Job (Except CallError α)) :
    (runCall name code).run h = (.ok (.error (.broker .terminated)), h) := by
  unfold runCall
  rw [run_bind_of_ok (ensure_of_ready ready),
    run_bind_of_ok (Process.run_execSync_closed outside ready.started closed)]
  rfl

theorem serves_job {code : Job α} (maintains : Job.Maintains I code) :
    Keeps (Host.Serves I) True (job code) := by
  intro h serves
  rw [run_job]
  exact ⟨serves.of_owner (maintains h.owner serves.owner), fun _ _ => trivial⟩

theorem serves_exec {t : Task} (maintains : t.Maintains I) : Keeps (Host.Serves I) panics (exec t) := by
  intro h serves
  have submitted : h.broker.submit t =
      .ok { h.broker with submitted := h.broker.submitted + 1, queue := h.broker.queue ++ [t] } := by
    unfold Broker.submit
    rw [Process.accept_of_running serves.running]
    rfl
  rw [Process.run_exec serves.ready.started, submitted]
  refine ⟨{ serves with tasks := ?_ }, fun _ error => by cases error⟩
  exact List.forall_mem_append.2 ⟨serves.tasks, List.forall_mem_singleton.2 maintains⟩

variable (settles : Owner.Settles I)
include settles

/-- A job that is waited for, and the tasks that run before it, leave a host that serves. -/
theorem serves_execSync {code : Job α} (maintains : Job.Maintains I code) :
    Keeps (Host.Serves I) panics (execSync (job code)) := by
  intro h serves
  have accept := Process.accept_of_running serves.running
  rw [run_execSync_job serves.outside accept]
  refine ⟨⟨serves.configured, ?_, serves.outside, ?_, ?_⟩, fun _ error => by cases error⟩
  · exact (Broker.stage_drain _ h.owner).trans serves.running
  · exact maintains _ (Broker.maintains_drain settles _ h.owner serves.tasks serves.owner)
  · -- the tasks have run, and none is in line behind the job
    intro t mem
    change t ∈ (Broker.drain _ h.owner).1.queue at mem
    rw [Process.queue_drain] at mem
    cases mem

theorem serves_runCall (name : String) {code : Job (Except CallError α)} (maintains : Job.Maintains I code) :
    Keeps (Host.Serves I) panics (runCall name code) := by
  intro h serves
  unfold runCall
  rw [run_bind_of_ok (ensure_of_ready serves.ready)]
  refine keeps_bind (serves_execSync settles maintains) (fun result => ?_) h serves
  cases result <;> exact keeps_pure _

theorem serves_callOn (handle : Handle) (released name : String) {code : Ref → Call α}
    (maintains : ∀ r, Job.Maintains I (code r).run) :
    Keeps (Host.Serves I) panics (callOn handle released name code) := by
  unfold callOn
  split
  · exact keeps_pure _
  · exact serves_runCall settles name (maintains _)

theorem serves_appendSearchPath {paths : List String} (maintains : Job.Maintains I (Job.appendSearchPath paths)) :
    Keeps (Host.Serves I) panics (appendSearchPath paths) := by
  intro h serves
  unfold appendSearchPath appendPaths
  rw [run_bind_of_ok (ensure_of_ready serves.ready)]
  refine keeps_bind ?_ (fun _ => keeps_pure _) h serves
  split
  · exact keeps_pure _
  · refine keeps_bind (serves_execSync settles maintains) fun result => ?_
    cases result <;> exact keeps_pure _

/-- Letting go of a handle queues a task that gives up the reference. -/
theorem serves_drop (handle : Handle) : Keeps (Host.Serves I) True handle.drop := by
  unfold Handle.drop
  split
  · exact keeps_pure _
  · refine keeps_bind keeps_get fun h => ?_
    split
    · exact serves_job (Job.maintains_releaseAll settles _)
    · refine keeps_bind (serves_exec (.of (Job.maintains_releaseAll settles _))) fun result => ?_
      split
      · exact serves_job (Job.maintains_warn settles _ _)
      · exact keeps_pure _

theorem serves_release (handle : Handle) : Keeps (Host.Serves I) True handle.release := by
  unfold Handle.release
  split
  · exact keeps_pure _
  · refine keeps_bind keeps_get fun h => ?_
    split
    · exact keeps_bind (serves_job (Job.maintains_releaseAll settles _)) fun _ => keeps_pure _
    · exact keeps_bind (serves_execSync settles (Job.maintains_releaseAll settles _)) fun _ => keeps_pure _

theorem serves_dropping (handle : Handle) {code : ExceptT ε Action α}
    (keeps : Keeps (Host.Serves I) True code.run) :
    Keeps (Host.Serves I) True (handle.dropping code).run := by
  refine keeps_bind (keeps_tryCatch keeps fun p => ?_) fun result => ?_
  · exact keeps_bind (serves_drop settles handle) fun _ => keeps_throw p
  · exact keeps_bind (serves_drop settles handle) fun _ => keeps_pure _

end Action

/-! ## Giving up a reference -/

/-- The owner once the tasks in line have run. -/
def Host.ownerAfterTasks (h : Host) : Owner :=
  ({ h.broker with submitted := h.broker.submitted + 1 }.drain h.owner).2

/-- A handle gives up the reference that it holds, after the tasks in line, and does nothing else. -/
theorem Handle.run_release {h : Host} (outside : h.insideJob = false) (running : h.broker.stage = .running)
    {handle : Handle} {r : Ref} (place : handle.place = some r) :
    ∃ h', handle.release.run h = (.ok (.null, .ok ()), h') ∧
      (Job.release r).run h.ownerAfterTasks = (.ok (), h'.owner) := by
  obtain ⟨h', released, owner⟩ : ∃ h', (Action.execSync (Action.job (Job.release r))).run h = (.ok (.ok ()), h') ∧
      (Job.release r).run h.ownerAfterTasks = (.ok (), h'.owner) :=
    ⟨_, Action.run_execSync_job outside (Process.accept_of_running running) (Job.release r), rfl⟩
  refine ⟨h', ?_, owner⟩
  unfold Handle.release
  simp only [place]
  rw [Action.run_get_bind, outside, if_neg Bool.false_ne_true, Action.run_bind_of_ok released]
  rfl

/-- A handle that holds nothing has nothing to give up. -/
theorem Handle.run_release_null {handle : Handle} (place : handle.place = none) (h : Host) :
    handle.release.run h = (.ok (.null, .ok ()), h) := by
  unfold Handle.release
  rw [place]
  rfl

end InterpreterHost
