import InterpreterHost.Proofs.Host.Serving

/-!
# What becomes of handles

What comes of dropping a handle, releasing it and getting a second one: inside a job it is done at once, elsewhere
a job is handed over, and once no more jobs are accepted the reference stays.

## Main statements

* `Handle.null_of_release` — a handle that was released holds nothing, whatever came of it
* `Handle.run_release_inside`, `Handle.run_drop_inside`, `Handle.run_clone_inside` — inside a job
* `Handle.run_drop`, `Handle.run_release_of`, `Handle.run_clone` — while jobs are accepted
* `Handle.run_drop_closed`, `Handle.run_release_closed`, `Handle.run_clone_closed` — afterwards
-/

namespace InterpreterHost

namespace Handle

variable {h h' : Host} {r : Ref}

/-- A handle that was released holds nothing, whatever came of it. -/
theorem null_of_release {handle handle' : Handle} {result : Except BrokerError Unit}
    (run : handle.release.run h = (.ok (handle', result), h')) : handle' = .null := by
  unfold release at run
  split at run
  · cases run
    rfl
  · rw [Action.run_get_bind] at run
    split at run
    · obtain ⟨_, h₁, -, run⟩ := of_run_bind run
      cases run
      rfl
    · obtain ⟨_, h₁, -, run⟩ := of_run_bind run
      cases run
      rfl

/-! ## Inside a job -/

theorem run_release_inside (inside : h.insideJob = true) (r : Ref) : (of r).release.run h =
    (.ok (.null, .ok ()), { h with owner := ((Job.release r).run h.owner).2 }) := by
  unfold release
  dsimp only [of]
  rw [Action.run_get_bind, if_pos inside, run_bind, Action.run_job]
  rfl

theorem run_drop_inside (inside : h.insideJob = true) (r : Ref) : (of r).drop.run h =
    (.ok (), { h with owner := ((Job.release r).run h.owner).2 }) := by
  unfold drop
  dsimp only [of]
  rw [Action.run_get_bind, if_pos inside, Action.run_job]
  rfl

theorem run_clone_inside (inside : h.insideJob = true) (r : Ref) : (of r).clone.run h =
    (.ok (.ok (of r)), { h with owner := ((ofShared r).run h.owner).2 }) := by
  unfold clone
  dsimp only [of]
  rw [Action.run_get_bind, if_pos inside, run_bind, Action.run_job]
  rfl

/-! ## While jobs are accepted -/

section

variable (outside : h.insideJob = false)
include outside

theorem run_drop (running : h.broker.stage = .running) (r : Ref) : (of r).drop.run h =
    (.ok (), { h with broker := { h.broker with
      submitted := h.broker.submitted + 1
      queue := h.broker.queue ++ [.of (Job.release r)] } }) := by
  have submitted : h.broker.submit (.of (Job.release r)) = .ok { h.broker with
      submitted := h.broker.submitted + 1
      queue := h.broker.queue ++ [.of (Job.release r)] } := by
    rw [Broker.submit, Process.accept_of_running running]
    rfl
  have queued := Process.run_exec (h := h) (by simp [running]) (.of (Job.release r))
  rw [submitted] at queued
  unfold drop
  dsimp only [of]
  rw [Action.run_get_bind, if_neg (by simp [outside]), Action.run_bind_of_ok queued]
  rfl

theorem run_release_of (running : h.broker.stage = .running) (r : Ref) : (of r).release.run h =
    (.ok (.null, .ok ()), { h with
      owner := ((Job.release r).run h.ownerAfterTasks).2
      broker := ({ h.broker with submitted := h.broker.submitted + 1 }.drain h.owner).1.finish false }) := by
  have released := Action.run_execSync_job outside (Process.accept_of_running running) (Job.release r)
  unfold release
  dsimp only [of]
  rw [Action.run_get_bind, if_neg (by simp [outside]), Action.run_bind_of_ok released]
  rfl

theorem run_clone (running : h.broker.stage = .running) (r : Ref) : (of r).clone.run h =
    (.ok (.ok (of r)), { h with
      owner := ((ofShared r).run h.ownerAfterTasks).2
      broker := ({ h.broker with submitted := h.broker.submitted + 1 }.drain h.owner).1.finish false }) := by
  have cloned := Action.run_execSync_job outside (Process.accept_of_running running) (ofShared r)
  unfold clone
  dsimp only [of]
  rw [Action.run_get_bind, if_neg (by simp [outside]), cloned]
  rfl

/-! ## Once no more jobs are accepted -/

/-- A handle that is dropped leaves its reference and a warning. -/
theorem run_drop_closed (closed : h.broker.stage = .terminated) (r : Ref) : (of r).drop.run h =
    (((Job.warn leakWarning).run h.owner).1, { h with owner := ((Job.warn leakWarning).run h.owner).2 }) := by
  have refused := Process.run_exec (h := h) (by simp [closed]) (.of (Job.release r))
  rw [Broker.submit, Process.accept_of_not_running (by simp [closed])] at refused
  unfold drop
  dsimp only [of]
  rw [Action.run_get_bind, if_neg (by simp [outside]), Action.run_bind_of_ok refused]
  exact Action.run_job _ _

theorem run_release_closed (closed : h.broker.stage = .terminated) (r : Ref) :
    (of r).release.run h = (.ok (.null, .error .terminated), h) := by
  unfold release
  dsimp only [of]
  rw [Action.run_get_bind, if_neg (by simp [outside]),
    Action.run_bind_of_ok (Process.run_execSync_closed outside (by simp [closed]) (by simp [closed]))]
  rfl

theorem run_clone_closed (closed : h.broker.stage = .terminated) (r : Ref) :
    (of r).clone.run h = (.ok (.error .terminated), h) := by
  unfold clone
  dsimp only [of]
  rw [Action.run_get_bind, if_neg (by simp [outside]),
    Process.run_execSync_closed outside (by simp [closed]) (by simp [closed])]

end

/-- The warning is the one record that the log gets. -/
theorem run_warn (message : String) (path : Option String) (o : Owner) : ((Job.warn message path).run o).2 =
    { o with log := o.log ++ [.warning message path], panicOnWarning := none } := by
  unfold Job.warn
  rw [Job.run_get_bind]
  cases o.panicOnWarning <;> rfl

/-- On a host that has started, to release a handle gives an answer, whatever it is. -/
theorem exists_run_release (started : h.broker.stage ≠ .idle) (r : Ref) :
    ∃ result h', (of r).release.run h = (.ok (.null, result), h') := by
  by_cases inside : h.insideJob = true
  · exact ⟨_, _, run_release_inside inside r⟩
  · have outside : h.insideJob = false := Bool.eq_false_iff.2 inside
    cases stage : h.broker.stage with
    | idle => exact absurd stage started
    | running => exact ⟨_, _, run_release_of outside stage r⟩
    | terminated => exact ⟨_, _, run_release_closed outside stage r⟩

end Handle

end InterpreterHost
