import Mathlib
import InterpreterHost.Proofs.Host.Serving

/-!
# What a panic leaves to the next job

Jobs run one after the other, and each finds the interpreter as the one before has left it.  When a task
panics, the exception that it left pending is taken away.  When a job panics that someone waits for, the panic
goes to whoever waits, and nobody takes the exception away: the next job finds it.

## Main definitions

* `Start` — a job that starts, with what it starts on
* `Start.left`, `Start.after` — what the code of the job leaves, and what the next job finds
* `Start.silenced` — the job, if it took its exception away before it panicked
* `Host.Trace` — jobs that are handed over, and those that run
* `Host.Succession` — what each job finds

## Main statements

* `Host.Trace.linked` — each job finds what the one before has left
* `Host.Trace.of_execSync` — to have a job run and wait for it is such a trace
* `Host.Trace.succession` — what a job finds after another has panicked

## Design notes

Tasks are jobs that nobody waits for.  A trace says which jobs run and in which order.  It lets a job that
someone waits for run at any moment and the tasks in the order in which they are queued, so that every order
which the threads of a process can bring about is among them.
-/

namespace InterpreterHost

/-! ## Jobs that start -/

/-- A job that starts: a task with the owner that it finds, or the code that someone waits for with the host
that it finds. -/
inductive Start where
  | queued (t : Task) (o : Owner)
  | awaited {α : Type} (code : Action α) (h : Host)

namespace Start

/-- What the job finds. -/
def owner : Start → Owner
  | queued _ o => o
  | awaited _ h => h.owner

/-- The panic that the job ends in, if it does. -/
def panic? : Start → Option Panic
  | queued t o => match (t.work.run o).1 with
    | .ok _ => none
    | .error p => some p
  | awaited code h => match (code.run h).1 with
    | .ok _ => none
    | .error p => some p

/-- What the code of the job leaves. -/
def left : Start → Owner
  | queued t o => (t.work.run o).2
  | awaited code h => (code.run h).2.owner

/-- What the next job finds: a panic that nobody waits for is logged, and the exception that it left is taken
away. -/
def after : Start → Owner
  | queued t o => match t.work.run o with
    | (.ok _, o') => o'
    | (.error p, o') => o'.recover p
  | awaited code h => (code.run h).2.owner

/-- Code that takes the exception away that is pending, before it panics. -/
def silencedCode {α : Type} (code : Action α) : Action α :=
  tryCatch code fun p => do
    Action.job Job.clearPending
    throw p

/-- The job, if it took its exception away before it panicked. -/
def silenced : Start → Start
  | queued t o => queued (.mk (tryCatch t.work fun p => do
      Job.clearPending
      throw p) t.queued) o
  | awaited code h => awaited (silencedCode code) h

/-- Whether the code runs as part of a job, as far as it can tell. -/
def Inside : Start → Prop
  | queued _ _ => True
  | awaited _ h => h.insideJob = true

/-- A task that panics leaves the next job what it would if it had left no exception. -/
theorem after_queued {t : Task} {o : Owner} {p : Panic} (panicked : (queued t o).panic? = some p) :
    (queued t o).after.pending = none ∧ (queued t o).after = (queued t o).silenced.after := by
  obtain ⟨work, tasks⟩ := t
  simp only [after, silenced, Task.work, run_tryCatch]
  simp only [panic?, Task.work] at panicked
  rcases ran : work.run o with ⟨q | ⟨⟩, o'⟩
  · exact ⟨rfl, rfl⟩
  · rw [ran] at panicked
    cases panicked

/-- Code that someone waits for leaves its exception to the next job when it panics. -/
theorem after_awaited {α : Type} {code : Action α} {h : Host} {p : Panic}
    (panicked : (awaited code h).panic? = some p) :
    (awaited code h).silenced.after = { (awaited code h).after with pending := none } := by
  simp only [after, silenced, silencedCode, run_tryCatch]
  simp only [panic?] at panicked
  rcases ran : code.run h with ⟨q | a, h'⟩
  · rfl
  · rw [ran] at panicked
    cases panicked

theorem owner_run (b : Broker) (t : Task) (o : Owner) : (Broker.run b t o).2 = (queued t o).after := by
  simp only [Broker.run, after]
  rcases t.work.run o with ⟨p | ⟨⟩, o'⟩ <;> rfl

/-! ## Jobs one after the other -/

/-- The first job finds the first owner, each other one what the job before it has left, and the last one
leaves the last owner. -/
def Linked : Owner → List Start → Owner → Prop
  | o, [], o' => o' = o
  | o, s :: rest, o' => s.owner = o ∧ Linked s.after rest o'

/-- What a job finds is what the one before it has left. -/
theorem Linked.next {o o' : Owner} {before rest : List Start} {s s' : Start}
    (linked : Linked o (before ++ s :: s' :: rest) o') : s'.owner = s.after := by
  induction before generalizing o with
  | nil => exact linked.2.1
  | cons first before ih => exact ih linked.2

end Start

/-! ## Traces -/

/-- What happens to the jobs of a host.  Anyone queues a task; the owning thread takes the first task and runs
it; a job that someone waits for is accepted; and the owning thread comes to such a job. -/
inductive Host.Trace : Host → List Start → Host → Prop
  | nil {h : Host} : Trace h [] h
  | exec {h h' : Host} {starts : List Start} (t : Task) (rest : Trace ((Action.exec t).run h).2 starts h') :
      Trace h starts h'
  | take {h h' : Host} {starts : List Start} {t : Task} {tasks : List Task} (queue : h.broker.queue = t :: tasks)
      (rest : Trace { h with
        broker := (h.broker.runNext h.owner).1
        owner := (h.broker.runNext h.owner).2 } starts h') :
      Trace h (.queued t h.owner :: starts) h'
  | accept {h h' : Host} {starts : List Start} {b : Broker} (accepted : h.broker.accept = .ok b)
      (rest : Trace { h with broker := b } starts h') : Trace h starts h'
  | await {α : Type} {h h' : Host} {starts : List Start} {code : Action α} (handsOver : Process.HandsOver code)
      (rest : Trace ((Action.runAccepted code).run h).2 starts h') :
      Trace h (.awaited code { h with insideJob := true } :: starts) h'

/-- A host on which jobs run, and no thread is in the middle of one. -/
structure Host.Runs (h : Host) : Prop where
  running : h.broker.stage = .running
  outside : h.insideJob = false

namespace Host.Trace

variable {α : Type} {h h' h'' : Host} {starts starts' : List Start}

theorem append (first : Trace h starts h') (second : Trace h' starts' h'') : Trace h (starts ++ starts') h'' := by
  induction first with
  | nil => exact second
  | exec t rest ih => exact .exec t (ih second)
  | take queue rest ih => exact .take queue (ih second)
  | accept accepted rest ih => exact .accept accepted (ih second)
  | await handsOver rest ih => exact .await handsOver (ih second)

/-- Each job finds what the one before it has left, and runs as part of a job. -/
theorem linked (trace : Trace h starts h') (runs : h.Runs) :
    Start.Linked h.owner starts h'.owner ∧ h'.Runs ∧ ∀ s ∈ starts, s.Inside := by
  induction trace with
  | nil => exact ⟨rfl, runs, List.forall_mem_nil _⟩
  | @exec h h' starts t rest ih =>
    rw [Process.run_exec (by simp [runs.running])] at ih
    exact ih ⟨(Broker.stage_submitAll h.broker [t]).trans runs.running, runs.outside⟩
  | @take h h' starts t tasks queue rest ih =>
    have next : h.broker.runNext h.owner = Broker.run { h.broker with queue := tasks } t h.owner := by
      unfold Broker.runNext
      rw [queue]
    rw [next] at ih
    obtain ⟨linked, ended, inside⟩ := ih ⟨(Broker.stage_run _ t h.owner).trans runs.running, runs.outside⟩
    refine ⟨⟨rfl, ?_⟩, ended, List.forall_mem_cons.2 ⟨trivial, inside⟩⟩
    rwa [Start.owner_run] at linked
  | @accept h h' starts b accepted rest ih => exact ih ⟨(Broker.stage_of_accept accepted).2, runs.outside⟩
  | @await α h h' starts code handsOver rest ih =>
    obtain ⟨-, tasks, handed⟩ := handsOver { h with insideJob := true } rfl (by simp [runs.running])
    rcases run : code.run { h with insideJob := true } with ⟨outcome, h₁⟩
    rw [run] at handed
    rw [Process.run_runAccepted run] at ih
    have stage : (h₁.broker.finish (Turn.isPanic outcome)).stage = .running := by
      rw [handed]
      exact (Broker.stage_submitAll h.broker tasks).trans runs.running
    obtain ⟨linked, ended, inside⟩ := ih ⟨stage, rfl⟩
    refine ⟨⟨rfl, ?_⟩, ended, List.forall_mem_cons.2 ⟨rfl, inside⟩⟩
    simp only [Start.after, run]
    exact linked

/-- The owning thread runs all tasks that are queued. -/
theorem of_drain (h : Host) : ∃ starts, Trace h starts (Action.drain.run h).2 := by
  rw [Process.run_drain]
  -- the broker and the owner change from task to task, and nothing else of the host does
  generalize broker : h.broker = b
  generalize owner : h.owner = o
  fun_induction Broker.drain b o generalizing h with
  | case1 b o empty =>
    subst broker owner
    exact ⟨[], .nil⟩
  | case2 b o t rest queued after =>
    rename_i ih
    subst broker owner
    have next : h.broker.runNext h.owner = after := by
      unfold Broker.runNext
      rw [queued]
    obtain ⟨starts, trace⟩ := ih { h with broker := after.1, owner := after.2 } rfl rfl
    refine ⟨.queued t h.owner :: starts, .take queued ?_⟩
    rw [next]
    exact trace

/-- To have a job run and wait for it: the tasks that are queued run, and then the job. -/
theorem of_execSync {code : Action α} (handsOver : Process.HandsOver code) (runs : h.Runs) :
    ∃ starts, Trace h starts ((Action.execSync code).run h).2 := by
  have accept := Process.accept_of_running runs.running
  unfold Action.execSync
  rw [Action.run_get_bind, runs.outside, if_neg Bool.false_ne_true,
    Action.run_bind_of_ok (Action.ensureStarted_of_started (by simp [runs.running])), Action.run_get_bind, accept]
  change ∃ starts, Trace h starts ((Action.drain >>= fun _ => Action.runAccepted code).run { h with broker := _ }).2
  rw [Action.run_bind_of_ok (Process.run_drain _)]
  obtain ⟨starts, drained⟩ := of_drain { h with broker := { h.broker with submitted := h.broker.submitted + 1 } }
  exact ⟨_, .accept accept (drained.append (.await handsOver .nil))⟩

end Host.Trace

/-! ## After a panic -/

/-- What jobs find, from the host that they begin on to the host that they leave. -/
structure Host.Succession (h : Host) (starts : List Start) (h' : Host) : Prop where
  first : ∀ s rest, starts = s :: rest → s.owner = h.owner
  /-- Whatever ended in a panic before it, a job knows that it runs as part of a job, and who comes after it
  knows that it does not. -/
  inside : (∀ s ∈ starts, s.Inside) ∧ h'.insideJob = false
  /-- The next job after a task that panicked finds no exception, and all else as if there had been none. -/
  queued : ∀ before t o s rest p, starts = before ++ .queued t o :: s :: rest →
    (Start.queued t o).panic? = some p →
    s.owner.pending = none ∧ s.owner = (Start.queued t o).silenced.after
  /-- The next job after one that someone waited for and that panicked finds the exception that it left.  It
  finds all as if there had been none only if there was none. -/
  awaited : ∀ {α : Type} before (code : Action α) h₁ s rest p, starts = before ++ .awaited code h₁ :: s :: rest →
    (Start.awaited code h₁).panic? = some p →
    s.owner = (Start.awaited code h₁).left ∧
      (s.owner = (Start.awaited code h₁).silenced.after ↔ s.owner.pending = none)
  /-- So it goes on when a thread queues a task, -/
  queues : ∀ t, Trace h starts ((Action.exec t).run h').2
  /-- or waits for a job. -/
  waits : ∀ {α : Type} (code : Action α), Process.HandsOver code →
    ∃ starts', Trace h (starts ++ starts') ((Action.execSync code).run h').2

/-- Whatever threads queue and wait for, and in whatever order the owning thread comes to it: a task that
panics leaves no exception to the next job, and a job that someone waits for leaves the one that it has when
it panics. -/
theorem Host.Trace.succession {h h' : Host} {starts : List Start} (trace : Trace h starts h') (runs : h.Runs) :
    Succession h starts h' := by
  obtain ⟨linked, ended, inside⟩ := trace.linked runs
  refine ⟨?_, ⟨inside, ended.outside⟩, ?_, ?_, ?_, ?_⟩
  · rintro s rest rfl
    exact linked.1
  · rintro before t o s rest p rfl panicked
    rw [linked.next]
    exact Start.after_queued panicked
  · rintro α before code h₁ s rest p rfl panicked
    have found := linked.next
    refine ⟨found, ?_⟩
    rw [Start.after_awaited panicked, ← found]
    constructor
    · exact fun same => congrArg Owner.pending same
    · intro calm
      rw [← calm]
  · exact fun t => List.append_nil starts ▸ trace.append (.exec t .nil)
  · intro α code handsOver
    obtain ⟨starts', further⟩ := Trace.of_execSync handsOver ended
    exact ⟨starts', trace.append further⟩

/-! ## A job that runs out of memory -/

/-- A job that runs out of memory and then panics. -/
def Job.failing : Job Unit := do
  let _ ← evaluate (throw .exhausted : Computation Unit)
  throw ⟨"boom"⟩

/-- A host on which jobs run, with a number among its objects. -/
def Host.holdingNumber : Host where
  owner := { interpreter := { heap := ⟨#[⟨1, .int (-1)⟩]⟩ } }
  broker := { stage := .running }

/-- A task that runs out of memory and panics, and a job that reads the number afterwards. -/
theorem Host.Trace.succession_failing : ∃ starts h', Trace Host.holdingNumber starts h' ∧
    Succession Host.holdingNumber starts h' ∧
    ∃ t o s, starts = [.queued t o, s] ∧ (Start.queued t o).panic? = some ⟨"boom"⟩ ∧
      ((Start.queued t o).left.pending).isSome = true ∧ s.owner.pending = none := by
  have trace : Trace holdingNumber _ _ := .exec (.of Job.failing) (.take rfl
    (.await (Process.handsOver_job (Job.fromObject 0)) .nil))
  have succession := trace.succession ⟨rfl, rfl⟩
  refine ⟨_, _, trace, succession, _, _, _, rfl, by rfl, by rfl, ?_⟩
  exact (succession.queued [] _ _ _ [] ⟨"boom"⟩ rfl rfl).1

/-- When a thread waits for the job that runs out of memory and panics, the next job cannot read the number.
It could if the job had taken its exception away. -/
theorem Host.execSync_failing :
    let read := Action.execSync (Action.job (Job.fromObject 0))
    let failing := Action.job Job.failing
    ((Action.execSync failing).run holdingNumber).1 = .ok (.error (.jobPanicked "boom")) ∧
    (read.run ((Action.execSync failing).run holdingNumber).2).1 =
      .ok (.ok (.error (.interpreter .noMemory))) ∧
    (read.run ((Action.execSync (Start.silencedCode failing)).run holdingNumber).2).1 =
      .ok (.ok (.ok (.int (-1)))) := by
  refine ⟨?_, ?_, ?_⟩ <;> cbv

end InterpreterHost
