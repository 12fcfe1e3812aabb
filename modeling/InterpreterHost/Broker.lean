import InterpreterHost.Broker.Error
import InterpreterHost.Owner.Job

/-!
# The broker

The broker hands jobs to the owning thread.  While it runs it accepts them; the owning thread takes them from a
queue one at a time, in the order in which they were accepted.

## Main definitions

* `Task` — a job that nobody waits for
* `Broker` — the queue with its counters
* `Broker.accept`, `Broker.submit` — accept a job
* `Broker.runNext`, `Broker.drain` — run the first task, run all of them
* `Broker.close` — accept no more

## Design notes

A job that someone waits for never stands in the queue here.  Whoever submits it waits until it has run, so that
`accept` and running it, with all that was accepted before in between, are one action of the thread that waits.

A task queues others before it does anything else, so that they are in the queue even if it panics.
-/

namespace InterpreterHost

/-- A job that nobody waits for: it queues tasks and then does its work. -/
inductive Task where
  | mk (work : Job Unit) (queued : List Task)

namespace Task

def work : Task → Job Unit
  | mk work _ => work

def queued : Task → List Task
  | mk _ queued => queued

/-- A job that queues nothing. -/
def of (work : Job Unit) : Task := mk work []

mutual

/-- How many jobs a task comes to. -/
def weight : Task → Nat
  | mk _ queued => 1 + weightAll queued

def weightAll : List Task → Nat
  | [] => 0
  | t :: tasks => weight t + weightAll tasks

end

theorem weightAll_append (s t : List Task) : weightAll (s ++ t) = weightAll s + weightAll t := by
  induction s with
  | nil => simp [weightAll]
  | cons a s ih => simp [weightAll, ih, Nat.add_assoc]

end Task

/-- How far the broker has come.  It starts once and ends once. -/
inductive Stage where
  | idle
  | running
  | terminated
deriving DecidableEq, Repr

/-- The jobs that wait for the owning thread, and how many there were. -/
structure Broker where
  stage : Stage := .idle
  queue : List Task := []
  /-- Jobs that were accepted. -/
  submitted : Nat := 0
  /-- Jobs that have come to an end. -/
  completed : Nat := 0
  /-- Jobs that ended in a panic. -/
  panicked : Nat := 0

/-- After a task panicked: the panic goes to the log, and an exception that it left is taken away.  That is no
part of the task, and `Owner.panicOnWarning` is about tasks only. -/
def Owner.recover (o : Owner) (p : Panic) : Owner :=
  { o with
    log := o.log ++ [.warning s!"job panicked on the python main thread: {p.message}" none]
    pending := none }

namespace Broker

/-- Accept a job, if jobs are accepted. -/
def accept (b : Broker) : Except BrokerError Broker :=
  if b.stage = .running then .ok { b with submitted := b.submitted + 1 } else .error .terminated

/-- Accept a task and queue it behind the others. -/
def submit (b : Broker) (t : Task) : Except BrokerError Broker :=
  b.accept.map fun b => { b with queue := b.queue ++ [t] }

/-- Queue what a task queues; what is not accepted is dropped. -/
def submitAll (b : Broker) (tasks : List Task) : Broker :=
  tasks.foldl (fun b t => (b.submit t).toOption.getD b) b

/-- A job has come to an end. -/
def finish (b : Broker) (withPanic : Bool) : Broker :=
  { b with
    completed := b.completed + 1
    panicked := b.panicked + if withPanic then 1 else 0 }

/-- Accept no more jobs. -/
def close (b : Broker) : Broker := { b with stage := .terminated }

/-- Run a task that was taken from the queue. -/
def run (b : Broker) (t : Task) (o : Owner) : Broker × Owner :=
  let b := b.submitAll t.queued
  match t.work.run o with
  | (.ok (), o) => (b.finish false, o)
  | (.error p, o) => (b.finish true, o.recover p)

/-- Run the first task in the queue. -/
def runNext (b : Broker) (o : Owner) : Broker × Owner :=
  match b.queue with
  | [] => (b, o)
  | t :: rest => run { b with queue := rest } t o

/-! ## Running all tasks -/

theorem queue_submit (b : Broker) (t : Task) :
    ((b.submit t).toOption.getD b).queue = b.queue ∨ ((b.submit t).toOption.getD b).queue = b.queue ++ [t] := by
  unfold submit accept
  split
  · exact .inr rfl
  · exact .inl rfl

theorem weightAll_submitAll_le (b : Broker) (tasks : List Task) :
    Task.weightAll (b.submitAll tasks).queue ≤ Task.weightAll b.queue + Task.weightAll tasks := by
  induction tasks generalizing b with
  | nil => simp [submitAll, Task.weightAll]
  | cons t tasks ih =>
    have step := ih ((b.submit t).toOption.getD b)
    have one : Task.weightAll ((b.submit t).toOption.getD b).queue ≤ Task.weightAll b.queue + t.weight := by
      rcases b.queue_submit t with h | h <;> rw [h]
      · omega
      · simp [Task.weightAll_append, Task.weightAll]
    simp only [submitAll, List.foldl_cons, Task.weightAll] at step ⊢
    omega

theorem queue_run (b : Broker) (t : Task) (o : Owner) : (run b t o).1.queue = (b.submitAll t.queued).queue := by
  unfold run
  split <;> rfl

theorem weightAll_run_lt (b : Broker) (t : Task) (rest : List Task) (o : Owner) :
    Task.weightAll (run { b with queue := rest } t o).1.queue < Task.weightAll (t :: rest) := by
  have h := weightAll_submitAll_le { b with queue := rest } t.queued
  rw [queue_run]
  cases t with
  | mk work queued =>
    simp only [Task.queued, Task.weightAll, Task.weight] at h ⊢
    omega

/-- Run tasks until the queue is empty. -/
def drain (b : Broker) (o : Owner) : Broker × Owner :=
  match _queued : b.queue with
  | [] => (b, o)
  | t :: rest =>
    let after := run { b with queue := rest } t o
    drain after.1 after.2
termination_by Task.weightAll b.queue
decreasing_by
  rw [_queued]
  exact weightAll_run_lt b t rest o

end Broker

end InterpreterHost
