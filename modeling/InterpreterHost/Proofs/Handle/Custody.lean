import InterpreterHost.Proofs.Broker.Order
import InterpreterHost.Proofs.Handle.Outcome
import InterpreterHost.Proofs.Heap.Release
import Mathlib.Logic.Relation

/-!
# Where the references to an object are

A handle holds one reference to an object.  Threads drop handles, release them and get second ones; jobs do
the same in place, take references out of handles and make handles of references.  This file follows the
references to one object through all of that, among any steps of any number of threads.

## Main definitions

* `Errand` — what a thread is about with a handle
* `Custody` — a process with the handles of one object, and everything else that holds a reference to it
* `Custody.Inside`, `Custody.Step`, `Custody.Run` — what a job does, one step of anyone, and any steps
* `Custody.Balanced` — every reference is in one place

## Main statements

* `Custody.Balanced.inside`, `Custody.Balanced.proceed` — each step keeps the balance
* `Custody.balanced_of_run` — so do any steps

## Design notes

What a thread does with a handle begins when it takes the reference out, and goes on as it hands over a job: the
steps of that are those of `Process`, and `Custody.effect` says what they do to the references.  A job does at
once what it does, with the actions of `Handle`.  Code of the interpreter may do to the object what it likes, as
long as it gives up no reference that is not its own; its references are counted as being elsewhere.
-/

namespace InterpreterHost

/-- What a thread is about with a handle. -/
inductive Errand where
  /-- It gives up the reference and does not wait. -/
  | drop
  /-- It gives up the reference and waits until that is done. -/
  | release
  /-- It waits for a second handle. -/
  | clone
deriving DecidableEq, Repr

namespace Errand

def waits : Errand → Bool
  | drop => false
  | release => true
  | clone => true

/-- Whether it gives up a reference. -/
def gives : Errand → Bool
  | drop => true
  | release => true
  | clone => false

end Errand

/-- A process and the references to one object. -/
structure Custody (V : Type) where
  process : Process V := {}
  owner : Owner
  /-- The handles that were made; those that hold nothing any more are null. -/
  handles : List Handle := []
  /-- How many references the job that runs holds. -/
  refs : Nat := 0
  /-- How many references there are besides those of handles and jobs. -/
  elsewhere : Nat
  /-- What threads are about that have not handed over their job yet. -/
  errands : List (Nat × Errand) := []
  /-- What the accepted jobs are about, by their numbers. -/
  jobs : Nat → Option Errand := fun _ => none
  /-- How many references nobody will give up any more. -/
  leaked : Nat := 0

/-- The job whose code has not come to its end. -/
def Turn.pending {V : Type} : Turn V → List Ticket
  | running t => [t]
  | _ => []

namespace Custody

variable {V : Type} {r : Ref} {s s' : Custody V}

/-! ## What holds references -/

def heap (s : Custody V) : Heap := s.owner.interpreter.heap

/-- How many handles hold a reference. -/
def live (r : Ref) (s : Custody V) : Nat := s.handles.countP (· = .of r)

/-- How many accepted jobs will give up a reference. -/
def queued (s : Custody V) : Nat :=
  (s.process.turn.pending ++ s.process.line).countP fun t => (s.jobs t.number).any Errand.gives

/-- How many threads have taken a reference out of a handle and not yet handed over the job that gives it up. -/
def underWay (s : Custody V) : Nat := s.errands.countP (·.2.gives)

/-- The host as the job that runs sees it. -/
def host (s : Custody V) : Host := { owner := s.owner, broker := s.process.broker, insideJob := true }

/-- The object has one reference more. -/
def retained (r : Ref) (s : Custody V) : Owner := ((Job.retain r).run s.owner).2

/-- The object has one reference less. -/
def releasedOnce (r : Ref) (s : Custody V) : Owner := ((Job.release r).run s.owner).2

theorem count_retained (place : r < s.heap.cells.size) :
    (s.retained r).interpreter.heap.count r = s.heap.count r + 1 ∧
      (s.retained r).interpreter.heap.cells.size = s.heap.cells.size :=
  ⟨Heap.count_retain place, Array.size_modify⟩

theorem count_releasedOnce : (s.releasedOnce r).interpreter.heap.count r = s.heap.count r - 1 ∧
    (s.releasedOnce r).interpreter.heap.cells.size = s.heap.cells.size :=
  ⟨s.heap.count_release r, s.heap.size_releaseAll [r]⟩

/-! ## Steps -/

/-- What the job that runs does. -/
inductive Inside (r : Ref) (s : Custody V) : Custody V → Prop
  /-- It releases a handle. -/
  | release {k : Nat} {handle handle' : Handle} {result : Except BrokerError Unit} {h' : Host}
      (own : s.handles[k]? = some handle) (run : handle.release.run s.host = (.ok (handle', result), h')) :
      Inside r s { s with owner := h'.owner, handles := s.handles.set k handle' }
  /-- It lets go of a handle. -/
  | drop {k : Nat} {handle : Handle} {result : Except Panic Unit} {h' : Host} (own : s.handles[k]? = some handle)
      (run : handle.drop.run s.host = (result, h')) :
      Inside r s { s with owner := h'.owner, handles := s.handles.set k .null }
  /-- It makes a second handle. -/
  | clone {k : Nat} {handle handle' : Handle} {h' : Host} (own : s.handles[k]? = some handle)
      (run : handle.clone.run s.host = (.ok (.ok handle'), h')) :
      Inside r s { s with owner := h'.owner, handles := s.handles ++ [handle'] }
  /-- It takes the reference out of a handle. -/
  | take {k : Nat} {handle : Handle} (own : s.handles[k]? = some handle) :
      Inside r s { s with
        handles := s.handles.set k handle.take.2
        refs := s.refs + if handle.take.1 = some r then 1 else 0 }
  /-- It makes a handle of a reference. -/
  | unbind {n : Nat} (holds : s.refs = n + 1) : Inside r s { s with refs := n, handles := s.handles ++ [.of r] }
  /-- It gives up a reference. -/
  | dropRef {n : Nat} (holds : s.refs = n + 1) : Inside r s { s with refs := n, owner := s.releasedOnce r }
  /-- It takes a reference of its own to an object that it can see. -/
  | own (sees : s.refs ≠ 0 ∨ .of r ∈ s.handles) : Inside r s { s with refs := s.refs + 1, owner := s.retained r }
  /-- It gives a reference to the interpreter, -/
  | giveAway {n : Nat} (holds : s.refs = n + 1) : Inside r s { s with refs := n, elsewhere := s.elsewhere + 1 }
  /-- or gets one from it. -/
  | receive {n : Nat} (there : s.elsewhere = n + 1) : Inside r s { s with elsewhere := n, refs := s.refs + 1 }
  /-- Code of the interpreter runs, as when the object is called. -/
  | code {o : Owner} {n : Nat} (place : r < o.interpreter.heap.cells.size)
      (count : o.interpreter.heap.count r + s.elsewhere = s.heap.count r + n) :
      Inside r s { s with owner := o, elsewhere := n }

/-- What a thread is about. -/
def errand (s : Custody V) (i : Nat) : Option Errand := s.errands.lookup i

/-- A thread has begun something with a handle.  To give up the reference it has taken it out. -/
def begun (s : Custody V) (i k : Nat) (e : Errand) : Custody V := { s with
  errands := (i, e) :: s.errands
  handles := if e.gives then s.handles.set k .null else s.handles }

/-- The errands of the others. -/
def errandsWithout (s : Custody V) (i : Nat) : List (Nat × Errand) := s.errands.eraseP (i == ·.1)

/-- A thread is told that its job is not accepted.  What it was to give up is leaked, with a warning if it does
not wait for an answer. -/
def refuse (s : Custody V) (i : Nat) : Custody V :=
  match s.errand i with
  | none => s
  | some .drop => { s with
      owner := ((Job.warn Handle.leakWarning).run s.owner).2
      errands := s.errandsWithout i
      leaked := s.leaked + 1 }
  | some .release => { s with errands := s.errandsWithout i, leaked := s.leaked + 1 }
  | some .clone => { s with errands := s.errandsWithout i }

/-- The job of an errand. -/
def carryOut (r : Ref) (s : Custody V) : Errand → Custody V
  | .drop => { s with owner := s.releasedOnce r }
  | .release => { s with owner := s.releasedOnce r }
  | .clone => { s with
      owner := ((Handle.ofShared r).run s.owner).2
      handles := s.handles ++ [.of r] }

/-- What a step of the process does to the references. -/
def effect (r : Ref) (s : Custody V) : Happening V → Custody V
  | .refuse (.thread i) _ _ => s.refuse i
  | .lose (.thread i) => s.refuse i
  | .accept (.thread i) t => { s with
      errands := s.errandsWithout i
      jobs := Function.update s.jobs t.number (s.errand i) }
  | .finish t _ => match s.jobs t.number with
    | some e => s.carryOut r e
    | none => s
  | _ => s

/-- A thread hands over the job that it is about, and does not end the process in the middle of that.  A job
that is about a handle does not fail, and any other job has let go of its references when it ends. -/
def Allows (s : Custody V) : Happening V → Prop
  | .enter (.thread i) waits => ∀ e, s.errand i = some e → waits = e.waits
  | .refuse (.thread i) waits _ => ∀ e, s.errand i = some e → waits = e.waits
  | .close i => s.errand i = none
  | .closeAgain i => s.errand i = none
  | .finish t outcome => match s.jobs t.number with
    | some _ => ∃ v, outcome = .ok v
    | none => s.refs = 0
  | _ => True

/-- One step of a thread, of the job that runs, or of the owning thread. -/
inductive Step (r : Ref) (s : Custody V) : Custody V → Prop
  /-- A thread begins something with a handle. -/
  | begin {i k : Nat} (e : Errand) (free : s.process.phase (.thread i) = .free) (idle : s.errand i = none)
      (holds : s.handles[k]? = some (.of r)) : Step r s (s.begun i k e)
  | inside {t : Ticket} {s' : Custody V} (running : s.process.turn = .running t) (other : s.jobs t.number = none)
      (deed : Inside r s s') : Step r s s'
  | proceed {e : Happening V} {p : Process V} (next : Process.Step s.process e p) (allowed : s.Allows e) :
      Step r s { s.effect r e with process := p }

/-- Any steps, from the moment that the owning thread has started, when there are no handles of the object. -/
inductive Run (r : Ref) : Custody V → Prop
  | start {o : Owner} (place : r < o.interpreter.heap.cells.size) :
      Run r { owner := o, elsewhere := o.interpreter.heap.count r }
  | step {s s' : Custody V} (before : Run r s) (next : Step r s s') : Run r s'

/-- Steps from one state to another. -/
abbrev Steps (r : Ref) : Custody V → Custody V → Prop := Relation.ReflTransGen (Step r)

/-! ## Every reference is in one place -/

/-- The references to the object are those elsewhere, one for each live handle, those of the job that runs, one
for each job that will give one up, one for each thread that is about to hand over such a job, and those that
were leaked. -/
structure Balanced (r : Ref) (s : Custody V) : Prop where
  place : r < s.heap.cells.size
  handles : ∀ handle ∈ s.handles, handle = .null ∨ handle = .of r
  balance : s.heap.count r = s.elsewhere + s.live r + s.refs + s.queued + s.underWay + s.leaked
  /-- Only a job that runs holds references, and not one that is about a handle. -/
  confined : s.refs ≠ 0 → ∃ t, s.process.turn = .running t ∧ s.jobs t.number = none
  fresh : ∀ n, s.process.accepted.length ≤ n → s.jobs n = none
  leaks : s.leaked ≠ 0 → s.process.broker.stage = .terminated

theorem null_ne_of : Handle.null ≠ .of r := by rintro ⟨⟩

/-- A handle that becomes null is one that is live no more. -/
theorem countP_set_null {handles : List Handle} {k : Nat} {handle : Handle} (own : handles[k]? = some handle) :
    (handles.set k .null).countP (· = .of r) + (if handle = .of r then 1 else 0) = handles.countP (· = .of r) := by
  obtain ⟨bound, rfl⟩ := List.getElem?_eq_some_iff.1 own
  rw [List.countP_set bound]
  simp only [decide_eq_true_eq, if_neg null_ne_of, Nat.add_zero]
  split
  · next same =>
    have positive : 0 < handles.countP (· = .of r) :=
      List.countP_pos_iff.2 ⟨_, List.getElem_mem bound, decide_eq_true same⟩
    omega
  · rfl

theorem forall_set_null {handles : List Handle} (all : ∀ handle ∈ handles, handle = .null ∨ handle = .of r)
    (k : Nat) : ∀ handle ∈ handles.set k .null, handle = .null ∨ handle = .of r := by
  intro handle mem
  rcases List.mem_or_eq_of_mem_set mem with before | rfl
  · exact all handle before
  · exact .inl rfl

theorem forall_append {handles : List Handle} (all : ∀ handle ∈ handles, handle = .null ∨ handle = .of r)
    {handle : Handle} (one : handle = .null ∨ handle = .of r) :
    ∀ handle' ∈ handles ++ [handle], handle' = .null ∨ handle' = .of r :=
  List.forall_mem_append.2 ⟨all, List.forall_mem_singleton.2 one⟩

/-- What a job does moves references between the interpreter, handles and the job. -/
theorem Balanced.move {t : Ticket} (balanced : Balanced r s) (running : s.process.turn = .running t)
    (other : s.jobs t.number = none) (owner : Owner) (handles : List Handle) (refs elsewhere : Nat)
    (place : r < owner.interpreter.heap.cells.size) (all : ∀ handle ∈ handles, handle = .null ∨ handle = .of r)
    (count : owner.interpreter.heap.count r + (s.elsewhere + s.live r + s.refs) =
      s.heap.count r + (elsewhere + handles.countP (· = .of r) + refs)) :
    Balanced r { s with owner, handles, refs, elsewhere } := by
  refine { balanced with place, handles := all, balance := ?_, confined := fun _ => ⟨t, running, other⟩ }
  have before := balanced.balance
  change owner.interpreter.heap.count r = elsewhere + handles.countP (· = .of r) + refs + s.queued +
    s.underWay + s.leaked
  omega

/-- The job gives up a reference that a handle or the job itself has held. -/
theorem Balanced.moveRelease {t : Ticket} (balanced : Balanced r s) (running : s.process.turn = .running t)
    (other : s.jobs t.number = none) (handles : List Handle) (refs : Nat)
    (all : ∀ handle ∈ handles, handle = .null ∨ handle = .of r)
    (fewer : handles.countP (· = .of r) + refs + 1 = s.live r + s.refs) :
    Balanced r { s with owner := s.releasedOnce r, handles, refs } := by
  obtain ⟨count, size⟩ := count_releasedOnce (s := s) (r := r)
  refine balanced.move running other _ handles refs s.elsewhere (size ▸ balanced.place) all ?_
  have balance := balanced.balance
  rw [count]
  omega

/-- The job lets go of a handle, and of its reference if it holds one. -/
theorem Balanced.letGo {t : Ticket} (balanced : Balanced r s) (running : s.process.turn = .running t)
    (other : s.jobs t.number = none) {k : Nat} {handle : Handle} (own : s.handles[k]? = some handle)
    {owner : Owner} (null : handle = .null → owner = s.owner) (held : handle = .of r → owner = s.releasedOnce r) :
    Balanced r { s with owner, handles := s.handles.set k .null } := by
  have fewer := countP_set_null (r := r) own
  have all := forall_set_null balanced.handles k
  rcases balanced.handles handle (List.mem_of_getElem? own) with same | same
  · rw [if_neg (same ▸ null_ne_of)] at fewer
    rw [null same]
    refine balanced.move running other s.owner _ s.refs s.elsewhere balanced.place all ?_
    simp only [live, heap]
    omega
  · rw [if_pos same] at fewer
    rw [held same]
    refine balanced.moveRelease running other _ s.refs all ?_
    simp only [live]
    omega

/-- The job takes a reference for a handle or for itself. -/
theorem Balanced.moveRetain {t : Ticket} (balanced : Balanced r s) (running : s.process.turn = .running t)
    (other : s.jobs t.number = none) (handles : List Handle) (refs : Nat)
    (all : ∀ handle ∈ handles, handle = .null ∨ handle = .of r)
    (more : handles.countP (· = .of r) + refs = s.live r + s.refs + 1) :
    Balanced r { s with owner := s.retained r, handles, refs } := by
  obtain ⟨count, size⟩ := count_retained balanced.place
  refine balanced.move running other _ handles refs s.elsewhere (size ▸ balanced.place) all ?_
  rw [count]
  omega

theorem Balanced.inside {t : Ticket} (balanced : Balanced r s) (running : s.process.turn = .running t)
    (other : s.jobs t.number = none) (deed : Inside r s s') : Balanced r s' := by
  have place := balanced.place
  have all := balanced.handles
  have appended : (s.handles ++ [Handle.of r]).countP (· = .of r) = s.live r + 1 := by
    simp [List.countP_append, live]
  cases deed with
  | @release k handle handle' result h' own run =>
    rcases all handle (List.mem_of_getElem? own) with rfl | rfl
    · cases run
      exact balanced.letGo running other own (fun _ => rfl) fun same => absurd same null_ne_of
    · rw [Handle.run_release_inside rfl] at run
      cases run
      exact balanced.letGo running other own (fun same => absurd same.symm null_ne_of) fun _ => rfl
  | @drop k handle result h' own run =>
    rcases all handle (List.mem_of_getElem? own) with rfl | rfl
    · cases run
      exact balanced.letGo running other own (fun _ => rfl) fun same => absurd same null_ne_of
    · rw [Handle.run_drop_inside rfl] at run
      cases run
      exact balanced.letGo running other own (fun same => absurd same.symm null_ne_of) fun _ => rfl
  | @clone k handle handle' h' own run =>
    rcases all handle (List.mem_of_getElem? own) with rfl | rfl
    · cases run
      refine balanced.move running other s.owner _ s.refs s.elsewhere place (forall_append all (.inl rfl)) ?_
      simp [live, heap, List.countP_append, null_ne_of]
    · rw [Handle.run_clone_inside rfl] at run
      cases run
      refine balanced.moveRetain running other _ s.refs (forall_append all (.inr rfl)) ?_
      omega
  | @take k handle own =>
    have fewer := countP_set_null (r := r) own
    refine balanced.move running other s.owner _ _ s.elsewhere place (forall_set_null all k) ?_
    have null : handle.take.2 = .null := rfl
    have same : handle.take.1 = some r ↔ handle = .of r := by
      cases handle
      simp [Handle.take, Handle.of]
    simp only [live, heap, same, null] at fewer ⊢
    omega
  | @unbind n holds =>
    refine balanced.move running other s.owner _ n s.elsewhere place (forall_append all (.inr rfl)) ?_
    simp only [heap] at place ⊢
    omega
  | @dropRef n holds =>
    refine balanced.moveRelease running other s.handles n all ?_
    simp only [live]
    omega
  | own sees => exact balanced.moveRetain running other s.handles _ all rfl
  | @giveAway n holds =>
    refine balanced.move running other s.owner s.handles n _ place all ?_
    simp only [live, heap]
    omega
  | @receive n there =>
    refine balanced.move running other s.owner s.handles _ n place all ?_
    simp only [live, heap]
    omega
  | @code o n place count =>
    refine balanced.move running other o s.handles s.refs n place all ?_
    simp only [live]
    omega

/-! ## Threads and the process -/

/-- A thread begins something with a handle. -/
theorem Balanced.begin {i k : Nat} (balanced : Balanced r s) (e : Errand) (holds : s.handles[k]? = some (.of r)) :
    Balanced r (s.begun i k e) := by
  unfold begun
  have fewer := countP_set_null (r := r) holds
  have balance := balanced.balance
  rw [if_pos rfl] at fewer
  cases gives : e.gives with
  | true =>
    refine { balanced with handles := forall_set_null balanced.handles k, balance := ?_ }
    simp only [live, underWay, queued, heap] at balance ⊢
    simp only [if_true, List.countP_cons, gives]
    omega
  | false =>
    refine { balanced with balance := ?_ }
    simp only [live, underWay, queued, heap] at balance ⊢
    simpa [List.countP_cons, gives] using balance

/-- Steps that neither change which jobs have still to run nor accept any leave everything in its place. -/
theorem Balanced.frame {p : Process V} (balanced : Balanced r s) (pending : p.turn.pending = s.process.turn.pending)
    (line : p.line = s.process.line) (accepted : p.accepted = s.process.accepted)
    (stage : s.process.broker.stage = .terminated → p.broker.stage = .terminated) :
    Balanced r { s with process := p } := by
  refine { balanced with
    balance := ?_
    confined := fun holds => ?_
    fresh := fun n beyond => ?_
    leaks := fun leaked => ?_ }
  · have same : ({ s with process := p } : Custody V).queued = s.queued := by simp only [queued, pending, line]
    exact same ▸ balanced.balance
  · obtain ⟨t, running, other⟩ := balanced.confined holds
    refine ⟨t, ?_, other⟩
    change p.turn = .running t
    rw [running] at pending
    cases turn : p.turn <;> simp_all [Turn.pending]
  · exact balanced.fresh n (accepted ▸ beyond)
  · exact stage (balanced.leaks leaked)

/-- What a thread is about is one of the errands. -/
theorem countP_errandsWithout (s : Custody V) (i : Nat) :
    (s.errandsWithout i).countP (·.2.gives) + (s.errand i).toList.countP Errand.gives = s.underWay := by
  simp only [errandsWithout, errand, underWay]
  induction s.errands with
  | nil => rfl
  | cons first rest ih =>
    obtain ⟨j, e⟩ := first
    cases own : i == j with
    | true => simp [List.lookup_cons, own, List.countP_cons]
    | false =>
      simp only [List.eraseP_cons, List.lookup_cons, own, List.countP_cons, cond_false]
      omega

/-- A thread that is told that its job is not accepted leaks the reference that it was to give up. -/
theorem Balanced.refuse (balanced : Balanced r s) (closed : s.process.broker.stage = .terminated) (i : Nat) :
    Balanced r (s.refuse i) := by
  have balance := balanced.balance
  have fewer := s.countP_errandsWithout i
  unfold Custody.refuse
  cases about : s.errand i with
  | none => exact balanced
  | some e =>
    rw [about] at fewer
    cases e with
    | drop =>
      replace fewer : (s.errandsWithout i).countP (·.2.gives) + 1 = s.underWay := fewer
      refine { balanced with place := ?_, balance := ?_, leaks := fun _ => closed }
      · simp only [heap, Handle.run_warn]
        exact balanced.place
      · simp only [live, underWay, queued, heap, Handle.run_warn] at balance fewer ⊢
        omega
    | release =>
      replace fewer : (s.errandsWithout i).countP (·.2.gives) + 1 = s.underWay := fewer
      refine { balanced with balance := ?_, leaks := fun _ => closed }
      simp only [live, underWay, queued, heap] at balance fewer ⊢
      omega
    | clone =>
      replace fewer : (s.errandsWithout i).countP (·.2.gives) + 0 = s.underWay := fewer
      refine { balanced with balance := ?_ }
      simp only [live, underWay, queued, heap] at balance fewer ⊢
      omega

/-- A job that has not come to its end has a smaller number than the next job that is accepted. -/
theorem number_lt {p : Process V} (inOrder : Process.Queued p) {t : Ticket} (mem : t ∈ p.turn.pending ++ p.line) :
    t.number < p.accepted.length := by
  have accepted : t ∈ p.accepted := by
    rw [inOrder.line, inOrder.hand, List.mem_append, List.mem_append]
    rcases List.mem_append.1 mem with pending | line
    · refine .inl (.inr ?_)
      cases turn : p.turn <;> simp_all [Turn.pending, Turn.hand]
    · exact .inr line
  have listed := List.mem_map_of_mem (f := Ticket.number) accepted
  rw [inOrder.numbers] at listed
  exact List.mem_range.1 listed

/-- The jobs that have not come to their end are about the same as before if their numbers are not new. -/
theorem countP_update_jobs {tickets : List Ticket} {n : Nat} (jobs : Nat → Option Errand) (about : Option Errand)
    (other : ∀ t ∈ tickets, t.number ≠ n) :
    tickets.countP (fun t => (Function.update jobs n about t.number).any Errand.gives) =
      tickets.countP fun t => (jobs t.number).any Errand.gives := by
  refine List.countP_congr fun t mem => ?_
  rw [Function.update_of_ne (other t mem)]

/-- A job is accepted, and what it is about is as good as queued. -/
theorem Balanced.accept {c : Caller} {t : Ticket} {p : Process V} (balanced : Balanced r s)
    (inOrder : Process.Queued s.process) (number : t.number = s.process.accepted.length)
    (turn : p.turn = s.process.turn) (line : p.line = s.process.line ++ [t])
    (accepted : p.accepted = s.process.accepted ++ [t]) (stage : p.broker.stage = s.process.broker.stage) :
    Balanced r { s.effect r (.accept c t) with process := p } := by
  have balance := balanced.balance
  have earlier : ∀ u ∈ s.process.turn.pending ++ s.process.line, u.number ≠ t.number := fun u mem =>
    number ▸ Nat.ne_of_lt (number_lt inOrder mem)
  have tickets : p.turn.pending ++ p.line = s.process.turn.pending ++ s.process.line ++ [t] := by
    rw [turn, line, List.append_assoc]
  have leaks : s.leaked ≠ 0 → p.broker.stage = .terminated := fun leaked => stage.trans (balanced.leaks leaked)
  have longer : p.accepted.length = s.process.accepted.length + 1 := by rw [accepted, List.length_append]; rfl
  cases c with
  | job =>
    have other : s.jobs t.number = none := balanced.fresh _ (Nat.le_of_eq number.symm)
    refine { balanced with balance := ?_, confined := fun holds => ?_, fresh := fun n beyond => ?_, leaks }
    · have same : ({ s with process := p } : Custody V).queued = s.queued := by
        simp only [queued, tickets]
        rw [List.countP_append, List.countP_singleton, other]
        rfl
      exact same ▸ balance
    · exact turn ▸ balanced.confined holds
    · exact balanced.fresh n (by rw [longer] at beyond; omega)
  | thread i =>
    have fewer := s.countP_errandsWithout i
    refine { balanced with balance := ?_, confined := fun holds => ?_, fresh := fun n beyond => ?_, leaks }
    · -- what the thread was about is counted with the jobs from now on
      have more : ({ s.effect r (.accept (.thread i) t) with process := p } : Custody V).queued =
          s.queued + (s.errand i).toList.countP Errand.gives := by
        simp only [queued, effect, tickets]
        rw [List.countP_append, countP_update_jobs _ _ earlier, List.countP_singleton, Function.update_self]
        cases s.errand i with
        | none => rfl
        | some e => cases e <;> rfl
      simp only [effect, live, underWay, heap] at balance fewer more ⊢
      omega
    · obtain ⟨u, running, other⟩ := balanced.confined holds
      refine ⟨u, turn.trans running, ?_⟩
      have mem : u ∈ s.process.turn.pending ++ s.process.line := by rw [running]; exact List.mem_cons_self
      exact (Function.update_of_ne (earlier u mem) _ _).trans other
    · change p.accepted.length ≤ n at beyond
      rw [longer] at beyond
      exact (Function.update_of_ne (by omega) _ _).trans (balanced.fresh n (by omega))

theorem process_refuse (s : Custody V) (i : Nat) : (s.refuse i).process = s.process := by
  unfold Custody.refuse
  split <;> rfl

/-- A thread that is told that its job is not accepted may go on to something else. -/
theorem Balanced.refuseFrame {p : Process V} (balanced : Balanced r s)
    (closed : s.process.broker.stage = .terminated) (i : Nat) (turn : p.turn = s.process.turn)
    (line : p.line = s.process.line) (accepted : p.accepted = s.process.accepted)
    (stage : p.broker.stage = s.process.broker.stage) : Balanced r { s.refuse i with process := p } := by
  have same := s.process_refuse i
  refine (balanced.refuse closed i).frame ?_ ?_ ?_ fun _ => stage.trans closed
  · rw [same, turn]
  · rw [same, line]
  · rw [same, accepted]

/-- While no job runs no job holds references. -/
theorem Balanced.refs_eq_zero (balanced : Balanced r s) (receiving : s.process.turn = .receiving) : s.refs = 0 := by
  by_contra holds
  obtain ⟨u, running, -⟩ := balanced.confined holds
  cases receiving.symm.trans running

/-- The owning thread takes the first job in line, which has run no code yet. -/
theorem Balanced.take {t : Ticket} {rest : List Ticket} {p : Process V} (balanced : Balanced r s)
    (receiving : s.process.turn = .receiving) (line : s.process.line = t :: rest) (turn : p.turn = .running t)
    (line' : p.line = rest) (accepted : p.accepted = s.process.accepted)
    (stage : p.broker.stage = s.process.broker.stage) : Balanced r { s with process := p } := by
  refine { balanced with
    balance := ?_
    confined := fun holds => absurd (balanced.refs_eq_zero receiving) holds
    fresh := fun n beyond => balanced.fresh n (accepted ▸ beyond)
    leaks := fun leaked => stage.trans (balanced.leaks leaked) }
  have same : ({ s with process := p } : Custody V).queued = s.queued := by
    simp only [queued, receiving, line, turn, line']
    rfl
  exact same ▸ balanced.balance

/-- A job comes to its end, having done what it is about. -/
theorem Balanced.finish {t : Ticket} {outcome : Except Panic V} {p : Process V} (balanced : Balanced r s)
    (running : s.process.turn = .running t) (allowed : s.Allows (.finish t outcome))
    (turn : p.turn = .ended t outcome) (line : p.line = s.process.line)
    (accepted : p.accepted = s.process.accepted) (stage : p.broker.stage = s.process.broker.stage) :
    Balanced r { s.effect r (.finish t outcome) with process := p } := by
  have fresh : ∀ n, p.accepted.length ≤ n → s.jobs n = none := fun n beyond =>
    balanced.fresh n (accepted ▸ beyond)
  have leaks : s.leaked ≠ 0 → p.broker.stage = .terminated := fun leaked => stage.trans (balanced.leaks leaked)
  have balance := balanced.balance
  have before : s.queued = (s.process.line.countP fun u => (s.jobs u.number).any Errand.gives) +
      if (s.jobs t.number).any Errand.gives then 1 else 0 := by
    simp only [queued, running, Turn.pending, List.singleton_append, List.countP_cons]
  have after (o : Owner) (handles : List Handle) :
      ({ s with owner := o, handles, process := p } : Custody V).queued =
        s.process.line.countP fun u => (s.jobs u.number).any Errand.gives := by
    simp only [queued, turn, line, Turn.pending, List.nil_append]
  cases about : s.jobs t.number with
  | none =>
    simp only [Allows, about] at allowed
    rw [about] at before
    simp only [effect, about]
    refine { balanced with balance := ?_, confined := fun holds => absurd allowed holds, fresh, leaks }
    have none' := after s.owner s.handles
    simp only [live, underWay, heap, Option.any_none, Bool.false_eq_true, if_false] at balance before none' ⊢
    omega
  | some e =>
    -- only a job that is about no handle holds references
    have nothing : s.refs = 0 := by
      by_contra holds
      obtain ⟨u, running', other⟩ := balanced.confined holds
      cases running.symm.trans running'
      cases about.symm.trans other
    simp only [effect, about]
    rw [about] at before
    have gives (gives : e.gives = true) :
        Balanced r { s with owner := s.releasedOnce r, process := p } := by
      obtain ⟨count, size⟩ := count_releasedOnce (s := s) (r := r)
      refine { balanced with
        place := size ▸ balanced.place
        balance := ?_
        confined := fun holds => absurd nothing holds
        fresh, leaks }
      have less := after (s.releasedOnce r) s.handles
      rw [Option.any_some, if_pos gives] at before
      simp only [live, underWay, heap] at balance count before less ⊢
      omega
    cases e with
    | drop => exact gives rfl
    | release => exact gives rfl
    | clone =>
      obtain ⟨count, size⟩ := count_retained balanced.place
      refine {
        place := size ▸ balanced.place
        handles := forall_append balanced.handles (.inr rfl)
        balance := ?_
        confined := fun holds => absurd nothing holds
        fresh, leaks }
      have same := after (s.retained r) (s.handles ++ [.of r])
      have appended : (s.handles ++ [Handle.of r]).countP (· = .of r) = s.live r + 1 := by
        simp [List.countP_append, live]
      change (s.retained r).interpreter.heap.count r = s.elsewhere + (s.handles ++ [Handle.of r]).countP (· = .of r) +
        s.refs + Custody.queued { s with owner := s.retained r, handles := s.handles ++ [.of r], process := p } +
        s.underWay + s.leaked
      rw [Option.any_some, if_neg (by decide)] at before
      omega

/-- Each step of the process keeps every reference in one place. -/
theorem Balanced.proceed {e : Happening V} {p : Process V} (balanced : Balanced r s)
    (inOrder : Process.Queued s.process) (locked : Process.Locked s.process) (next : Process.Step s.process e p)
    (allowed : s.Allows e) : Balanced r { s.effect r e with process := p } := by
  cases next with
  | enter | count | reentrant | answer | forsake | closeAgain | disconnect | join =>
    exact balanced.frame rfl rfl rfl id
  | close free running unlocked => exact balanced.frame rfl rfl rfl fun _ => rfl
  | reply ended waiter => exact balanced.frame (by rw [ended]; rfl) rfl rfl id
  | complete done =>
    refine balanced.frame ?_ rfl rfl id
    rcases done with replied | ⟨outcome, ended, -⟩
    · rw [replied]
      rfl
    · rw [ended]
      rfl
  | leave receiving empty silent => exact balanced.frame (by rw [receiving]; rfl) rfl rfl id
  | @refuse c waits e free may closed =>
    cases c with
    | job => exact balanced.frame rfl rfl rfl id
    | thread i =>
      have terminated : s.process.broker.stage = .terminated := by
        cases stage : s.process.broker.stage with
        | idle => exact absurd stage locked.started
        | running =>
          rw [Process.accept_of_running stage] at closed
          cases closed
        | terminated => rfl
      exact balanced.refuseFrame terminated i rfl rfl rfl rfl
  | @lose c waits counted gone =>
    cases c with
    | job => exact balanced.frame rfl rfl rfl id
    | thread i => exact balanced.refuseFrame (locked.silent (locked.left gone).1) i rfl rfl rfl rfl
  | accept counted heard => exact balanced.accept inOrder rfl rfl rfl rfl rfl
  | take receiving line => exact balanced.take receiving line rfl rfl rfl rfl
  | finish running free outcome => exact balanced.finish running allowed rfl rfl rfl rfl

/-! ## After any steps -/

/-- The process of a state that steps lead to is one that its own steps lead to. -/
theorem exists_run (run : Run r s) : ∃ past, Process.Run past s.process := by
  induction run with
  | start => exact ⟨[], .start⟩
  | step before next ih =>
    obtain ⟨past, run⟩ := ih
    cases next with
    | begin => exact ⟨past, run⟩
    | inside running other deed => cases deed <;> exact ⟨past, run⟩
    | proceed next => exact ⟨_, run.step next⟩

theorem balanced_of_run (run : Run r s) : Balanced r s := by
  induction run with
  | @start o place =>
    exact ⟨place, fun _ mem => (nomatch mem), rfl, fun holds => absurd rfl holds, fun _ _ => rfl,
      fun leaked => absurd rfl leaked⟩
  | step before next ih =>
    obtain ⟨past, run⟩ := exists_run before
    cases next with
    | begin e free idle holds => exact ih.begin e holds
    | inside running other deed => exact ih.inside running other deed
    | proceed next allowed =>
      exact ih.proceed (Process.queued_of_run run) (Process.locked_of_run run) next allowed

end Custody

end InterpreterHost
