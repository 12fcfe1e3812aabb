import InterpreterHost.Call.Module
import InterpreterHost.Proofs.Broker.Order
import InterpreterHost.Proofs.Handle.Errands

/-!
# The accounts of handles

After any steps of threads and jobs with the handles of an object, its count is what there is besides handles, one
for each handle and each reference of a job, and one for each that is still to be given up.  Handles that were
released hold nothing on any host, and nothing comes of calls through them.

## Main definitions

* `Custody.Refused` — what is left to a thread that is about something once no more jobs are accepted
* `Custody.Exact` — the accounts of the references to an object
* `Handle.Lawful` — what comes of handles on a host, whatever has happened there
* `Module.Refuses`, `Function.Refuses`, `Instance.Refuses` — nothing comes of calls

## Main statements

* `Custody.accounts_balance` — the accounts after any steps, and the handles of any host
-/

namespace InterpreterHost

/-! ## Handles that hold nothing -/

/-- A module that holds nothing says so to every call, and no job is handed over. -/
structure Module.Refuses (m : Module) (h : Host) : Prop where
  call : ∀ name args named, (m.call name args named).run h = (.ok (.error (.released m.name)), h)
  newInstance : ∀ name args named, (m.newInstance name args named).run h = (.ok (.error (.released m.name)), h)
  getClass : ∀ name, (m.getClass name).run h = (.ok (.error (.released m.name)), h)
  getFunction : ∀ name, (m.getFunction name).run h = (.ok (.error (.released m.name)), h)
  release : m.release.run h = (.ok (m, .ok ()), h)

/-- A function that holds nothing says so to every call. -/
structure Function.Refuses (f : Function) (h : Host) : Prop where
  call : ∀ args named, (f.call args named).run h = (.ok (.error (.released f.name)), h)
  callDirect : ∀ args named, (f.callDirect args named).run h = (.ok (.error (.released f.name)), h)
  release : f.release.run h = (.ok (f, .ok ()), h)

/-- An instance that holds nothing says so to every call. -/
structure Instance.Refuses (i : Instance) (h : Host) : Prop where
  call : ∀ method args named, (i.call method args named).run h = (.ok (.error (.released i.origin)), h)
  callDirect : ∀ method args named, (i.callDirect method args named).run h = (.ok (.error (.released i.origin)), h)
  getAttribute : ∀ name, (i.getAttribute name).run h = (.ok (.error (.released i.origin)), h)
  release : i.release.run h = (.ok (i, .ok ()), h)

theorem Module.refuses {m : Module} (null : m.handle = .null) (h : Host) : m.Refuses h := by
  obtain ⟨name, handle⟩ := m
  cases null
  exact ⟨fun _ _ _ => rfl, fun _ _ _ => rfl, fun _ => rfl, fun _ => rfl, rfl⟩

theorem Function.refuses {f : Function} (null : f.handle = .null) (h : Host) : f.Refuses h := by
  obtain ⟨name, handle⟩ := f
  cases null
  exact ⟨fun _ _ => rfl, fun _ _ => rfl, rfl⟩

theorem Instance.refuses {i : Instance} (null : i.handle = .null) (h : Host) : i.Refuses h := by
  obtain ⟨origin, handle⟩ := i
  cases null
  exact ⟨fun _ _ _ => rfl, fun _ _ _ => rfl, fun _ => rfl, rfl⟩

namespace Handle

/-- What comes of handles on a host, whatever has happened there. -/
structure Lawful (h : Host) : Prop where
  /-- A handle that was released holds nothing, whatever came of it, -/
  released : ∀ {handle handle' : Handle} {result : Except BrokerError Unit} {h' : Host},
    handle.release.run h = (.ok (handle', result), h') → handle' = .null
  /-- and so does one that its reference was taken out of. -/
  taken : ∀ handle : Handle, handle.take = (handle.place, .null)
  /-- Where the owning thread has started a release comes to an end. -/
  answers : h.broker.stage ≠ .idle → ∀ r, ∃ result h', (of r).release.run h = (.ok (.null, result), h')
  /-- To release a handle that holds nothing is nothing. -/
  again : null.release.run h = (.ok (null, .ok ()), h)
  /-- Modules, functions and instances that were released refuse all calls, on any host. -/
  module : ∀ {m m' : Module} {result : Except BrokerError Unit} {h' : Host},
    m.release.run h = (.ok (m', result), h') → m'.name = m.name ∧ ∀ other, m'.Refuses other
  function : ∀ {f f' : Function} {result : Except BrokerError Unit} {h' : Host},
    f.release.run h = (.ok (f', result), h') → f'.name = f.name ∧ ∀ other, f'.Refuses other
  object : ∀ {i i' : Instance} {result : Except BrokerError Unit} {h' : Host},
    i.release.run h = (.ok (i', result), h') → i'.origin = i.origin ∧ ∀ other, i'.Refuses other
  /-- Outside a job, once no more jobs are accepted, a handle that is dropped leaves one warning and everything
  else as it is, but for a panic that the warning was to cause, -/
  dropped : h.insideJob = false → h.broker.stage = .terminated → ∀ r, ∃ result,
    (of r).drop.run h = (result, { h with owner := { h.owner with
      log := h.owner.log ++ [.warning leakWarning none]
      panicOnWarning := none } })
  /-- and a handle that is released says so. -/
  refused : h.insideJob = false → h.broker.stage = .terminated → ∀ r,
    (of r).release.run h = (.ok (.null, .error .terminated), h)

theorem lawful (h : Host) : Lawful h where
  released := null_of_release
  taken _ := rfl
  answers := exists_run_release
  again := rfl
  module := by
    intro m m' result h' run
    obtain ⟨⟨handle, result'⟩, h₁, released, run⟩ := of_run_bind run
    cases run
    exact ⟨rfl, Module.refuses (null_of_release released)⟩
  function := by
    intro f f' result h' run
    obtain ⟨⟨handle, result'⟩, h₁, released, run⟩ := of_run_bind run
    cases run
    exact ⟨rfl, Function.refuses (null_of_release released)⟩
  object := by
    intro i i' result h' run
    obtain ⟨⟨handle, result'⟩, h₁, released, run⟩ := of_run_bind run
    cases run
    exact ⟨rfl, Instance.refuses (null_of_release released)⟩
  dropped := by
    intro outside closed r
    rw [run_drop_closed outside closed, run_warn]
    exact ⟨_, rfl⟩
  refused := run_release_closed

end Handle

namespace Custody

variable {V : Type} {r : Ref} {s s' : Custody V}

/-! ## The accounts of an object -/

/-- Once no more jobs are accepted a thread that is about something can only be told so.  The interpreter stays as
it is, and there is one warning if the thread drops a handle. -/
structure Refused (s : Custody V) (i : Nat) (e : Errand) : Prop where
  enters : ∀ waits p, ¬ Process.Step s.process (.enter (.thread i) waits) p
  told : Process.Step s.process (.refuse (.thread i) e.waits .terminated) s.process
  answer : ∀ waits error p, Process.Step s.process (.refuse (.thread i) waits error) p →
    error = .terminated ∧ p = s.process
  interpreter : (s.refuse i).owner.interpreter = s.owner.interpreter
  log : (s.refuse i).owner.log = s.owner.log ++ if e = .drop then [.warning Handle.leakWarning none] else []

/-- The accounts of the references to an object. -/
structure Exact (r : Ref) (s : Custody V) : Prop where
  handles : ∀ handle ∈ s.handles, handle = .null ∨ handle = .of r
  /-- While jobs are accepted there is a reference for each handle, each that a job holds and each that is still
  to be given up, besides those that there are elsewhere. -/
  count : s.process.broker.stage = .running →
    s.heap.count r = s.elsewhere + (s.live r + s.refs) + (s.queued + s.underWay)
  /-- Those to be given up are what accepted jobs are about, when no thread is in the middle of anything. -/
  idle : s.process.broker.stage = .running → s.errands = [] →
    s.heap.count r = s.elsewhere + (s.live r + s.refs) + s.queued
  /-- Afterwards there are also those that nobody will give up. -/
  leaks : s.heap.count r = s.elsewhere + (s.live r + s.refs) + (s.queued + s.underWay) + s.leaked
  /-- How many there are elsewhere is changed by nothing but a job that is not about a handle. -/
  others : ∀ s', Step r s s' → s'.elsewhere ≠ s.elsewhere →
    ∃ t, s.process.turn = .running t ∧ s.jobs t.number = none
  /-- With a job that gives up a reference there is one less. -/
  gives : ∀ t outcome p, Process.Step s.process (.finish t outcome) p → (s.jobs t.number).any Errand.gives = true →
    (s.effect r (.finish t outcome)).heap.count r + 1 = s.heap.count r
  /-- What was accepted before a job has come to its end when the job runs, and only what was accepted after it is
  still to be done. -/
  order : ∀ t, s.process.turn = .running t →
    (∀ u ∈ s.process.accepted, u.number < t.number → ∃ outcome, (u, outcome) ∈ s.process.finished) ∧
    ∀ u ∈ s.process.turn.pending ++ s.process.line, t.number ≤ u.number
  closed : s.process.broker.stage = .terminated → ∀ i e, s.process.phase (.thread i) = .free →
    s.errand i = some e → Refused s i e
  /-- When the owning thread has ended nothing that anyone does touches the count. -/
  ended : s.process.turn = .left → ∀ s', Step r s s' → s'.heap = s.heap

/-- A thread that is told that its job is not accepted does nothing to the interpreter. -/
theorem interpreter_refuse (s : Custody V) (i : Nat) :
    (s.refuse i).owner.interpreter = s.owner.interpreter := by
  unfold Custody.refuse
  split
  · rfl
  · change ((Job.warn Handle.leakWarning).run s.owner).2.interpreter = _
    rw [Handle.run_warn]
  · rfl
  · rfl

theorem refused_of {i : Nat} {e : Errand} (closed : s.process.broker.stage = .terminated)
    (free : s.process.phase (.thread i) = .free) (about : s.errand i = some e) : Refused s i e := by
  have refused : s.process.broker.accept = .error .terminated :=
    Process.accept_of_not_running (by simp [closed])
  refine ⟨?_, .refuse free trivial refused, ?_, ?_, ?_⟩
  · intro waits p next
    cases next with
    | enter free may running => cases closed.symm.trans running
  · intro waits error p next
    cases next with
    | refuse free may told =>
      cases refused.symm.trans told
      exact ⟨rfl, rfl⟩
  · exact interpreter_refuse s i
  · rw [refuse_of about]
    cases e with
    | drop =>
      change ((Job.warn Handle.leakWarning).run s.owner).2.log = _
      rw [Handle.run_warn]
      rfl
    | release | clone => exact (List.append_nil _).symm

/-- Jobs are numbered as they are accepted. -/
theorem pairwise_number {p : Process V} (inOrder : Process.Queued p) :
    p.accepted.Pairwise fun t u => t.number < u.number := by
  have increasing : (p.accepted.map Ticket.number).Pairwise (· < ·) := by
    rw [inOrder.numbers]
    exact List.pairwise_lt_range
  exact List.pairwise_map.1 increasing

theorem ended_of_lt {p : Process V} {t : Ticket} (inOrder : Process.Queued p) (running : p.turn = .running t) :
    (∀ u ∈ p.accepted, u.number < t.number → ∃ outcome, (u, outcome) ∈ p.finished) ∧
      ∀ u ∈ p.turn.pending ++ p.line, t.number ≤ u.number := by
  have increasing := pairwise_number inOrder
  have hand := inOrder.hand
  have ran := inOrder.ran
  rw [running] at hand ran
  have accepted : p.accepted = p.completed ++ t :: p.line := by
    rw [inOrder.line, hand, List.append_assoc]
    rfl
  rw [accepted] at increasing
  have later : ∀ u ∈ p.line, t.number < u.number :=
    (List.pairwise_cons.1 (List.pairwise_append.1 increasing).2.1).1
  constructor
  · intro u mem less
    rw [accepted, List.mem_append, List.mem_cons] at mem
    rcases mem with before | rfl | after
    · have listed : u ∈ p.finished.map Prod.fst := by
        rw [ran, Turn.ran, List.append_nil]
        exact before
      obtain ⟨⟨u', outcome⟩, mem, rfl⟩ := List.mem_map.1 listed
      exact ⟨outcome, mem⟩
    · exact absurd less (Nat.lt_irrefl _)
    · exact absurd (later u after) (Nat.lt_asymm less)
  · intro u mem
    rw [running, Turn.pending, List.singleton_append, List.mem_cons] at mem
    rcases mem with rfl | after
    · exact Nat.le_refl _
    · exact Nat.le_of_lt (later u after)

theorem elsewhere_effect (s : Custody V) (e : Happening V) : (s.effect r e).elsewhere = s.elsewhere := by
  have refuse (i : Nat) : (s.refuse i).elsewhere = s.elsewhere := by
    unfold Custody.refuse
    split <;> rfl
  have carryOut (e : Errand) : (s.carryOut r e).elsewhere = s.elsewhere := by cases e <;> rfl
  unfold effect
  split
  · exact refuse _
  · exact refuse _
  · rfl
  · split
    · exact carryOut _
    · rfl
  · rfl

/-- Nothing that a thread does with a handle changes how many references there are elsewhere. -/
theorem Step.other (next : Step r s s') (changed : s'.elsewhere ≠ s.elsewhere) :
    ∃ t, s.process.turn = .running t ∧ s.jobs t.number = none := by
  cases next with
  | begin => exact absurd rfl changed
  | inside running other deed => exact ⟨_, running, other⟩
  | proceed next allowed => exact absurd (elsewhere_effect s _) changed

/-- When a job that gives up a reference comes to its end there is one less. -/
theorem Balanced.gives {t : Ticket} {outcome : Except Panic V} (balanced : Balanced r s)
    (running : s.process.turn = .running t) (gives : (s.jobs t.number).any Errand.gives = true) :
    (s.effect r (.finish t outcome)).heap.count r + 1 = s.heap.count r := by
  have balance := balanced.balance
  have some' : 0 < s.queued := by
    refine List.countP_pos_iff.2 ⟨t, ?_, gives⟩
    rw [running]
    exact List.mem_cons_self
  obtain ⟨count, -⟩ := count_releasedOnce (s := s) (r := r)
  have less : (s.effect r (.finish t outcome)).heap = (s.releasedOnce r).interpreter.heap := by
    cases about : s.jobs t.number with
    | none =>
      rw [about] at gives
      cases gives
    | some e =>
      rw [about] at gives
      simp only [effect, about]
      cases e with
      | drop | release => rfl
      | clone => cases gives
  rw [less, count]
  omega

/-- What is done after the owning thread has ended does nothing to the interpreter. -/
theorem Step.heap_of_left (next : Step r s s') (left : s.process.turn = .left) : s'.heap = s.heap := by
  cases next with
  | begin => rfl
  | inside running => cases left.symm.trans running
  | proceed next allowed =>
    cases next with
    | @refuse c | @lose c =>
      cases c with
      | job => rfl
      | thread i => exact congrArg Interpreter.heap (interpreter_refuse s i)
    | accept counted heard => exact absurd left heard
    | finish running => cases left.symm.trans running
    | enter | count | reentrant | take | reply | complete | answer | forsake | close | closeAgain | disconnect
    | leave | join => rfl

theorem exact_of_run (run : Run r s) : Exact r s := by
  obtain ⟨past, process⟩ := exists_run run
  have inOrder := Process.queued_of_run process
  have balanced := balanced_of_run run
  have balance := balanced.balance
  have nothing : s.process.broker.stage = .running → s.leaked = 0 := by
    intro running
    by_contra leaked
    cases running.symm.trans (balanced.leaks leaked)
  refine ⟨balanced.handles, ?_, ?_, ?_, fun s' next changed => next.other changed, ?_, ?_, ?_,
    fun left s' next => next.heap_of_left left⟩
  · intro running
    have := nothing running
    omega
  · intro running idle
    have := nothing running
    have nobody : s.underWay = 0 := by rw [underWay, idle, List.countP_nil]
    omega
  · omega
  · intro t outcome p next gives
    cases next with
    | finish running free outcome => exact balanced.gives running gives
  · intro t running
    exact ended_of_lt inOrder running
  · intro closed i e free about
    exact refused_of closed free about

/-- After any steps of threads and of jobs the accounts of an object are exact, what a host does with its handles
from there are steps, and handles that were released hold nothing on any host. -/
theorem accounts_balance [Inhabited V] (run : Run r s) :
    Exact r s ∧ (∀ h, At r s h → Carries r s h) ∧ ∀ h, Handle.Lawful h :=
  ⟨exact_of_run run, fun _ rests => carries run rests, Handle.lawful⟩

/-! ## Two handles -/

theorem Steps.exists_cons {P : Custody V → Prop} (next : Step r s s') (rest : ∃ s'', Steps r s' s'' ∧ P s'') :
    ∃ s'', Steps r s s'' ∧ P s'' := by
  obtain ⟨s'', steps, holds⟩ := rest
  exact ⟨s'', .head next steps, holds⟩

/-- A job makes two handles of an object, and a thread drops one of them. -/
theorem steps_twoHandles : ∃ s : Custody Nat, Steps Heap.noneRef { owner := {}, elsewhere := 1 } s ∧
    s.live Heap.noneRef = 1 ∧ s.queued = 1 ∧ s.elsewhere = 1 ∧ s.heap.count Heap.noneRef = 3 ∧
      At Heap.noneRef s { owner := s.owner, broker := {
        stage := .running
        queue := [.of (Job.release Heap.noneRef)]
        submitted := 2
        completed := 1 } } := by
  -- a thread hands over the job and the owning thread takes it
  refine Steps.exists_cons (.quiet (@Process.Step.enter _ _ (.thread 0) false rfl trivial rfl)
    nofun rfl) ?_
  refine Steps.exists_cons (.quiet (@Process.Step.count _ _ (.thread 0) false rfl) trivial rfl) ?_
  refine Steps.exists_cons (.proceed (@Process.Step.accept _ _ (.thread 0) false rfl nofun) trivial) ?_
  refine Steps.exists_cons (.quiet (.take rfl rfl) trivial rfl) ?_
  -- the job takes two references to the object, of which it makes handles
  refine Steps.exists_cons (.inside rfl rfl (.receive rfl)) ?_
  refine Steps.exists_cons (.inside rfl rfl (.own (.inl Nat.one_ne_zero))) ?_
  refine Steps.exists_cons (.inside rfl rfl (.own (.inl (Nat.succ_ne_zero 1)))) ?_
  refine Steps.exists_cons (.inside rfl rfl (.unbind rfl)) ?_
  refine Steps.exists_cons (.inside rfl rfl (.unbind rfl)) ?_
  refine Steps.exists_cons (.inside rfl rfl (.giveAway rfl)) ?_
  refine Steps.exists_cons (.proceed (@Process.Step.finish _ _ ⟨0, none⟩ rfl rfl (.ok 0)) rfl) ?_
  refine Steps.exists_cons (.quiet (@Process.Step.complete _ _ ⟨0, none⟩ (.inr ⟨.ok 0, rfl, rfl⟩)) trivial rfl) ?_
  -- another thread drops the first handle
  refine Steps.exists_cons (@Step.begin _ _ _ 1 0 .drop rfl rfl rfl) ?_
  refine Steps.exists_cons (.quiet (@Process.Step.enter _ _ (.thread 1) false rfl trivial rfl) ?_ rfl) ?_
  · rintro _ ⟨⟩
    rfl
  refine Steps.exists_cons (.quiet (@Process.Step.count _ _ (.thread 1) false rfl) trivial rfl) ?_
  refine Steps.exists_cons (.proceed (@Process.Step.accept _ _ (.thread 1) false rfl nofun) trivial) ?_
  refine ⟨_, .refl, rfl, rfl, rfl, rfl, ⟨⟨rfl, rfl, ?_, rfl⟩, ?_, rfl, rfl, rfl, rfl⟩, rfl, rfl, ?_, ?_⟩
  · exact List.forall_mem_singleton.2 rfl
  · funext c
    cases c with
    | job => rfl
    | thread i =>
      match i with
      | 0 => rfl
      | 1 => rfl
      | i + 2 => rfl
  · exact List.forall_mem_singleton.2 rfl
  · exact List.forall_mem_singleton.2 rfl

/-- The accounts of an object with two handles of which one was dropped. -/
theorem accounts_twoHandles : ∃ s : Custody Nat, Run Heap.noneRef s ∧ s.live Heap.noneRef = 1 ∧ s.queued = 1 ∧
    s.elsewhere = 1 ∧ s.heap.count Heap.noneRef = 3 ∧
    (Exact Heap.noneRef s ∧ (∀ h, At Heap.noneRef s h → Carries Heap.noneRef s h) ∧ ∀ h, Handle.Lawful h) ∧
    ∃ h, At Heap.noneRef s h ∧ Carries Heap.noneRef s h := by
  obtain ⟨s, steps, live, queued, elsewhere, count, rests⟩ := steps_twoHandles
  have run : Run Heap.noneRef s := (Run.start (o := {}) (by decide)).steps steps
  have all := accounts_balance run
  exact ⟨s, run, live, queued, elsewhere, count, all, _, rests, all.2.1 _ rests⟩

end Custody

end InterpreterHost
