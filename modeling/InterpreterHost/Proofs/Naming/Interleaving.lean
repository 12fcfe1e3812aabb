import Mathlib.Logic.Function.Basic
import InterpreterHost.Host
import InterpreterHost.Proofs.Text.Order

/-!
# Names among threads

A store binds names to entries.  Any number of threads register entries, remove them, look them up and
list their names; each access to the store is one step.  Who wants to register what has to be made
ready first looks whether the name is free, makes it ready without holding the store and then
registers it; who wants something of an entry looks it up and then acts on what it has found.  Others
may come in between, so that neither may rely on the name.

## Main definitions

* `NameStore`, `NameStore.Lawful` — the operations of a store, and what each of them does
* `NameStore.registerPrepared`, `NameStore.use` — the steps of one thread in a row
* `NameStore.State`, `NameStore.Event`, `NameStore.Step`, `NameStore.Run` — the steps of all threads
* `NameStore.Verdict` — what a step answers and what it does to the bindings
* `NameStore.Kept` — what holds of the bindings after any steps

## Main statements

* `NameStore.Step.verdict` — each step does as its verdict says
* `NameStore.kept_of_run` — names are not bound anew and stay bound until they are removed

## Design notes

What is made ready and what is wanted of an entry run on the host, of which nothing is assumed: other
threads use it too.  So a step of that kind may end in whatever its code gives on some host.
-/

namespace InterpreterHost

/-- A store `σ` that binds names to entries `ε`.  What is registered is an `α`; what can be wanted of an
entry is a `δ`, and the answer is a `ρ`; errors are of `χ`.  An entry may change, but not in its face
`β`. -/
structure NameStore (σ ε α δ ρ χ β : Type) where
  /-- The entry that a name is bound to. -/
  binding? : σ → String → Option ε
  face? : σ → ε → Option β
  WellFormed : σ → Prop
  /-- The name under which something is registered. -/
  nameOf : α → String
  contains : σ → String → Bool
  /-- Make something ready. -/
  prepare : α → Action (Except χ α)
  register : σ → α → Except χ σ
  remove : σ → String → Except χ (ε × σ)
  lookUp : σ → String → Except χ ε
  names : σ → List String
  /-- Do what is wanted of the entry that was found under a name. -/
  act : σ → String → ε → δ → Action (σ × ρ)
  /-- The answer to who has found no entry. -/
  miss : χ → δ → ρ
  /-- The error that a name is bound already. -/
  taken : String → χ
  /-- The error that a name is not bound. -/
  missing : String → χ

namespace NameStore

section

variable {σ ε α δ ρ χ β : Type} (N : NameStore σ ε α δ ρ χ β)

/-- The second store is well formed, its bindings are the given ones, and the entries have kept their
faces. -/
structure Changed (s s' : σ) (bindings : String → Option ε) : Prop where
  wellFormed : N.WellFormed s'
  binding? : N.binding? s' = bindings
  face? : ∀ e b, N.face? s e = some b → N.face? s' e = some b

/-- What each operation does by itself. -/
structure Lawful : Prop where
  contains_eq : ∀ s name, N.contains s name = (N.binding? s name).isSome
  register_of_free : ∀ {s a}, N.WellFormed s → N.binding? s (N.nameOf a) = none →
    ∃ s' e, N.register s a = .ok s' ∧ N.Changed s s' (Function.update (N.binding? s) (N.nameOf a) (some e))
  register_of_bound : ∀ {s a}, N.binding? s (N.nameOf a) ≠ none → N.register s a = .error (N.taken (N.nameOf a))
  remove_of_bound : ∀ {s name e}, N.WellFormed s → N.binding? s name = some e →
    ∃ s', N.remove s name = .ok (e, s') ∧ N.Changed s s' (Function.update (N.binding? s) name none)
  remove_of_free : ∀ {s name}, N.binding? s name = none → N.remove s name = .error (N.missing name)
  name_prepared : ∀ {a a' h h'}, (N.prepare a).run h = (.ok (.ok a'), h') → N.nameOf a' = N.nameOf a
  lookUp_of_bound : ∀ {s name e}, N.binding? s name = some e → N.lookUp s name = .ok e
  lookUp_of_free : ∀ {s name}, N.binding? s name = none → N.lookUp s name = .error (N.missing name)
  act : ∀ {s name e d h s' answer h'}, N.WellFormed s → (N.act s name e d).run h = (.ok (s', answer), h') →
    N.Changed s s' (N.binding? s)
  names_ascending : ∀ {s}, N.WellFormed s → (N.names s).Pairwise (· < ·)
  mem_names : ∀ {s name}, N.WellFormed s → (name ∈ N.names s ↔ N.binding? s name ≠ none)
  hasFace : ∀ {s name e}, N.WellFormed s → N.binding? s name = some e → ∃ b, N.face? s e = some b

/-! ## One thread -/

/-- Look whether the name is free, make ready what is to be registered, and register it. -/
def registerPrepared (s : σ) (a : α) : Action (Except χ σ) := do
  if N.contains s (N.nameOf a) then return .error (N.taken (N.nameOf a))
  match ← N.prepare a with
  | .error x => return .error x
  | .ok a => return N.register s a

/-- Look up an entry and do what is wanted of it. -/
def use (s : σ) (name : String) (d : δ) : Action (σ × ρ) := do
  match N.lookUp s name with
  | .ok e => N.act s name e d
  | .error x => return (s, N.miss x d)

end

/-! ## All threads -/

/-- How far a thread has come. -/
inductive Phase (ε α δ : Type) where
  | free
  /-- It has found the name free. -/
  | checked (a : α)
  /-- It has made ready what it wants to register. -/
  | prepared (a : α)
  /-- It has found the entry of which it wants something. -/
  | found (name : String) (e : ε) (d : δ)

/-- A store and the threads that use it. -/
structure State (σ ε α δ : Type) where
  store : σ
  phase : Nat → Phase ε α δ := fun _ => .free

/-- What a thread does in one step, and what it is told. -/
inductive Event (ε α δ ρ χ : Type) where
  /-- It has registered something, which is an entry now. -/
  | bound (i : Nat) (a : α) (e : ε)
  /-- The store refuses what it wants to register. -/
  | refused (i : Nat) (a : α) (error : χ)
  /-- What it wants to register cannot be made ready. -/
  | unprepared (i : Nat) (a : α) (error : χ)
  | unbound (i : Nat) (name : String) (e : ε)
  | notUnbound (i : Nat) (name : String) (error : χ)
  | got (i : Nat) (name : String) (result : Except χ ε)
  | listed (i : Nat) (names : List String)
  /-- It has found an entry of which it wants something. -/
  | found (i : Nat) (name : String) (e : ε) (d : δ)
  /-- It has found none. -/
  | missed (i : Nat) (name : String) (d : δ) (answer : ρ)
  | acted (i : Nat) (name : String) (e : ε) (d : δ) (answer : ρ)
  /-- It has found a name free. -/
  | checked (i : Nat) (a : α)
  /-- It has made something ready. -/
  | prepared (i : Nat) (a a' : α)
  /-- Code that it ran on the host has panicked. -/
  | panicked (i : Nat)

namespace Event

variable {ε α δ ρ χ : Type}

/-- The thread whose step it is. -/
def thread : Event ε α δ ρ χ → Nat
  | bound i .. | refused i .. | unprepared i .. | unbound i .. | notUnbound i .. | got i .. | listed i ..
  | found i .. | missed i .. | acted i .. | checked i _ | prepared i .. | panicked i => i

/-- A name is removed. -/
def Removes (name : String) (ev : Event ε α δ ρ χ) : Prop := ∃ i e, ev = unbound i name e

end Event

section

variable {σ ε α δ ρ χ β : Type} (N : NameStore σ ε α δ ρ χ β)

/-- The name is registered. -/
def Registers (name : String) (ev : Event ε α δ ρ χ) : Prop := ∃ i a e, ev = .bound i a e ∧ N.nameOf a = name

/-- The name is refused as bound already. -/
def Refuses (name : String) (ev : Event ε α δ ρ χ) : Prop :=
  ∃ i a, ev = .refused i a (N.taken name) ∧ N.nameOf a = name

/-- One step of a thread. -/
inductive Step (s : State σ ε α δ) : Event ε α δ ρ χ → State σ ε α δ → Prop
  /-- What is registered may have been made ready before or not. -/
  | register {i a e store} (ready : s.phase i = .free ∨ s.phase i = .prepared a)
      (ran : N.register s.store a = .ok store) (entry : N.binding? store (N.nameOf a) = some e) :
      Step s (.bound i a e) ⟨store, Function.update s.phase i .free⟩
  | refuse {i a x} (ready : s.phase i = .free ∨ s.phase i = .prepared a)
      (ran : N.register s.store a = .error x) :
      Step s (.refused i a x) ⟨s.store, Function.update s.phase i .free⟩
  | check {i a} (free : s.phase i = .free) (absent : N.contains s.store (N.nameOf a) = false) :
      Step s (.checked i a) ⟨s.store, Function.update s.phase i (.checked a)⟩
  | refuseCheck {i a} (free : s.phase i = .free) (present : N.contains s.store (N.nameOf a) = true) :
      Step s (.refused i a (N.taken (N.nameOf a))) s
  | prepare {i a a' h h'} (checked : s.phase i = .checked a) (ran : (N.prepare a).run h = (.ok (.ok a'), h')) :
      Step s (.prepared i a a') ⟨s.store, Function.update s.phase i (.prepared a')⟩
  | failPrepare {i a x h h'} (checked : s.phase i = .checked a)
      (ran : (N.prepare a).run h = (.ok (.error x), h')) :
      Step s (.unprepared i a x) ⟨s.store, Function.update s.phase i .free⟩
  | panicPrepare {i a p h h'} (checked : s.phase i = .checked a) (ran : (N.prepare a).run h = (.error p, h')) :
      Step s (.panicked i) ⟨s.store, Function.update s.phase i .free⟩
  | remove {i name e store} (free : s.phase i = .free) (ran : N.remove s.store name = .ok (e, store)) :
      Step s (.unbound i name e) ⟨store, s.phase⟩
  | failRemove {i name x} (free : s.phase i = .free) (ran : N.remove s.store name = .error x) :
      Step s (.notUnbound i name x) s
  | get {i name} (free : s.phase i = .free) : Step s (.got i name (N.lookUp s.store name)) s
  | list {i} (free : s.phase i = .free) : Step s (.listed i (N.names s.store)) s
  | find {i name e d} (free : s.phase i = .free) (ran : N.lookUp s.store name = .ok e) :
      Step s (.found i name e d) ⟨s.store, Function.update s.phase i (.found name e d)⟩
  | miss {i name x d} (free : s.phase i = .free) (ran : N.lookUp s.store name = .error x) :
      Step s (.missed i name d (N.miss x d)) s
  | act {i name e d h store answer h'} (found : s.phase i = .found name e d)
      (ran : (N.act s.store name e d).run h = (.ok (store, answer), h')) :
      Step s (.acted i name e d answer) ⟨store, Function.update s.phase i .free⟩
  | panicAct {i name e d h p h'} (found : s.phase i = .found name e d)
      (ran : (N.act s.store name e d).run h = (.error p, h')) :
      Step s (.panicked i) ⟨s.store, Function.update s.phase i .free⟩

/-- Any steps of all threads, from one state to another. -/
inductive Run (s : State σ ε α δ) : List (Event ε α δ ρ χ) → State σ ε α δ → Prop
  | nil : Run s [] s
  | snoc {events s' ev s''} (before : Run s events s') (next : N.Step s' ev s'') : Run s (events ++ [ev]) s''

/-- The store is well formed, and nobody has begun anything. -/
structure Start (s : State σ ε α δ) : Prop where
  wellFormed : N.WellFormed s.store
  free : ∀ i, s.phase i = .free

/-! ## Steps -/

/-- What a step answers and what it does to the bindings.  A registration binds its name if that is free
and otherwise is refused and changes nothing; nor does one that cannot be made ready; a removal takes
its name if that is bound; and nothing else changes the bindings. -/
def Verdict (s : σ) : Event ε α δ ρ χ → σ → Prop
  | .bound _ a e, s' => N.binding? s (N.nameOf a) = none ∧
      N.Changed s s' (Function.update (N.binding? s) (N.nameOf a) (some e))
  | .refused _ a x, s' => N.binding? s (N.nameOf a) ≠ none ∧ x = N.taken (N.nameOf a) ∧ s' = s
  | .unprepared .., s' => s' = s
  | .unbound _ name e, s' => N.binding? s name = some e ∧ N.Changed s s' (Function.update (N.binding? s) name none)
  | .notUnbound _ name x, s' => N.binding? s name = none ∧ x = N.missing name ∧ s' = s
  | .got _ name result, s' => s' = s ∧
      match N.binding? s name with
      | some e => result = .ok e
      | none => result = .error (N.missing name)
  | .listed _ names, s' => s' = s ∧
      names.Pairwise (fun name name' => Utf8.encode name.toList < Utf8.encode name'.toList) ∧
      ∀ name, name ∈ names ↔ N.binding? s name ≠ none
  | .found _ name e _, s' => N.binding? s name = some e ∧ s' = s
  | .missed _ name d answer, s' => N.binding? s name = none ∧ answer = N.miss (N.missing name) d ∧ s' = s
  | .acted .., s' => N.Changed s s' (N.binding? s)
  | .checked _ a, s' => N.binding? s (N.nameOf a) = none ∧ s' = s
  | .prepared _ a a', s' => N.nameOf a' = N.nameOf a ∧ s' = s
  | .panicked _, s' => s' = s

/-- A thread has found an entry under a name, which was bound to it then, and has done nothing since. -/
def Found (start : State σ ε α δ) (past : List (Event ε α δ ρ χ)) (s : State σ ε α δ) (i : Nat) (name : String)
    (e : ε) (d : δ) : Prop :=
  ∃ x y m b, past = x ++ .found i name e d :: y ∧ (∀ ev ∈ y, ev.thread ≠ i) ∧ N.Run start x m ∧
    N.binding? m.store name = some e ∧ N.face? m.store e = some b ∧ N.face? s.store e = some b

/-- What holds after any steps `past` from the start to `mid` and any further steps `events` to `s`. -/
structure Kept (start : State σ ε α δ) (past : List (Event ε α δ ρ χ)) (mid : State σ ε α δ)
    (events : List (Event ε α δ ρ χ)) (s : State σ ε α δ) : Prop where
  /-- Whatever the next step is, it does as its verdict says. -/
  verdict : ∀ ev s', N.Step s ev s' → N.Verdict s.store ev s'.store
  /-- What is registered under a free name is bound to it. -/
  registers : ∀ a, N.binding? s.store (N.nameOf a) = none → ∃ store, N.register s.store a = .ok store
  /-- A name that is not removed stays bound to the same entry. -/
  stays : ∀ name e, N.binding? mid.store name = some e → (∀ ev ∈ events, ¬ ev.Removes name) →
    N.binding? s.store name = some e ∧ ∃ b, N.face? mid.store e = some b ∧ N.face? s.store e = some b
  /-- Of two registrations of a name that is not removed in between, the second is refused. -/
  second : ∀ name x r y r' z, events = x ++ r :: y ++ r' :: z → N.Registers name r ∨ N.Refuses name r →
    N.Registers name r' ∨ N.Refuses name r' → (∀ ev ∈ y, ¬ ev.Removes name) → N.Refuses name r'
  /-- Who acts on an entry has found it under the name and done nothing since, and it is the entry that
  the name was bound to then. -/
  acted : ∀ i name e d answer s', N.Step s (.acted i name e d answer) s' →
    N.Found start (past ++ events) s i name e d ∧ ∃ h h', (N.act s.store name e d).run h = (.ok (s'.store, answer), h')

variable {N} {s s' s'' start mid : State σ ε α δ} {ev : Event ε α δ ρ χ} {past events : List (Event ε α δ ρ χ)}

/-- What a thread is told when it looks a name up. -/
theorem Lawful.lookUp_eq (lawful : N.Lawful) (store : σ) (name : String) :
    match N.binding? store name with
    | some e => N.lookUp store name = .ok e
    | none => N.lookUp store name = .error (N.missing name) := by
  cases bound : N.binding? store name with
  | some e => exact lawful.lookUp_of_bound bound
  | none => exact lawful.lookUp_of_free bound

theorem Lawful.of_lookUp_ok (lawful : N.Lawful) {store : σ} {name : String} {e : ε}
    (ran : N.lookUp store name = .ok e) : N.binding? store name = some e := by
  cases bound : N.binding? store name with
  | none =>
    rw [lawful.lookUp_of_free bound] at ran
    cases ran
  | some e' =>
    rw [lawful.lookUp_of_bound bound] at ran
    cases ran
    rfl

theorem Lawful.of_lookUp_error (lawful : N.Lawful) {store : σ} {name : String} {x : χ}
    (ran : N.lookUp store name = .error x) : N.binding? store name = none ∧ x = N.missing name := by
  cases bound : N.binding? store name with
  | none =>
    rw [lawful.lookUp_of_free bound] at ran
    cases ran
    exact ⟨rfl, rfl⟩
  | some e =>
    rw [lawful.lookUp_of_bound bound] at ran
    cases ran

theorem Lawful.of_register_ok (lawful : N.Lawful) {store store' : σ} {a : α} (wellFormed : N.WellFormed store)
    (ran : N.register store a = .ok store') : N.binding? store (N.nameOf a) = none ∧
      ∃ e, N.Changed store store' (Function.update (N.binding? store) (N.nameOf a) (some e)) := by
  have free : N.binding? store (N.nameOf a) = none := by
    by_contra bound
    rw [lawful.register_of_bound bound] at ran
    cases ran
  obtain ⟨store'', e, ran', changed⟩ := lawful.register_of_free wellFormed free
  rw [ran] at ran'
  cases ran'
  exact ⟨free, e, changed⟩

theorem Lawful.of_register_error (lawful : N.Lawful) {store : σ} {a : α} {x : χ} (wellFormed : N.WellFormed store)
    (ran : N.register store a = .error x) : N.binding? store (N.nameOf a) ≠ none ∧ x = N.taken (N.nameOf a) := by
  have bound : N.binding? store (N.nameOf a) ≠ none := by
    intro free
    obtain ⟨store', e, ran', -⟩ := lawful.register_of_free wellFormed free
    rw [ran] at ran'
    cases ran'
  refine ⟨bound, ?_⟩
  rw [lawful.register_of_bound bound] at ran
  cases ran
  rfl

theorem Lawful.of_remove_ok (lawful : N.Lawful) {store store' : σ} {name : String} {e : ε}
    (wellFormed : N.WellFormed store) (ran : N.remove store name = .ok (e, store')) :
    N.binding? store name = some e ∧ N.Changed store store' (Function.update (N.binding? store) name none) := by
  cases bound : N.binding? store name with
  | none =>
    rw [lawful.remove_of_free bound] at ran
    cases ran
  | some e' =>
    obtain ⟨store'', ran', changed⟩ := lawful.remove_of_bound wellFormed bound
    rw [ran] at ran'
    cases ran'
    exact ⟨rfl, changed⟩

theorem Lawful.of_remove_error (lawful : N.Lawful) {store : σ} {name : String} {x : χ}
    (wellFormed : N.WellFormed store) (ran : N.remove store name = .error x) :
    N.binding? store name = none ∧ x = N.missing name := by
  cases bound : N.binding? store name with
  | none =>
    rw [lawful.remove_of_free bound] at ran
    cases ran
    exact ⟨rfl, rfl⟩
  | some e =>
    obtain ⟨store', ran', -⟩ := lawful.remove_of_bound wellFormed bound
    rw [ran] at ran'
    cases ran'

/-- Each step does as its verdict says. -/
theorem Step.verdict (lawful : N.Lawful) (wellFormed : N.WellFormed s.store) (next : N.Step s ev s') :
    N.Verdict s.store ev s'.store := by
  cases next with
  | @register i a e store ready ran entry =>
    obtain ⟨free, e', changed⟩ := lawful.of_register_ok wellFormed ran
    rw [changed.binding?, Function.update_self] at entry
    cases entry
    exact ⟨free, changed⟩
  | refuse ready ran =>
    obtain ⟨bound, rfl⟩ := lawful.of_register_error wellFormed ran
    exact ⟨bound, rfl, rfl⟩
  | @check i a free absent =>
    rw [lawful.contains_eq, Option.isSome_eq_false_iff, Option.isNone_iff_eq_none] at absent
    exact ⟨absent, rfl⟩
  | @refuseCheck i a free present =>
    rw [lawful.contains_eq, Option.isSome_iff_ne_none] at present
    exact ⟨present, rfl, rfl⟩
  | prepare checked ran => exact ⟨lawful.name_prepared ran, rfl⟩
  | failPrepare checked ran => rfl
  | panicPrepare checked ran => rfl
  | remove free ran => exact lawful.of_remove_ok wellFormed ran
  | failRemove free ran =>
    obtain ⟨unbound, rfl⟩ := lawful.of_remove_error wellFormed ran
    exact ⟨unbound, rfl, rfl⟩
  | @get i name free =>
    refine ⟨rfl, ?_⟩
    have told := lawful.lookUp_eq s.store name
    exact told
  | @list i free =>
    refine ⟨rfl, ?_, fun name => lawful.mem_names wellFormed⟩
    exact (lawful.names_ascending wellFormed).imp fun before => Utf8.encode_lt (String.lt_iff.1 before)
  | find free ran => exact ⟨lawful.of_lookUp_ok ran, rfl⟩
  | miss free ran =>
    obtain ⟨unbound, rfl⟩ := lawful.of_lookUp_error ran
    exact ⟨unbound, rfl, rfl⟩
  | act found ran => exact lawful.act wellFormed ran
  | panicAct found ran => rfl

/-! ## What a verdict keeps -/

namespace Verdict

variable {store store' : σ}

/-- A step leaves the bindings, or it binds a name that is free, or it takes a name away. -/
theorem effect (wellFormed : N.WellFormed store) (verdict : N.Verdict store ev store') :
    N.Changed store store' (N.binding? store) ∨
    (∃ i a e, ev = .bound i a e ∧ N.binding? store (N.nameOf a) = none ∧
      N.Changed store store' (Function.update (N.binding? store) (N.nameOf a) (some e))) ∨
    ∃ i name e, ev = .unbound i name e ∧
      N.Changed store store' (Function.update (N.binding? store) name none) := by
  have same (equal : store' = store) : N.Changed store store' (N.binding? store) := by
    rw [equal]
    exact ⟨wellFormed, rfl, fun _ _ => id⟩
  cases ev with
  | bound i a e => exact .inr (.inl ⟨i, a, e, rfl, verdict⟩)
  | unbound i name e => exact .inr (.inr ⟨i, name, e, rfl, verdict.2⟩)
  | acted => exact .inl verdict
  | refused | notUnbound | missed => exact .inl (same verdict.2.2)
  | found | checked | prepared => exact .inl (same verdict.2)
  | got | listed => exact .inl (same verdict.1)
  | unprepared | panicked => exact .inl (same verdict)

/-- A step leaves a well-formed store in which the entries have kept their faces. -/
theorem changed (wellFormed : N.WellFormed store) (verdict : N.Verdict store ev store') :
    N.Changed store store' (N.binding? store') := by
  rcases verdict.effect wellFormed with left | ⟨_, _, _, -, -, changed⟩ | ⟨_, _, _, -, changed⟩
  · exact ⟨left.wellFormed, rfl, left.face?⟩
  · exact ⟨changed.wellFormed, rfl, changed.face?⟩
  · exact ⟨changed.wellFormed, rfl, changed.face?⟩

/-- A name that is not removed stays bound. -/
theorem stays (wellFormed : N.WellFormed store) (verdict : N.Verdict store ev store') {name : String} {e : ε}
    (bound : N.binding? store name = some e) (kept : ¬ ev.Removes name) : N.binding? store' name = some e := by
  rcases verdict.effect wellFormed with left | ⟨i, a, e', -, free, changed⟩ | ⟨i, name', e', rfl, changed⟩
  · rwa [left.binding?]
  · have other : name ≠ N.nameOf a := by
      rintro rfl
      cases bound.symm.trans free
    rwa [changed.binding?, Function.update_of_ne other]
  · have other : name ≠ name' := by
      rintro rfl
      exact kept ⟨i, e', rfl⟩
    rwa [changed.binding?, Function.update_of_ne other]

/-- After a registration, whatever became of it, the name is bound. -/
theorem bound_of_registration (verdict : N.Verdict store ev store') {name : String}
    (registration : N.Registers name ev ∨ N.Refuses name ev) : ∃ e, N.binding? store' name = some e := by
  rcases registration with ⟨i, a, e, rfl, rfl⟩ | ⟨i, a, rfl, rfl⟩
  · exact ⟨e, by rw [verdict.2.binding?, Function.update_self]⟩
  · obtain ⟨bound, -, equal⟩ := verdict
    rw [equal]
    exact Option.ne_none_iff_exists'.1 bound

end Verdict

/-! ## Runs -/

namespace Run

theorem append {events' : List (Event ε α δ ρ χ)} (first : N.Run s events s') (second : N.Run s' events' s'') :
    N.Run s (events ++ events') s'' := by
  induction second with
  | nil => rwa [List.append_nil]
  | snoc before next ih =>
    rw [← List.append_assoc]
    exact ih.snoc next

/-- A run comes by a state after each of its steps. -/
theorem split (run : N.Run s events s') {x y : List (Event ε α δ ρ χ)} (parts : events = x ++ y) :
    ∃ m, N.Run s x m ∧ N.Run m y s' := by
  induction run generalizing y with
  | nil =>
    obtain ⟨rfl, rfl⟩ := List.append_eq_nil_iff.1 parts.symm
    exact ⟨s, .nil, .nil⟩
  | @snoc events t ev s'' before next ih =>
    rcases List.eq_nil_or_concat y with rfl | ⟨y', last, rfl⟩
    · rw [List.append_nil] at parts
      subst parts
      exact ⟨_, before.snoc next, .nil⟩
    · rw [List.concat_eq_append, ← List.append_assoc] at parts
      obtain ⟨rfl, same⟩ := List.append_inj' parts rfl
      cases same
      rw [List.concat_eq_append]
      obtain ⟨m, first, second⟩ := ih rfl
      exact ⟨m, first, second.snoc next⟩

theorem split_cons {x y : List (Event ε α δ ρ χ)} (run : N.Run s events s') (parts : events = x ++ ev :: y) :
    ∃ m m', N.Run s x m ∧ N.Step m ev m' ∧ N.Run m' y s' := by
  obtain ⟨m', first, second⟩ := run.split (x := x ++ [ev]) (y := y) (by rw [parts, List.append_cons])
  generalize joined : x ++ [ev] = events' at first
  cases first with
  | nil => exact absurd joined (List.append_ne_nil_of_right_ne_nil _ (List.cons_ne_nil _ _))
  | @snoc before _ _ _ ran next =>
    obtain ⟨rfl, same⟩ := List.append_inj' joined rfl
    cases same
    exact ⟨_, m', ran, next, second⟩

theorem changed (lawful : N.Lawful) (wellFormed : N.WellFormed s.store) (run : N.Run s events s') :
    N.Changed s.store s'.store (N.binding? s'.store) := by
  induction run with
  | nil => exact ⟨wellFormed, rfl, fun _ _ => id⟩
  | snoc before next ih =>
    have changed := (next.verdict lawful ih.wellFormed).changed ih.wellFormed
    exact ⟨changed.wellFormed, rfl, fun e b face => changed.face? e b (ih.face? e b face)⟩

/-- A name that is not removed stays bound to the same entry. -/
theorem stays (lawful : N.Lawful) (wellFormed : N.WellFormed s.store) (run : N.Run s events s') {name : String}
    {e : ε} (bound : N.binding? s.store name = some e) (kept : ∀ ev ∈ events, ¬ ev.Removes name) :
    N.binding? s'.store name = some e := by
  induction run with
  | nil => exact bound
  | snoc before next ih =>
    have bound' := ih fun ev member => kept ev (List.mem_append_left _ member)
    have wellFormed' := (before.changed lawful wellFormed).wellFormed
    have verdict := next.verdict lawful wellFormed'
    exact verdict.stays wellFormed' bound' (kept _ (List.mem_append_right _ (List.mem_singleton_self _)))

/-- Of two registrations of a name that is not removed in between, the second is refused. -/
theorem second (lawful : N.Lawful) (wellFormed : N.WellFormed s.store) (run : N.Run s events s') {name : String}
    {x y z : List (Event ε α δ ρ χ)} {r r' : Event ε α δ ρ χ} (parts : events = x ++ r :: y ++ r' :: z)
    (first : N.Registers name r ∨ N.Refuses name r) (again : N.Registers name r' ∨ N.Refuses name r')
    (kept : ∀ ev ∈ y, ¬ ev.Removes name) : N.Refuses name r' := by
  obtain ⟨m₂, m₃, before, next', -⟩ := run.split_cons parts
  obtain ⟨m, m₁, start, next, between⟩ := before.split_cons rfl
  have wellFormed₁ : N.WellFormed m.store := (start.changed lawful wellFormed).wellFormed
  have verdict := next.verdict lawful wellFormed₁
  have wellFormed₂ : N.WellFormed m₁.store := (verdict.changed wellFormed₁).wellFormed
  obtain ⟨e, bound⟩ := verdict.bound_of_registration first
  have bound' : N.binding? m₂.store name = some e := between.stays lawful wellFormed₂ bound kept
  rcases again with ⟨i, a, e', rfl, rfl⟩ | refused
  · have verdict' := next'.verdict lawful (between.changed lawful wellFormed₂).wellFormed
    cases bound'.symm.trans verdict'.1
  · exact refused

end Run

/-! ## Entries that were found -/

/-- A step moves no thread but its own. -/
theorem Step.other (next : N.Step s ev s') {i : Nat} (other : i ≠ ev.thread) : s'.phase i = s.phase i := by
  cases next with
  | remove | failRemove | get | list | miss | refuseCheck => rfl
  | register | refuse | check | prepare | failPrepare | panicPrepare | find | act | panicAct =>
    exact Function.update_of_ne other _ _

/-- A thread has found an entry only by the step that finds one. -/
theorem Step.of_found (next : N.Step s ev s') {name : String} {e : ε} {d : δ}
    (found : s'.phase ev.thread = .found name e d) : ev = .found ev.thread name e d := by
  cases next with
  | remove free | failRemove free | get free | list free | miss free | refuseCheck free =>
    cases free.symm.trans found
  | find free ran =>
    have same := (Function.update_self _ _ _).symm.trans found
    cases same
    rfl
  | register | refuse | check | prepare | failPrepare | panicPrepare | act | panicAct =>
    cases (Function.update_self _ _ _).symm.trans found

theorem found_of_run (lawful : N.Lawful) (started : N.Start start) (run : N.Run start past s) {i : Nat}
    {name : String} {e : ε} {d : δ} (found : s.phase i = .found name e d) : N.Found start past s i name e d := by
  induction run with
  | nil => cases (started.free i).symm.trans found
  | @snoc past t ev s before next ih =>
    have wellFormed : N.WellFormed t.store := (before.changed lawful started.wellFormed).wellFormed
    have verdict := next.verdict lawful wellFormed
    by_cases own : i = ev.thread
    · subst own
      have finds := next.of_found found
      rw [finds] at verdict
      obtain ⟨bound, -⟩ := verdict
      obtain ⟨b, face⟩ := lawful.hasFace wellFormed bound
      have changed := (next.verdict lawful wellFormed).changed wellFormed
      exact ⟨past, [], t, b, by rw [← finds], nofun, before, bound, face, changed.face? e b face⟩
    · obtain ⟨x, y, m, b, parts, idle, ran, bound, face, face'⟩ := ih ((next.other own).symm.trans found)
      refine ⟨x, y ++ [ev], m, b, by rw [parts, List.append_assoc, List.cons_append], ?_, ran, bound, face,
        (verdict.changed wellFormed).face? e b face'⟩
      intro ev' member
      rcases List.mem_append.1 member with member | member
      · exact idle ev' member
      · rw [List.mem_singleton.1 member]
        exact Ne.symm own

/-- Whatever steps any threads have taken: names are bound only while they are free and stay bound until
they are removed, and who acts on an entry acts on the one that it has found. -/
theorem kept_of_run (lawful : N.Lawful) (started : N.Start start) (before : N.Run start past mid)
    (run : N.Run mid events s) : N.Kept start past mid events s := by
  have wellFormed : N.WellFormed mid.store := (before.changed lawful started.wellFormed).wellFormed
  have changed := run.changed lawful wellFormed
  refine ⟨fun ev s' next => next.verdict lawful changed.wellFormed, ?_, ?_, ?_, ?_⟩
  · intro a free
    obtain ⟨store, e, ran, -⟩ := lawful.register_of_free changed.wellFormed free
    exact ⟨store, ran⟩
  · intro name e bound kept
    obtain ⟨b, face⟩ := lawful.hasFace wellFormed bound
    exact ⟨run.stays lawful wellFormed bound kept, b, face, changed.face? e b face⟩
  · intro name x r y r' z parts first again kept
    exact run.second lawful wellFormed parts first again kept
  · intro i name e d answer s' next
    cases next with
    | act found ran => exact ⟨found_of_run lawful started (before.append run) found, _, _, ran⟩

end

end NameStore

end InterpreterHost
