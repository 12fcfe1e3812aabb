import InterpreterHost.Call.Registry
import InterpreterHost.Proofs.Naming.Interleaving
import InterpreterHost.Proofs.Owner.Outcome
import InterpreterHost.State.Creator
import Mathlib.Control.Monad.Basic

/-!
# The name stores of the host

The host has three stores of names: functions, creators of states and the states that are shared.  Each
is written by itself; here each is shown to be a lawful store, so that what holds of the names among
threads holds of all three.

## Main definitions

* `functionNames`, `creatorNames`, `stateNames` — the three stores

## Main statements

* `functionNames_lawful`, `creatorNames_lawful`, `stateNames_lawful` — what their operations do
* `nameStores_kept` — names are not bound anew and stay bound until they are removed
-/

namespace InterpreterHost

/-! ## Entries and directories -/

namespace Entries

variable {α : Type} {m : Entries α}

theorem find?_erase (key k : String) : (m.erase key).find? k = if k = key then none else m.find? k := by
  induction m with
  | nil => simp [erase, find?]
  | cons p m ih =>
    simp only [erase, find?] at ih ⊢
    grind

end Entries

namespace Directory

variable {α : Type} {d : Directory α} {name : String} {n : Nat}

/-- The names are in order, and every number that is bound is that of a thing. -/
structure WellFormed (d : Directory α) : Prop where
  ascending : d.names.Ascending
  bound : ∀ name n, d.number? name = some n → (d.item? n).isSome

theorem wellFormed_empty : ({} : Directory α).WellFormed :=
  ⟨Entries.ascending_nil, fun _ _ bound => by cases bound⟩

theorem bind?_of_free (free : d.number? name = none) (n : Nat) :
    d.bind? name n = some { d with names := d.names.insert name n } := by
  have absent : d.contains name = false := by
    rw [contains, Entries.contains]
    exact Option.isSome_eq_false_iff.2 (Option.isNone_iff_eq_none.2 free)
  rw [bind?, absent, if_neg Bool.false_ne_true]

theorem bind?_of_bound (bound : d.number? name ≠ none) (n : Nat) : d.bind? name n = none := by
  have present : d.contains name = true := Option.isSome_iff_ne_none.2 bound
  rw [bind?, if_pos present]

theorem number?_insert (name : String) (n : Nat) :
    ({ d with names := d.names.insert name n } : Directory α).number? =
      Function.update d.number? name (some n) := by
  funext other
  rw [number?, Entries.find?_insert, Function.update_apply]
  rfl

theorem number?_erase (name : String) :
    ({ d with names := d.names.erase name } : Directory α).number? = Function.update d.number? name none := by
  funext other
  rw [number?, Entries.find?_erase, Function.update_apply]
  rfl

theorem item?_add (a : α) (n : Nat) : (d.add a).2.item? n = if n = d.items.size then some a else d.item? n := by
  simp only [add, item?, Array.getElem?_push]

theorem item?_update (a : α) (n m : Nat) :
    (d.update n a).item? m = if n = m then (d.item? m).map fun _ => a else d.item? m := by
  simp only [update, item?, Array.getElem?_modify]

/-- A thing that is added and bound to a free name. -/
theorem bind?_add (wellFormed : d.WellFormed) (free : d.number? name = none) (a : α) :
    ∃ d', (d.add a).2.bind? name (d.add a).1 = some d' ∧ d'.WellFormed ∧
      d'.number? = Function.update d.number? name (some d.items.size) ∧
      ∀ n b, d.item? n = some b → d'.item? n = some b := by
  have item (n : Nat) (b : α) (held : d.item? n = some b) : (d.add a).2.item? n = some b := by
    have within : n < d.items.size := (Array.getElem?_eq_some_iff.1 held).1
    rw [item?_add, if_neg (Nat.ne_of_lt within), held]
  have number : ({ (d.add a).2 with names := d.names.insert name d.items.size } : Directory α).number? =
      Function.update d.number? name (some d.items.size) := number?_insert name d.items.size
  refine ⟨_, bind?_of_free (d := (d.add a).2) free _, ⟨wellFormed.ascending.insert _ _, ?_⟩, number, item⟩
  intro other n bound
  have bound' : Function.update d.number? name (some d.items.size) other = some n := by rw [← number]; exact bound
  by_cases same : other = name
  · rw [same, Function.update_self] at bound'
    cases bound'
    show ((d.add a).2.item? d.items.size).isSome
    rw [item?_add, if_pos rfl]
    rfl
  · rw [Function.update_of_ne same] at bound'
    obtain ⟨b, held⟩ := Option.isSome_iff_exists.1 (wellFormed.bound other n bound')
    exact Option.isSome_iff_exists.2 ⟨b, item n b held⟩

/-- A name that is unbound. -/
theorem unbind?_of_bound (wellFormed : d.WellFormed) (bound : d.number? name = some n) :
    ∃ d', d.unbind? name = some (n, d') ∧ d'.WellFormed ∧
      d'.number? = Function.update d.number? name none ∧ d'.items = d.items := by
  refine ⟨{ d with names := d.names.erase name }, ?_, ⟨wellFormed.ascending.erase name, ?_⟩,
    number?_erase name, rfl⟩
  · rw [unbind?, bound, Option.map_some]
  · intro other n' bound'
    rw [number?_erase] at bound'
    by_cases same : other = name
    · rw [same, Function.update_self] at bound'
      cases bound'
    · rw [Function.update_of_ne same] at bound'
      exact wellFormed.bound other n' bound'

theorem unbind?_of_free (free : d.number? name = none) : d.unbind? name = none := by
  rw [unbind?, free, Option.map_none]

theorem WellFormed.update (wellFormed : d.WellFormed) (n : Nat) (a : α) : (d.update n a).WellFormed := by
  refine ⟨wellFormed.ascending, fun name m bound => ?_⟩
  have held := wellFormed.bound name m bound
  rw [item?_update]
  split
  · rwa [Option.isSome_map]
  · exact held

end Directory

/-! ## Functions -/

namespace NamedFunction

/-- What a function is for good: only whether its module is imported may change. -/
def face (f : NamedFunction) : NamedFunction := { f with module := none }

theorem face_loaded {f f' : NamedFunction} {h h' : Host} {result : Except CallError Module}
    (ran : f.loaded.run h = (.ok (f', result), h')) : f'.face = f.face := by
  unfold loaded at ran
  cases imported : f.module with
  | some m =>
    rw [imported] at ran
    cases ran
    rfl
  | none =>
    rw [imported] at ran
    obtain ⟨outcome, h₁, -, rest⟩ := of_run_bind ran
    cases outcome with
    | ok m =>
      cases rest
      rfl
    | error e =>
      cases rest
      rfl

theorem face_call {f f' : NamedFunction} {args : List Value} {h h' : Host} {result : Except CallError Value}
    (ran : (f.call args).run h = (.ok (f', result), h')) : f'.face = f.face := by
  obtain ⟨⟨f₁, outcome⟩, h₁, loaded, rest⟩ := of_run_bind ran
  have same := face_loaded loaded
  cases outcome with
  | ok m =>
    obtain ⟨answer, h₂, -, given⟩ := of_run_bind rest
    cases given
    exact same
  | error e =>
    cases rest
    exact same

/-- Import the module of a function that is to be registered. -/
def prepare (f : NamedFunction) : Action (Except CallError NamedFunction) := do
  match ← f.loaded with
  | (f, .ok _) => return .ok f
  | (_, .error e) => return .error e

theorem face_prepare {f f' : NamedFunction} {h h' : Host} (ran : f.prepare.run h = (.ok (.ok f'), h')) :
    f'.face = f.face := by
  obtain ⟨⟨f₁, outcome⟩, h₁, loaded, rest⟩ := of_run_bind ran
  have same := face_loaded loaded
  cases outcome with
  | ok m =>
    cases rest
    exact same
  | error e => cases rest

end NamedFunction

namespace FunctionRegistry

/-- Look up the number of a function. -/
def lookUp (r : FunctionRegistry) (name : String) : Except CallError Nat :=
  match r.number? name with
  | some n => .ok n
  | none => .error (.notRegistered name)

theorem register_eq (r : FunctionRegistry) (f : NamedFunction) :
    r.register f = match (r.add f).2.bind? f.name (r.add f).1 with
      | some r => .ok r
      | none => .error (.alreadyRegistered f.name) := rfl

/-- A call leaves the names, and of the functions it changes at most the module of the one that is called. -/
theorem keeps_callNumber {r r' : FunctionRegistry} {n : Nat} {args : List Value} {h h' : Host}
    {answer : Except CallError Value} (wellFormed : r.WellFormed)
    (ran : (r.callNumber n args).run h = (.ok (r', answer), h')) :
    r'.WellFormed ∧ r'.number? = r.number? ∧
      ∀ m, (r'.item? m).map NamedFunction.face = (r.item? m).map NamedFunction.face := by
  unfold callNumber at ran
  cases held : r.item? n with
  | none =>
    rw [held] at ran
    cases ran
    exact ⟨wellFormed, rfl, fun _ => rfl⟩
  | some f =>
    rw [held] at ran
    obtain ⟨⟨f', result⟩, h₁, called, rest⟩ := of_run_bind ran
    cases rest
    refine ⟨wellFormed.update n f', rfl, fun m => ?_⟩
    -- The function that was called may have its module now.
    rw [Directory.item?_update]
    split
    · next same =>
      subst same
      rw [held, Option.map_some, Option.map_some, Option.map_some, NamedFunction.face_call called]
    · rfl

end FunctionRegistry

/-- Functions by name.  An entry is the number of a function. -/
def functionNames :
    NameStore FunctionRegistry Nat NamedFunction (List Value) (Except CallError Value) CallError NamedFunction where
  binding? r := r.number?
  face? r n := (r.item? n).map NamedFunction.face
  WellFormed := Directory.WellFormed
  nameOf := NamedFunction.name
  contains := Directory.contains
  prepare := NamedFunction.prepare
  register := FunctionRegistry.register
  remove := FunctionRegistry.unregister
  lookUp := FunctionRegistry.lookUp
  names := Directory.boundNames
  act r _ n args := r.callNumber n args
  miss x _ := .error x
  taken := .alreadyRegistered
  missing := .notRegistered

theorem functionNames_lawful : functionNames.Lawful where
  contains_eq _ _ := rfl
  register_of_free := by
    intro r f wellFormed free
    obtain ⟨r', bound, wellFormed', number, items⟩ := Directory.bind?_add wellFormed free f
    refine ⟨r', r.items.size, ?_, wellFormed', number, ?_⟩
    · show FunctionRegistry.register r f = .ok r'
      have bound' : (r.add f).2.bind? f.name (r.add f).1 = some r' := bound
      rw [FunctionRegistry.register_eq, bound']
    · intro n b face
      obtain ⟨g, held, rfl⟩ := Option.map_eq_some_iff.1 face
      exact Option.map_eq_some_iff.2 ⟨g, items n g held, rfl⟩
  register_of_bound := by
    intro r f bound
    show FunctionRegistry.register r f = .error (.alreadyRegistered f.name)
    have refused : (r.add f).2.bind? f.name (r.add f).1 = none := Directory.bind?_of_bound (d := (r.add f).2) bound _
    rw [FunctionRegistry.register_eq, refused]
  remove_of_bound := by
    intro r name n wellFormed bound
    obtain ⟨r', removed, wellFormed', number, items⟩ := Directory.unbind?_of_bound wellFormed bound
    refine ⟨r', ?_, wellFormed', number, fun n b face => ?_⟩
    · show FunctionRegistry.unregister r name = .ok (n, r')
      rw [FunctionRegistry.unregister, removed]
    · show (r'.items[n]?).map _ = _
      rwa [items]
  remove_of_free := by
    intro r name free
    show FunctionRegistry.unregister r name = .error (.notRegistered name)
    rw [FunctionRegistry.unregister, Directory.unbind?_of_free free]
  name_prepared := by
    intro f f' h h' ran
    have same := congrArg NamedFunction.name (NamedFunction.face_prepare ran)
    exact same
  lookUp_of_bound := by
    intro r name n bound
    have bound' : r.number? name = some n := bound
    show FunctionRegistry.lookUp r name = .ok n
    rw [FunctionRegistry.lookUp, bound']
  lookUp_of_free := by
    intro r name free
    have free' : r.number? name = none := free
    show FunctionRegistry.lookUp r name = .error (.notRegistered name)
    rw [FunctionRegistry.lookUp, free']
  act := by
    intro r name n args h r' answer h' wellFormed ran
    obtain ⟨wellFormed', number, faces⟩ := FunctionRegistry.keeps_callNumber wellFormed ran
    exact ⟨wellFormed', number, fun m b face => (faces m).trans face⟩
  names_ascending wellFormed := wellFormed.ascending
  mem_names _ := Entries.mem_keys_iff
  hasFace := by
    intro r name n wellFormed bound
    obtain ⟨f, held⟩ := Option.isSome_iff_exists.1 (wellFormed.bound name n bound)
    exact ⟨f.face, Option.map_eq_some_iff.2 ⟨f, held, rfl⟩⟩

/-! ## Creators -/

/-- What can be wanted of a creator. -/
inductive Creation where
  | create (params : ValueMap)
  | load (source : Source) (params : ValueMap)

namespace Creator

/-- A new state, or one that was saved and what is left of its source. -/
def perform (c : Creator) : Creation → Action (Except StateError SharedState × Option Source)
  | .create params => do return (← c.create params, none)
  | .load source params => do
    let (result, rest) ← c.load source params
    return (result, some rest)

end Creator

/-- What is left of the source for who has found no creator. -/
def Creation.source? : Creation → Option Source
  | create _ => none
  | load source _ => some source

/-- Creators by the names of the types.  An entry is a creator, which never changes. -/
def creatorNames : NameStore CreatorRegistry Creator (String × Creator) Creation
    (Except StateError SharedState × Option Source) StateError Creator where
  binding? r := Entries.find? r
  face? _ c := some c
  WellFormed := Entries.Ascending
  nameOf := Prod.fst
  contains := Entries.contains
  prepare a := return .ok a
  register r a := CreatorRegistry.register r a.1 a.2
  remove := CreatorRegistry.unregister
  lookUp := CreatorRegistry.get
  names := CreatorRegistry.typeNames
  act r _ c d := do return (r, ← c.perform d)
  miss x d := (.error x, d.source?)
  taken := .typeRegistered
  missing := .typeNotRegistered

theorem creatorNames_lawful : creatorNames.Lawful where
  contains_eq _ _ := rfl
  register_of_free := by
    intro r a ascending free
    refine ⟨Entries.insert a.1 a.2 r, a.2, ?_, ascending.insert _ _, ?_, fun _ _ => id⟩
    · show CreatorRegistry.register r a.1 a.2 = _
      have absent : Entries.contains r a.1 = false :=
        Option.isSome_eq_false_iff.2 (Option.isNone_iff_eq_none.2 free)
      rw [CreatorRegistry.register, absent, if_neg Bool.false_ne_true]
    · funext name
      show Entries.find? _ name = Function.update (Entries.find? r) a.1 (some a.2) name
      rw [Entries.find?_insert, Function.update_apply]
  register_of_bound := by
    intro r a bound
    show CreatorRegistry.register r a.1 a.2 = _
    have present : Entries.contains r a.1 = true := Option.isSome_iff_ne_none.2 bound
    rw [CreatorRegistry.register, if_pos present]
    rfl
  remove_of_bound := by
    intro r name c ascending bound
    have bound' : Entries.find? r name = some c := bound
    refine ⟨Entries.erase name r, ?_, ascending.erase name, ?_, fun _ _ => id⟩
    · show CreatorRegistry.unregister r name = _
      rw [CreatorRegistry.unregister, bound']
    · funext other
      show Entries.find? _ other = Function.update (Entries.find? r) name none other
      rw [Entries.find?_erase, Function.update_apply]
  remove_of_free := by
    intro r name free
    have free' : Entries.find? r name = none := free
    show CreatorRegistry.unregister r name = .error (.typeNotRegistered name)
    rw [CreatorRegistry.unregister, free']
  name_prepared := by
    intro a a' h h' ran
    cases ran
    rfl
  lookUp_of_bound := by
    intro r name c bound
    have bound' : Entries.find? r name = some c := bound
    show CreatorRegistry.get r name = .ok c
    rw [CreatorRegistry.get, bound']
  lookUp_of_free := by
    intro r name free
    have free' : Entries.find? r name = none := free
    show CreatorRegistry.get r name = .error (.typeNotRegistered name)
    rw [CreatorRegistry.get, free']
  act := by
    intro r name c d h r' answer h' ascending ran
    obtain ⟨result, h₁, -, given⟩ := of_run_bind ran
    cases given
    exact ⟨ascending, rfl, fun _ _ => id⟩
  names_ascending ascending := ascending
  mem_names _ := Entries.mem_keys_iff
  hasFace {_ _ c} _ _ := ⟨c, rfl⟩

/-! ## States -/

/-- What can be wanted of the state under a name. -/
inductive Training where
  | fit (rows : List ValueMap)
  | predict (v : Value)

namespace SharedStates

/-- Share a state under a name. -/
def share (d : SharedStates) (name : String) (s : SharedState) : Except StateError SharedStates :=
  SharedStates.store (d.add s).2 name (d.add s).1

/-- The model with a number that was found under a name. -/
def modelAt (d : SharedStates) (name : String) (n : Nat) : Except StateError Model :=
  match d.item? n with
  | some (.model m) => .ok m
  | _ => .error (.notModel name)

/-- Have the model with a number, which was found under a name, do what is wanted. -/
def train (d : SharedStates) (name : String) (n : Nat) (wish : Training) : Action (Except StateError Value) :=
  match d.modelAt name n, wish with
  | .ok m, .fit rows => m.fit (rows.map .map)
  | .ok m, .predict v => m.predict v
  | .error e, _ => return .error e

end SharedStates

/-- States by name.  An entry is the number of a state. -/
def stateNames : NameStore SharedStates Nat (String × SharedState) Training (Except StateError Value) StateError
    SharedState where
  binding? d := d.number?
  face? d n := d.item? n
  WellFormed := Directory.WellFormed
  nameOf := Prod.fst
  contains := Directory.contains
  prepare a := return .ok a
  register d a := SharedStates.share d a.1 a.2
  remove := SharedStates.remove
  lookUp := SharedStates.get
  names := Directory.boundNames
  act d name n wish := do return (d, ← SharedStates.train d name n wish)
  miss x _ := .error x
  taken := .stateExists
  missing := .stateNotFound

theorem stateNames_lawful : stateNames.Lawful where
  contains_eq _ _ := rfl
  register_of_free := by
    intro d a wellFormed free
    obtain ⟨d', bound, wellFormed', number, items⟩ := Directory.bind?_add wellFormed free a.2
    have bound' : (d.add a.2).2.bind? a.1 (d.add a.2).1 = some d' := bound
    refine ⟨d', d.items.size, ?_, wellFormed', number, items⟩
    show SharedStates.share d a.1 a.2 = .ok d'
    rw [SharedStates.share, SharedStates.store, bound']
  register_of_bound := by
    intro d a bound
    show SharedStates.share d a.1 a.2 = .error (.stateExists a.1)
    have refused : (d.add a.2).2.bind? a.1 (d.add a.2).1 = none :=
      Directory.bind?_of_bound (d := (d.add a.2).2) bound _
    rw [SharedStates.share, SharedStates.store, refused]
  remove_of_bound := by
    intro d name n wellFormed bound
    obtain ⟨d', removed, wellFormed', number, items⟩ := Directory.unbind?_of_bound wellFormed bound
    refine ⟨d', ?_, wellFormed', number, fun n b face => ?_⟩
    · show SharedStates.remove d name = .ok (n, d')
      rw [SharedStates.remove, removed]
    · show d'.items[n]? = some b
      rwa [items]
  remove_of_free := by
    intro d name free
    show SharedStates.remove d name = .error (.stateNotFound name)
    rw [SharedStates.remove, Directory.unbind?_of_free free]
  name_prepared := by
    intro a a' h h' ran
    cases ran
    rfl
  lookUp_of_bound := by
    intro d name n bound
    have bound' : d.number? name = some n := bound
    show SharedStates.get d name = .ok n
    rw [SharedStates.get, bound']
  lookUp_of_free := by
    intro d name free
    have free' : d.number? name = none := free
    show SharedStates.get d name = .error (.stateNotFound name)
    rw [SharedStates.get, free']
  act := by
    intro d name n wish h d' answer h' wellFormed ran
    obtain ⟨result, h₁, -, given⟩ := of_run_bind ran
    cases given
    exact ⟨wellFormed, rfl, fun _ _ => id⟩
  names_ascending wellFormed := wellFormed.ascending
  mem_names _ := Entries.mem_keys_iff
  hasFace {d name n} wellFormed bound := Option.isSome_iff_exists.1 (wellFormed.bound name n bound)

/-! ## One thread -/

/-- To register a function with its module is to take the three steps in a row. -/
theorem FunctionRegistry.registerLoaded_eq (r : FunctionRegistry) (f : NamedFunction) :
    r.registerLoaded f = functionNames.registerPrepared r f := by
  have prepared : functionNames.prepare f = NamedFunction.prepare f := rfl
  unfold FunctionRegistry.registerLoaded NameStore.registerPrepared
  rw [prepared, NamedFunction.prepare, bind_assoc]
  congr 1
  refine bind_congr fun loaded => ?_
  rcases loaded with ⟨f', e | m⟩
  · rw [pure_bind]
  · rw [pure_bind]
    rfl

theorem FunctionRegistry.call_eq (r : FunctionRegistry) (name : String) (args : List Value) :
    r.call name args = functionNames.use r name args := by
  cases bound : r.number? name with
  | some n =>
    have found : functionNames.lookUp r name = .ok n := functionNames_lawful.lookUp_of_bound bound
    rw [FunctionRegistry.call, bound, NameStore.use, found]
    rfl
  | none =>
    have absent : functionNames.lookUp r name = .error (.notRegistered name) :=
      functionNames_lawful.lookUp_of_free bound
    rw [FunctionRegistry.call, bound, NameStore.use, absent]
    rfl

theorem CreatorRegistry.create_eq (r : CreatorRegistry) (name : String) (params : ValueMap) :
    creatorNames.use r name (.create params) =
      (fun result => (r, result, none)) <$> CreatorRegistry.create r name params := by
  have looked : creatorNames.lookUp r name = CreatorRegistry.get r name := rfl
  rw [NameStore.use, looked, CreatorRegistry.create]
  cases CreatorRegistry.get r name with
  | ok c =>
    show (c.create params >>= fun result => pure (result, none)) >>= (fun a => pure (r, a)) = _
    rw [bind_pure_comp, bind_pure_comp, Functor.map_map]
  | error x => rfl

theorem CreatorRegistry.load_eq (r : CreatorRegistry) (name : String) (source : Source) (params : ValueMap) :
    creatorNames.use r name (.load source params) =
      (fun result => (r, result.1, some result.2)) <$> CreatorRegistry.load r name source params := by
  have looked : creatorNames.lookUp r name = CreatorRegistry.get r name := rfl
  rw [NameStore.use, looked, CreatorRegistry.load]
  cases CreatorRegistry.get r name with
  | ok c =>
    show (c.load source params >>= fun result => pure (result.1, some result.2)) >>= (fun a => pure (r, a)) = _
    rw [bind_pure_comp, bind_pure_comp, Functor.map_map]
  | error x => rfl

/-- To ask the model under a name is to look up the state, to see whether it is a model, and to ask it. -/
theorem SharedStates.use_eq {d : SharedStates} {name : String} {wish : Training}
    {ask : Model → Action (Except StateError Value)}
    (asks : ∀ n m, d.modelAt name n = .ok m → d.train name n wish = ask m) :
    stateNames.use d name wish = (fun result => (d, result)) <$> match d.getModel name with
      | .ok m => ask m
      | .error e => return .error e := by
  have looked : stateNames.lookUp d name = SharedStates.get d name := rfl
  rw [NameStore.use, looked]
  cases found : SharedStates.get d name with
  | ok n =>
    have seen : d.getModel name = d.modelAt name n := by
      rw [SharedStates.getModel, found]
      rfl
    show d.train name n wish >>= (fun result => pure (d, result)) = _
    rw [seen, bind_pure_comp]
    cases model : d.modelAt name n with
    | ok m => rw [asks n m model]
    | error x => simp only [SharedStates.train, model]
  | error x =>
    have absent : d.getModel name = .error x := by
      rw [SharedStates.getModel, found]
      rfl
    rw [absent]
    rfl

theorem SharedStates.fit_eq (d : SharedStates) (name : String) (rows : List ValueMap) :
    stateNames.use d name (.fit rows) = (fun result => (d, result)) <$> SharedStates.fit d name rows :=
  use_eq fun _ _ model => by simp only [train, model]

theorem SharedStates.predict_eq (d : SharedStates) (name : String) (v : Value) :
    stateNames.use d name (.predict v) = (fun result => (d, result)) <$> SharedStates.predict d name v :=
  use_eq fun _ _ model => by simp only [train, model]

/-! ## All threads -/

/-- In each of the three stores, whatever steps any threads have taken, names are bound only while they
are free and stay bound until they are removed, a registration that is refused or that cannot be made
ready changes nothing, and who acts on an entry acts on the one that it has found.  What the host does
with a store in a row are those steps. -/
theorem nameStores_kept :
    ((∀ start past mid events s, functionNames.Start start → functionNames.Run start past mid →
        functionNames.Run mid events s → functionNames.Kept start past mid events s) ∧
      (∀ r f, FunctionRegistry.registerLoaded r f = functionNames.registerPrepared r f) ∧
      ∀ r name args, FunctionRegistry.call r name args = functionNames.use r name args) ∧
    ((∀ start past mid events s, creatorNames.Start start → creatorNames.Run start past mid →
        creatorNames.Run mid events s → creatorNames.Kept start past mid events s) ∧
      (∀ r name params, creatorNames.use r name (.create params) =
        (fun result => (r, result, none)) <$> CreatorRegistry.create r name params) ∧
      ∀ r name source params, creatorNames.use r name (.load source params) =
        (fun result => (r, result.1, some result.2)) <$> CreatorRegistry.load r name source params) ∧
    (∀ start past mid events s, stateNames.Start start → stateNames.Run start past mid →
        stateNames.Run mid events s → stateNames.Kept start past mid events s) ∧
      (∀ d name rows, stateNames.use d name (.fit rows) =
        (fun result => (d, result)) <$> SharedStates.fit d name rows) ∧
      ∀ d name v, stateNames.use d name (.predict v) =
        (fun result => (d, result)) <$> SharedStates.predict d name v :=
  ⟨⟨fun _ _ _ _ _ => NameStore.kept_of_run functionNames_lawful, FunctionRegistry.registerLoaded_eq,
      FunctionRegistry.call_eq⟩,
    ⟨fun _ _ _ _ _ => NameStore.kept_of_run creatorNames_lawful, CreatorRegistry.create_eq,
      CreatorRegistry.load_eq⟩,
    fun _ _ _ _ _ => NameStore.kept_of_run stateNames_lawful, SharedStates.fit_eq, SharedStates.predict_eq⟩

/-- A thread finds a name free, another registers it while the first imports its module, and the first
is refused. -/
theorem nameStores_kept_race :
    let f : NamedFunction := { name := "f", path := "", moduleName := "m", functionName := "g" }
    let f' : NamedFunction := { f with module := some ⟨"m", .of 3⟩ }
    let start : NameStore.State FunctionRegistry Nat NamedFunction (List Value) := { store := {} }
    ∃ mid s, functionNames.Start start ∧
      functionNames.Run start [.checked 0 f, .bound 1 { f with functionName := "h" } 0] mid ∧
      functionNames.Run mid [.prepared 0 f f', .refused 0 f' (.alreadyRegistered "f")] s ∧
      functionNames.binding? mid.store "f" = some 0 ∧ functionNames.binding? s.store "f" = some 0 := by
  intro f f' start
  let host : Host := { surroundings := { library := [{ name := "m", content := .ok [] }] } }
  have imported : (functionNames.prepare f).run host =
      (.ok (.ok f'), ((functionNames.prepare f).run host).2) := by
    have found : ((NamedFunction.prepare f).run host).1 = .ok (.ok f') := by decide +kernel
    exact Prod.ext found rfl
  have started : functionNames.Start start := ⟨Directory.wellFormed_empty, fun _ => rfl⟩
  let store : FunctionRegistry := { items := #[{ f with functionName := "h" }], names := [("f", 0)] }
  have registered : functionNames.register {} { f with functionName := "h" } = .ok store := rfl
  have bound : functionNames.binding? store "f" = some 0 := by decide +kernel
  have refused : functionNames.register store f' = .error (.alreadyRegistered "f") :=
    functionNames_lawful.register_of_bound (a := f') (by rw [show functionNames.nameOf f' = "f" from rfl, bound]; simp)
  let mid : NameStore.State FunctionRegistry Nat NamedFunction (List Value) :=
    ⟨store, Function.update (Function.update start.phase 0 (.checked f)) 1 .free⟩
  have before : functionNames.Run start [.checked 0 f, .bound 1 { f with functionName := "h" } 0] mid :=
    (NameStore.Run.nil.snoc (.check rfl rfl)).snoc (.register (.inl rfl) registered bound)
  have run : functionNames.Run mid [.prepared 0 f f', .refused 0 f' (.alreadyRegistered "f")]
      ⟨store, Function.update (Function.update mid.phase 0 (.prepared f')) 0 .free⟩ :=
    (NameStore.Run.nil.snoc (.prepare rfl imported)).snoc (.refuse (.inr rfl) refused)
  have kept := (nameStores_kept.1.1 start _ mid _ _ started before run).stays "f" 0 bound (by
    intro ev member
    rcases List.mem_cons.1 member with rfl | member
    · rintro ⟨i, e, ⟨⟩⟩
    · rw [List.mem_singleton.1 member]
      rintro ⟨i, e, ⟨⟩⟩)
  exact ⟨mid, _, started, before, run, bound, kept.1⟩

/-- Not of any two registrations does one succeed: the name of a type that there is from the start is
refused to both.  Nor is the one that fails always refused as bound already: if its module cannot be
imported, it fails with that. -/
theorem exists_both_refused :
    let start : NameStore.State CreatorRegistry Creator (String × Creator) Creation := { store := .builtin }
    let f : NamedFunction := { name := "f", path := "", moduleName := "m", functionName := "g" }
    let start' : NameStore.State FunctionRegistry Nat NamedFunction (List Value) := { store := {} }
    (∃ r r' s, creatorNames.Start start ∧ creatorNames.Run start [r, r'] s ∧
      creatorNames.Refuses "pystate" r ∧ creatorNames.Refuses "pystate" r' ∧
      ¬ creatorNames.Registers "pystate" r ∧ ¬ creatorNames.Registers "pystate" r') ∧
    ∃ x s, functionNames.Start start' ∧
      functionNames.Run start' [.checked 0 f, .unprepared 0 f x, .bound 1 f 0] s ∧
      x ≠ .alreadyRegistered "f" := by
  intro start f start'
  constructor
  · have refused (c : Creator) :
        creatorNames.register .builtin ("pystate", c) = .error (.typeRegistered "pystate") := by
      have present : creatorNames.binding? .builtin "pystate" ≠ none := by decide +kernel
      exact creatorNames_lawful.register_of_bound (a := ("pystate", c)) present
    refine ⟨.refused 0 ("pystate", .model) (.typeRegistered "pystate"),
      .refused 1 ("pystate", .object none) (.typeRegistered "pystate"), _,
      ⟨Entries.ascending_ofList _, fun _ => rfl⟩,
      (NameStore.Run.nil.snoc (.refuse (.inl rfl) (refused _))).snoc (.refuse (.inl rfl) (refused _)),
      ⟨0, _, rfl, rfl⟩, ⟨1, _, rfl, rfl⟩, ?_, ?_⟩
    · rintro ⟨i, a, e, ⟨⟩, -⟩
    · rintro ⟨i, a, e, ⟨⟩, -⟩
  · -- There is no module within reach.
    have failed : ((NamedFunction.prepare f).run {}).1 = .ok (.error (.context "load" "module" "m"
        (.interpreter (.exception (.ofMain "ModuleNotFoundError: No module named 'm'"))))) := by decide +kernel
    refine ⟨_, _, ⟨Directory.wellFormed_empty, fun _ => rfl⟩,
      ((NameStore.Run.nil.snoc (.check rfl rfl)).snoc (.failPrepare rfl (Prod.ext failed rfl))).snoc
        (.register (.inl rfl) rfl (by decide +kernel)), by decide⟩

end InterpreterHost
