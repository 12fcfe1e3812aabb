import InterpreterHost.Proofs.Owner.Outcome
import InterpreterHost.State.Creator

/-!
# Parameters are taken as a whole

The parameters of a state are taken out of a map after all of them were found good, so that either all of them
are taken or nothing is.  What is left is the map without their keys and is what the class gets; it tells no more
of them, and with them put back it is the map that they are taken from again.

## Main definitions

* `ValueMap.IsText`, `ValueMap.IsTextIfBound` — what is asked of a parameter
* `StateParams.putInto` — put parameters back into a map
* `StateParams.Partitions` — what taking the parameters comes to

## Main statements

* `StateParams.run_readFrom` — what is read, and what is left of the map
* `StateParams.without_eq_filter` — what is left are the entries under other keys
* `StateParams.partitions` — taking the parameters as a whole
-/

namespace InterpreterHost

/-! ## Entries under some keys and under others -/

namespace Entries

variable {α : Type u} {m : Entries α} {keys : List String}

theorem foldl_erase (keys : List String) (m : Entries α) :
    keys.foldl (fun m key => erase key m) m = m.filter fun e => e.1 ∉ keys := by
  induction keys generalizing m with
  | nil => exact (List.filter_eq_self.2 fun _ _ => by simp).symm
  | cons key keys ih =>
    rw [List.foldl_cons, ih, erase, List.filter_filter]
    refine List.filter_congr fun e _ => ?_
    by_cases same : e.1 = key <;> simp [same]

/-- Other keys are bound to what they were bound to. -/
theorem find?_filter_of_notMem {key : String} (other : key ∉ keys) :
    find? (m.filter fun e => e.1 ∉ keys) key = m.find? key := by
  induction m with
  | nil => rfl
  | cons e m ih =>
    obtain ⟨k, v⟩ := e
    unfold find? at ih ⊢
    by_cases same : key = k
    · subst same
      rw [List.filter_cons_of_pos (by simpa using other), List.lookup_cons_self, List.lookup_cons_self]
    · have skipped : (key == k) = false := beq_false_of_ne same
      rw [List.lookup_cons, skipped]
      by_cases mem : k ∈ keys
      · rw [List.filter_cons_of_neg (by simpa using mem)]
        exact ih
      · rw [List.filter_cons_of_pos (by simpa using mem), List.lookup_cons, skipped]
        exact ih

/-- These keys are unbound. -/
theorem find?_filter_of_mem {key : String} (mem : key ∈ keys) :
    find? (m.filter fun e => e.1 ∉ keys) key = none := by
  unfold find?
  refine List.lookup_eq_none_iff.2 fun e left => ?_
  have other : e.1 ∉ keys := by simpa using (List.mem_filter.1 left).2
  exact bne_iff_ne.2 fun same : key = e.1 => other (same ▸ mem)

/-- The entries under other keys stay when a key is bound. -/
theorem filter_insert_of_mem {key : String} (mem : key ∈ keys) (a : α) :
    (m.insert key a).filter (fun e => e.1 ∉ keys) = m.filter fun e => e.1 ∉ keys := by
  induction m with
  | nil => simp [insert, mem]
  | cons e m ih =>
    obtain ⟨k, v⟩ := e
    rw [insert]
    split
    · rw [List.filter_cons_of_neg (by simpa using mem)]
    · split
      · next same =>
        subst same
        rw [List.filter_cons_of_neg (by simpa using mem), List.filter_cons_of_neg (by simpa using mem)]
      · rw [List.filter_cons, List.filter_cons, ih]

end Entries

/-! ## Reading one parameter -/

namespace ValueMap

variable {params : ValueMap} {key s : String} {e : StateError}

/-- A text is bound to the key. -/
def IsText (params : ValueMap) (key : String) : Prop := ∃ s, Entries.find? params key = some (.string s)

/-- Nothing but a text is bound to the key. -/
def IsTextIfBound (params : ValueMap) (key : String) : Prop :=
  Entries.find? params key = none ∨ params.IsText key

/-- Something else than a text is bound to the key, and this is what is told of it. -/
def IsOther (params : ValueMap) (key : String) (e : StateError) : Prop :=
  ∃ v, Entries.find? params key = some v ∧ (∀ s, v ≠ .string s) ∧ e = .invalidParam key "a string" v.typeName

theorem required_eq_ok_iff : params.required key = .ok s ↔ Entries.find? params key = some (.string s) := by
  unfold required
  cases Entries.find? params key with
  | none => exact ⟨nofun, nofun⟩
  | some v => cases v <;> simp [textParam]

theorem optional_eq_ok_iff : params.optional key = .ok s ↔
    Entries.find? params key = some (.string s) ∨ Entries.find? params key = none ∧ s = "" := by
  unfold optional
  cases Entries.find? params key with
  | none => simp [eq_comm]
  | some v => cases v <;> simp [textParam]

theorem of_textParam_eq_error {v : Value} (bound : Entries.find? params key = some v)
    (failed : textParam key v = .error e) : params.IsOther key e := by
  cases v with
  | string s => cases failed
  | _ =>
    cases failed
    exact ⟨_, bound, nofun, rfl⟩

/-- A text that has to be there is not there, or there is something else. -/
theorem of_required_eq_error (failed : params.required key = .error e) :
    Entries.find? params key = none ∧ e = .missingParam key ∨ params.IsOther key e := by
  unfold required at failed
  cases bound : Entries.find? params key with
  | none =>
    rw [bound] at failed
    cases failed
    exact .inl ⟨rfl, rfl⟩
  | some v =>
    rw [bound] at failed
    exact .inr (of_textParam_eq_error bound failed)

theorem of_optional_eq_error (failed : params.optional key = .error e) : params.IsOther key e := by
  unfold optional at failed
  cases bound : Entries.find? params key with
  | none =>
    rw [bound] at failed
    cases failed
  | some v =>
    rw [bound] at failed
    exact of_textParam_eq_error bound failed

end ValueMap

/-! ## Reading all of them -/

namespace StateParams

variable {params rest : ValueMap} {p : StateParams} {e : StateError}

/-- The parameters that a map gives, or what is wrong with the first that it does not give. -/
def given (params : ValueMap) : Except StateError StateParams := do
  let moduleName ← params.required moduleNameKey
  let className ← params.required classNameKey
  let modulePath ← params.optional modulePathKey
  let writeMethod ← params.optional writeMethodKey
  return { modulePath, moduleName, className, writeMethod }

/-- A lookup leaves the map as it is. -/
theorem run_lookUp {α β : Type} (find : ValueMap → Except StateError α)
    (next : α → ExceptT StateError (StateM ValueMap) β) (params : ValueMap) :
    (do let a ← find (← get); next a : ExceptT StateError (StateM ValueMap) β).run params =
      match find params with
      | .ok a => (next a).run params
      | .error e => (.error e, params) := by
  show ((liftM (find params) : ExceptT StateError (StateM ValueMap) α) >>= next).run params = _
  cases find params <;> rfl

/-- All lookups come before the first key is taken out. -/
theorem run_readFrom (remove : Bool) (params : ValueMap) : (readFrom remove).run params =
    match given params with
    | .ok p => (.ok p, if remove then without params else params)
    | .error e => (.error e, params) := by
  unfold readFrom given
  rw [run_lookUp]
  cases params.required moduleNameKey with
  | error e => rfl
  | ok moduleName =>
    dsimp only
    rw [run_lookUp]
    cases params.required classNameKey with
    | error e => rfl
    | ok className =>
      dsimp only
      rw [run_lookUp]
      cases params.optional modulePathKey with
      | error e => rfl
      | ok modulePath =>
        dsimp only
        rw [run_lookUp]
        cases params.optional writeMethodKey with
        | error e => rfl
        | ok writeMethod => cases remove <;> rfl

/-! ## What is read -/

/-- The map gives the parameters. -/
structure Gives (params : ValueMap) (p : StateParams) : Prop where
  moduleName : Entries.find? params moduleNameKey = some (.string p.moduleName)
  className : Entries.find? params classNameKey = some (.string p.className)
  modulePath : Entries.find? params modulePathKey = some (.string p.modulePath) ∨
    Entries.find? params modulePathKey = none ∧ p.modulePath = ""
  writeMethod : Entries.find? params writeMethodKey = some (.string p.writeMethod) ∨
    Entries.find? params writeMethodKey = none ∧ p.writeMethod = ""

/-- What is wrong with a map that gives no parameters, by what is told of it. -/
inductive Lacks (params : ValueMap) : StateError → Prop
  | missing {key : String} (required : key = moduleNameKey ∨ key = classNameKey)
      (unbound : Entries.find? params key = none) : Lacks params (.missingParam key)
  | other {key : String} {e : StateError} (mem : key ∈ keys) (other : params.IsOther key e) : Lacks params e

theorem given_eq_ok_iff : given params = .ok p ↔ Gives params p := by
  constructor
  · intro read
    obtain ⟨moduleName, module, read⟩ := of_bind_eq_ok read
    obtain ⟨className, name, read⟩ := of_bind_eq_ok read
    obtain ⟨modulePath, path, read⟩ := of_bind_eq_ok read
    obtain ⟨writeMethod, method, read⟩ := of_bind_eq_ok read
    cases read
    exact ⟨ValueMap.required_eq_ok_iff.1 module, ValueMap.required_eq_ok_iff.1 name,
      ValueMap.optional_eq_ok_iff.1 path, ValueMap.optional_eq_ok_iff.1 method⟩
  · intro gives
    unfold given
    rw [ValueMap.required_eq_ok_iff.2 gives.moduleName, ValueMap.required_eq_ok_iff.2 gives.className,
      ValueMap.optional_eq_ok_iff.2 gives.modulePath, ValueMap.optional_eq_ok_iff.2 gives.writeMethod]
    rfl

theorem exists_gives_iff : (∃ p, Gives params p) ↔ params.IsText moduleNameKey ∧ params.IsText classNameKey ∧
    params.IsTextIfBound modulePathKey ∧ params.IsTextIfBound writeMethodKey := by
  constructor
  · rintro ⟨p, module, name, path, method⟩
    refine ⟨⟨_, module⟩, ⟨_, name⟩, ?_, ?_⟩
    · exact path.elim (fun text => .inr ⟨_, text⟩) fun unbound => .inl unbound.1
    · exact method.elim (fun text => .inr ⟨_, text⟩) fun unbound => .inl unbound.1
  · have optional {key : String} (text : params.IsTextIfBound key) : ∃ s : String,
        Entries.find? params key = some (.string s) ∨ Entries.find? params key = none ∧ s = "" := by
      rcases text with unbound | ⟨s, bound⟩
      · exact ⟨"", .inr ⟨unbound, rfl⟩⟩
      · exact ⟨s, .inl bound⟩
    rintro ⟨⟨moduleName, module⟩, ⟨className, name⟩, path, method⟩
    obtain ⟨modulePath, path⟩ := optional path
    obtain ⟨writeMethod, method⟩ := optional method
    exact ⟨{ modulePath, moduleName, className, writeMethod }, module, name, path, method⟩

theorem lacks_of_required {key : String} (isName : key = moduleNameKey ∨ key = classNameKey)
    (failed : params.required key = .error e) : Lacks params e := by
  rcases ValueMap.of_required_eq_error failed with ⟨unbound, rfl⟩ | other
  · exact .missing isName unbound
  · have mem : key ∈ keys := by rcases isName with rfl | rfl <;> decide
    exact .other mem other

theorem lacks_of_given (failed : given params = .error e) : Lacks params e := by
  rcases of_bind_eq_error failed with module | ⟨moduleName, -, failed⟩
  · exact lacks_of_required (.inl rfl) module
  rcases of_bind_eq_error failed with name | ⟨className, -, failed⟩
  · exact lacks_of_required (.inr rfl) name
  rcases of_bind_eq_error failed with path | ⟨modulePath, -, failed⟩
  · exact .other (by decide) (ValueMap.of_optional_eq_error path)
  rcases of_bind_eq_error failed with method | ⟨writeMethod, -, failed⟩
  · exact .other (by decide) (ValueMap.of_optional_eq_error method)
  cases failed

/-- What is left are the entries under other keys. -/
theorem without_eq_filter (params : ValueMap) : without params = params.filter fun e => e.1 ∉ keys :=
  Entries.foldl_erase keys params

/-- Parameters were read: the map gives them, and has lost them if that was asked for. -/
theorem of_readFrom_ok {remove : Bool} (run : (readFrom remove).run params = (.ok p, rest)) :
    Gives params p ∧ rest = if remove then without params else params := by
  rw [run_readFrom] at run
  cases read : given params with
  | ok p' =>
    rw [read] at run
    cases run
    exact ⟨given_eq_ok_iff.1 read, rfl⟩
  | error e =>
    rw [read] at run
    cases run

/-- Parameters were not read: the map does not give them, and has kept everything. -/
theorem of_readFrom_error {remove : Bool} (run : (readFrom remove).run params = (.error e, rest)) :
    Lacks params e ∧ rest = params := by
  rw [run_readFrom] at run
  cases read : given params with
  | ok p =>
    rw [read] at run
    cases run
  | error e' =>
    rw [read] at run
    cases run
    exact ⟨lacks_of_given read, rfl⟩

theorem readFrom_of_gives (remove : Bool) (gives : Gives params p) :
    (readFrom remove).run params = (.ok p, if remove then without params else params) := by
  rw [run_readFrom, given_eq_ok_iff.2 gives]

/-! ## What is put back -/

/-- Put parameters back into a map. -/
def putInto (p : StateParams) (params : ValueMap) : ValueMap :=
  Entries.insert modulePathKey (.string p.modulePath) <|
    Entries.insert moduleNameKey (.string p.moduleName) <|
      Entries.insert classNameKey (.string p.className) <|
        Entries.insert writeMethodKey (.string p.writeMethod) params

theorem gives_putInto (p : StateParams) (params : ValueMap) : Gives (p.putInto params) p := by
  constructor
  all_goals simp [putInto, Entries.find?_insert, modulePathKey, moduleNameKey, classNameKey, writeMethodKey]

theorem without_putInto (p : StateParams) (params : ValueMap) : without (p.putInto params) = without params := by
  unfold putInto
  rw [without_eq_filter, without_eq_filter, Entries.filter_insert_of_mem (by decide),
    Entries.filter_insert_of_mem (by decide), Entries.filter_insert_of_mem (by decide),
    Entries.filter_insert_of_mem (by decide)]

theorem without_without (params : ValueMap) : without (without params) = without params := by
  rw [without_eq_filter (without params), without_eq_filter, List.filter_filter]
  exact List.filter_congr fun _ _ => Bool.and_self _

end StateParams

/-! ## What the class gets -/

namespace Creator

/-- The arguments of the class: the parameters as one, or none if there are none. -/
def arguments (params : ValueMap) : List Value := if params.isEmpty then [] else [.map params]

theorem arguments_eq_nil_iff {params : ValueMap} : arguments params = [] ↔ params = [] := by
  cases params <;> simp [arguments]

/-- A class that the parameters name gets what is left of them. -/
theorem createObject_of_readFrom {params rest : ValueMap} {p : StateParams}
    (read : (StateParams.readFrom true).run params = (.ok p, rest)) :
    createObject none params = do return (← StateObject.create p rest).map ObjectState.ofObject := by
  have taken : split none params = .ok (p, rest) := by
    rw [split, StateParams.extract, read]
    rfl
  unfold createObject
  rw [taken]

/-- No class gets anything if the parameters are not good. -/
theorem createObject_of_readFrom_error {params rest : ValueMap} {e : StateError}
    (read : (StateParams.readFrom true).run params = (.error e, rest)) :
    createObject none params = return .error e := by
  have refused : split none params = .error e := by
    rw [split, StateParams.extract, read]
    rfl
  unfold createObject
  rw [refused]

end Creator

namespace StateParams

/-- What taking the parameters of a state from a map comes to, and what the class gets of the map. -/
structure Partitions (params : ValueMap) : Prop where
  /-- The parameters are read exactly if the names are texts and the other two are texts as far as there are any. -/
  succeeds : ∀ remove, (∃ p rest, (readFrom remove).run params = (.ok p, rest)) ↔
    params.IsText moduleNameKey ∧ params.IsText classNameKey ∧ params.IsTextIfBound modulePathKey ∧
      params.IsTextIfBound writeMethodKey
  /-- Otherwise the map is as it was, and the error tells what is wrong with it. -/
  refused : ∀ remove e rest, (readFrom remove).run params = (.error e, rest) → rest = params ∧ Lacks params e
  /-- What is read is what the map gives. -/
  gives : ∀ remove p rest, (readFrom remove).run params = (.ok p, rest) → Gives params p
  /-- To read and not to take comes to the same, and leaves the map as it was. -/
  reading : (readFrom false).run params = (((readFrom true).run params).1, params)
  /-- What is left are the entries under other keys, -/
  left : ∀ p rest, (readFrom true).run params = (.ok p, rest) → rest = params.filter fun e => e.1 ∉ keys
  /-- so these keys are unbound and all others are bound to what they were bound to. -/
  untouched : ∀ p rest, (readFrom true).run params = (.ok p, rest) → ∀ key,
    Entries.find? rest key = if key ∈ keys then none else Entries.find? params key
  /-- With the parameters put back they are taken again, and the same is left. -/
  again : ∀ p rest, (readFrom true).run params = (.ok p, rest) →
    (readFrom true).run (p.putInto rest) = (.ok p, rest)
  /-- An object is created from what is left, of the class that the map names. -/
  created : ∀ p rest, (readFrom true).run params = (.ok p, rest) →
    Creator.createObject none params = do return (← StateObject.create p rest).map ObjectState.ofObject
  /-- The call of the class gets what is left as one argument, -/
  passed : ∀ p rest, StateObject.create p rest = do
    return ((← StateObject.make StateObject.createMethod p (Creator.arguments rest)).map
      fun i => ⟨p, some i⟩).mapError .call
  /-- and no argument exactly if the map has no other keys. -/
  alone : ∀ p rest, (readFrom true).run params = (.ok p, rest) →
    (Creator.arguments rest = [] ↔ ∀ e ∈ params, e.1 ∈ keys)
  /-- No class is looked for if the parameters are not good. -/
  uncreated : ∀ e rest, (readFrom true).run params = (.error e, rest) →
    Creator.createObject none params = return .error e
  /-- If the class is fixed the object is created from the whole map. -/
  fixed : ∀ p, Creator.createObject (some p) params = do
    return (← StateObject.create p params).map ObjectState.ofObject

/-- The parameters are taken as a whole or not at all, and the class gets the rest. -/
theorem partitions (params : ValueMap) : Partitions params where
  succeeds remove := by
    rw [← exists_gives_iff]
    constructor
    · rintro ⟨p, rest, run⟩
      exact ⟨p, (of_readFrom_ok run).1⟩
    · rintro ⟨p, gives⟩
      exact ⟨p, _, readFrom_of_gives remove gives⟩
  refused remove e rest run := (of_readFrom_error run).symm
  gives remove p rest run := (of_readFrom_ok run).1
  reading := by
    rw [run_readFrom, run_readFrom]
    cases given params <;> rfl
  left p rest run := by
    rw [(of_readFrom_ok run).2, if_pos rfl, without_eq_filter]
  untouched p rest run key := by
    rw [(of_readFrom_ok run).2, if_pos rfl, without_eq_filter]
    by_cases mem : key ∈ keys
    · rw [if_pos mem]
      exact Entries.find?_filter_of_mem mem
    · rw [if_neg mem]
      exact Entries.find?_filter_of_notMem mem
  again p rest run := by
    have left : rest = without params := (of_readFrom_ok run).2
    rw [readFrom_of_gives true (gives_putInto p rest), if_pos rfl, without_putInto, left, without_without]
  created p rest := Creator.createObject_of_readFrom
  alone p rest run := by
    rw [Creator.arguments_eq_nil_iff, (of_readFrom_ok run).2, if_pos rfl, without_eq_filter, List.filter_eq_nil_iff]
    simp
  uncreated e rest := Creator.createObject_of_readFrom_error
  passed _ _ := rfl
  fixed _ := rfl

end StateParams

end InterpreterHost
