import InterpreterHost.Proofs.Value.Bindings
import InterpreterHost.Proofs.Value.Truncation

/-!
# Equality of values

A value is a tree whose inner nodes are arrays and maps, and its equality is one of trees: two values are equal if
their roots agree and each step leads to equal parts of both or to none of either, `equals_iff`.  An array is
compared item by item, so for arrays this is the definition.  Of maps one side is gone through and the other looked
up, and that nothing more is in the other follows by counting.  All laws are read off this one equation, by
induction on the parts of a value.

## Main definitions

* `Value.Step`, `Value.part?` — the way from a container to one of its parts
* `Value.at?` — the part at the end of a path
* `Value.sameNode` — two roots agree
* `Value.EqualityLaws` — what holds of the equality of three values

## Main statements

* `Value.equals_map_iff` — maps are equal if they bind the same keys to equal values
* `Value.equals_iff` — values are equal if their roots agree and their parts are equal
* `Value.equalityLaws` — equality is symmetric and transitive, and reflexive exactly where there is no NaN
-/

namespace InterpreterHost

theorem Binary64.ieeeEq_trans {a b c : Binary64} (h : a.ieeeEq b = true) (h' : b.ieeeEq c = true) :
    a.ieeeEq c = true := by
  have zero {x y : Binary64} (same : x.bits = y.bits) : x.isZero = y.isZero := by
    rw [Binary64.isZero, Binary64.magnitude, same, Binary64.isZero, Binary64.magnitude]
  simp only [ieeeEq, Bool.and_eq_true, Bool.not_eq_true', Bool.or_eq_true, beq_iff_eq] at h h' ⊢
  obtain ⟨⟨number, -⟩, first⟩ := h
  obtain ⟨⟨-, number'⟩, second⟩ := h'
  refine ⟨⟨number, number'⟩, ?_⟩
  rcases first with same | ⟨here, there⟩
  · rcases second with same' | ⟨here, there⟩
    · exact .inl (same.trans same')
    · exact .inr ⟨(zero same).trans here, there⟩
  · rcases second with same' | ⟨-, there'⟩
    · exact .inr ⟨here, (zero same').symm.trans there⟩
    · exact .inr ⟨here, there'⟩

namespace Value

/-! ## Parts -/

/-- The way from a container to one of its parts. -/
inductive Step where
  | item (i : Nat)
  | entry (key : String)
deriving DecidableEq, Repr

/-- The part that a step leads to. -/
def part? : Value → Step → Option Value
  | array items, .item i => items[i]?
  | map entries, .entry key => Entries.find? entries key
  | _, _ => none

/-- The part at the end of a path. -/
def at? : Value → List Step → Option Value
  | v, [] => some v
  | v, step :: path => (v.part? step).bind fun part => part.at? path

theorem at?_cons_of_part? {v part : Value} {step : Step} (found : v.part? step = some part) (path : List Step) :
    v.at? (step :: path) = part.at? path := by
  rw [at?, found, Option.bind_some]

/-- What holds of a value if it holds of all its parts holds of every value. -/
theorem part_induction {motive : Value → Prop}
    (node : ∀ v, (∀ step part, v.part? step = some part → motive part) → motive v) (v : Value) : motive v := by
  induction v using Value.induction with
  | array items parts =>
    refine node _ fun step part found => ?_
    cases step with
    | item i => exact parts part (List.mem_of_getElem? found)
    | entry key => cases found
  | map entries parts =>
    refine node _ fun step part found => ?_
    cases step with
    | item i => cases found
    | entry key => exact parts (key, part) (Entries.mem_of_find? found)
  | _ => exact node _ fun step part found => by cases step <;> cases found

theorem Distinct.part {v part : Value} {step : Step} (distinct : v.Distinct) (found : v.part? step = some part) :
    part.Distinct := by
  unfold part? at found
  split at found
  · exact distinctItems_iff.1 distinct part (List.mem_of_getElem? found)
  · exact distinctEntries_iff.1 distinct.2 _ (Entries.mem_of_find? found)
  · cases found

/-! ## Equality by parts -/

/-- The values are equal. -/
abbrev Equals (a b : Value) : Prop := a.equal b = true

/-- Two roots agree: they have the same type, and the same content unless it is parts. -/
def sameNode : Value → Value → Bool
  | null, null => true
  | bool a, bool b => a == b
  | int a, int b => a == b
  | float a, float b => a.ieeeEq b
  | string a, string b => a == b
  | blob a, blob b => a == b
  | timestamp a, timestamp b => a == b
  | array _, array _ => true
  | map _, map _ => true
  | _, _ => false

theorem sameNode_comm (a b : Value) : sameNode a b = sameNode b a := by
  cases a <;> cases b <;> first | rfl | exact Bool.beq_comm | exact Binary64.ieeeEq_comm _ _

theorem sameNode_trans {a b c : Value} (h : sameNode a b = true) (h' : sameNode b c = true) :
    sameNode a c = true := by
  cases a <;> cases b <;> simp only [sameNode, Bool.false_eq_true] at h <;>
    cases c <;> simp only [sameNode, Bool.false_eq_true, beq_iff_eq] at h' h ⊢
  all_goals first | exact h.trans h' | exact Binary64.ieeeEq_trans h h'

theorem typeName_of_sameNode {a b : Value} (h : sameNode a b = true) : a.typeName = b.typeName := by
  cases a <;> cases b <;> first | rfl | cases h

/-- Arrays are equal if they have equal items at the same places. -/
theorem equalItems_iff {items items' : List Value} :
    equalItems items items' = true ↔ ∀ i : Nat, Option.Rel Equals items[i]? items'[i]? := by
  induction items generalizing items' with
  | nil =>
    cases items' with
    | nil => exact iff_of_true rfl fun i => .none
    | cons w items' => exact iff_of_false Bool.false_ne_true fun all => nomatch all 0
  | cons v items ih =>
    cases items' with
    | nil => exact iff_of_false Bool.false_ne_true fun all => nomatch all 0
    | cons w items' =>
      rw [equalItems, Bool.and_eq_true, ih]
      refine ⟨fun both i => ?_, fun all => ⟨?_, fun i => all (i + 1)⟩⟩
      · cases i with
        | zero => exact .some both.1
        | succ i => exact both.2 i
      · exact (Option.rel_some_some (r := Equals)).1 (all 0)

theorem equalEntries_iff {m n : ValueMap} :
    equalEntries m n = true ↔ ∀ e ∈ m, ∃ w, n.find? e.1 = some w ∧ e.2.Equals w := by
  induction m with
  | nil => exact iff_of_true rfl (List.forall_mem_nil _)
  | cons e m ih =>
    rw [equalEntries, Bool.and_eq_true, ih, List.forall_mem_cons]
    refine and_congr_left fun _ => ?_
    cases n.find? e.1 <;> simp

section

variable {m n : ValueMap}

/-- Maps are equal if they bind the same keys to equal values. -/
theorem equals_map_iff (distinct : m.Distinct) (distinct' : n.Distinct) :
    (map m).Equals (map n) ↔ ∀ k, Option.Rel Equals (m.find? k) (n.find? k) := by
  rw [Equals, equal, Bool.and_eq_true, beq_iff_eq, equalEntries_iff]
  constructor
  · rintro ⟨length, bound⟩ k
    cases found : m.find? k with
    | some v =>
      obtain ⟨w, found', equals⟩ := bound (k, v) (Entries.mem_of_find? found)
      rw [found']
      exact .some equals
    | none =>
      -- As many keys are bound on both sides, so the other side has no more.
      have subset : ∀ k ∈ m.keys, k ∈ n.keys := by
        intro j mem
        obtain ⟨e, member, rfl⟩ := List.mem_map.1 mem
        obtain ⟨w, found', -⟩ := bound e member
        exact List.mem_map.2 ⟨(e.1, w), Entries.mem_of_find? found', rfl⟩
      have absent : k ∉ n.keys := fun mem =>
        Entries.find?_eq_none_iff.1 found (Entries.mem_keys_of_length_eq distinct length subset mem)
      rw [Entries.find?_eq_none_iff.2 absent]
      exact .none
  · intro related
    refine ⟨distinct.length_eq distinct' fun k => ?_, fun e mem => ?_⟩
    · rw [Entries.mem_keys_iff, Entries.mem_keys_iff]
      rcases rel_cases (related k) with ⟨absent, absent'⟩ | ⟨v, w, found, found', -⟩
      · rw [absent, absent']
      · rw [found, found']
        exact iff_of_true nofun nofun
    · have found : m.find? e.1 = some e.2 := distinct.find?_eq_some_iff.2 mem
      rcases rel_cases (related e.1) with ⟨absent, -⟩ | ⟨v, w, found', there, equals⟩
      · rw [found] at absent
        cases absent
      · rw [found] at found'
        cases found'
        exact ⟨w, there, equals⟩

end

section

variable {a b c : Value}

/-- Without parts on either side, the roots decide. -/
theorem equals_iff_of_leaf (leaf : ∀ step, a.part? step = none) (leaf' : ∀ step, b.part? step = none)
    (equal : a.equal b = sameNode a b) :
    a.Equals b ↔ sameNode a b = true ∧ ∀ step, Option.Rel Equals (a.part? step) (b.part? step) := by
  rw [Equals, equal]
  refine (and_iff_left fun step => ?_).symm
  rw [leaf, leaf']
  exact .none

/-- Values are equal if their roots agree and each step leads to equal parts of both or to none of either. -/
theorem equals_iff (distinct : a.Distinct) (distinct' : b.Distinct) :
    a.Equals b ↔ sameNode a b = true ∧ ∀ step, Option.Rel Equals (a.part? step) (b.part? step) := by
  by_cases same : sameNode a b = true
  · cases a <;> cases b <;> first | cases same; done | skip
    case array.array items items' =>
      refine equalItems_iff.trans ⟨fun all => ⟨rfl, fun step => ?_⟩, fun both i => both.2 (.item i)⟩
      cases step with
      | item i => exact all i
      | entry key => exact .none
    case map.map m n =>
      refine (equals_map_iff distinct.1 distinct'.1).trans
        ⟨fun all => ⟨rfl, fun step => ?_⟩, fun both k => both.2 (.entry k)⟩
      cases step with
      | item i => exact .none
      | entry key => exact all key
    all_goals exact equals_iff_of_leaf (fun step => by cases step <;> rfl) (fun step => by cases step <;> rfl) rfl
  · refine iff_of_false (fun equals => ?_) fun both => same both.1
    cases a <;> cases b <;> first | exact same equals | exact same rfl

/-! ## The laws -/

theorem Equals.symm (distinct : a.Distinct) (distinct' : b.Distinct) (equals : a.Equals b) : b.Equals a := by
  induction a using part_induction generalizing b with
  | node a ih =>
    obtain ⟨same, parts⟩ := (equals_iff distinct distinct').1 equals
    refine (equals_iff distinct' distinct).2 ⟨(sameNode_comm b a).trans same, fun step => ?_⟩
    rcases rel_cases (parts step) with ⟨absent, absent'⟩ | ⟨v, w, found, found', equals⟩
    · rw [absent, absent']
      exact .none
    · rw [found, found']
      exact .some (ih step v found (distinct.part found) (distinct'.part found') equals)

theorem Equals.trans (distinct : a.Distinct) (distinct' : b.Distinct) (distinct'' : c.Distinct)
    (equals : a.Equals b) (equals' : b.Equals c) : a.Equals c := by
  induction a using part_induction generalizing b c with
  | node a ih =>
    obtain ⟨same, parts⟩ := (equals_iff distinct distinct').1 equals
    obtain ⟨same', parts'⟩ := (equals_iff distinct' distinct'').1 equals'
    refine (equals_iff distinct distinct'').2 ⟨sameNode_trans same same', fun step => ?_⟩
    rcases rel_cases (parts step) with ⟨absent, absent'⟩ | ⟨v, w, found, found', equals⟩
    · have absent'' : c.part? step = none := by
        rcases rel_cases (parts' step) with ⟨-, absent''⟩ | ⟨_, _, found', -⟩
        · exact absent''
        · exact nomatch absent'.symm.trans found'
      rw [absent, absent'']
      exact .none
    · obtain ⟨u, found'', equals'⟩ : ∃ u, c.part? step = some u ∧ w.Equals u := by
        rcases rel_cases (parts' step) with ⟨absent', -⟩ | ⟨w', u, there, found'', equals'⟩
        · exact nomatch absent'.symm.trans found'
        · cases found'.symm.trans there
          exact ⟨u, found'', equals'⟩
      rw [found, found'']
      exact .some (ih step v found (distinct.part found) (distinct'.part found') (distinct''.part found'')
        equals equals')

/-- A value equals itself exactly if there is no NaN at the end of any path. -/
theorem equals_self_iff (distinct : a.Distinct) :
    a.Equals a ↔ ∀ path f, a.at? path = some (.float f) → f.isNaN = false := by
  induction a using part_induction with
  | node a ih =>
    rw [equals_iff distinct distinct]
    constructor
    · rintro ⟨same, parts⟩ path f found
      cases path with
      | nil =>
        cases found
        rwa [sameNode, Binary64.ieeeEq_self, Bool.not_eq_true'] at same
      | cons step path =>
        obtain ⟨part, there, found⟩ := Option.bind_eq_some_iff.1 found
        have equals := parts step
        rw [there, Option.rel_some_some] at equals
        exact (ih step part there (distinct.part there)).1 equals path f found
    · intro numbers
      refine ⟨?_, fun step => ?_⟩
      · cases a with
        | float f =>
          rw [sameNode, Binary64.ieeeEq_self, Bool.not_eq_true']
          exact numbers [] f rfl
        | null | array | map => rfl
        | bool | int | string | blob | timestamp => exact beq_self_eq_true _
      · cases there : a.part? step with
        | none => exact .none
        | some part =>
          refine .some ((ih step part there (distinct.part there)).2 fun path f found => ?_)
          exact numbers (step :: path) f ((at?_cons_of_part? there path).trans found)

/-- Equal values have equal parts of the same type at the end of every path, or both none. -/
theorem Equals.at (distinct : a.Distinct) (distinct' : b.Distinct) (equals : a.Equals b) (path : List Step) :
    Option.Rel (fun v w => v.Equals w ∧ v.typeName = w.typeName) (a.at? path) (b.at? path) := by
  induction path generalizing a b with
  | nil => exact .some ⟨equals, typeName_of_sameNode ((equals_iff distinct distinct').1 equals).1⟩
  | cons step path ih =>
    rcases rel_cases (((equals_iff distinct distinct').1 equals).2 step) with
      ⟨absent, absent'⟩ | ⟨v, w, found, found', equals⟩
    · rw [at?, at?, absent, absent']
      exact .none
    · rw [at?_cons_of_part? found, at?_cons_of_part? found']
      exact ih (distinct.part found) (distinct'.part found') equals

/-- What holds of the equality of three values. -/
structure EqualityLaws (a b c : Value) : Prop where
  symm : a.Equals b → b.Equals a
  trans : a.Equals b → b.Equals c → a.Equals c
  /-- A value equals itself exactly if there is no NaN anywhere in it. -/
  self_iff : a.Equals a ↔ ∀ path f, a.at? path = some (.float f) → f.isNaN = false
  /-- The nodes of equal values correspond: they are at the same paths, equal and of the same type. -/
  corresponds : a.Equals b → ∀ path,
    Option.Rel (fun v w => v.Equals w ∧ v.typeName = w.typeName) (a.at? path) (b.at? path)
  /-- Nowhere is one of them an integer and the other a float. -/
  int_ne_float : a.Equals b → ∀ path i f, a.at? path = some (.int i) → b.at? path ≠ some (.float f)
  /-- Maps are equal if they bind the same keys to equal values, in whatever order their tables have them. -/
  maps : ∀ m n : ValueMap, a = map m → b = map n →
    (a.Equals b ↔ ∀ k, Option.Rel Equals (m.find? k) (n.find? k))
  /-- So it is with maps that were collected, in whatever order, of which the last binding of a key counts. -/
  collected : ∀ pairs pairs', a = ofPairs pairs → b = ofPairs pairs' →
    (a.Equals b ↔ ∀ k, Option.Rel Equals (Entries.last? pairs k) (Entries.last? pairs' k))

/-- Equality of values, the entries of maps in any order, is symmetric and transitive; it is reflexive exactly where
there is no NaN; and it compares node with node. -/
theorem equalityLaws (distinct : a.Distinct) (distinct' : b.Distinct) (distinct'' : c.Distinct) :
    EqualityLaws a b c where
  symm := Equals.symm distinct distinct'
  trans := Equals.trans distinct distinct' distinct''
  self_iff := equals_self_iff distinct
  corresponds := Equals.at distinct distinct'
  int_ne_float equals path i f found found' := by
    have related := Equals.at distinct distinct' equals path
    rw [found, found', Option.rel_some_some] at related
    exact absurd (show "int" = "float" from related.2) (by decide)
  maps := by
    rintro m n rfl rfl
    exact equals_map_iff distinct.1 distinct'.1
  collected := by
    rintro pairs pairs' rfl rfl
    refine (equals_map_iff distinct.1 distinct'.1).trans (forall_congr' fun k => ?_)
    rw [Entries.find?_ofList, Entries.find?_ofList]

end

/-- A map with a zero and a list, as one table gives it. -/
def withZero (zero : Binary64) : Value := map [("zero", float zero), ("list", array [int 1, null])]

/-- The same map, as another table gives it. -/
def withZeroLast (zero : Binary64) : Value := map [("list", array [int 1, null]), ("zero", float zero)]

/-- Zeros of either sign, in maps of either order, and a NaN in their place. -/
theorem equalityLaws_withZero :
    (withZero ⟨0⟩).Distinct ∧ (withZeroLast (.pack true 0)).Distinct ∧
      EqualityLaws (withZero ⟨0⟩) (withZeroLast (.pack true 0)) (withZeroLast ⟨0⟩) ∧
      (withZero ⟨0⟩).Equals (withZeroLast (.pack true 0)) ∧ ¬ (withZero .nan).Equals (withZero .nan) := by
  have first (zero : Binary64) : (withZero zero).Distinct :=
    ⟨show ["zero", "list"].Nodup by decide, trivial, ⟨trivial, trivial, trivial⟩, trivial⟩
  have last (zero : Binary64) : (withZeroLast zero).Distinct :=
    ⟨show ["list", "zero"].Nodup by decide, ⟨trivial, trivial, trivial⟩, trivial, trivial⟩
  exact ⟨first _, last _, equalityLaws (first _) (last _) (last _), by decide, by decide⟩

end Value

end InterpreterHost
