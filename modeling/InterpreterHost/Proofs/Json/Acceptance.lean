import InterpreterHost.Proofs.Json.Documents

/-!
# What can be read

Whatever is read from a text is a proper document that does not nest too deep, so that it can be
written and read again.

## Main definitions

* `Json.Yields` — whatever is read has a property
* `Json.Within` — a document that can be written and read

## Main statements

* `Json.yields_readElementsAux`, `Json.yields_readMembersAux` — containers of any content
* `Json.yields_readValue` — documents
* `Json.read_eq_ok` — what is read from a whole text
-/

namespace InterpreterHost.Json

/-- Whatever is read has the property. -/
def Yields (P : α → Prop) (result : Except Refusal (α × List Char)) : Prop :=
  ∀ a rest, result = .ok (a, rest) → P a

section

variable {α β : Type} {P : α → Prop} {Q : β → Prop}

theorem yields_ok {a : α} (h : P a) (rest : List Char) : Yields P (.ok (a, rest)) := by
  rintro _ _ ⟨⟩
  exact h

theorem yields_error (r : Refusal) : Yields P (.error r) := by
  rintro _ _ ⟨⟩

theorem Yields.bind {first : Except Refusal (α × List Char)}
    {next : α × List Char → Except Refusal (β × List Char)} (h : Yields P first)
    (h' : ∀ a rest, P a → Yields Q (next (a, rest))) : Yields Q (first >>= next) := by
  cases first with
  | error r => exact yields_error r
  | ok p => exact h' p.1 p.2 (h p.1 p.2 rfl)

/-- What was read before does not matter. -/
theorem yields_bind {first : Except Refusal γ} {next : γ → Except Refusal (β × List Char)}
    (h : ∀ c, Yields Q (next c)) : Yields Q (first >>= next) := by
  cases first with
  | error r => exact yields_error r
  | ok c => exact h c

theorem Yields.map {first : Except Refusal (α × List Char)} (h : Yields P first) {f : α → β}
    (h' : ∀ a, P a → Q (f a)) : Yields Q (first.map fun p => (f p.1, p.2)) := by
  cases first with
  | error r => exact yields_error r
  | ok p => exact yields_ok (h' p.1 (h p.1 p.2 rfl)) p.2

end

/-! ## Numbers -/

/-- A number as it can be read. -/
def IsNumber : Json → Prop
  | integer i => isWordInteger i
  | float f => f.isFinite
  | _ => False

theorem yields_finiteFloat (negative : Bool) (d : Nat) (e : Int) (rest : List Char) :
    Yields IsNumber (finiteFloat (Binary64.ofDecimal negative d e) rest) := by
  have bound := Binary64.magnitude_ofDecimal_le negative d e
  unfold finiteFloat
  split
  · exact yields_error _
  · next finite =>
    refine yields_ok ?_ rest
    simp only [Binary64.isInfinite, beq_iff_eq] at finite
    simp only [IsNumber, Binary64.isFinite, decide_eq_true_eq]
    omega

theorem yields_readFloatEnd (negative : Bool) (digits : Nat) (exponent : Int) (s : List Char) :
    Yields IsNumber (readFloatEnd negative digits exponent s) := by
  unfold readFloatEnd
  split
  · split
    · refine yields_bind fun c => ?_
      split
      · exact yields_finiteFloat _ _ _ _
      · have zero : IsNumber (.float (.pack negative 0)) := Binary64.isFinite_zero negative
        exact yields_ok zero _
    · exact yields_finiteFloat _ _ _ _
  · exact yields_finiteFloat _ _ _ _

theorem yields_integerOrFloat (negative : Bool) (n : Nat) (rest : List Char) :
    Yields IsNumber (integerOrFloat negative n rest) := by
  unfold integerOrFloat
  split
  · split
    · next small =>
      refine yields_ok ?_ rest
      simp only [IsNumber, isWordInteger, Bool.and_eq_true, decide_eq_true_eq]
      omega
    · exact yields_finiteFloat _ _ _ _
  · split
    · next small =>
      refine yields_ok ?_ rest
      simp only [IsNumber, isWordInteger, Bool.and_eq_true, decide_eq_true_eq]
      omega
    · exact yields_finiteFloat _ _ _ _

theorem yields_readNumberEnd (negative : Bool) (digits s : List Char) :
    Yields IsNumber (readNumberEnd negative digits s) := by
  unfold readNumberEnd
  split
  · dsimp only
    split
    · split <;> exact yields_error _
    · exact yields_readFloatEnd _ _ _ _
  · split
    · exact yields_readFloatEnd _ _ _ _
    · exact yields_integerOrFloat _ _ _
  · exact yields_integerOrFloat _ _ _

theorem yields_readNumber (negative : Bool) (s : List Char) :
    Yields IsNumber (readNumber negative s) := by
  unfold readNumber
  split
  · exact yields_error _
  · split
    · split
      · exact yields_error _
      · exact yields_readNumberEnd _ _ _
    · exact yields_readNumberEnd _ _ _
  · split
    · exact yields_readNumberEnd _ _ _
    · exact yields_error _

/-! ## Containers -/

section

variable {α σ : Type} {P : α → Prop} {Q : σ → Prop}

theorem yields_readElementsAux {item : Reader α} (h : ∀ s, Yields P (item s)) (fuel : Nat)
    (first : Bool) (s : List Char) :
    Yields (fun items => ∀ a ∈ items, P a) (readElementsAux item fuel first s) := by
  induction fuel generalizing first s with
  | zero => exact yields_error _
  | succ fuel ih =>
    rw [readElementsAux]
    split
    · exact yields_error _
    · exact yields_ok (List.forall_mem_nil _) _
    · refine yields_bind fun start => (h start).bind fun a rest here => ?_
      refine (ih false rest).bind fun items rest' others => ?_
      exact yields_ok (List.forall_mem_cons.2 ⟨here, others⟩) rest'

theorem yields_readMembersAux {member : String → σ → Reader σ}
    (h : ∀ key acc s, Q acc → Yields Q (member key acc s)) (fuel : Nat) (first : Bool) {acc : σ}
    (start : Q acc) (s : List Char) : Yields Q (readMembersAux member fuel first acc s) := by
  induction fuel generalizing first acc s with
  | zero => exact yields_error _
  | succ fuel ih =>
    rw [readMembersAux]
    split
    · exact yields_error _
    · exact yields_ok start _
    · refine yields_bind fun s' => yields_bind fun p => ?_
      exact (h p.1 acc p.2 start).bind fun acc' rest here => ih false here rest

end

/-- A document that can be written and read, with at most so many containers within one another. -/
def Within (depth : Nat) (j : Json) : Prop := j.Proper ∧ j.nesting ≤ depth

/-- Entries of which the same holds. -/
def EntriesWithin (depth : Nat) (entries : Entries Json) : Prop :=
  entries.Ascending ∧ ∀ e ∈ entries, e.2.Within depth

theorem yields_readEntry {depth : Nat} {value : Reader Json} (h : ∀ s, Yields (Within depth) (value s))
    (key : String) (acc : Entries Json) (s : List Char) (start : EntriesWithin depth acc) :
    Yields (EntriesWithin depth) (readEntry value key acc s) := by
  unfold readEntry
  refine yields_bind fun s' => (h s').bind fun v rest here => yields_ok ?_ rest
  refine ⟨start.1.insert key v, fun e member => ?_⟩
  rcases Entries.mem_insert member with rfl | old
  · exact here
  · exact start.2 e old

theorem nestingItems_le_iff {items : List Json} {depth : Nat} :
    nestingItems items ≤ depth ↔ ∀ v ∈ items, v.nesting ≤ depth := by
  induction items with
  | nil => simp [nestingItems]
  | cons v items ih => rw [nestingItems_cons_le, ih, List.forall_mem_cons]

theorem nestingEntries_le_iff {entries : List (String × Json)} {depth : Nat} :
    nestingEntries entries ≤ depth ↔ ∀ e ∈ entries, e.2.nesting ≤ depth := by
  induction entries with
  | nil => simp [nestingEntries]
  | cons e entries ih => rw [nestingEntries_cons_le, ih, List.forall_mem_cons]

theorem within_array {depth : Nat} {items : List Json} (h : ∀ v ∈ items, v.Within depth) :
    (array items).Within (depth + 1) :=
  ⟨properItems_iff.2 fun v member => (h v member).1,
    Nat.succ_le_succ (nestingItems_le_iff.2 fun v member => (h v member).2)⟩

theorem EntriesWithin.object {depth : Nat} {entries : Entries Json} (h : EntriesWithin depth entries) :
    (object entries).Within (depth + 1) :=
  ⟨⟨h.1, properEntries_iff.2 fun e member => (h.2 e member).1⟩,
    Nat.succ_le_succ (nestingEntries_le_iff.2 fun e member => (h.2 e member).2)⟩

/-! ## Documents -/

section

variable {depth : Nat}

theorem within_null : null.Within depth := ⟨trivial, Nat.zero_le depth⟩

theorem within_bool (b : Bool) : (bool b).Within depth := ⟨trivial, Nat.zero_le depth⟩

theorem IsNumber.within {j : Json} (number : j.IsNumber) : j.Within depth := by
  cases j with
  | integer i => exact ⟨number, Nat.zero_le depth⟩
  | float f => exact ⟨number, Nat.zero_le depth⟩
  | _ => exact number.elim

theorem yields_number (negative : Bool) (s : List Char) :
    Yields (Within depth) (readNumber negative s) :=
  fun j rest read => (yields_readNumber negative s j rest read).within

theorem yields_string (s : List Char) :
    Yields (Within depth) ((readString s).map fun p => (.string p.1, p.2)) := by
  have anything : Yields (fun _ => True) (readString s) := fun _ _ _ => trivial
  exact anything.map fun _ _ => ⟨trivial, Nat.zero_le depth⟩

theorem yields_word {j : Json} (fits : j.Within depth) (word s : List Char) :
    Yields (Within depth) ((readWord word s).map (j, ·)) := by
  cases readWord word s with
  | error r => exact yields_error r
  | ok rest => exact yields_ok fits rest

end

/-- Whatever is read is proper and does not nest deeper than is allowed. -/
theorem yields_readValue (depth : Nat) (s : List Char) : Yields (Within depth) (readValue depth s) := by
  induction depth using Nat.strongRecOn generalizing s with
  | ind depth deeper =>
    unfold readValue
    split
    · exact yields_error _
    · exact yields_word within_null _ _
    · exact yields_word (within_bool true) _ _
    · exact yields_word (within_bool false) _ _
    · exact yields_number _ _
    · exact yields_string _
    · cases depth with
      | zero => exact yields_error _
      | succ depth =>
        exact (yields_readElementsAux (deeper depth (Nat.lt_succ_self depth)) _ true _).map fun items => within_array
    · cases depth with
      | zero => exact yields_error _
      | succ depth =>
        have start : EntriesWithin depth [] := ⟨List.Pairwise.nil, List.forall_mem_nil _⟩
        have entry := yields_readEntry (deeper depth (Nat.lt_succ_self depth))
        exact (yields_readMembersAux entry _ true start _).map fun entries => EntriesWithin.object
    · split
      · exact yields_number _ _
      · exact yields_error _

/-- What is read from a whole text can be written and read again. -/
theorem read_eq_ok {text : String} {j : Json} (h : read text = .ok j) : j.Within maxNesting := by
  unfold read readAll at h
  dsimp only at h
  cases first : readValue maxNesting text.toList with
  | error r =>
    rw [first] at h
    cases h
  | ok p =>
    have fits := yields_readValue maxNesting text.toList p.1 p.2 first
    rw [first] at h
    dsimp only [bind, Except.bind] at h
    split at h
    · cases h
      exact fits
    · cases h

end InterpreterHost.Json
