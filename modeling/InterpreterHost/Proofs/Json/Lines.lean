import InterpreterHost.Proofs.Json.Documents

/-!
# Documents on one line

A document that is written without blanks is written without control characters: strings escape them, and
numbers have none.  So the text of a document is a single line.

## Main definitions

* `Json.Plain` — a text without control characters

## Main statements

* `Json.plain_compactChars` — the text of a document has none
* `Json.newline_notMem_compact` — in particular no line ends in it
-/

namespace InterpreterHost.Json

/-- There are no control characters in the text. -/
def Plain (text : List Char) : Prop := ∀ c ∈ text, 0x20 ≤ c.toNat

namespace Plain

variable {s t : List Char}

theorem append (first : Plain s) (second : Plain t) : Plain (s ++ t) := List.forall_mem_append.2 ⟨first, second⟩

theorem cons {c : Char} (seen : 0x20 ≤ c.toNat) (rest : Plain s) : Plain (c :: s) :=
  List.forall_mem_cons.2 ⟨seen, rest⟩

theorem singleton {c : Char} (seen : 0x20 ≤ c.toNat) : Plain [c] := cons seen (List.forall_mem_nil _)

end Plain

instance (text : List Char) : Decidable (Plain text) := List.decidableBAll _ text

/-! ## Numbers -/

theorem Digits.plain {digits : List Char} (h : Digits digits) : Plain digits := by
  intro c member
  have digit := h c member
  simp only [Char.isDigit, ge_iff_le, Bool.and_eq_true, decide_eq_true_eq] at digit
  exact Nat.le_trans (by decide) (UInt32.le_iff_toNat_le.1 digit.1)

theorem plain_toString_nat (n : Nat) : Plain (toString n).toList := by
  have digits : (toString n).toList = Nat.toDigits 10 n := Nat.toList_repr
  rw [digits]
  exact (digits_toDigits n).plain

theorem plain_toString_int (i : Int) : Plain (toString i).toList := by
  cases i with
  | ofNat n => exact plain_toString_nat n
  | negSucc n =>
    have minus : (toString (Int.negSucc n)).toList = '-' :: (toString (n + 1)).toList := by
      change ("-" ++ Nat.repr (n + 1)).toList = _
      rw [String.toList_append]
      rfl
    rw [minus]
    exact .cons (by decide) (plain_toString_nat (n + 1))

theorem plain_zeros (n : Nat) : Plain (Decimal.Layout.zeros n).toList := by
  rw [Decimal.Layout.zeros, String.toList_ofList]
  exact (digits_zeros n).plain

section

variable {digits : String} (h : Plain digits.toList)
include h

theorem plain_take (n : Nat) : Plain (String.ofList (digits.toList.take n)).toList := by
  rw [String.toList_ofList]
  exact fun c member => h c (List.mem_of_mem_take member)

theorem plain_drop (n : Nat) : Plain (String.ofList (digits.toList.drop n)).toList := by
  rw [String.toList_ofList]
  exact fun c member => h c (List.mem_of_mem_drop member)

theorem plain_positional (point : Int) : Plain (layout.positional digits point).toList := by
  unfold Decimal.Layout.positional
  split
  · rw [String.toList_append, String.toList_append]
    exact (Plain.append (by decide) (plain_zeros _)).append h
  · split
    · rw [String.toList_append, String.toList_append]
      exact (h.append (plain_zeros _)).append (by decide)
    · rw [String.toList_append, String.toList_append]
      exact ((plain_take h _).append (by decide)).append (plain_drop h _)

theorem plain_scientific (point : Int) : Plain (layout.scientific digits point).toList := by
  have mantissa : Plain (if digits.length ≤ 1 then digits
      else String.ofList (digits.toList.take 1) ++ "." ++ String.ofList (digits.toList.drop 1)).toList := by
    split
    · exact h
    · rw [String.toList_append, String.toList_append]
      exact ((plain_take h _).append (by decide)).append (plain_drop h _)
  have exponent : Plain (if point - 1 < 0 then "e-" else "e+").toList := by
    split <;> decide
  unfold Decimal.Layout.scientific
  rw [String.toList_append, String.toList_append, String.toList_append]
  exact ((mantissa.append exponent).append (plain_zeros _)).append (plain_toString_nat _)

end

theorem plain_floatChars (f : Binary64) : Plain (floatChars f) := by
  unfold floatChars
  split
  · unfold Decimal.Layout.render
    split
    · decide
    · rw [String.toList_append]
      refine .append ?_ ?_
      · split <;> decide
      · split
        · decide
        · unfold Decimal.Layout.renderMagnitude
          dsimp only
          split
          · decide
          · split
            · exact plain_positional (plain_toString_nat _) _
            · exact plain_scientific (plain_toString_nat _) _
  · decide

/-! ## Strings -/

theorem plain_escapeChar (c : Char) : Plain (escapeChar c) := by
  unfold escapeChar
  split
  any_goals decide
  split
  · next control =>
    -- All that is escaped by its number is written with digits.
    have all : ∀ n < 0x20, Plain (['\\', 'u'] ++ Text.hex 4 n) := by decide
    exact all _ control
  · next seen => exact .singleton (Nat.le_of_not_lt seen)

theorem plain_stringChars (s : String) : Plain (stringChars s) := by
  refine .append (.cons (by decide) fun c member => ?_) (by decide)
  obtain ⟨original, -, within⟩ := List.mem_flatMap.1 member
  exact plain_escapeChar original c within

/-! ## Documents -/

theorem plain_compactItems {items : List Json} (parts : ∀ v ∈ items, Plain (compactChars v)) :
    Plain (compactItems items) := by
  induction items with
  | nil => decide
  | cons v items ih =>
    obtain ⟨head, tail⟩ := List.forall_mem_cons.1 parts
    rw [compactItems]
    exact .append (.cons (by decide) head) (ih tail)

theorem plain_compactEntries {entries : List (String × Json)} (parts : ∀ e ∈ entries, Plain (compactChars e.2)) :
    Plain (compactEntries entries) := by
  induction entries with
  | nil => decide
  | cons e entries ih =>
    obtain ⟨head, tail⟩ := List.forall_mem_cons.1 parts
    rw [compactEntries]
    exact .append (.cons (by decide) (.append (plain_stringChars e.1) (.cons (by decide) head))) (ih tail)

/-- The text of a document has no control characters. -/
theorem plain_compactChars (j : Json) : Plain (compactChars j) := by
  induction j using Json.induction with
  | null =>
    rw [compactChars]
    decide
  | bool b =>
    rw [compactChars]
    cases b <;> decide
  | integer i =>
    rw [compactChars]
    exact plain_toString_int i
  | float f =>
    rw [compactChars]
    exact plain_floatChars f
  | string s =>
    rw [compactChars]
    exact plain_stringChars s
  | array items parts =>
    cases items with
    | nil =>
      rw [compactChars]
      decide
    | cons v items =>
      obtain ⟨head, tail⟩ := List.forall_mem_cons.1 parts
      rw [compactChars]
      exact .append (.cons (by decide) head) (plain_compactItems tail)
  | object entries parts =>
    cases entries with
    | nil =>
      rw [compactChars]
      decide
    | cons e entries =>
      obtain ⟨head, tail⟩ := List.forall_mem_cons.1 parts
      rw [compactChars]
      exact .append (.cons (by decide) (.append (plain_stringChars e.1) (.cons (by decide) head)))
        (plain_compactEntries tail)

/-- No line ends within the text of a document. -/
theorem newline_notMem_compact (j : Json) : '\n' ∉ j.compact.toList := by
  intro member
  rw [compact, String.toList_ofList] at member
  exact absurd (plain_compactChars j '\n' member) (by decide)

end InterpreterHost.Json
