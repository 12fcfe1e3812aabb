import InterpreterHost.Json.Printer
import InterpreterHost.Json.Reader

/-!
# Strings in JSON

A string that was written is read as the same string: every character that is escaped is read from its
escape, and every other as it stands.

## Main statements

* `Json.readChar_escapeChar` — characters read back
* `Json.readString_escaped` — strings read back
-/

namespace InterpreterHost.Json

/-! ## Escapes -/

theorem hexDigit?_digitChar {n : Nat} (small : n < 16) : hexDigit? n.digitChar = some n := by
  have all : ∀ n < 16, hexDigit? (Nat.digitChar n) = some n := by decide
  exact all n small

/-- Four digits of base sixteen that were written of a small number. -/
theorem readHex4_hex {n : Nat} (small : n < 32) (rest : List Char) :
    readHex4 (Text.hex 4 n ++ rest) = .ok (n, rest) := by
  have written : ∀ n < 32, Text.hex 4 n = ['0', '0', (n / 16).digitChar, (n % 16).digitChar] := by
    decide
  have octets : ¬ Utf8.size ['0', '0', (n / 16).digitChar, (n % 16).digitChar] < 4 := by
    have first := Char.utf8Size_pos (n / 16).digitChar
    have second := Char.utf8Size_pos (n % 16).digitChar
    have zero : ('0' : Char).utf8Size = 1 := rfl
    simp only [Utf8.size_cons, Utf8.size_nil, zero]
    omega
  have zero : hexDigit? '0' = some 0 := rfl
  have first : hexDigit? (n / 16).digitChar = some (n / 16) := hexDigit?_digitChar (by omega)
  have second : hexDigit? (n % 16).digitChar = some (n % 16) := hexDigit?_digitChar (by omega)
  rw [written n small]
  simp only [readHex4, List.cons_append, List.nil_append, List.take_succ_cons, List.take_zero,
    if_neg octets, zero, first, second]
  have value : ((0 * 16 + 0) * 16 + n / 16) * 16 + n % 16 = n := by omega
  rw [value]

/-- A character that was written is read as the same character. -/
theorem readChar_escapeChar (c : Char) (rest : List Char) :
    readChar (escapeChar c ++ rest) = .ok (some c, rest) := by
  unfold escapeChar
  split
  · rfl
  · rfl
  · rfl
  · rfl
  · rfl
  · rfl
  · rfl
  · next quote backslash _ _ _ _ _ =>
    split
    · next control =>
      -- No character that is escaped by its number is a surrogate.
      have low : isTrailingSurrogate c.toNat = false := by
        simp only [isTrailingSurrogate, Bool.and_eq_false_iff, decide_eq_false_iff_not]
        omega
      have high : isLeadingSurrogate c.toNat = false := by
        simp only [isLeadingSurrogate, Bool.and_eq_false_iff, decide_eq_false_iff_not]
        omega
      change (readUnicodeEscape (Text.hex 4 c.toNat ++ rest)).map _ = _
      unfold readUnicodeEscape
      rw [readHex4_hex control]
      change (if isTrailingSurrogate c.toNat = true then _ else _ : Except Refusal _).map _ = _
      rw [low, high, Char.ofNat_toNat]
      rfl
    · next plain =>
      rw [List.singleton_append]
      unfold readChar
      split
      · next equal => cases equal
      · next equal =>
        cases equal
        exact absurd rfl quote
      · next equal =>
        cases equal
        exact absurd rfl backslash
      · next c' _ _ _ equal =>
        cases equal
        rw [if_neg plain]

/-! ## Strings -/

theorem length_escapeChar_pos (c : Char) : 0 < (escapeChar c).length := by
  unfold escapeChar
  split
  any_goals exact Nat.succ_pos _
  split <;> exact Nat.succ_pos _

theorem length_le_escaped (chars : List Char) : chars.length ≤ (chars.flatMap escapeChar).length := by
  induction chars with
  | nil => exact Nat.le_refl 0
  | cons c chars ih =>
    have one := length_escapeChar_pos c
    rw [List.flatMap_cons, List.length_append, List.length_cons]
    omega

theorem readCharsAux_escaped (chars rest : List Char) {fuel : Nat} (enough : chars.length < fuel) :
    readCharsAux fuel (chars.flatMap escapeChar ++ '"' :: rest) = .ok (chars, rest) := by
  induction chars generalizing fuel with
  | nil =>
    cases fuel with
    | zero => exact absurd enough (Nat.not_lt_zero _)
    | succ fuel =>
      rfl
  | cons c chars ih =>
    cases fuel with
    | zero => exact absurd enough (Nat.not_lt_zero _)
    | succ fuel =>
      have others := ih (Nat.lt_of_succ_lt_succ enough)
      rw [List.flatMap_cons, List.append_assoc, readCharsAux, readChar_escapeChar]
      change (readCharsAux fuel _ >>= _) = _
      rw [others]
      rfl

/-- A string that was written is read as the same string. -/
theorem readString_escaped (s : String) (rest : List Char) :
    readString (s.toList.flatMap escapeChar ++ '"' :: rest) = .ok (s, rest) := by
  have enough : s.toList.length < (s.toList.flatMap escapeChar ++ '"' :: rest).length + 1 := by
    have least := length_le_escaped s.toList
    rw [List.length_append]
    omega
  rw [readString, readCharsAux_escaped s.toList rest enough]
  simp [Except.map]

end InterpreterHost.Json
