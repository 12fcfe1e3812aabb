/-!
# Texts of the interpreter

A text of the interpreter is any sequence of code points.  It may hold a surrogate that stands alone, and then it
is no text of the host.

## Main definitions

* `CodePoint` — a code point, surrogates included
* `CodePoints.ofString`, `CodePoints.toString?` — texts of the host to and from texts of the interpreter
* `CodePoints.firstSurrogates` — the run of surrogates that keeps a text from being one of the host
-/

namespace InterpreterHost

/-- A code point, surrogates included. -/
abbrev CodePoint := Fin 0x110000

namespace CodePoint

theorem toNat_lt (c : Char) : c.toNat < 0x110000 := by
  rcases c.valid with h | ⟨_, h⟩
  · exact Nat.lt_trans h (by decide)
  · exact h

def ofChar (c : Char) : CodePoint := ⟨c.toNat, toNat_lt c⟩

/-- The code point of a number; that of zero if there is none. -/
def ofNat (n : Nat) : CodePoint := if h : n < 0x110000 then ⟨n, h⟩ else 0

def isSurrogate (p : CodePoint) : Bool := 0xd800 ≤ p.val && p.val < 0xe000

/-- The character, unless it is a surrogate. -/
def toChar? (p : CodePoint) : Option Char :=
  if p.isSurrogate then none else some (Char.ofNat p.val)

theorem isSurrogate_ofChar (c : Char) : (ofChar c).isSurrogate = false := by
  have h : c.toNat < 0xd800 ∨ (0xdfff < c.toNat ∧ c.toNat < 0x110000) := c.valid
  by_cases low : c.toNat < 0xd800
  · simp [isSurrogate, ofChar, Nat.not_le.2 low]
  · exact Bool.and_eq_false_iff.2 (Or.inr (decide_eq_false (by simp only [ofChar]; omega)))

@[simp] theorem toChar?_ofChar (c : Char) : (ofChar c).toChar? = some c := by
  simp only [toChar?, isSurrogate_ofChar, Bool.false_eq_true, if_false, Option.some.injEq]
  exact Char.ofNat_toNat c

theorem ofChar_of_toChar? {p : CodePoint} {c : Char} (h : p.toChar? = some c) : ofChar c = p := by
  unfold toChar? at h
  split at h
  · cases h
  · next scalar =>
    obtain rfl : Char.ofNat p.val = c := by simpa using h
    have valid : p.val.isValidChar := by
      have bound := p.isLt
      simp only [isSurrogate, Bool.and_eq_true, decide_eq_true_eq] at scalar
      simp only [Nat.isValidChar]
      omega
    have number : (Char.ofNat p.val).toNat = p.val := by
      rw [Char.ofNat, dif_pos valid]
      rfl
    exact Fin.ext number

end CodePoint

/-- A text of the interpreter. -/
abbrev CodePoints := List CodePoint

namespace CodePoints

def ofString (s : String) : CodePoints := s.toList.map CodePoint.ofChar

/-- The text of the host, unless a surrogate stands in it. -/
def toString? (t : CodePoints) : Option String := (t.mapM CodePoint.toChar?).map String.ofList

/-- The text of the host with a replacement character for each surrogate. -/
def toStringLossy (t : CodePoints) : String := String.ofList (t.map fun p => p.toChar?.getD '\ufffd')

/-- The place of the first surrogate and the number of surrogates from there on. -/
def firstSurrogates (t : CodePoints) : Option (Nat × Nat) :=
  let rest := t.dropWhile (!·.isSurrogate)
  match rest with
  | [] => none
  | _ => some (t.length - rest.length, (rest.takeWhile (·.isSurrogate)).length)

theorem toString?_ofString (s : String) : toString? (ofString s) = some s := by
  have h : ∀ l : List Char, (l.map CodePoint.ofChar).mapM CodePoint.toChar? = some l := by
    intro l
    induction l with
    | nil => rfl
    | cons c l ih => simp [List.mapM_cons, ih]
  simp [toString?, ofString, h]

/-- A text of the interpreter that is one of the host is that text. -/
theorem ofString_of_toString? {t : CodePoints} {s : String} (h : t.toString? = some s) :
    ofString s = t := by
  obtain ⟨chars, read, rfl⟩ := Option.map_eq_some_iff.1 h
  rw [ofString, String.toList_ofList]
  clear h
  induction t generalizing chars with
  | nil =>
    cases read
    rfl
  | cons p t ih =>
    rw [List.mapM_cons] at read
    obtain ⟨c, first, rest⟩ := Option.bind_eq_some_iff.1 read
    obtain ⟨chars', others, equal⟩ := Option.bind_eq_some_iff.1 rest
    cases equal
    rw [List.map_cons, CodePoint.ofChar_of_toChar? first, ih chars' others]

theorem toString?_eq_some_iff {t : CodePoints} {s : String} : t.toString? = some s ↔ t = ofString s :=
  ⟨fun read => (ofString_of_toString? read).symm, fun same => same ▸ toString?_ofString s⟩

theorem ofString_inj {s s' : String} : ofString s = ofString s' ↔ s = s' := by
  rw [← toString?_eq_some_iff, toString?_ofString, Option.some.injEq]

end CodePoints

end InterpreterHost
