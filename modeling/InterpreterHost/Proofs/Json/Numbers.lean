import InterpreterHost.Json.Printer
import InterpreterHost.Json.Reader
import InterpreterHost.Proofs.Decimal.ReadsBack

/-!
# Numbers in JSON

A number that was written is read as the same number: a word as an integer, a finite double as that
double, whichever of the layouts its size asks for.

## Main definitions

* `Json.EndsNumber` — what may follow a number
* `Json.Numeral` — the digits of a whole number, without zeros before it

## Main statements

* `Json.readNumber_numeral` — digits are read up to their end
* `Json.readNumber_natural`, `Json.readNumber_negative` — integers read back
* `Json.readsNumber_renderMagnitude` — doubles read back
-/

namespace InterpreterHost.Json

/-! ## Digits -/

/-- The text does not go on with a digit. -/
def EndsDigits : List Char → Prop
  | [] => True
  | c :: _ => ¬ c.isDigit

/-- The text does not go on with anything that belongs to a number. -/
def EndsNumber : List Char → Prop
  | [] => True
  | c :: _ => ¬ c.isDigit ∧ c ≠ '.' ∧ c ≠ 'e' ∧ c ≠ 'E'

theorem EndsNumber.endsDigits {rest : List Char} (ends : EndsNumber rest) : EndsDigits rest := by
  cases rest with
  | nil => trivial
  | cons c rest => exact ends.1

/-- All of them are digits. -/
def Digits (digits : List Char) : Prop := ∀ c ∈ digits, c.isDigit

theorem Digits.append {ds es : List Char} (h : Digits ds) (h' : Digits es) : Digits (ds ++ es) :=
  List.forall_mem_append.2 ⟨h, h'⟩

theorem digits_zeros (n : Nat) : Digits (List.replicate n '0') := by
  intro c member
  rw [(List.mem_replicate.1 member).2]
  decide

theorem digits_toDigits (n : Nat) : Digits (Nat.toDigits 10 n) :=
  fun _ member => Nat.isDigit_of_mem_toDigits (by decide) (by decide) member

theorem length_toString (n : Nat) : (toString n).length = (Nat.toDigits 10 n).length := by
  rw [← String.length_toList]
  exact congrArg List.length Nat.toList_repr

theorem spanDigits_append {digits rest : List Char} (h : Digits digits) (ends : EndsDigits rest) :
    spanDigits (digits ++ rest) = (digits, rest) := by
  rw [spanDigits, List.span_eq_takeWhile_dropWhile, List.takeWhile_append_of_pos h,
    List.dropWhile_append_of_pos h]
  cases rest with
  | nil => simp
  | cons c rest =>
    have other : c.isDigit = false := by simpa [EndsDigits] using ends
    simp [other]

/-- The number that further digits make of a number. -/
theorem digitsValue_append (ds es : List Char) :
    digitsValue (ds ++ es) = es.foldl (fun n c => n * 10 + (c.toNat - 48)) (digitsValue ds) := by
  rw [digitsValue, List.foldl_append]
  rfl

theorem digitsValue_toDigits (n : Nat) : digitsValue (Nat.toDigits 10 n) = n := by
  have value := Nat.ofDigitChars_toDigits (b := 10) (n := n) (by decide) (by decide)
  rw [Nat.ofDigitChars] at value
  simp only [digitsValue, Nat.mul_comm _ 10]
  exact value

theorem digitsValue_append_zeros (ds : List Char) (k : Nat) :
    digitsValue (ds ++ List.replicate k '0') = digitsValue ds * 10 ^ k := by
  induction k with
  | zero => simp
  | succ k ih =>
    rw [List.replicate_succ', ← List.append_assoc, digitsValue_append, ih, Nat.pow_succ]
    simp [Nat.mul_assoc]

theorem digitsValue_zeros_append (k : Nat) (ds : List Char) :
    digitsValue (List.replicate k '0' ++ ds) = digitsValue ds := by
  have zero := digitsValue_append_zeros [] k
  rw [List.nil_append] at zero
  rw [digitsValue_append, zero, digitsValue, List.foldl_nil, Nat.zero_mul]
  rfl

/-! ## Whole numbers -/

/-- The digits of a whole number, without zeros before it. -/
structure Numeral (ds : List Char) : Prop where
  digits : Digits ds
  nonempty : ds ≠ []
  leading : ds.head? = some '0' → ds = ['0']

theorem numeral_zero : Numeral ['0'] := ⟨by simp [Digits], by simp, fun _ => rfl⟩

/-- A number other than zero does not start with zero. -/
theorem head?_toDigits {n : Nat} (hn : n ≠ 0) : (Nat.toDigits 10 n).head? ≠ some '0' := by
  induction n using Nat.strongRecOn with
  | ind n ih =>
    by_cases small : n < 10
    · have single : ∀ n < 10, n ≠ 0 → [n.digitChar].head? ≠ some '0' := by decide
      rw [Nat.toDigits_of_lt_base small]
      exact single n small hn
    · have shorter := ih (n / 10) (by omega) (by omega)
      rw [Nat.toDigits_of_base_le (by decide) (Nat.le_of_not_lt small), List.head?_append]
      cases head : (Nat.toDigits 10 (n / 10)).head? with
      | none => exact absurd (List.head?_eq_none_iff.1 head) Nat.toDigits_ne_nil
      | some c => simpa [head] using shorter

/-- Digits that start like those of a number other than zero. -/
theorem numeral_of_append {n : Nat} (hn : n ≠ 0) {digits more : List Char} (h : Digits digits)
    (nonempty : digits ≠ []) (start : digits ++ more = Nat.toDigits 10 n) : Numeral digits := by
  refine ⟨h, nonempty, fun zero => ?_⟩
  refine absurd ?_ (head?_toDigits hn)
  rw [← start, List.head?_append, zero]
  rfl

theorem numeral_toDigits (n : Nat) : Numeral (Nat.toDigits 10 n) := by
  by_cases hn : n = 0
  · rw [hn]
    exact numeral_zero
  · exact numeral_of_append hn (digits_toDigits n) Nat.toDigits_ne_nil (List.append_nil _)

/-- Zeros after a number other than zero. -/
theorem numeral_append_zeros {n : Nat} (hn : n ≠ 0) (k : Nat) :
    Numeral (Nat.toDigits 10 n ++ List.replicate k '0') := by
  refine ⟨(digits_toDigits n).append (digits_zeros k), by simp [Nat.toDigits_ne_nil], fun zero => ?_⟩
  have start := head?_toDigits hn
  rw [List.head?_append] at zero
  cases head : (Nat.toDigits 10 n).head? with
  | none => exact absurd (List.head?_eq_none_iff.1 head) Nat.toDigits_ne_nil
  | some c =>
    rw [head] at zero start
    exact absurd zero start

/-- The digits of a number before and after a point within them. -/
theorem numeral_take_toDigits {d k : Nat} (some' : 0 < k) (within : k < (Nat.toDigits 10 d).length) :
    Numeral ((Nat.toDigits 10 d).take k) ∧ Digits ((Nat.toDigits 10 d).drop k) ∧
      (Nat.toDigits 10 d).drop k ≠ [] := by
  have digits := digits_toDigits d
  refine ⟨?_, fun c member => digits c (List.mem_of_mem_drop member), ?_⟩
  · have hd : d ≠ 0 := by
      rintro rfl
      exact absurd within (Nat.not_lt_of_le some')
    refine numeral_of_append hd (fun c member => digits c (List.mem_of_mem_take member)) ?_
      (List.take_append_drop k _)
    rw [Ne, List.take_eq_nil_iff]
    simp only [Nat.toDigits_ne_nil, or_false]
    omega
  · rw [Ne, List.drop_eq_nil_iff]
    omega

/-- The digits of a whole number are read up to their end. -/
theorem readNumber_numeral {digits rest : List Char} (numeral : Numeral digits) (ends : EndsDigits rest)
    (negative : Bool) : readNumber negative (digits ++ rest) = readNumberEnd negative digits rest := by
  obtain ⟨h, nonempty, leading⟩ := numeral
  cases digits with
  | nil => exact absurd rfl nonempty
  | cons c digits =>
    by_cases zero : c = '0'
    · obtain rfl : digits = [] := by simpa [zero] using leading
      subst zero
      cases rest with
      | nil => rfl
      | cons d rest =>
        have other : ¬ d.isDigit := ends
        simp only [List.singleton_append, readNumber, if_neg other]
    · have digit : c.isDigit := h c (List.mem_cons_self ..)
      have whole := spanDigits_append h ends
      rw [List.cons_append] at whole ⊢
      unfold readNumber
      split
      · next empty => cases empty
      · next rest' equal =>
        cases equal
        exact absurd rfl zero
      · next c' rest' _ equal =>
        cases equal
        simp only [digit, if_true, whole]

/-! ## Integers -/

theorem readNumberEnd_integer {rest : List Char} (ends : EndsNumber rest) (negative : Bool)
    (digits : List Char) :
    readNumberEnd negative digits rest = integerOrFloat negative (digitsValue digits) rest := by
  cases rest with
  | nil => rfl
  | cons c rest =>
    obtain ⟨-, point, e, E⟩ := ends
    unfold readNumberEnd
    split
    · next equal =>
      cases equal
      exact absurd rfl point
    · next c' _ _ equal =>
      cases equal
      rw [if_neg (by simp [e, E])]
    · next equal => cases equal

theorem readNumber_natural {n : Nat} (word : n < 0x10000000000000000) {rest : List Char}
    (ends : EndsNumber rest) :
    readNumber false (Nat.toDigits 10 n ++ rest) = .ok (.integer n, rest) := by
  rw [readNumber_numeral (numeral_toDigits n) ends.endsDigits, readNumberEnd_integer ends,
    digitsValue_toDigits, integerOrFloat]
  simp [word]

theorem readNumber_negative {n : Nat} (hn : n ≠ 0) (word : n ≤ 0x8000000000000000) {rest : List Char}
    (ends : EndsNumber rest) :
    readNumber true (Nat.toDigits 10 n ++ rest) = .ok (.integer (-(n : Int)), rest) := by
  rw [readNumber_numeral (numeral_toDigits n) ends.endsDigits, readNumberEnd_integer ends,
    digitsValue_toDigits, integerOrFloat]
  simp [hn, word]

/-! ## Fractions and exponents -/

theorem readNumberEnd_fraction {fraction rest : List Char} (h : Digits fraction)
    (nonempty : fraction ≠ []) (ends : EndsDigits rest) (negative : Bool) (digits : List Char) :
    readNumberEnd negative digits ('.' :: (fraction ++ rest)) =
      readFloatEnd negative (digitsValue (digits ++ fraction)) (-(fraction.length : Int)) rest := by
  rw [readNumberEnd, spanDigits_append h ends]
  simp [nonempty]

theorem readNumberEnd_exponent (negative : Bool) (digits rest : List Char) :
    readNumberEnd negative digits ('e' :: rest) =
      readFloatEnd negative (digitsValue digits) 0 ('e' :: rest) := by
  simp [readNumberEnd]

theorem readFloatEnd_of_ends {rest : List Char} (ends : EndsNumber rest) (negative : Bool) (digits : Nat)
    (exponent : Int) :
    readFloatEnd negative digits exponent rest =
      finiteFloat (Binary64.ofDecimal negative digits exponent) rest := by
  cases rest with
  | nil => rfl
  | cons c rest =>
    obtain ⟨-, -, e, E⟩ := ends
    rw [readFloatEnd, if_neg (by simp [e, E])]

theorem le_foldl_digits (digits : List Char) (n : Nat) :
    n ≤ digits.foldl (fun n c => n * 10 + (c.toNat - 48)) n := by
  induction digits generalizing n with
  | nil => exact Nat.le_refl n
  | cons c digits ih =>
    have more : n ≤ n * 10 + (c.toNat - 48) := by omega
    exact Nat.le_trans more (ih _)

/-- The digits of an exponent are read up to their end, if it is not too great. -/
theorem readExponentDigits_append {digits rest : List Char} (h : Digits digits) (ends : EndsDigits rest)
    (overflow : Bool) {n : Nat}
    (bound : digits.foldl (fun n c => n * 10 + (c.toNat - 48)) n ≤ maxExponent) :
    readExponentDigits overflow n (digits ++ rest) =
      .ok (some (digits.foldl (fun n c => n * 10 + (c.toNat - 48)) n), rest) := by
  induction digits generalizing n with
  | nil =>
    cases rest with
    | nil => rfl
    | cons c rest => rw [List.nil_append, readExponentDigits, if_neg ends]; rfl
  | cons c digits ih =>
    obtain ⟨digit, others⟩ := List.forall_mem_cons.1 h
    have small : ¬ maxExponent < n * 10 + (c.toNat - 48) := by
      have least := le_foldl_digits digits (n * 10 + (c.toNat - 48))
      rw [List.foldl_cons] at bound
      omega
    rw [List.cons_append, readExponentDigits, if_pos digit]
    dsimp only
    rw [if_neg small, ih others bound]
    rfl

/-- An exponent with its sign is read. -/
theorem readExponent_sign {k : Nat} (small : k ≤ maxExponent) {rest : List Char} (ends : EndsDigits rest)
    (isZero negative : Bool) :
    readExponent isZero ((if negative then '-' else '+') :: (Nat.toDigits 10 k ++ rest)) =
      .ok (some (if negative then -(k : Int) else k), rest) := by
  have value := digitsValue_toDigits k
  cases digits : Nat.toDigits 10 k with
  | nil => exact absurd digits Nat.toDigits_ne_nil
  | cons c more =>
    have all := digits_toDigits k
    rw [digits] at all value
    obtain ⟨digit, others⟩ := List.forall_mem_cons.1 all
    have value' : more.foldl (fun n c => n * 10 + (c.toNat - 48)) (c.toNat - 48) = k := by
      simpa [digitsValue] using value
    have read (overflow : Bool) := readExponentDigits_append others ends overflow (n := c.toNat - 48)
      (by rw [value']; exact small)
    rw [value'] at read
    cases negative with
    | true =>
      simp only [readExponent, if_true, List.cons_append, digit, read]
      rfl
    | false =>
      simp only [readExponent, Bool.false_eq_true, if_false, List.cons_append, digit, if_true, read]
      rfl

theorem readFloatEnd_exponent {k : Nat} (small : k ≤ maxExponent) {rest : List Char}
    (ends : EndsDigits rest) (negative below : Bool) (digits : Nat) (exponent : Int) :
    readFloatEnd negative digits exponent
        ('e' :: (if below then '-' else '+') :: (Nat.toDigits 10 k ++ rest)) =
      finiteFloat (Binary64.ofDecimal negative digits
        (exponent + if below then -(k : Int) else k)) rest := by
  rw [readFloatEnd, if_pos (.inl rfl), readExponent_sign small ends]
  rfl

/-! ## Doubles -/

theorem finiteFloat_of_isFinite {b : Binary64} (finite : b.isFinite) (rest : List Char) :
    finiteFloat b rest = .ok (.float b, rest) := by
  have other : b.isInfinite = false := by
    simp only [Binary64.isFinite, decide_eq_true_eq] at finite
    simpa [Binary64.isInfinite] using finite.ne
  rw [finiteFloat, other]
  rfl

/-- The text goes on with a digit, and a number is read from it before the rest. -/
def ReadsNumber (text : List Char) (negative : Bool) (j : Json) : Prop :=
  (∃ c more, text = c :: more ∧ c.isDigit) ∧
    ∀ rest, EndsNumber rest → readNumber negative (text ++ rest) = .ok (j, rest)

theorem Numeral.exists_digit {ds : List Char} (numeral : Numeral ds) (more : List Char) :
    ∃ c more', ds ++ more = c :: more' ∧ c.isDigit := by
  cases ds with
  | nil => exact absurd rfl numeral.nonempty
  | cons c ds => exact ⟨c, ds ++ more, rfl, numeral.digits c (List.mem_cons_self ..)⟩

section

variable {b : Binary64} (finite : b.isFinite)
include finite

/-- Digits with a fraction. -/
theorem readsNumber_fraction {ds fraction : List Char} (numeral : Numeral ds) (h : Digits fraction)
    (nonempty : fraction ≠ [])
    (value : Binary64.ofDecimal b.isNegative (digitsValue (ds ++ fraction)) (-(fraction.length : Int)) = b) :
    ReadsNumber (ds ++ '.' :: fraction) b.isNegative (.float b) := by
  refine ⟨numeral.exists_digit _, fun rest ends => ?_⟩
  have point : EndsDigits ('.' :: (fraction ++ rest)) := by simp [EndsDigits]
  rw [List.append_assoc, List.cons_append, readNumber_numeral numeral point,
    readNumberEnd_fraction h nonempty ends.endsDigits, readFloatEnd_of_ends ends, value,
    finiteFloat_of_isFinite finite]

/-- Digits with an exponent. -/
theorem readsNumber_exponent {ds : List Char} (numeral : Numeral ds) (below : Bool) {k : Nat}
    (small : k ≤ maxExponent)
    (value : Binary64.ofDecimal b.isNegative (digitsValue ds) (if below then -(k : Int) else k) = b) :
    ReadsNumber (ds ++ 'e' :: (if below then '-' else '+') :: Nat.toDigits 10 k) b.isNegative (.float b) := by
  refine ⟨numeral.exists_digit _, fun rest ends => ?_⟩
  have letter : EndsDigits ('e' :: (if below then '-' else '+') :: (Nat.toDigits 10 k ++ rest)) := by
    simp [EndsDigits]
  rw [List.append_assoc, List.cons_append, List.cons_append, readNumber_numeral numeral letter,
    readNumberEnd_exponent, readFloatEnd_exponent small ends.endsDigits, Int.zero_add, value,
    finiteFloat_of_isFinite finite]

/-- Digits with a fraction and an exponent. -/
theorem readsNumber_fraction_exponent {ds fraction : List Char} (numeral : Numeral ds)
    (h : Digits fraction) (nonempty : fraction ≠ []) (below : Bool) {k : Nat} (small : k ≤ maxExponent)
    (value : Binary64.ofDecimal b.isNegative (digitsValue (ds ++ fraction))
      (-(fraction.length : Int) + if below then -(k : Int) else k) = b) :
    ReadsNumber (ds ++ '.' :: (fraction ++ 'e' :: (if below then '-' else '+') :: Nat.toDigits 10 k))
      b.isNegative (.float b) := by
  refine ⟨numeral.exists_digit _, fun rest ends => ?_⟩
  have point : EndsDigits ('.' :: (fraction ++
      'e' :: (if below then '-' else '+') :: (Nat.toDigits 10 k ++ rest))) := by simp [EndsDigits]
  have letter : EndsDigits ('e' :: (if below then '-' else '+') :: (Nat.toDigits 10 k ++ rest)) := by
    simp [EndsDigits]
  simp only [List.append_assoc, List.cons_append]
  rw [readNumber_numeral numeral point, readNumberEnd_fraction h nonempty letter,
    readFloatEnd_exponent small ends.endsDigits, value, finiteFloat_of_isFinite finite]

end

/-! ## The layouts of doubles -/

/-- The absolute value of an exponent with its sign. -/
theorem signed_natAbs (e : Int) : (if decide (e < 0) then -(e.natAbs : Int) else e.natAbs) = e := by
  by_cases below : e < 0
  · simp only [below, decide_true, if_true]
    omega
  · simp only [below, decide_false, Bool.false_eq_true, if_false]
    omega

/-- The text of an exponent.  It has one digit at least, so that no zeros are put before it. -/
theorem toList_exponent (e : Int) :
    ((if e < 0 then "e-" else "e+") ++
      (Decimal.Layout.zeros (layout.exponentDigits - (toString e.natAbs).length) ++ toString e.natAbs)).toList =
        'e' :: (if decide (e < 0) then '-' else '+') :: Nat.toDigits 10 e.natAbs := by
  have filled : layout.exponentDigits - (toString e.natAbs).length = 0 := by
    have positive : 0 < (Nat.toDigits 10 e.natAbs).length := Nat.length_toDigits_pos
    rw [length_toString]
    simp only [layout]
    omega
  rw [filled]
  by_cases below : e < 0 <;> simp [Decimal.Layout.zeros, below]

section

variable {b : Binary64} {d : Nat} {exponent : Int}

/-- The point stands before all digits. -/
theorem readsNumber_zeros_digits (finite : b.isFinite)
    (value : Binary64.ofDecimal b.isNegative d exponent = b) {k : Nat}
    (place : -((k + (Nat.toDigits 10 d).length : Nat) : Int) = exponent) :
    ReadsNumber (['0'] ++ '.' :: (List.replicate k '0' ++ Nat.toDigits 10 d)) b.isNegative (.float b) := by
  refine readsNumber_fraction finite numeral_zero ((digits_zeros k).append (digits_toDigits d))
    (by simp [Nat.toDigits_ne_nil]) ?_
  have zeros : ['0'] ++ (List.replicate k '0' ++ Nat.toDigits 10 d) =
      List.replicate (k + 1) '0' ++ Nat.toDigits 10 d := rfl
  rw [zeros, digitsValue_zeros_append, digitsValue_toDigits, List.length_append, List.length_replicate,
    place, value]

/-- The point stands behind all digits, and a zero after it. -/
theorem readsNumber_digits_zeros (finite : b.isFinite) (hd : d ≠ 0)
    (value : Binary64.ofDecimal b.isNegative d exponent = b) {k : Nat} (place : (k : Int) = exponent) :
    ReadsNumber ((Nat.toDigits 10 d ++ List.replicate k '0') ++ '.' :: ['0']) b.isNegative (.float b) := by
  refine readsNumber_fraction finite (numeral_append_zeros hd k) (by simp [Digits]) (by simp) ?_
  have zeros : (Nat.toDigits 10 d ++ List.replicate k '0') ++ ['0'] =
      Nat.toDigits 10 d ++ List.replicate (k + 1) '0' := by
    rw [List.replicate_succ', List.append_assoc]
  have places : -(['0'].length : Int) = exponent - (k + 1 : Nat) := by
    rw [List.length_singleton]
    omega
  rw [zeros, digitsValue_append_zeros, digitsValue_toDigits, places, Binary64.ofDecimal_mul_pow, value]

/-- The point stands between the digits. -/
theorem readsNumber_take_drop (finite : b.isFinite)
    (value : Binary64.ofDecimal b.isNegative d exponent = b) {k : Nat} (some' : 0 < k)
    (within : k < (Nat.toDigits 10 d).length)
    (place : ((Nat.toDigits 10 d).length : Int) + exponent = k) :
    ReadsNumber ((Nat.toDigits 10 d).take k ++ '.' :: (Nat.toDigits 10 d).drop k) b.isNegative
      (.float b) := by
  obtain ⟨numeral, fraction, nonempty⟩ := numeral_take_toDigits some' within
  refine readsNumber_fraction finite numeral fraction nonempty ?_
  have places : -(((Nat.toDigits 10 d).drop k).length : Int) = exponent := by
    rw [List.length_drop]
    omega
  rw [List.take_append_drop, digitsValue_toDigits, places, value]

/-- The layout without an exponent. -/
theorem readsNumber_positional (finite : b.isFinite) (hd : d ≠ 0)
    (value : Binary64.ofDecimal b.isNegative d exponent = b) :
    ReadsNumber (layout.positional (toString d) (((toString d).length : Int) + exponent)).toList
      b.isNegative (.float b) := by
  obtain ⟨point, place⟩ : ∃ point, ((toString d).length : Int) + exponent = point := ⟨_, rfl⟩
  rw [place]
  rw [length_toString] at place
  unfold Decimal.Layout.positional
  split
  · next early =>
    have shown : ("0." ++ Decimal.Layout.zeros (-point).toNat ++ toString d).toList =
        ['0'] ++ '.' :: (List.replicate (-point).toNat '0' ++ Nat.toDigits 10 d) := by
      simp [Decimal.Layout.zeros]
    rw [shown]
    exact readsNumber_zeros_digits finite value (by omega)
  · next late =>
    split
    · next behind =>
      have shown : (toString d ++ Decimal.Layout.zeros (point.toNat - (toString d).length) ++
          if layout.keepFraction = true then ".0" else "").toList =
            (Nat.toDigits 10 d ++ List.replicate (point.toNat - (toString d).length) '0') ++
              '.' :: ['0'] := by
        simp [Decimal.Layout.zeros, layout]
      rw [shown]
      rw [length_toString] at behind ⊢
      exact readsNumber_digits_zeros finite hd value (by omega)
    · next within =>
      have shown : (String.ofList ((toString d).toList.take point.toNat) ++ "." ++
          String.ofList ((toString d).toList.drop point.toNat)).toList =
            (Nat.toDigits 10 d).take point.toNat ++ '.' :: (Nat.toDigits 10 d).drop point.toNat := by
        simp
      rw [shown]
      rw [length_toString] at within
      exact readsNumber_take_drop finite value (by omega) (by omega) (by omega)

/-- The layout with an exponent. -/
theorem readsNumber_scientific (finite : b.isFinite)
    (value : Binary64.ofDecimal b.isNegative d exponent = b)
    (range : -330 ≤ ((toString d).length : Int) + exponent ∧ ((toString d).length : Int) + exponent ≤ 330) :
    ReadsNumber (layout.scientific (toString d) (((toString d).length : Int) + exponent)).toList
      b.isNegative (.float b) := by
  have whole := digitsValue_toDigits d
  have positive : 0 < (Nat.toDigits 10 d).length := Nat.length_toDigits_pos
  obtain ⟨point, place⟩ : ∃ point, ((toString d).length : Int) + exponent = point := ⟨_, rfl⟩
  rw [place] at range ⊢
  rw [length_toString] at place
  have small : (point - 1).natAbs ≤ maxExponent := by
    simp only [maxExponent]
    omega
  unfold Decimal.Layout.scientific
  dsimp only
  rw [String.append_assoc, String.append_assoc, String.toList_append, toList_exponent]
  split
  · -- A single digit.
    next single =>
    rw [length_toString] at single
    have text : (toString d).toList = Nat.toDigits 10 d := Nat.toList_repr
    have places : point - 1 = exponent := by omega
    rw [text]
    refine readsNumber_exponent finite (numeral_toDigits d) _ small ?_
    rw [whole, signed_natAbs, places, value]
  · -- The point stands after the first digit.
    next several =>
    rw [length_toString] at several
    have shown : (String.ofList ((toString d).toList.take 1) ++ "." ++
        String.ofList ((toString d).toList.drop 1)).toList =
          (Nat.toDigits 10 d).take 1 ++ '.' :: (Nat.toDigits 10 d).drop 1 := by
      simp
    have places : -(((Nat.toDigits 10 d).drop 1).length : Int) + (point - 1) = exponent := by
      rw [List.length_drop]
      omega
    obtain ⟨numeral, fraction, nonempty⟩ := numeral_take_toDigits (d := d) Nat.one_pos (by omega)
    rw [shown, List.append_assoc, List.cons_append]
    refine readsNumber_fraction_exponent finite numeral fraction nonempty _ small ?_
    rw [List.take_append_drop, whole, signed_natAbs, places, value]

/-- The text of the absolute value of a finite double is read as the double. -/
theorem readsNumber_renderMagnitude (finite : b.isFinite) :
    ReadsNumber (layout.renderMagnitude b).toList b.isNegative (.float b) := by
  have reads := Binary64.ofDecimal_shortest .even finite
  have tie : layout.tie = .even := rfl
  unfold Decimal.Layout.renderMagnitude
  rw [tie]
  dsimp only
  split
  · next zero =>
    have shown : (if layout.keepFraction = true then "0.0" else "0").toList = ['0'] ++ '.' :: ['0'] := rfl
    rw [shown]
    refine readsNumber_fraction finite numeral_zero (by simp [Digits]) (by simp) ?_
    have value : digitsValue (['0'] ++ ['0']) = 0 := rfl
    rw [zero] at reads
    rw [value]
    simpa [Binary64.ofDecimal] using reads
  · next nonzero =>
    split
    · exact readsNumber_positional finite nonzero reads
    · refine readsNumber_scientific finite reads ?_
      have length : (toString (b.shortest .even).digits).length =
          Binary64.decimalLength (b.shortest .even).digits := by
        rw [Binary64.decimalLength, if_neg nonzero, length_toString]
      rw [length]
      refine Binary64.point_of_ofDecimal nonzero (reads.symm ▸ finite) ?_
      rw [reads]
      exact Binary64.magnitude_ne_zero nonzero

end

end InterpreterHost.Json
