import InterpreterHost.Text.Utf8

/-!
# UTF-8 there and back

## Main statements

* `Utf8.decodeChar_encode` — the octets of a character spell that character, whatever follows
* `Utf8.decode_encode` — the octets of a text spell that text
* `Utf8.decode_eq_ok_iff` — no other octets do
-/

namespace InterpreterHost.Utf8

/-! ## Octets -/

theorem toNat_octet {n : Nat} (small : n < 256) : (UInt8.ofNat n).toNat = n := by
  rw [UInt8.toNat_ofNat', Nat.mod_eq_of_lt small]

theorem isContinuation_iff (b : UInt8) : isContinuation b ↔ 128 ≤ b.toNat ∧ b.toNat < 192 := by
  simp only [isContinuation, UInt8.le_iff_toNat_le, UInt8.lt_iff_toNat_lt, Bool.and_eq_true,
    decide_eq_true_eq, UInt8.reduceToNat]

theorem mayFollow_iff (a b : UInt8) :
    mayFollow a b ↔ 128 ≤ b.toNat ∧ b.toNat < 192 ∧ (a.toNat = 224 → 160 ≤ b.toNat) ∧
      (a.toNat = 237 → b.toNat < 160) ∧ (a.toNat = 240 → 144 ≤ b.toNat) ∧
      (a.toNat = 244 → b.toNat < 144) := by
  simp only [mayFollow, isContinuation, beq_iff_eq, ← UInt8.toNat_inj, UInt8.le_iff_toNat_le,
    UInt8.lt_iff_toNat_lt, Bool.ite_eq_true_distrib, Bool.and_eq_true, decide_eq_true_eq,
    UInt8.reduceToNat]
  split
  · omega
  · split
    · omega
    · split
      · omega
      · split
        · omega
        · omega

/-! ## Characters by their number of octets -/

section

variable {a b c d : UInt8}

theorem decodeChar_one (lead : a.toNat < 128) (rest : Octets) :
    decodeChar a rest = .ok (Char.ofNat a.toNat, 1) := by
  have first : a < 0x80 := UInt8.lt_iff_toNat_lt.2 lead
  unfold decodeChar
  rw [if_pos first]

theorem decodeChar_two (low : 194 ≤ a.toNat) (high : a.toNat < 224) (next : isContinuation b)
    (rest : Octets) :
    decodeChar a (b :: rest) = .ok (Char.ofNat (a.toNat % 32 * 64 + low6 b), 2) := by
  unfold decodeChar
  simp only [UInt8.le_iff_toNat_le, UInt8.lt_iff_toNat_lt, Bool.and_eq_true, decide_eq_true_eq,
    UInt8.reduceToNat]
  rw [if_neg (by omega), if_pos ⟨low, high⟩, if_pos next]

theorem decodeChar_three (low : 224 ≤ a.toNat) (high : a.toNat < 240) (next : mayFollow a b)
    (last : isContinuation c) (rest : Octets) :
    decodeChar a (b :: c :: rest) =
      .ok (Char.ofNat ((a.toNat % 16 * 64 + low6 b) * 64 + low6 c), 3) := by
  unfold decodeChar
  simp only [UInt8.le_iff_toNat_le, UInt8.lt_iff_toNat_lt, Bool.and_eq_true, decide_eq_true_eq,
    UInt8.reduceToNat]
  rw [if_neg (by omega), if_neg (by omega), if_pos ⟨low, high⟩, next, if_neg (by decide), if_pos last]

theorem decodeChar_four (low : 240 ≤ a.toNat) (high : a.toNat < 245) (next : mayFollow a b)
    (third : isContinuation c) (last : isContinuation d) (rest : Octets) :
    decodeChar a (b :: c :: d :: rest) =
      .ok (Char.ofNat (((a.toNat % 8 * 64 + low6 b) * 64 + low6 c) * 64 + low6 d), 4) := by
  unfold decodeChar
  simp only [UInt8.le_iff_toNat_le, UInt8.lt_iff_toNat_lt, Bool.and_eq_true, decide_eq_true_eq,
    UInt8.reduceToNat]
  rw [if_neg (by omega), if_neg (by omega), if_neg (by omega), if_pos ⟨low, high⟩, next,
    if_neg (by decide), third, if_neg (by decide), if_pos last]

end

/-- The octets of a character spell that character, whatever follows. -/
theorem decodeChar_encode (c : Char) (rest : Octets) :
    ∃ a tail, String.utf8EncodeChar c = a :: tail ∧
      decodeChar a (tail ++ rest) = .ok (c, tail.length + 1) := by
  have valid : c.toNat < 0xd800 ∨ (0xdfff < c.toNat ∧ c.toNat < 0x110000) := c.valid
  have continues (n : Nat) : isContinuation (UInt8.ofNat (n % 64 + 128)) := by
    rw [isContinuation_iff, toNat_octet (by omega)]
    omega
  have low (n : Nat) : low6 (UInt8.ofNat (n % 64 + 128)) = n % 64 := by
    rw [low6, toNat_octet (by omega)]
    omega
  obtain ⟨v, value⟩ : ∃ v, c.toNat = v := ⟨_, rfl⟩
  have char : Char.ofNat v = c := by rw [← value, Char.ofNat_toNat]
  have value' : c.val.toNat = v := value
  rw [value] at valid
  unfold String.utf8EncodeChar
  simp only [value']
  -- The cases are those of the encoder: one octet, two, three and four.
  split
  · refine ⟨_, [], rfl, ?_⟩
    have lead : (UInt8.ofNat v).toNat = v := toNat_octet (by omega)
    rw [List.nil_append, decodeChar_one (by omega), lead, char]
    rfl
  · split
    · refine ⟨_, [UInt8.ofNat (v % 64 + 128)], rfl, ?_⟩
      have lead : (UInt8.ofNat (v / 64 % 32 + 192)).toNat = v / 64 + 192 := by
        rw [toNat_octet (by omega)]
        omega
      have whole : (v / 64 + 192) % 32 * 64 + v % 64 = v := by omega
      rw [List.singleton_append, decodeChar_two (by omega) (by omega) (continues v), lead, low, whole,
        char]
      rfl
    · split
      · refine ⟨_, [UInt8.ofNat (v / 64 % 64 + 128), UInt8.ofNat (v % 64 + 128)], rfl, ?_⟩
        have lead : (UInt8.ofNat (v / 4096 % 16 + 224)).toNat = v / 4096 + 224 := by
          rw [toNat_octet (by omega)]
          omega
        have next : mayFollow (UInt8.ofNat (v / 4096 % 16 + 224)) (UInt8.ofNat (v / 64 % 64 + 128)) := by
          rw [mayFollow_iff, lead, toNat_octet (by omega)]
          omega
        have whole : ((v / 4096 + 224) % 16 * 64 + v / 64 % 64) * 64 + v % 64 = v := by omega
        rw [List.cons_append, List.singleton_append,
          decodeChar_three (by omega) (by omega) next (continues v), lead, low, low, whole, char]
        rfl
      · refine ⟨_, [UInt8.ofNat (v / 4096 % 64 + 128), UInt8.ofNat (v / 64 % 64 + 128),
          UInt8.ofNat (v % 64 + 128)], rfl, ?_⟩
        have lead : (UInt8.ofNat (v / 262144 % 8 + 240)).toNat = v / 262144 + 240 := by
          rw [toNat_octet (by omega)]
          omega
        have next : mayFollow (UInt8.ofNat (v / 262144 % 8 + 240))
            (UInt8.ofNat (v / 4096 % 64 + 128)) := by
          rw [mayFollow_iff, lead, toNat_octet (by omega)]
          omega
        have whole : (((v / 262144 + 240) % 8 * 64 + v / 4096 % 64) * 64 + v / 64 % 64) * 64 +
            v % 64 = v := by omega
        rw [List.cons_append, List.cons_append, List.singleton_append,
          decodeChar_four (by omega) (by omega) next (continues _) (continues v), lead, low, low, low,
          whole, char]
        rfl

/-! ## Texts -/

/-- Octets that were read already are skipped. -/
theorem decodeFrom_append (position : Nat) (skipped rest : Octets) :
    decodeFrom position skipped.length (skipped ++ rest) =
      decodeFrom (position + skipped.length) 0 rest := by
  induction skipped generalizing position with
  | nil => rfl
  | cons b skipped ih =>
    rw [List.length_cons, List.cons_append, decodeFrom, ih, Nat.add_assoc, Nat.add_comm 1]

theorem decodeFrom_encode (position : Nat) (s : List Char) : decodeFrom position 0 (encode s) = .ok s := by
  induction s generalizing position with
  | nil => rfl
  | cons c s ih =>
    obtain ⟨a, tail, octets, read⟩ := decodeChar_encode c (encode s)
    have spelled : encode (c :: s) = a :: (tail ++ encode s) := by
      rw [encode, List.flatMap_cons, octets]
      rfl
    rw [spelled, decodeFrom, read]
    dsimp only
    rw [Nat.add_sub_cancel, decodeFrom_append, ih]
    rfl

/-- The octets of a text spell that text. -/
theorem decode_encode (s : List Char) : decode (encode s) = .ok s := decodeFrom_encode 0 s

/-! ## Octets that spell a character -/

theorem ofNat_eq {n : Nat} {b : UInt8} (value : n = b.toNat) : UInt8.ofNat n = b := by
  rw [value, UInt8.ofNat_toNat]

theorem toNat_ofNat {n : Nat} (valid : n < 0xd800 ∨ (0xdfff < n ∧ n < 0x110000)) :
    (Char.ofNat n).val.toNat = n := by
  have valid' : n.isValidChar := valid
  rw [Char.ofNat, dif_pos valid']
  rfl

section

variable {a b c d : UInt8}

theorem encode_one (lead : a.toNat < 128) : String.utf8EncodeChar (Char.ofNat a.toNat) = [a] := by
  unfold String.utf8EncodeChar
  simp only [toNat_ofNat (n := a.toNat) (by omega)]
  rw [if_pos (by omega), ofNat_eq rfl]

theorem encode_two (low : 194 ≤ a.toNat) (high : a.toNat < 224) (next : isContinuation b) :
    String.utf8EncodeChar (Char.ofNat (a.toNat % 32 * 64 + low6 b)) = [a, b] := by
  rw [isContinuation_iff] at next
  obtain ⟨v, value⟩ : ∃ v, a.toNat % 32 * 64 + low6 b = v := ⟨_, rfl⟩
  have parts : low6 b = b.toNat % 64 := rfl
  unfold String.utf8EncodeChar
  simp only [value, toNat_ofNat (n := v) (by omega)]
  rw [if_neg (by omega), if_pos (by omega), ofNat_eq (b := a) (by omega), ofNat_eq (b := b) (by omega)]

theorem encode_three (low : 224 ≤ a.toNat) (high : a.toNat < 240) (next : mayFollow a b)
    (last : isContinuation c) :
    String.utf8EncodeChar (Char.ofNat ((a.toNat % 16 * 64 + low6 b) * 64 + low6 c)) = [a, b, c] := by
  rw [mayFollow_iff] at next
  rw [isContinuation_iff] at last
  obtain ⟨v, value⟩ : ∃ v, (a.toNat % 16 * 64 + low6 b) * 64 + low6 c = v := ⟨_, rfl⟩
  have parts : low6 b = b.toNat % 64 ∧ low6 c = c.toNat % 64 := ⟨rfl, rfl⟩
  unfold String.utf8EncodeChar
  simp only [value, toNat_ofNat (n := v) (by omega)]
  rw [if_neg (by omega), if_neg (by omega), if_pos (by omega), ofNat_eq (b := a) (by omega),
    ofNat_eq (b := b) (by omega), ofNat_eq (b := c) (by omega)]

theorem encode_four (low : 240 ≤ a.toNat) (high : a.toNat < 245) (next : mayFollow a b)
    (third : isContinuation c) (last : isContinuation d) :
    String.utf8EncodeChar
      (Char.ofNat (((a.toNat % 8 * 64 + low6 b) * 64 + low6 c) * 64 + low6 d)) = [a, b, c, d] := by
  rw [mayFollow_iff] at next
  rw [isContinuation_iff] at third last
  obtain ⟨v, value⟩ : ∃ v, ((a.toNat % 8 * 64 + low6 b) * 64 + low6 c) * 64 + low6 d = v := ⟨_, rfl⟩
  have parts : low6 b = b.toNat % 64 ∧ low6 c = c.toNat % 64 ∧ low6 d = d.toNat % 64 :=
    ⟨rfl, rfl, rfl⟩
  unfold String.utf8EncodeChar
  simp only [value, toNat_ofNat (n := v) (by omega)]
  rw [if_neg (by omega), if_neg (by omega), if_neg (by omega), ofNat_eq (b := a) (by omega),
    ofNat_eq (b := b) (by omega), ofNat_eq (b := c) (by omega), ofNat_eq (b := d) (by omega)]

end

/-- What is read as a character are the octets of that character. -/
theorem encode_of_decodeChar {a : UInt8} {rest : Octets} {c : Char} {n : Nat}
    (read : decodeChar a rest = .ok (c, n)) :
    ∃ tail more, rest = tail ++ more ∧ n = tail.length + 1 ∧ String.utf8EncodeChar c = a :: tail := by
  unfold decodeChar at read
  simp only [UInt8.le_iff_toNat_le, UInt8.lt_iff_toNat_lt, Bool.and_eq_true, decide_eq_true_eq,
    UInt8.reduceToNat] at read
  -- The cases are those of the decoder: by the lead, and then by what follows it.
  split at read
  · next lead =>
    cases read
    exact ⟨[], rest, rfl, rfl, encode_one lead⟩
  split at read
  · next lead =>
    split at read
    · cases read
    · next b more =>
      split at read
      · next next =>
        cases read
        exact ⟨[b], more, rfl, rfl, encode_two lead.1 lead.2 next⟩
      · cases read
  split at read
  · next lead =>
    split at read
    · cases read
    · next b more =>
      split at read
      · cases read
      · next next =>
        split at read
        · cases read
        · next c more =>
          split at read
          · next last =>
            cases read
            exact ⟨[b, c], more, rfl, rfl, encode_three lead.1 lead.2 (by simpa using next) last⟩
          · cases read
  split at read
  · next lead =>
    split at read
    · cases read
    · next b more =>
      split at read
      · cases read
      · next next =>
        split at read
        · cases read
        · next c more =>
          split at read
          · cases read
          · next third =>
            split at read
            · cases read
            · next d more =>
              split at read
              · next last =>
                cases read
                exact ⟨[b, c, d], more, rfl, rfl,
                  encode_four lead.1 lead.2 (by simpa using next) (by simpa using third) last⟩
              · cases read
  · cases read

theorem encode_of_decodeFrom {octets : Octets} {position skip : Nat} {s : List Char}
    (within : skip ≤ octets.length) (read : decodeFrom position skip octets = .ok s) :
    octets.drop skip = encode s := by
  induction octets generalizing position skip s with
  | nil =>
    rw [decodeFrom] at read
    cases read
    rw [List.drop_nil]
    rfl
  | cons a rest ih =>
    cases skip with
    | succ skip =>
      rw [decodeFrom] at read
      exact ih (Nat.le_of_succ_le_succ within) read
    | zero =>
      rw [decodeFrom] at read
      split at read
      · cases read
      · next c n char =>
        obtain ⟨tail, more, rfl, rfl, spelled⟩ := encode_of_decodeChar char
        cases others : decodeFrom (position + 1) (tail.length + 1 - 1) (tail ++ more) with
        | error f =>
          rw [others] at read
          cases read
        | ok t =>
          rw [others] at read
          cases read
          have rest := ih (by simp) others
          have whole : encode (c :: t) = a :: (tail ++ encode t) := by
            rw [encode, List.flatMap_cons, spelled]
            rfl
          rw [Nat.add_sub_cancel, List.drop_left] at rest
          rw [List.drop_zero, rest]
          exact whole.symm

/-- Octets spell a text exactly if they are the octets of that text. -/
theorem decode_eq_ok_iff {octets : Octets} {s : List Char} :
    decode octets = .ok s ↔ octets = encode s := by
  refine ⟨fun read => ?_, fun spelled => ?_⟩
  · exact encode_of_decodeFrom (Nat.zero_le _) read
  · rw [spelled, decode_encode]

end InterpreterHost.Utf8
