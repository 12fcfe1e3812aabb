import InterpreterHost.Proofs.Text.Utf8

/-!
# The order of texts

Texts are ordered by their code points, and their octets in UTF-8 are in the same order: an octet more
leads with a higher one, and characters of as many octets are told apart by the first that differs.

## Main statements

* `Utf8.encodeChar_lt` — the octets of an earlier character come first, whatever follows
* `Utf8.encode_lt` — the octets of an earlier text come first
-/

namespace InterpreterHost.Utf8

/-- The octets of a character, by their number. -/
theorem encodeChar_cases (c : Char) {v : Nat} (value : c.val.toNat = v) :
    v < 128 ∧ String.utf8EncodeChar c = [.ofNat v] ∨
    128 ≤ v ∧ v < 2048 ∧ String.utf8EncodeChar c = [.ofNat (v / 64 % 32 + 192), .ofNat (v % 64 + 128)] ∨
    2048 ≤ v ∧ v < 65536 ∧ String.utf8EncodeChar c =
      [.ofNat (v / 4096 % 16 + 224), .ofNat (v / 64 % 64 + 128), .ofNat (v % 64 + 128)] ∨
    65536 ≤ v ∧ v < 1114112 ∧ String.utf8EncodeChar c =
      [.ofNat (v / 262144 % 8 + 240), .ofNat (v / 4096 % 64 + 128), .ofNat (v / 64 % 64 + 128),
        .ofNat (v % 64 + 128)] := by
  have valid : v < 0xd800 ∨ 0xdfff < v ∧ v < 0x110000 := value ▸ c.valid
  unfold String.utf8EncodeChar
  simp only [value]
  split
  · exact .inl ⟨by omega, rfl⟩
  · split
    · exact .inr (.inl ⟨by omega, by omega, rfl⟩)
    · split
      · exact .inr (.inr (.inl ⟨by omega, by omega, rfl⟩))
      · exact .inr (.inr (.inr ⟨by omega, by omega, rfl⟩))

/-- The octets of a character are before those of a later one, whatever follows. -/
theorem encodeChar_lt {c d : Char} (before : c < d) (u v : Octets) :
    String.utf8EncodeChar c ++ u < String.utf8EncodeChar d ++ v := by
  obtain ⟨m, value⟩ : ∃ m, c.val.toNat = m := ⟨_, rfl⟩
  obtain ⟨n, value'⟩ : ∃ n, d.val.toNat = n := ⟨_, rfl⟩
  have less : m < n := by
    rw [← value, ← value']
    exact before
  -- Each octet has six bits, those before it taken off.
  have digits (k : Nat) : k / 4096 = k / 64 / 64 ∧ k / 262144 = k / 64 / 64 / 64 := by omega
  rcases encodeChar_cases c value with ⟨size, octets⟩ | ⟨size, size', octets⟩ | ⟨size, size', octets⟩ |
      ⟨size, size', octets⟩ <;>
    rcases encodeChar_cases d value' with ⟨room, octets'⟩ | ⟨room, room', octets'⟩ | ⟨room, room', octets'⟩ |
      ⟨room, room', octets'⟩ <;>
    rw [octets, octets'] <;>
    simp only [List.cons_append, List.nil_append, List.cons_lt_cons_iff, UInt8.lt_iff_toNat_lt, ← UInt8.toNat_inj] <;>
    simp (disch := omega) only [toNat_octet, digits] <;>
    omega

theorem encode_cons (c : Char) (s : List Char) : encode (c :: s) = String.utf8EncodeChar c ++ encode s :=
  List.flatMap_cons

/-- The octets of an earlier text come first. -/
theorem encode_lt {s t : List Char} (before : s < t) : encode s < encode t := by
  induction before with
  | @nil d t =>
    obtain ⟨a, tail, octets, -⟩ := decodeChar_encode d []
    rw [encode_cons, octets]
    exact .nil
  | @rel c s d t less =>
    rw [encode_cons, encode_cons]
    exact encodeChar_lt less _ _
  | @cons c s t _ ih =>
    rw [encode_cons, encode_cons]
    exact List.append_left_lt ih

end InterpreterHost.Utf8
