import InterpreterHost.Proofs.Text.Utf8
import InterpreterHost.State.Header
import Mathlib.Algebra.Group.Nat.Defs

/-!
# The container there and back

What is written before the octets of a state can be told from them: the length of each part stands
before it.  So the header is read as it was written whatever follows, and nothing is taken from what
follows.

## Main statements

* `Header.decode_encode` — a header is read as it was written, whatever follows
* `Container.read_start` — the container is read up to what the state has saved
* `Container.start_append_inj` — different parameters or different octets of a state are written
  differently
-/

namespace InterpreterHost

/-! ## Numbers -/

theorem length_littleEndian (width n : Nat) : (littleEndian width n).length = width := by
  induction width generalizing n with
  | zero => rfl
  | succ width ih => rw [littleEndian, List.length_cons, ih]

/-- A number is read as it was written if it has room. -/
theorem ofLittleEndian_littleEndian (width n : Nat) :
    ofLittleEndian (littleEndian width n) = n % 256 ^ width := by
  induction width generalizing n with
  | zero => rw [littleEndian, ofLittleEndian, Nat.pow_zero, Nat.mod_one]
  | succ width ih =>
    rw [littleEndian, ofLittleEndian, ih, UInt8.toNat_ofNat']
    change n % 256 + 256 * (n / 256 % 256 ^ width) = n % 256 ^ (width + 1)
    rw [Nat.pow_succ, Nat.mul_comm (256 ^ width), Nat.mod_mul]

/-! ## Headers -/

namespace Header

/-- A text is read as it was written, whatever follows. -/
theorem decodeText_encodeText {s : String} (room : (encodeText s).length < 2 ^ 32) (rest : Octets) :
    decodeText (encodeText s ++ rest) = .ok (s, rest) := by
  obtain ⟨octets, spelled⟩ : ∃ octets, Utf8.encode s.toList = octets := ⟨_, rfl⟩
  have text : Utf8.decode octets = .ok s.toList := by rw [← spelled, Utf8.decode_encode]
  have written : encodeText s ++ rest = littleEndian 8 octets.length ++ (octets ++ rest) := by
    rw [encodeText, spelled, List.append_assoc]
  have size : (littleEndian 8 octets.length).length = 8 := length_littleEndian 8 _
  have length : ofLittleEndian (littleEndian 8 octets.length) = octets.length := by
    rw [encodeText, spelled, List.length_append] at room
    rw [ofLittleEndian_littleEndian]
    omega
  have front : (encodeText s ++ rest).take 8 = littleEndian 8 octets.length := by
    rw [written]
    exact List.take_left' size
  have back : (encodeText s ++ rest).drop 8 = octets ++ rest := by
    rw [written]
    exact List.drop_left' size
  have long : ¬ (encodeText s ++ rest).length < 8 := by
    rw [written, List.length_append, size]
    omega
  have long' : ¬ (octets ++ rest).length < octets.length := by
    rw [List.length_append]
    omega
  simp only [decodeText, if_neg long, front, back, length, if_neg long', List.take_left, List.drop_left,
    text, String.ofList_toList]

/-- A header is read as it was written, whatever follows. -/
theorem decode_encode {p : StateParams} (room : (encode p).length < 2 ^ 32) (rest : Octets) :
    decode (encode p ++ rest) = .ok p := by
  simp only [encode, List.length_append] at room
  have modulePath := decodeText_encodeText (s := p.modulePath) (by omega)
  have moduleName := decodeText_encodeText (s := p.moduleName) (by omega)
  have className := decodeText_encodeText (s := p.className) (by omega)
  have writeMethod := decodeText_encodeText (s := p.writeMethod) (by omega)
  simp only [decode, encode, List.append_assoc, modulePath, moduleName, className, writeMethod, bind,
    Except.bind, pure, Except.pure]

theorem length_encode_pos (p : StateParams) : 0 < (encode p).length := by
  simp only [encode, encodeText, List.length_append, length_littleEndian]
  omega

end Header

/-! ## Containers -/

/-- Octets that begin with so many are read up to them. -/
theorem Source.take_append (octets rest : Octets) (failure : Option StreamError) :
    (⟨octets ++ rest, failure⟩ : Source).take octets.length = (.ok octets, ⟨rest, failure⟩) := by
  simp [take]

namespace Container

theorem toNat_lengthOf {header : Octets} (room : header.length < 2 ^ 32) :
    (lengthOf header).toNat = header.length := by
  rw [lengthOf, UInt32.toNat_ofNat', Nat.mod_eq_of_lt room]

/-- So many octets are read as the source begins with. -/
theorem readExactly_append {octets : Octets} {n : Nat} (size : octets.length = n) (rest : Octets)
    (failure : Option StreamError) :
    readExactly ⟨octets ++ rest, failure⟩ n = (.ok octets, ⟨rest, failure⟩) := by
  subst size
  rw [readExactly, Source.take_append]
  rfl

/-- The container is read up to what the state has saved. -/
theorem read_start {p : StateParams} (room : (Header.encode p).length < 2 ^ 32) (payload : Octets)
    (failure : Option StreamError) :
    read ⟨start p ++ payload, failure⟩ = (.ok p, ⟨payload, failure⟩) := by
  obtain ⟨header, encoded⟩ : ∃ header, Header.encode p = header := ⟨_, rfl⟩
  have decoded : Header.decode header = .ok p := by
    rw [← encoded]
    simpa using Header.decode_encode room []
  have some' := Header.length_encode_pos p
  rw [encoded] at room some'
  have size := toNat_lengthOf room
  have written : start p ++ payload =
      [version] ++ (littleEndian 4 (lengthOf header).toNat ++ (header ++ payload)) := by
    simp [start, encoded]
  have length : UInt32.ofNat (ofLittleEndian (littleEndian 4 (lengthOf header).toNat)) =
      lengthOf header := by
    have bound : (lengthOf header).toNat < 256 ^ 4 := (lengthOf header).toNat_lt
    rw [ofLittleEndian_littleEndian, Nat.mod_eq_of_lt bound, UInt32.ofNat_toNat]
  have notEmpty : lengthOf header ≠ 0 := by
    intro empty
    rw [empty] at size
    exact Nat.ne_of_lt some' size
  have header' : readHeader ⟨header ++ payload, failure⟩ (lengthOf header) =
      (.ok p, ⟨payload, failure⟩) := by
    rw [readHeader, size, Source.take_append]
    simp only [decoded]
    rfl
  -- Each part is read by the length that was written before it.
  have one : List.length [version] = 1 := rfl
  rw [read, written, readExactly_append one]
  dsimp only
  rw [List.headD_cons, if_pos rfl, readLength, readExactly_append (length_littleEndian 4 _)]
  dsimp only
  rw [length, if_neg notEmpty, header']

/-- Different parameters or different octets of a state are written differently. -/
theorem start_append_inj {p q : StateParams} {payload payload' : Octets}
    (room : (Header.encode p).length < 2 ^ 32) (room' : (Header.encode q).length < 2 ^ 32)
    (same : start p ++ payload = start q ++ payload') : p = q ∧ payload = payload' := by
  have first := read_start room payload none
  rw [same, read_start room' payload' none] at first
  cases first
  exact ⟨rfl, rfl⟩

end Container

end InterpreterHost
