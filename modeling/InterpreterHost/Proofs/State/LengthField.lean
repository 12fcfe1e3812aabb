import InterpreterHost.Proofs.State.Reading

/-!
# The length of a header as it is written

The length of a header is written in four octets, whatever it is, and what does not fit is lost.  Below 2 ^ 32 the
four octets are the length.  A longer header is written as a whole and without an error, but its container is never
read: the four octets say that the header is empty, or they cut it short, and a header that is cut short lacks the
end of a text.

## Main definitions

* `HeaderFault.IsShort` — octets end before the texts of a header do
* `Container.Measured` — what the four octets say, and what comes of the container when it is read

## Main statements

* `Header.decode_take_encode` — a header that is cut short is not read, wherever it is cut
* `Container.measured` — a container is read back exactly if its header is shorter than 2 ^ 32 octets
* `Container.write_tooLong` — a header of 2 ^ 32 octets is written as an empty one

## Design notes

A text of 2 ^ 64 octets or more would not fit its own length either.  No text is as long, so where it matters which
error a cut header gives, the length of the header is supposed to be smaller.
-/

namespace InterpreterHost

/-! ## Texts that are cut short -/

/-- Octets end before the texts of a header do: in the length of one, or in the text itself. -/
def HeaderFault.IsShort (fault : HeaderFault) : Prop := fault = .noLength ∨ fault = .noText

namespace Header

theorem length_encodeText (s : String) : (encodeText s).length = 8 + (Utf8.encode s.toList).length := by
  rw [encodeText, List.length_append, length_littleEndian]

theorem length_encode (p : StateParams) : (encode p).length =
    32 + ((Utf8.encode p.modulePath.toList).length + (Utf8.encode p.moduleName.toList).length +
      (Utf8.encode p.className.toList).length + (Utf8.encode p.writeMethod.toList).length) := by
  simp only [encode, List.length_append, length_encodeText]
  omega

theorem Spells.length_eq {s : String} {octets : Octets} (spells : Spells s octets) :
    octets.length = (encodeText s).length := by
  obtain ⟨size, text, rfl, eight, -, rfl⟩ := spells
  rw [List.length_append, eight, length_encodeText]

/-- The parameters that octets hold are there as a whole. -/
theorem Holds.length_le {octets : Octets} {p : StateParams} (holds : Holds octets p) :
    (encode p).length ≤ octets.length := by
  obtain ⟨modulePath, moduleName, className, writeMethod, rest, rfl, path, module, name, method⟩ := holds
  simp only [encode, List.length_append, path.length_eq, module.length_eq, name.length_eq, method.length_eq]
  omega

theorem spells_encodeText {s : String} (bound : (encodeText s).length < 2 ^ 64) : Spells s (encodeText s) := by
  refine ⟨littleEndian 8 (Utf8.encode s.toList).length, Utf8.encode s.toList, rfl, length_littleEndian 8 _, ?_, rfl⟩
  rw [length_encodeText] at bound
  rw [ofLittleEndian_littleEndian]
  omega

/-- A text that is cut short is missed, in its length or in what follows that. -/
theorem decodeText_take_of_lt {s : String} (bound : (encodeText s).length < 2 ^ 64) {n : Nat}
    (short : n < (encodeText s).length) :
    ∃ fault : HeaderFault, fault.IsShort ∧ decodeText ((encodeText s).take n) = .error fault := by
  rw [length_encodeText] at bound short
  have size : ((encodeText s).take n).length = n := by
    rw [List.length_take, length_encodeText]
    omega
  unfold decodeText
  rw [size]
  by_cases inLength : n < 8
  · exact ⟨.noLength, .inl rfl, if_pos inLength⟩
  · have declared : ofLittleEndian (((encodeText s).take n).take 8) = (Utf8.encode s.toList).length := by
      rw [List.take_take, Nat.min_eq_left (Nat.not_lt.1 inLength), encodeText, List.take_left' (length_littleEndian 8 _),
        ofLittleEndian_littleEndian]
      omega
    have missing : (((encodeText s).take n).drop 8).length < (Utf8.encode s.toList).length := by
      rw [List.length_drop, size]
      omega
    refine ⟨.noText, .inr rfl, ?_⟩
    rw [if_neg inLength]
    dsimp only
    rw [declared, if_pos missing]

/-- A cut is within the text, or the text is read and the cut is in what follows. -/
theorem decodeText_take {s : String} (bound : (encodeText s).length < 2 ^ 64) (rest : Octets) (n : Nat) :
    (∃ fault : HeaderFault, fault.IsShort ∧ decodeText ((encodeText s ++ rest).take n) = .error fault) ∨
      (encodeText s).length ≤ n ∧
        decodeText ((encodeText s ++ rest).take n) = .ok (s, rest.take (n - (encodeText s).length)) := by
  by_cases short : n < (encodeText s).length
  · rw [List.take_append_of_le_length (Nat.le_of_lt short)]
    exact .inl (decodeText_take_of_lt bound short)
  · have whole : (encodeText s).length ≤ n := Nat.not_lt.1 short
    refine .inr ⟨whole, decodeText_eq_ok_iff.2 ⟨encodeText s, ?_, spells_encodeText bound⟩⟩
    rw [List.take_append, List.take_of_length_le whole]

/-- A header that is cut short is not read, wherever it is cut. -/
theorem decode_take_encode {p : StateParams} (bound : (encode p).length < 2 ^ 64) {n : Nat}
    (short : n < (encode p).length) :
    ∃ fault : HeaderFault, fault.IsShort ∧ decode ((encode p).take n) = .error fault := by
  obtain ⟨a, path⟩ : ∃ a, (encodeText p.modulePath).length = a := ⟨_, rfl⟩
  obtain ⟨b, module⟩ : ∃ b, (encodeText p.moduleName).length = b := ⟨_, rfl⟩
  obtain ⟨c, name⟩ : ∃ c, (encodeText p.className).length = c := ⟨_, rfl⟩
  simp only [encode, List.length_append, path, module, name] at bound short
  -- The first text that is not there as a whole ends the reading.
  simp only [encode, List.append_assoc, decode, bind, Except.bind]
  rcases decodeText_take (s := p.modulePath) (by omega) (encodeText p.moduleName ++ (encodeText p.className ++
      encodeText p.writeMethod)) n with ⟨fault, is, missed⟩ | ⟨whole, read⟩
  · exact ⟨fault, is, by rw [missed]⟩
  rw [read, path]
  dsimp only
  rcases decodeText_take (s := p.moduleName) (by omega) (encodeText p.className ++ encodeText p.writeMethod) (n - a)
    with ⟨fault, is, missed⟩ | ⟨whole', read⟩
  · exact ⟨fault, is, by rw [missed]⟩
  rw [read, module]
  dsimp only
  rcases decodeText_take (s := p.className) (by omega) (encodeText p.writeMethod) (n - a - b)
    with ⟨fault, is, missed⟩ | ⟨whole'', read⟩
  · exact ⟨fault, is, by rw [missed]⟩
  rw [read, name]
  dsimp only
  obtain ⟨fault, is, missed⟩ := decodeText_take_of_lt (s := p.writeMethod) (n := n - a - b - c) (by omega) (by omega)
  exact ⟨fault, is, by rw [missed]⟩

end Header

/-! ## Containers -/

/-- Octets are read up to as many as are asked for. -/
theorem Source.take_append_of_length {octets : Octets} {n : Nat} (size : octets.length = n) (rest : Octets)
    (failure : Option StreamError) : (⟨octets ++ rest, failure⟩ : Source).take n = (.ok octets, ⟨rest, failure⟩) :=
  size ▸ take_append octets rest failure

namespace Container

/-- The four octets of the length are its lowest 32 bits. -/
theorem ofLittleEndian_lengthOf (header : Octets) :
    ofLittleEndian (littleEndian 4 (lengthOf header).toNat) = (lengthOf header).toNat := by
  rw [ofLittleEndian_littleEndian]
  exact Nat.mod_eq_of_lt (lengthOf header).toNat_lt

theorem toNat_lengthOf_eq_mod (header : Octets) : (lengthOf header).toNat = header.length % 2 ^ 32 := by
  rw [lengthOf, UInt32.toNat_ofNat']

theorem lengthOf_eq_zero_iff {header : Octets} : lengthOf header = 0 ↔ 2 ^ 32 ∣ header.length := by
  rw [← UInt32.toNat_inj, toNat_lengthOf_eq_mod]
  exact (Nat.dvd_iff_mod_eq_zero ..).symm

/-- A container is read by what the four octets say. -/
theorem read_start_append (p : StateParams) (payload : Octets) :
    read ⟨start p ++ payload, none⟩ =
      if lengthOf (Header.encode p) = 0 then (.error .emptyHeader, ⟨Header.encode p ++ payload, none⟩)
      else readHeader ⟨Header.encode p ++ payload, none⟩ (lengthOf (Header.encode p)) := by
  have written : start p ++ payload =
      1 :: (littleEndian 4 (lengthOf (Header.encode p)).toNat ++ (Header.encode p ++ payload)) := by
    simp only [start, version, List.cons_append, List.append_assoc]
  rw [written, read_cons, if_pos rfl, readLength_append (length_littleEndian 4 _) (ofLittleEndian_lengthOf _)]

/-- A header that is too long for its length to be written is never read as what it is. -/
theorem length_lt_of_read {p : StateParams} {octets : Octets} {source : Source}
    (found : read ⟨octets, none⟩ = (.ok p, source)) : (Header.encode p).length < 2 ^ 32 := by
  obtain ⟨payload, -, length, header, -, four, size, -, holds⟩ := read_eq_ok_iff.1 found
  have bound := ofLittleEndian_lt length
  rw [four, size] at bound
  exact Nat.lt_of_le_of_lt holds.length_le bound

/-- A header whose length is a multiple of 2 ^ 32 is said to be empty. -/
theorem read_of_dvd {p : StateParams} (multiple : 2 ^ 32 ∣ (Header.encode p).length) (payload : Octets) :
    read ⟨start p ++ payload, none⟩ = (.error .emptyHeader, ⟨Header.encode p ++ payload, none⟩) := by
  rw [read_start_append, if_pos (lengthOf_eq_zero_iff.2 multiple)]

/-- Any other header that is too long is cut short. -/
theorem read_of_not_dvd {p : StateParams} (long : 2 ^ 32 ≤ (Header.encode p).length)
    (bound : (Header.encode p).length < 2 ^ 64) (other : ¬ 2 ^ 32 ∣ (Header.encode p).length) (payload : Octets) :
    ∃ fault : HeaderFault, fault.IsShort ∧ read ⟨start p ++ payload, none⟩ =
      (.error (.header fault), ⟨(Header.encode p).drop ((Header.encode p).length % 2 ^ 32) ++ payload, none⟩) := by
  have short : (Header.encode p).length % 2 ^ 32 < (Header.encode p).length :=
    Nat.lt_of_lt_of_le (Nat.mod_lt _ (by decide)) long
  have some' : lengthOf (Header.encode p) ≠ 0 := fun zero => other (lengthOf_eq_zero_iff.1 zero)
  obtain ⟨fault, is, missed⟩ := Header.decode_take_encode bound short
  have split : Header.encode p ++ payload =
      (Header.encode p).take ((Header.encode p).length % 2 ^ 32) ++
        ((Header.encode p).drop ((Header.encode p).length % 2 ^ 32) ++ payload) := by
    rw [← List.append_assoc, List.take_append_drop]
  have length : ((Header.encode p).take ((Header.encode p).length % 2 ^ 32)).length =
      (Header.encode p).length % 2 ^ 32 := List.length_take_of_le (Nat.le_of_lt short)
  refine ⟨fault, is, ?_⟩
  rw [read_start_append, if_neg some', readHeader, toNat_lengthOf_eq_mod, split, Source.take_append_of_length length]
  dsimp only
  rw [missed]
  rfl

end Container

/-- A sink that reports no failure has got all octets. -/
theorem Sink.content_of_write {sink sink' : Sink} {octets : Octets} (taken : sink.write octets = (.ok (), sink')) :
    sink'.content = sink.content ++ octets := by
  unfold write at taken
  split at taken
  · cases taken
    rfl
  · dsimp only at taken
    split at taken
    · cases taken
      rfl
    · cases taken

namespace Container

/-- Parts that were written without an error stand one behind the other. -/
theorem content_of_writeParts {sink sink' : Sink} {parts : List Octets}
    (taken : writeParts sink parts = (.ok (), sink')) : sink'.content = sink.content ++ parts.flatten := by
  induction parts generalizing sink with
  | nil =>
    cases taken
    rw [List.flatten_nil, List.append_nil]
  | cons part parts ih =>
    rw [writeParts] at taken
    rcases written : sink.write part with ⟨reason | _, sink₁⟩
    · rw [written] at taken
      cases taken
    · rw [written] at taken
      rw [ih taken, Sink.content_of_write written, List.flatten_cons, List.append_assoc]

theorem content_of_write {sink sink' : Sink} {p : StateParams} (taken : write sink p = (.ok (), sink')) :
    sink'.content = sink.content ++ start p := by
  unfold write at taken
  rcases written : writeParts sink [[version], littleEndian 4 (lengthOf (Header.encode p)).toNat, Header.encode p]
    with ⟨reason | _, sink₁⟩
  · simp only [written] at taken
    cases taken
  · simp only [written] at taken
    cases taken
    rw [content_of_writeParts written]
    simp [start]

/-- A state that was saved has written its container, and what its object left behind that. -/
theorem content_of_save {s : StateObject} {sink sink' : Sink} {params : ValueMap} {h h' : Host}
    (run : (s.save sink params).run h = (.ok (.ok (), sink'), h')) :
    ∃ payload, sink'.content = sink.content ++ (start s.params ++ payload) := by
  unfold StateObject.save at run
  cases object : s.object with
  | none =>
    rw [object] at run
    cases run
  | some i =>
    rw [object] at run
    rcases begun : write sink s.params with ⟨e | _, sink₁⟩
    · simp only [begun] at run
      cases run
    · simp only [begun] at run
      obtain ⟨⟨e, wrong⟩, -⟩ | ⟨payload, -, taken, rfl⟩ := StateObject.savePayload_outcome run
      · cases wrong
      · rcases left : sink₁.write payload with ⟨reason | _, sink₂⟩
        · rw [left] at taken
          cases taken
        · exact ⟨payload, by rw [Sink.content_of_write left, content_of_write begun, List.append_assoc]⟩

/-- What is known of the length that stands before a header. -/
structure Measured (p : StateParams) : Prop where
  /-- The header is written as a whole behind the lowest 32 bits of its length, which are the length exactly if the
  header is shorter than 2 ^ 32 octets. -/
  written : ∀ sink sink', write sink p = (.ok (), sink') → ∃ length : UInt32,
    sink'.content = sink.content ++ 1 :: (littleEndian 4 length.toNat ++ Header.encode p) ∧
      length.toNat = (Header.encode p).length % 2 ^ 32 ∧
      (length.toNat = (Header.encode p).length ↔ (Header.encode p).length < 2 ^ 32)
  /-- So does a state that is saved begin. -/
  saved : ∀ (s : StateObject) sink params h sink' h', s.params = p →
    (s.save sink params).run h = (.ok (.ok (), sink'), h') →
      ∃ payload, sink'.content = sink.content ++ (start p ++ payload)
  /-- Up to what follows it the container is read as what it is, exactly if the header is that short. -/
  read : ∀ payload, read ⟨start p ++ payload, none⟩ = (.ok p, ⟨payload, none⟩) ↔ (Header.encode p).length < 2 ^ 32
  /-- A header whose length is a multiple of 2 ^ 32 is taken for an empty one. -/
  empty : 2 ^ 32 ∣ (Header.encode p).length → ∀ payload,
    Container.read ⟨start p ++ payload, none⟩ = (.error .emptyHeader, ⟨Header.encode p ++ payload, none⟩)
  /-- Any other is cut short, and what is cut off is taken for what the state has saved. -/
  cut : 2 ^ 32 ≤ (Header.encode p).length → (Header.encode p).length < 2 ^ 64 →
    ¬ 2 ^ 32 ∣ (Header.encode p).length → ∀ payload, ∃ fault : HeaderFault, fault.IsShort ∧
      Container.read ⟨start p ++ payload, none⟩ = (.error (.header fault),
        ⟨(Header.encode p).drop ((Header.encode p).length % 2 ^ 32) ++ payload, none⟩)

/-- The length before a header is the length of the header exactly if that is below 2 ^ 32.  The container of a
longer header is written without an error and is refused when it is read. -/
theorem measured (p : StateParams) : Measured p where
  written sink sink' taken := by
    refine ⟨lengthOf (Header.encode p), content_of_write taken, toNat_lengthOf_eq_mod _, ?_⟩
    rw [toNat_lengthOf_eq_mod]
    exact ⟨fun same => same ▸ Nat.mod_lt _ (by decide), Nat.mod_eq_of_lt⟩
  saved s sink params h sink' h' named run := named ▸ content_of_save run
  read payload := ⟨length_lt_of_read, fun room => read_start room payload none⟩
  empty multiple := read_of_dvd multiple
  cut long bound other := read_of_not_dvd long bound other

/-! ### A header of 2 ^ 32 octets -/

theorem length_encode_replicate (n : Nat) : (Utf8.encode (List.replicate n 'a')).length = n := by
  induction n with
  | zero => rfl
  | succ n ih =>
    rw [List.replicate_succ, Utf8.encode, List.flatMap_cons, List.length_append, ← Utf8.encode, ih]
    exact Nat.add_comm 1 n

/-- The parameters of a state whose method to write with has a name of `n` letters. -/
def withMethod (n : Nat) : StateParams where
  moduleName := "model_recorder"
  className := "Keep"
  writeMethod := String.ofList (List.replicate n 'a')

theorem length_withMethod (n : Nat) : (Header.encode (withMethod n)).length = 50 + n := by
  have path : (Utf8.encode (withMethod n).modulePath.toList).length = 0 := rfl
  have module : (Utf8.encode (withMethod n).moduleName.toList).length = 14 := by
    show (Utf8.encode "model_recorder".toList).length = 14
    decide
  have name : (Utf8.encode (withMethod n).className.toList).length = 4 := by
    show (Utf8.encode "Keep".toList).length = 4
    decide
  have method : (Utf8.encode (withMethod n).writeMethod.toList).length = n := by
    rw [withMethod, String.toList_ofList, length_encode_replicate]
  rw [Header.length_encode, path, module, name, method]
  omega

/-- A header whose length is a multiple of 2 ^ 32 is written behind a length of zero. -/
theorem write_of_dvd {p : StateParams} (multiple : 2 ^ 32 ∣ (Header.encode p).length) :
    write {} p = (.ok (), { content := 1 :: ([0, 0, 0, 0] ++ Header.encode p) }) := by
  have begun : start p = 1 :: ([0, 0, 0, 0] ++ Header.encode p) := by
    rw [start, lengthOf_eq_zero_iff.2 multiple]
    rfl
  rw [← begun]
  rfl

/-- A header of 2 ^ 32 octets is written without an error behind a length of zero, and read as an empty one. -/
theorem write_tooLong :
    (Header.encode (withMethod (2 ^ 32 - 50))).length = 2 ^ 32 ∧
      write {} (withMethod (2 ^ 32 - 50)) =
        (.ok (), { content := 1 :: ([0, 0, 0, 0] ++ Header.encode (withMethod (2 ^ 32 - 50))) }) ∧
      ∀ payload, read ⟨start (withMethod (2 ^ 32 - 50)) ++ payload, none⟩ =
        (.error .emptyHeader, ⟨Header.encode (withMethod (2 ^ 32 - 50)) ++ payload, none⟩) := by
  have length : (Header.encode (withMethod (2 ^ 32 - 50))).length = 2 ^ 32 := length_withMethod _
  have multiple : 2 ^ 32 ∣ (Header.encode (withMethod (2 ^ 32 - 50))).length :=
    ⟨1, length⟩
  exact ⟨length, write_of_dvd multiple, read_of_dvd multiple⟩

end Container

end InterpreterHost
