import InterpreterHost.Proofs.State.Saving

/-!
# Reading octets that may be no saved state

Octets are taken for a saved state exactly if they have the form of one, and otherwise the first
thing that is wrong with them is reported and nothing is handed to the interpreter.  The form is
described by the parts of the octets and not by the order in which they are read.

## Main definitions

* `Header.Spells` — octets that are a text with its length before it
* `Header.Holds` — octets that begin with the four texts of parameters
* `Container.Form` — the octets of a saved state
* `Container.Refuses` — what is wrong with octets that are none
* `StateObject.Reads` — what becomes of octets that are read as a saved state

## Main statements

* `Header.decode_eq_ok_iff` — a header is read exactly if the four texts are there
* `Container.read_of_form`, `Container.read_of_refuses`, `Container.form_or_refuses` — either the
  octets have the form and are read, or one thing is wrong with them and is reported
* `StateObject.reads` — reading as a whole
-/

namespace InterpreterHost

/-! ## Numbers -/

/-- So many octets are a number that has room in them. -/
theorem ofLittleEndian_lt (octets : Octets) : ofLittleEndian octets < 256 ^ octets.length := by
  induction octets with
  | nil => decide
  | cons b rest ih =>
    have small := b.toNat_lt
    rw [ofLittleEndian, List.length_cons, Nat.pow_succ]
    omega

/-- Four octets are a number of 32 bits. -/
theorem exists_toNat_eq {octets : Octets} (four : octets.length = 4) :
    ∃ n : UInt32, ofLittleEndian octets = n.toNat := by
  have bound : ofLittleEndian octets < 2 ^ 32 := by
    have bound := ofLittleEndian_lt octets
    rwa [four] at bound
  exact ⟨UInt32.ofNat (ofLittleEndian octets), by rw [UInt32.toNat_ofNat', Nat.mod_eq_of_lt bound]⟩

theorem exists_append_of_le {octets : Octets} {n : Nat} (enough : n ≤ octets.length) :
    ∃ front back, octets = front ++ back ∧ front.length = n :=
  ⟨octets.take n, octets.drop n, (List.take_append_drop n octets).symm,
    List.length_take_of_le enough⟩

namespace Header

/-! ## Texts -/

/-- The octets are a text in UTF-8 with its length before it, in eight octets of which the lowest
comes first. -/
def Spells (s : String) (octets : Octets) : Prop :=
  ∃ size text, octets = size ++ text ∧ size.length = 8 ∧ ofLittleEndian size = text.length ∧
    text = Utf8.encode s.toList

/-- A text is read exactly if the octets begin with one. -/
theorem decodeText_eq_ok_iff {octets rest : Octets} {s : String} :
    decodeText octets = .ok (s, rest) ↔ ∃ text, octets = text ++ rest ∧ Spells s text := by
  constructor
  · intro read
    unfold decodeText at read
    split at read
    · cases read
    · next long =>
      dsimp only at read
      split at read
      · cases read
      · next enough =>
        split at read
        · next chars decoded =>
          cases read
          have spelled := Utf8.decode_eq_ok_iff.1 decoded
          refine ⟨octets.take 8 ++ (octets.drop 8).take (ofLittleEndian (octets.take 8)), ?_,
            octets.take 8, _, rfl, ?_, ?_, ?_⟩
          · rw [List.append_assoc, List.take_append_drop, List.take_append_drop]
          · rw [List.length_take]
            omega
          · rw [List.length_take]
            omega
          · rw [spelled, String.toList_ofList]
        · cases read
  · rintro ⟨_, rfl, size, text, rfl, eight, length, spelled⟩
    have front : (size ++ text ++ rest).take 8 = size := by
      rw [List.append_assoc, List.take_left' eight]
    have back : (size ++ text ++ rest).drop 8 = text ++ rest := by
      rw [List.append_assoc, List.drop_left' eight]
    have long : ¬ (size ++ text ++ rest).length < 8 := by
      rw [List.append_assoc, List.length_append]
      omega
    have enough : ¬ (text ++ rest).length < text.length := by
      rw [List.length_append]
      omega
    have decoded : Utf8.decode text = .ok s.toList := Utf8.decode_eq_ok_iff.2 spelled
    simp only [decodeText, if_neg long, front, back, length, if_neg enough, List.take_left,
      List.drop_left, decoded, String.ofList_toList]

/-! ## Headers -/

/-- The octets begin with the four texts of the parameters, one after the other. -/
def Holds (octets : Octets) (p : StateParams) : Prop :=
  ∃ modulePath moduleName className writeMethod rest,
    octets = modulePath ++ (moduleName ++ (className ++ (writeMethod ++ rest))) ∧
      Spells p.modulePath modulePath ∧ Spells p.moduleName moduleName ∧
      Spells p.className className ∧ Spells p.writeMethod writeMethod

/-- A header is read exactly if the four texts are there. -/
theorem decode_eq_ok_iff {octets : Octets} {p : StateParams} :
    decode octets = .ok p ↔ Holds octets p := by
  constructor
  · intro read
    obtain ⟨⟨modulePath, octets₁⟩, first, read⟩ := of_bind_eq_ok read
    obtain ⟨⟨moduleName, octets₂⟩, second, read⟩ := of_bind_eq_ok read
    obtain ⟨⟨className, octets₃⟩, third, read⟩ := of_bind_eq_ok read
    obtain ⟨⟨writeMethod, octets₄⟩, fourth, read⟩ := of_bind_eq_ok read
    cases read
    obtain ⟨a, rfl, path⟩ := decodeText_eq_ok_iff.1 first
    obtain ⟨b, rfl, module⟩ := decodeText_eq_ok_iff.1 second
    obtain ⟨c, rfl, name⟩ := decodeText_eq_ok_iff.1 third
    obtain ⟨d, rfl, method⟩ := decodeText_eq_ok_iff.1 fourth
    exact ⟨a, b, c, d, octets₄, rfl, path, module, name, method⟩
  · rintro ⟨a, b, c, d, rest, rfl, path, module, name, method⟩
    have read {s : String} {text : Octets} (spelled : Spells s text) (rest : Octets) :
        decodeText (text ++ rest) = .ok (s, rest) := decodeText_eq_ok_iff.2 ⟨text, rfl, spelled⟩
    simp only [decode, read path, read module, read name, read method, bind, Except.bind, pure,
      Except.pure]

end Header

namespace Container

/-! ## The form of a saved state -/

/-- The octets of a saved state: the version, the length of the header in four octets, the header,
which begins with the parameters, and what is left for the class. -/
def Form (octets : Octets) (p : StateParams) (payload : Octets) : Prop :=
  ∃ length header, octets = 1 :: (length ++ (header ++ payload)) ∧ length.length = 4 ∧
    ofLittleEndian length = header.length ∧ 0 < header.length ∧ Header.Holds header p

/-- What is wrong with octets that are no saved state.  Each case supposes that those before it are
not given. -/
inductive Refuses : Octets → StateError → Prop
  /-- There is no version. -/
  | noVersion : Refuses [] (.stream .ended)
  | version {b : UInt8} {rest : Octets} (other : b ≠ 1) :
      Refuses (b :: rest) (.unsupportedVersion b)
  /-- The octets end in the length of the header. -/
  | noLength {rest : Octets} (short : rest.length < 4) :
      Refuses (1 :: rest) (.stream .ended)
  | emptyHeader {length rest : Octets} (four : length.length = 4) (zero : ofLittleEndian length = 0) :
      Refuses (1 :: (length ++ rest)) .emptyHeader
  /-- The octets end in the header. -/
  | truncated {length rest : Octets} {n : UInt32} (four : length.length = 4)
      (size : ofLittleEndian length = n.toNat) (short : rest.length < n.toNat) :
      Refuses (1 :: (length ++ rest)) (.truncatedHeader n)
  /-- There are no four texts in the header; the fault tells where they end. -/
  | header {length header rest : Octets} {fault : HeaderFault} (four : length.length = 4)
      (size : ofLittleEndian length = header.length) (some' : 0 < header.length)
      (no : ∀ p, ¬ Header.Holds header p) (reported : Header.decode header = .error fault) :
      Refuses (1 :: (length ++ (header ++ rest))) (.header fault)

/-! ## Reading -/

theorem read_cons (b : UInt8) (rest : Octets) :
    read ⟨b :: rest, none⟩ =
      if b = 1 then readLength ⟨rest, none⟩ else (.error (.unsupportedVersion b), ⟨rest, none⟩) := by
  have first : readExactly ⟨[b] ++ rest, none⟩ 1 = (.ok [b], ⟨rest, none⟩) := readExactly_append rfl rest none
  rw [read, List.singleton_append.symm, first]
  rfl

/-- The length of a header is read from its four octets. -/
theorem readLength_append {length : Octets} (four : length.length = 4) {n : UInt32}
    (size : ofLittleEndian length = n.toNat) (rest : Octets) :
    readLength ⟨length ++ rest, none⟩ =
      if n = 0 then (.error .emptyHeader, ⟨rest, none⟩) else readHeader ⟨rest, none⟩ n := by
  rw [readLength, readExactly_append four]
  simp only [size, UInt32.ofNat_toNat]

/-- A header that is there is read by itself, whatever follows it. -/
theorem read_header {length header : Octets} (four : length.length = 4)
    (size : ofLittleEndian length = header.length) (some' : 0 < header.length) (rest : Octets) :
    read ⟨1 :: (length ++ (header ++ rest)), none⟩ =
      ((Header.decode header).mapError .header, ⟨rest, none⟩) := by
  have room : header.length < 2 ^ 32 := by
    have bound := ofLittleEndian_lt length
    rwa [four, size] at bound
  have exact := toNat_lengthOf room
  have notEmpty : lengthOf header ≠ 0 := by
    intro empty
    rw [empty] at exact
    exact Nat.ne_of_lt some' exact
  rw [read_cons, if_pos rfl, readLength_append four (size.trans exact.symm), if_neg notEmpty,
    readHeader, exact, Source.take_append]

/-- Octets that have the form of a saved state are read as such, and what is left for the class is
left. -/
theorem read_of_form {octets payload : Octets} {p : StateParams} (form : Form octets p payload) :
    read ⟨octets, none⟩ = (.ok p, ⟨payload, none⟩) := by
  obtain ⟨length, header, rfl, four, size, some', holds⟩ := form
  rw [read_header four size some', Header.decode_eq_ok_iff.2 holds]
  rfl

/-- What a header holds after its texts is read over, and is nothing of what follows the header. -/
example : read ⟨[1, 33, 0, 0, 0] ++ List.replicate 32 0 ++ [7, 9], none⟩ =
    (.ok { modulePath := "", moduleName := "", className := "", writeMethod := "" }, ⟨[9], none⟩) := rfl

/-- What is wrong with octets is reported. -/
theorem read_of_refuses {octets : Octets} {e : StateError} (refuses : Refuses octets e) :
    ∃ source, read ⟨octets, none⟩ = (.error e, source) := by
  cases refuses with
  | noVersion => exact ⟨_, rfl⟩
  | version other =>
    rw [read_cons, if_neg other]
    exact ⟨_, rfl⟩
  | @noLength rest short =>
    rw [read_cons, if_pos rfl, readLength, readExactly, Source.take, if_neg (by simpa using short)]
    exact ⟨_, rfl⟩
  | emptyHeader four zero =>
    rw [read_cons, if_pos rfl, readLength_append four (n := 0) zero, if_pos rfl]
    exact ⟨_, rfl⟩
  | @truncated length rest n four size short =>
    have notEmpty : n ≠ 0 := by
      rintro rfl
      exact Nat.not_lt_zero _ short
    rw [read_cons, if_pos rfl, readLength_append four size, if_neg notEmpty, readHeader, Source.take,
      if_neg (Nat.not_le.2 short)]
    exact ⟨_, rfl⟩
  | header four size some' _ reported =>
    rw [read_header four size some', reported]
    exact ⟨_, rfl⟩

/-- Octets after the length of a header are a header and the rest, or there is something wrong. -/
theorem form_or_refuses_of_length {length : Octets} (four : length.length = 4) (more : Octets) :
    (∃ p payload, Form (1 :: (length ++ more)) p payload) ∨ ∃ e, Refuses (1 :: (length ++ more)) e := by
  obtain ⟨n, size⟩ := exists_toNat_eq four
  by_cases zero : n = 0
  · subst zero
    exact .inr ⟨_, .emptyHeader four size⟩
  · by_cases short : more.length < n.toNat
    · exact .inr ⟨_, .truncated four size short⟩
    · obtain ⟨header, payload, rfl, exact⟩ := exists_append_of_le (Nat.not_lt.1 short)
      have some' : 0 < header.length := by
        rw [exact]
        exact Nat.pos_of_ne_zero fun none' => zero (UInt32.toNat_inj.1 none')
      rw [← exact] at size
      cases decoded : Header.decode header with
      | ok p =>
        exact .inl ⟨p, payload, length, header, rfl, four, size, some',
          Header.decode_eq_ok_iff.1 decoded⟩
      | error fault =>
        refine .inr ⟨_, .header four size some' (fun p holds => ?_) decoded⟩
        rw [Header.decode_eq_ok_iff.2 holds] at decoded
        cases decoded

/-- There is no third thing: octets have the form of a saved state, or something is wrong with them. -/
theorem form_or_refuses (octets : Octets) :
    (∃ p payload, Form octets p payload) ∨ ∃ e, Refuses octets e := by
  cases octets with
  | nil => exact .inr ⟨_, .noVersion⟩
  | cons b rest =>
    by_cases one : b = 1
    · subst one
      by_cases short : rest.length < 4
      · exact .inr ⟨_, .noLength short⟩
      · obtain ⟨length, more, rfl, four⟩ := exists_append_of_le (Nat.not_lt.1 short)
        exact form_or_refuses_of_length four more
    · exact .inr ⟨_, .version one⟩

/-- Octets are read as a saved state exactly if they have the form of one. -/
theorem read_eq_ok_iff {octets : Octets} {p : StateParams} {source : Source} :
    read ⟨octets, none⟩ = (.ok p, source) ↔ ∃ payload, source = ⟨payload, none⟩ ∧ Form octets p payload := by
  constructor
  · intro found
    rcases form_or_refuses octets with ⟨q, payload, form⟩ | ⟨e, refuses⟩
    · rw [read_of_form form] at found
      cases found
      exact ⟨payload, rfl, form⟩
    · obtain ⟨source', refused⟩ := read_of_refuses refuses
      rw [refused] at found
      cases found
  · rintro ⟨payload, rfl, form⟩
    exact read_of_form form

/-- An error is reported exactly if that is what is wrong. -/
theorem read_eq_error_iff {octets : Octets} {e : StateError} :
    (∃ source, read ⟨octets, none⟩ = (.error e, source)) ↔ Refuses octets e := by
  constructor
  · rintro ⟨source, reported⟩
    rcases form_or_refuses octets with ⟨q, payload, form⟩ | ⟨e', refuses⟩
    · rw [read_of_form form] at reported
      cases reported
    · obtain ⟨source', refused⟩ := read_of_refuses refuses
      rw [refused] at reported
      cases reported
      exact refuses
  · exact read_of_refuses

end Container

namespace StateObject

/-! ## What becomes of octets -/

/-- What becomes of octets that are read as a saved state. -/
structure Reads (octets : Octets) : Prop where
  /-- The container is taken off exactly if the octets have its form; the parameters are those in the
  header, and the rest is what follows the header. -/
  accepted : ∀ p source, Container.read ⟨octets, none⟩ = (.ok p, source) ↔
    ∃ payload, source = ⟨payload, none⟩ ∧ Container.Form octets p payload
  /-- Otherwise the first thing that is wrong is reported. -/
  refused : ∀ e, (∃ source, Container.read ⟨octets, none⟩ = (.error e, source)) ↔
    Container.Refuses octets e
  /-- The class that the header names is handed a file with what follows the header. -/
  file : ∀ p payload, Container.Form octets p payload → PassesOn ⟨octets, none⟩ p payload
  /-- Of what is refused nothing is handed to the interpreter, be it read by itself, -/
  restore : ∀ e, Container.Refuses octets e → ∀ params h,
    ∃ source, (restore ⟨octets, none⟩ params).run h = (.ok (.error e, source), h)
  /-- as a state that is created, -/
  create : ∀ e, Container.Refuses octets e → ∀ fixed params h,
    ∃ source, ((Creator.object fixed).load ⟨octets, none⟩ params).run h = (.ok (.error e, source), h)
  /-- or in the place of a state, which stays as it is. -/
  load : ∀ e, Container.Refuses octets e → ∀ (s : StateObject) params h, s.isTerminated = false →
    ∃ source, (s.load ⟨octets, none⟩ params).run h = (.ok (s, .error e, source), h)

theorem restore_of_refuses {octets : Octets} {e : StateError} (refuses : Container.Refuses octets e)
    (params : ValueMap) (h : Host) :
    ∃ source, (restore ⟨octets, none⟩ params).run h = (.ok (.error e, source), h) := by
  obtain ⟨source, refused⟩ := Container.read_of_refuses refuses
  refine ⟨source, ?_⟩
  rw [restore, refused]
  rfl

/-- Octets are read as a saved state exactly if they are one; otherwise it is reported what is wrong
with them and the interpreter gets nothing. -/
theorem reads (octets : Octets) : Reads octets where
  accepted _ _ := Container.read_eq_ok_iff
  refused _ := Container.read_eq_error_iff
  file _ _ form := passesOn_of_read (Container.read_of_form form)
  restore e refuses params h := restore_of_refuses refuses params h
  create e refuses fixed params h := by
    obtain ⟨source, refused⟩ := restore_of_refuses refuses params h
    refine ⟨source, ?_⟩
    rw [Creator.load, run_bind, refused]
    rfl
  load e refuses s params h alive := by
    obtain ⟨source, refused⟩ := restore_of_refuses refuses params h
    refine ⟨source, ?_⟩
    cases object : s.object with
    | none =>
      rw [isTerminated, object] at alive
      cases alive
    | some old =>
      rw [load, object]
      simp only [run_bind, refused]
      rfl

end StateObject

end InterpreterHost
