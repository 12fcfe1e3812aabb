import InterpreterHost.Proofs.Json.Numbers
import InterpreterHost.Proofs.Json.Strings

/-!
# Documents that are written and read

A document that was written is read as the same document, unless its containers nest too deep.

## Main definitions

* `Json.Proper` — a document as it can be read: integers of 64 bits, finite doubles, ascending keys
* `Json.Verdict` — what comes of reading a document that may be too deep

## Main statements

* `Json.readsBack` — a proper document is read from its text, whatever follows it
* `Json.read_compact` — a proper document is read from its text if it does not nest too deep
-/

namespace InterpreterHost.Json

/-- What holds of a container if it holds of all its parts holds of every document. -/
@[elab_as_elim]
theorem induction {motive : Json → Prop} (null : motive .null) (bool : ∀ b, motive (.bool b))
    (integer : ∀ i, motive (.integer i)) (float : ∀ f, motive (.float f))
    (string : ∀ s, motive (.string s)) (array : ∀ items, (∀ v ∈ items, motive v) → motive (.array items))
    (object : ∀ entries, (∀ e ∈ entries, motive e.2) → motive (.object entries)) (j : Json) :
    motive j := by
  refine @Json.rec motive (fun items => ∀ v ∈ items, motive v)
    (fun entries => ∀ e ∈ entries, motive e.2) (fun e => motive e.2)
    null bool integer float string array object (List.forall_mem_nil _) ?_
    (List.forall_mem_nil _) ?_ (fun _ _ h => h) j
  · exact fun _ _ head tail => List.forall_mem_cons.2 ⟨head, tail⟩
  · exact fun _ _ head tail => List.forall_mem_cons.2 ⟨head, tail⟩

/-! ## Proper documents -/

mutual

/-- Integers have 64 bits, doubles are finite, and the keys of every object ascend. -/
def Proper : Json → Prop
  | integer i => isWordInteger i
  | float f => f.isFinite
  | array items => ProperItems items
  | object entries => Entries.Ascending entries ∧ ProperEntries entries
  | _ => True

def ProperItems : List Json → Prop
  | [] => True
  | v :: items => Proper v ∧ ProperItems items

def ProperEntries : List (String × Json) → Prop
  | [] => True
  | (_, v) :: entries => Proper v ∧ ProperEntries entries

end

/-! ## How texts start -/

/-- The text starts with something that is no blank and does not end a list. -/
def Starts (text : List Char) : Prop :=
  ∃ c more, text = c :: more ∧ isBlank c = false ∧ c ≠ ']'

theorem isBlank_of_digit {c : Char} (digit : c.isDigit) : isBlank c = false := by
  by_contra blank
  simp only [isBlank, Bool.not_eq_false, Bool.or_eq_true, beq_iff_eq] at blank
  rcases blank with ((rfl | rfl) | rfl) | rfl <;> cases digit

theorem starts_of_digit {text : List Char} (h : ∃ c more, text = c :: more ∧ c.isDigit) : Starts text := by
  obtain ⟨c, more, rfl, digit⟩ := h
  refine ⟨c, more, rfl, isBlank_of_digit digit, ?_⟩
  rintro rfl
  cases digit

theorem Starts.append {text : List Char} (starts : Starts text) (rest : List Char) :
    Starts (text ++ rest) := by
  obtain ⟨c, more, rfl, plain⟩ := starts
  exact ⟨c, more ++ rest, rfl, plain⟩

theorem skipBlanks_cons {c : Char} (plain : isBlank c = false) (s : List Char) :
    skipBlanks (c :: s) = c :: s := by
  rw [skipBlanks, List.dropWhile_cons, plain]
  rfl

/-! ## Reading -/

/-- The text is read as `a` before the rest if it fits, and is refused for nesting too deep otherwise. -/
structure Verdict (fits : Prop) (a : α) (rest : List Char) (result : Except Refusal (α × List Char)) :
    Prop where
  accepts : fits → result = .ok (a, rest)
  refuses : ¬ fits → ∃ r, result = .error r ∧ r.fault = .tooDeep

theorem verdict_ok {fits : Prop} (h : fits) (a : α) (rest : List Char) :
    Verdict fits a rest (.ok (a, rest)) :=
  ⟨fun _ => rfl, fun h' => absurd h h'⟩

theorem Verdict.map {fits : Prop} {a : α} {rest : List Char} {result : Except Refusal (α × List Char)}
    (h : Verdict fits a rest result) (f : α → β) :
    Verdict fits (f a) rest (result.map fun p => (f p.1, p.2)) := by
  refine ⟨fun fits => ?_, fun deep => ?_⟩
  · rw [h.accepts fits]
    rfl
  · obtain ⟨r, equal, fault⟩ := h.refuses deep
    exact ⟨r, by rw [equal]; rfl, fault⟩

/-- One text after another. -/
theorem Verdict.bind {p q both : Prop} (split : both ↔ p ∧ q) {a : α} {b : β} {tail rest : List Char}
    {first : Except Refusal (α × List Char)} {next : α × List Char → Except Refusal (β × List Char)}
    (h : Verdict p a tail first) (h' : Verdict q b rest (next (a, tail))) :
    Verdict both b rest (first >>= next) := by
  by_cases fits : p
  · rw [h.accepts fits]
    refine ⟨fun all => h'.accepts (split.1 all).2, fun deep => h'.refuses fun fits' => ?_⟩
    exact deep (split.2 ⟨fits, fits'⟩)
  · obtain ⟨r, equal, fault⟩ := h.refuses fits
    rw [equal]
    exact ⟨fun all => absurd (split.1 all).1 fits, fun _ => ⟨r, rfl, fault⟩⟩

/-- What is to be shown of the text of a document. -/
structure ReadsBack (j : Json) : Prop where
  starts : Starts (compactChars j)
  read : ∀ depth rest, EndsNumber rest →
    Verdict (j.nesting ≤ depth) j rest (readValue depth (compactChars j ++ rest))

/-- A number is read after its sign. -/
theorem readValue_digit (depth : Nat) {c : Char} (digit : c.isDigit) (s : List Char) :
    readValue depth (c :: s) = readNumber false (c :: s) := by
  unfold readValue
  rw [skipBlanks_cons (isBlank_of_digit digit)]
  split
  · next equal => cases equal
  -- what else a value may begin with is no digit
  iterate 7
    · next equal =>
      cases equal
      cases digit
  · next equal =>
    cases equal
    rw [if_pos digit]

theorem readValue_minus (depth : Nat) (s : List Char) :
    readValue depth ('-' :: s) = readNumber true s := by
  unfold readValue
  rfl

theorem readValue_quote (depth : Nat) (s : List Char) :
    readValue depth ('"' :: s) = (readString s).map fun p => (.string p.1, p.2) := by
  unfold readValue
  rfl

theorem compactChars_natural (n : Nat) : compactChars (.integer n) = Nat.toDigits 10 n := Nat.toList_repr

/-- A natural number starts with a digit. -/
theorem exists_digit_natural (n : Nat) : ∃ c more, compactChars (.integer n) = c :: more ∧ c.isDigit := by
  obtain ⟨c, more, digits, digit⟩ := (numeral_toDigits n).exists_digit []
  rw [List.append_nil] at digits
  exact ⟨c, more, (compactChars_natural n).trans digits, digit⟩

theorem readsBack_integer {i : Int} (word : isWordInteger i) : ReadsBack (.integer i) := by
  simp only [isWordInteger, Bool.and_eq_true, decide_eq_true_eq] at word
  cases i with
  | ofNat n =>
    have start := exists_digit_natural n
    refine ⟨starts_of_digit start, fun depth rest ends => ?_⟩
    obtain ⟨c, more, text, digit⟩ := start
    have read := readNumber_natural (n := n) (by simpa using word.2) ends
    rw [← compactChars_natural, text, List.cons_append] at read
    show Verdict _ _ rest (readValue depth (compactChars (.integer n) ++ rest))
    rw [text, List.cons_append, readValue_digit depth digit, read]
    exact verdict_ok (Nat.zero_le depth) _ _
  | negSucc n =>
    have text : compactChars (.integer (Int.negSucc n)) = '-' :: Nat.toDigits 10 (n + 1) := by
      have shown : (toString (Int.negSucc n)).toList = ("-" ++ (n + 1).repr).toList := rfl
      rw [compactChars, shown, String.toList_append, Nat.toList_repr]
      rfl
    refine ⟨⟨'-', _, text, rfl, by decide⟩, fun depth rest ends => ?_⟩
    have read := readNumber_negative (Nat.succ_ne_zero n) (by omega) ends
    rw [text, List.cons_append, readValue_minus, read]
    exact verdict_ok (Nat.zero_le depth) _ _

theorem readsBack_float {f : Binary64} (finite : f.isFinite) : ReadsBack (.float f) := by
  obtain ⟨start, read⟩ := readsNumber_renderMagnitude finite
  have number : f.isNaN = false ∧ f.isInfinite = false := by
    simp only [Binary64.isFinite, decide_eq_true_eq] at finite
    simp [Binary64.isNaN, Binary64.isInfinite, finite.ne, finite.le]
  have text : compactChars (.float f) =
      (if f.isNegative then ['-'] else []) ++ (layout.renderMagnitude f).toList := by
    rw [compactChars, floatChars, if_pos finite, Decimal.Layout.render]
    simp only [number, Bool.false_eq_true, if_false, String.toList_append]
    cases f.isNegative <;> rfl
  cases sign : f.isNegative with
  | true =>
    rw [sign] at text read
    refine ⟨⟨'-', _, text, rfl, by decide⟩, fun depth rest ends => ?_⟩
    rw [text, if_pos rfl, List.append_assoc, List.singleton_append, readValue_minus, read rest ends]
    exact verdict_ok (Nat.zero_le depth) _ _
  | false =>
    rw [sign] at text read
    rw [if_neg Bool.false_ne_true, List.nil_append] at text
    refine ⟨text ▸ starts_of_digit start, fun depth rest ends => ?_⟩
    obtain ⟨c, more, equal, digit⟩ := start
    have read' := read rest ends
    rw [text]
    rw [equal, List.cons_append] at read' ⊢
    rw [readValue_digit depth digit, read']
    exact verdict_ok (Nat.zero_le depth) _ _

theorem stringChars_append (s : String) (text : List Char) :
    stringChars s ++ text = '"' :: (s.toList.flatMap escapeChar ++ '"' :: text) := by
  simp [stringChars]

theorem readsBack_string (s : String) : ReadsBack (.string s) := by
  refine ⟨⟨'"', _, rfl, rfl, by decide⟩, fun depth rest ends => ?_⟩
  rw [compactChars, stringChars_append, readValue_quote, readString_escaped]
  exact verdict_ok (Nat.zero_le depth) _ _

/-! ## Lists -/

section

variable {item : Reader α} {fuel : Nat} {text : List Char}

theorem readElementsAux_first (starts : Starts text) :
    readElementsAux item (fuel + 1) true text =
      item text >>= fun p => readElementsAux item fuel false p.2 >>= fun q => .ok (p.1 :: q.1, q.2) := by
  obtain ⟨c, more, rfl, plain, other⟩ := starts
  rw [readElementsAux, skipBlanks_cons plain]
  split
  · next equal => cases equal
  · next equal =>
    cases equal
    exact absurd rfl other
  · next equal =>
    cases equal
    rfl

theorem readElementsAux_comma (starts : Starts text) :
    readElementsAux item (fuel + 1) false (',' :: text) =
      item text >>= fun p => readElementsAux item fuel false p.2 >>= fun q => .ok (p.1 :: q.1, q.2) := by
  obtain ⟨c, more, rfl, plain, other⟩ := starts
  rw [readElementsAux, skipBlanks_cons (by decide)]
  split
  · next equal => cases equal
  · next equal => exact absurd (List.cons.inj equal).1 (by decide)
  · next equal =>
    cases equal
    simp only [skipBlanks_cons plain, Bool.false_eq_true, if_false, if_true]
    split
    · next equal => cases equal
    · next equal =>
      cases equal
      exact absurd rfl other
    · rfl

end

theorem endsNumber_compactItems (items : List Json) (rest : List Char) :
    EndsNumber (compactItems items ++ rest) := by
  cases items with
  | nil => simp [compactItems, EndsNumber]
  | cons v items => simp [compactItems, EndsNumber]

theorem length_le_compactItems (items : List Json) : items.length < (compactItems items).length := by
  induction items with
  | nil => exact Nat.one_pos
  | cons v items ih =>
    rw [compactItems, List.length_append, List.length_cons, List.length_cons]
    omega

theorem nestingItems_cons_le {v : Json} {items : List Json} {depth : Nat} :
    nestingItems (v :: items) ≤ depth ↔ nesting v ≤ depth ∧ nestingItems items ≤ depth := by
  rw [nestingItems, Nat.max_le]

/-- The items after the first. -/
theorem readElementsAux_compactItems {items : List Json} (parts : ∀ v ∈ items, ReadsBack v)
    (depth : Nat) (rest : List Char) {fuel : Nat} (enough : items.length < fuel) :
    Verdict (nestingItems items ≤ depth) items rest
      (readElementsAux (readValue depth) fuel false (compactItems items ++ rest)) := by
  induction items generalizing fuel with
  | nil =>
    cases fuel with
    | zero => exact absurd enough (Nat.not_lt_zero _)
    | succ fuel =>
      exact verdict_ok (Nat.zero_le depth) [] rest
  | cons v items ih =>
    obtain ⟨head, tail⟩ := List.forall_mem_cons.1 parts
    cases fuel with
    | zero => exact absurd enough (Nat.not_lt_zero _)
    | succ fuel =>
      have first := head.read depth _ (endsNumber_compactItems items rest)
      have others := ih tail (Nat.lt_of_succ_lt_succ enough)
      rw [compactItems, List.append_assoc, List.cons_append, readElementsAux_comma (head.starts.append _)]
      refine .bind nestingItems_cons_le first ?_
      exact .bind (and_iff_left trivial).symm others (verdict_ok trivial _ _)

theorem readValue_bracket (depth : Nat) (s : List Char) :
    readValue (depth + 1) ('[' :: s) =
      (readElements (readValue depth) s).map fun p => (.array p.1, p.2) := by
  rw [readValue]
  rfl

theorem readsBack_array {items : List Json} (parts : ∀ v ∈ items, ReadsBack v) :
    ReadsBack (.array items) := by
  obtain ⟨inside, text⟩ : ∃ inside, compactChars (.array items) = '[' :: inside := by
    cases items <;> exact ⟨_, rfl⟩
  refine ⟨⟨'[', inside, text, rfl, by decide⟩, fun depth rest _ => ?_⟩
  rw [text, List.cons_append]
  cases depth with
  | zero =>
    -- No container may be entered.
    rw [readValue]
    exact ⟨fun fits => absurd fits (Nat.not_succ_le_zero _), fun _ => ⟨_, rfl, rfl⟩⟩
  | succ depth =>
    rw [readValue_bracket]
    have fits : (array items).nesting ≤ depth + 1 ↔ nestingItems items ≤ depth := by
      rw [nesting, Nat.succ_le_succ_iff]
    refine Verdict.map ?_ Json.array
    simp only [fits]
    cases items with
    | nil =>
      cases text
      exact verdict_ok (Nat.zero_le depth) [] rest
    | cons v items =>
      obtain rfl : inside = compactChars v ++ compactItems items := (List.cons.inj text).2.symm
      obtain ⟨head, tail⟩ := List.forall_mem_cons.1 parts
      have first := head.read depth _ (endsNumber_compactItems items rest)
      rw [readElements, List.append_assoc, readElementsAux_first (head.starts.append _)]
      refine .bind nestingItems_cons_le first ?_
      refine .bind (and_iff_left trivial).symm (readElementsAux_compactItems tail depth rest ?_)
        (verdict_ok trivial _ _)
      have longer := length_le_compactItems items
      rw [List.length_append, List.length_append]
      omega

/-! ## Objects -/

section

variable {member : String → σ → Reader σ} {fuel : Nat} {acc : σ}

theorem readMembersAux_first (key : String) (text : List Char) :
    readMembersAux member (fuel + 1) true acc (stringChars key ++ text) =
      member key acc text >>= fun p => readMembersAux member fuel false p.1 p.2 := by
  rw [stringChars_append, readMembersAux, skipBlanks_cons (by decide)]
  change (readString _ >>= fun p => member p.1 acc p.2 >>= fun q => _) = _
  rw [readString_escaped]
  rfl

theorem readMembersAux_comma (key : String) (text : List Char) :
    readMembersAux member (fuel + 1) false acc (',' :: (stringChars key ++ text)) =
      member key acc text >>= fun p => readMembersAux member fuel false p.1 p.2 := by
  rw [stringChars_append, readMembersAux, skipBlanks_cons (by decide)]
  change (readString _ >>= fun p => member p.1 acc p.2 >>= fun q => _) = _
  rw [readString_escaped]
  rfl

end

theorem readEntry_colon (value : Reader Json) (key : String) (acc : Entries Json) (text : List Char) :
    readEntry value key acc (':' :: text) = value text >>= fun p => .ok (acc.insert key p.1, p.2) := rfl

theorem endsNumber_compactEntries (entries : List (String × Json)) (rest : List Char) :
    EndsNumber (compactEntries entries ++ rest) := by
  cases entries with
  | nil => simp [compactEntries, EndsNumber]
  | cons e entries => simp [compactEntries, EndsNumber]

theorem length_le_compactEntries (entries : List (String × Json)) :
    entries.length < (compactEntries entries).length := by
  induction entries with
  | nil => exact Nat.one_pos
  | cons e entries ih =>
    rw [compactEntries, List.length_append, List.length_append, List.length_cons, List.length_cons]
    omega

theorem nestingEntries_cons_le {k : String} {v : Json} {entries : List (String × Json)} {depth : Nat} :
    nestingEntries ((k, v) :: entries) ≤ depth ↔ nesting v ≤ depth ∧ nestingEntries entries ≤ depth := by
  rw [nestingEntries, Nat.max_le]

/-- An entry, and the entries after it. -/
theorem verdict_entry {k : String} {v : Json} {entries : Entries Json} (head : ReadsBack v) (depth : Nat)
    {tail rest : List Char} (ends : EndsNumber tail) {acc : Entries Json}
    (ascending : Entries.Ascending (acc ++ (k, v) :: entries))
    {next : Entries Json × List Char → Except Refusal (Entries Json × List Char)}
    (others : Verdict (nestingEntries entries ≤ depth) (acc ++ (k, v) :: entries) rest
      (next (acc ++ [(k, v)], tail))) :
    Verdict (nestingEntries ((k, v) :: entries) ≤ depth) (acc ++ (k, v) :: entries) rest
      (readEntry (readValue depth) k acc (':' :: (compactChars v ++ tail)) >>= next) := by
  have value := head.read depth tail ends
  have entry : Verdict (nesting v ≤ depth) (acc ++ [(k, v)]) tail
      (readEntry (readValue depth) k acc (':' :: (compactChars v ++ tail))) := by
    rw [readEntry_colon]
    refine .bind (and_iff_left trivial).symm value ?_
    -- Keys ascend, so each is bound at the end.
    rw [Entries.insert_of_ascending ascending]
    exact verdict_ok trivial _ _
  exact .bind nestingEntries_cons_le entry others

/-- The entries after the first. -/
theorem readMembersAux_compactEntries {entries : Entries Json} (parts : ∀ e ∈ entries, ReadsBack e.2)
    (depth : Nat) (rest : List Char) {fuel : Nat} (enough : entries.length < fuel) {acc : Entries Json}
    (ascending : Entries.Ascending (acc ++ entries)) :
    Verdict (nestingEntries entries ≤ depth) (acc ++ entries) rest
      (readMembersAux (readEntry (readValue depth)) fuel false acc (compactEntries entries ++ rest)) := by
  induction entries generalizing fuel acc with
  | nil =>
    cases fuel with
    | zero => exact absurd enough (Nat.not_lt_zero _)
    | succ fuel =>
      rw [List.append_nil]
      exact verdict_ok (Nat.zero_le depth) acc rest
  | cons e entries ih =>
    obtain ⟨k, v⟩ := e
    obtain ⟨head, tail⟩ := List.forall_mem_cons.1 parts
    cases fuel with
    | zero => exact absurd enough (Nat.not_lt_zero _)
    | succ fuel =>
      have joined : (acc ++ [(k, v)]) ++ entries = acc ++ (k, v) :: entries := by
        rw [List.append_assoc, List.singleton_append]
      have others := ih tail (Nat.lt_of_succ_lt_succ enough) (joined ▸ ascending)
      rw [joined] at others
      have text : compactEntries ((k, v) :: entries) ++ rest =
          ',' :: (stringChars k ++ ':' :: (compactChars v ++ (compactEntries entries ++ rest))) := by
        simp [compactEntries]
      rw [text, readMembersAux_comma]
      exact verdict_entry head depth (endsNumber_compactEntries entries rest) ascending others

theorem readValue_brace (depth : Nat) (s : List Char) :
    readValue (depth + 1) ('\x7b' :: s) =
      (readMembers (readEntry (readValue depth)) [] s).map fun p => (.object p.1, p.2) := by
  rw [readValue]
  rfl

theorem readsBack_object {entries : Entries Json} (ascending : entries.Ascending)
    (parts : ∀ e ∈ entries, ReadsBack e.2) : ReadsBack (.object entries) := by
  obtain ⟨inside, text⟩ : ∃ inside, compactChars (.object entries) = '\x7b' :: inside := by
    cases entries <;> exact ⟨_, rfl⟩
  refine ⟨⟨'\x7b', inside, text, rfl, by decide⟩, fun depth rest _ => ?_⟩
  rw [text, List.cons_append]
  cases depth with
  | zero =>
    rw [readValue]
    exact ⟨fun fits => absurd fits (Nat.not_succ_le_zero _), fun _ => ⟨_, rfl, rfl⟩⟩
  | succ depth =>
    rw [readValue_brace]
    have fits : (object entries).nesting ≤ depth + 1 ↔ nestingEntries entries ≤ depth := by
      rw [nesting, Nat.succ_le_succ_iff]
    refine Verdict.map ?_ Json.object
    simp only [fits]
    cases entries with
    | nil =>
      cases text
      exact verdict_ok (Nat.zero_le depth) [] rest
    | cons e entries =>
      obtain ⟨k, v⟩ := e
      obtain rfl : inside = stringChars k ++ ':' :: compactChars v ++ compactEntries entries :=
        (List.cons.inj text).2.symm
      obtain ⟨head, tail⟩ := List.forall_mem_cons.1 parts
      have text : (stringChars k ++ ':' :: compactChars v ++ compactEntries entries) ++ rest =
          stringChars k ++ ':' :: (compactChars v ++ (compactEntries entries ++ rest)) := by
        simp
      have longer := length_le_compactEntries entries
      rw [readMembers, text, readMembersAux_first]
      refine verdict_entry head depth (endsNumber_compactEntries entries rest)
        (show Entries.Ascending ([] ++ (k, v) :: entries) from ascending) ?_
      refine readMembersAux_compactEntries tail depth rest ?_
        (show Entries.Ascending ([(k, v)] ++ entries) from ascending)
      simp only [List.length_append, List.length_cons]
      omega

/-! ## Documents -/

theorem properItems_iff {items : List Json} : ProperItems items ↔ ∀ v ∈ items, v.Proper := by
  induction items with
  | nil => simp [ProperItems]
  | cons v items ih => rw [ProperItems, ih, List.forall_mem_cons]

theorem properEntries_iff {entries : List (String × Json)} :
    ProperEntries entries ↔ ∀ e ∈ entries, e.2.Proper := by
  induction entries with
  | nil => simp [ProperEntries]
  | cons e entries ih => rw [ProperEntries, ih, List.forall_mem_cons]

/-- A proper document is read from its text, whatever follows it. -/
theorem readsBack (j : Json) : j.Proper → ReadsBack j := by
  induction j using Json.induction with
  | null =>
    intro _
    refine ⟨⟨'n', _, rfl, rfl, by decide⟩, fun depth rest _ => ?_⟩
    unfold readValue
    exact verdict_ok (Nat.zero_le depth) _ _
  | bool b =>
    intro _
    cases b with
    | true =>
      refine ⟨⟨'t', _, rfl, rfl, by decide⟩, fun depth rest _ => ?_⟩
      unfold readValue
      exact verdict_ok (Nat.zero_le depth) _ _
    | false =>
      refine ⟨⟨'f', _, rfl, rfl, by decide⟩, fun depth rest _ => ?_⟩
      unfold readValue
      exact verdict_ok (Nat.zero_le depth) _ _
  | integer i => exact readsBack_integer
  | float f => exact readsBack_float
  | string s => exact fun _ => readsBack_string s
  | array items parts =>
    intro proper
    exact readsBack_array fun v member => parts v member (properItems_iff.1 proper v member)
  | object entries parts =>
    rintro ⟨ascending, proper⟩
    exact readsBack_object ascending fun e member => parts e member (properEntries_iff.1 proper e member)

/-- A proper document is read from its text if its containers do not nest too deep. -/
theorem read_compact {j : Json} (proper : j.Proper) :
    (j.nesting ≤ maxNesting → read j.compact = .ok j) ∧
      (maxNesting < j.nesting → ∃ e, read j.compact = .error e ∧ e.fault = .tooDeep) := by
  have verdict := (readsBack j proper).read maxNesting [] trivial
  rw [List.append_nil] at verdict
  unfold read readAll compact
  dsimp only
  rw [String.toList_ofList]
  refine ⟨fun fits => ?_, fun deep => ?_⟩
  · rw [verdict.accepts fits]
    rfl
  · obtain ⟨r, equal, fault⟩ := verdict.refuses (Nat.not_le.2 deep)
    rw [equal]
    exact ⟨_, rfl, fault⟩

end InterpreterHost.Json
