import InterpreterHost.Config.File
import InterpreterHost.Proofs.Json.Spelling

/-!
# Records in JSON

A reader of a record starts from the defaults and puts every entry that it comes to in its place.  So what it
reads is settled by which entries there are, and a record from which some are taken out is read with the
defaults in their place.  That a reader reads a value is said of all texts of a document at once.

## Main definitions

* `Json.Reads` — a reader reads a value from every text of a document
* `Json.Setting` — an entry of a record: the field, what is written, and what reading it does to the record
* `Json.without` — an object without some of its entries

## Main statements

* `Json.reads_text`, `Json.reads_size`, `Json.reads_list` — the readers of single values and of lists
* `Json.reads_record` — a record is read by its entries, whichever of them there are
* `Json.reads_filter` — so it is if some are taken out
-/

namespace InterpreterHost

namespace Json

variable {α σ : Type}

/-- The reader reads the value from every text of the document, up to what follows. -/
def Reads (reader : Reader α) (j : Json) (a : α) : Prop :=
  ∀ s t rest, Blank s → Spells j t → EndsNumber rest → reader (s ++ (t ++ rest)) = .ok (a, rest)

/-- All of a text is read, whatever blanks are around. -/
theorem Reads.readAll_eq {reader : Reader α} {j : Json} {a : α} {s t s' : List Char} (reads : Reads reader j a)
    (blank : Blank s) (spells : Spells j t) (blank' : Blank s') :
    readAll reader (String.ofList (s ++ (t ++ s'))) = .ok a := by
  have ends : EndsNumber s' := by
    rw [← List.append_nil s']
    exact endsNumber_append blank' trivial
  unfold readAll
  dsimp only
  rw [String.toList_ofList, reads s t s' blank spells ends]
  dsimp only [bind, Except.bind]
  rw [skipBlanks_of_blank blank']
  rfl

/-! ## Readers of single values -/

theorem readBy_blank {f : Char → List Char → Except Refusal (α × List Char)} {s : List Char} (blank : Blank s)
    (text : List Char) : readBy f (s ++ text) = readBy f text := by
  unfold readBy
  rw [skipBlanks_append blank]

theorem reads_text (expected text : String) : Reads (readText expected) (.string text) text := by
  rintro s _ rest blank ⟨flat⟩ -
  unfold readText
  rw [readBy_blank blank, compactChars, stringChars_append]
  exact readString_escaped text rest

theorem reads_bool (b : Bool) : Reads readBool (.bool b) b := by
  rintro s _ rest blank ⟨flat⟩ -
  unfold readBool
  rw [readBy_blank blank]
  cases b <;> rfl

/-- A number of one word is read as such. -/
theorem reads_size {n : Nat} (word : n < 0x10000000000000000) : Reads readSize (.integer n) n := by
  rintro s _ rest blank ⟨flat⟩ ends
  have integer : isWordInteger n = true := by
    simp only [isWordInteger, Bool.and_eq_true, decide_eq_true_eq]
    omega
  have value := ((readsBack_integer integer).read 0 rest ends).accepts (Nat.zero_le 0)
  obtain ⟨c, more, text, digit⟩ := exists_digit_natural n
  rw [text, List.cons_append] at value
  unfold readSize
  rw [readBy_blank blank, text, List.cons_append]
  unfold readBy
  rw [skipBlanks_cons (isBlank_of_digit digit)]
  dsimp only
  rw [if_pos (.inr digit), value]
  rfl

theorem reads_none (reader : Reader α) : Reads (readOptional reader) .null none := by
  rintro s _ rest blank ⟨flat⟩ -
  unfold readOptional
  rw [readBy_blank blank]
  rfl

/-- What is no `null` is read as the content. -/
theorem Reads.some {reader : Reader α} {j : Json} {a : α} (reads : Reads reader j a)
    (starts : ∀ t, Spells j t → ∃ c more, t = c :: more ∧ isBlank c = false ∧ c ≠ 'n') :
    Reads (readOptional reader) j (some a) := by
  intro s t rest blank spells ends
  have content := reads [] t rest blank_nil spells ends
  obtain ⟨c, more, rfl, plain, other⟩ := starts t spells
  unfold readOptional
  rw [readBy_blank blank, List.cons_append]
  unfold readBy
  rw [skipBlanks_cons plain]
  dsimp only
  rw [if_neg other]
  rw [List.nil_append, List.cons_append] at content
  rw [content]
  rfl

/-! ## Lists -/

/-- The items after the first. -/
theorem readElementsAux_spelled {item : Reader α} {items : List Json} {as : List α}
    (reads : List.Forall₂ (Reads item) items as) (starts : ∀ v ∈ items, ∀ t, Spells v t → Starts t) {t : List Char}
    (spells : SpellsItems items t) (rest : List Char) {fuel : Nat} (enough : items.length < fuel) :
    readElementsAux item fuel false (t ++ rest) = .ok (as, rest) := by
  obtain ⟨fuel, rfl⟩ := Nat.exists_eq_succ_of_ne_zero (Nat.ne_of_gt (Nat.zero_lt_of_lt enough))
  induction reads generalizing t fuel with
  | nil =>
    cases spells with
    | nil blank =>
      rw [List.append_assoc, readElementsAux_blank blank]
      rfl
  | @cons v a items as first others ih =>
    cases spells with
    | @cons _ _ s s' t u blank blank' head tail =>
      obtain ⟨starts, startsRest⟩ := List.forall_mem_cons.1 starts
      have read := first [] t (u ++ rest) blank_nil head (tail.endsNumber rest)
      have text : s ++ ',' :: (s' ++ (t ++ u)) ++ rest = s ++ ',' :: (s' ++ (t ++ (u ++ rest))) := by simp
      rw [List.nil_append] at read
      rw [text, readElementsAux_comma_blank blank blank' ((starts t head).append _), read]
      obtain ⟨fuel, rfl⟩ := Nat.exists_eq_succ_of_ne_zero
        (Nat.ne_of_gt (Nat.zero_lt_of_lt (Nat.lt_of_succ_lt_succ enough)))
      change (readElementsAux item (fuel + 1) false (u ++ rest) >>= _) = _
      rw [ih startsRest tail _ (Nat.lt_of_succ_lt_succ enough)]
      rfl

/-- Every item takes room. -/
theorem SpellsItems.length_lt {items : List Json} {t : List Char} (spells : SpellsItems items t) :
    items.length < t.length := by
  induction items generalizing t with
  | nil => cases spells; simp
  | cons v items ih =>
    cases spells with
    | cons blank blank' head tail =>
      have shorter := ih tail
      simp only [List.length_append, List.length_cons]
      omega

theorem reads_list {item : Reader α} {items : List Json} {as : List α} (reads : List.Forall₂ (Reads item) items as)
    (starts : ∀ v ∈ items, ∀ t, Spells v t → Starts t) : Reads (readList item) (.array items) as := by
  intro s t rest blank spells ends
  unfold readList
  rw [readBy_blank blank]
  cases spells with
  | leaf flat => cases flat
  | @emptyArray s inside =>
    cases reads
    change readElements item (s ++ [']'] ++ rest) = _
    rw [readElements, List.append_assoc, readElementsAux_blank inside]
    rfl
  | @array v items s t u inside head tail =>
    cases reads with
    | cons first others =>
      obtain ⟨starts, startsRest⟩ := List.forall_mem_cons.1 starts
      have read := first [] t (u ++ rest) blank_nil head (tail.endsNumber rest)
      rw [List.nil_append] at read
      have text : s ++ (t ++ u) ++ rest = s ++ (t ++ (u ++ rest)) := by simp
      have longer := tail.length_lt
      change readElements item (s ++ (t ++ u) ++ rest) = _
      rw [readElements, text, readElementsAux_blank inside, readElementsAux_first ((starts t head).append _), read]
      change (readElementsAux item _ false (u ++ rest) >>= _) = _
      rw [readElementsAux_spelled others startsRest tail rest (by simp only [List.length_append]; omega)]
      rfl

/-! ## Records -/

/-- An entry of a record: the field, what is written of it, and what reading that does to the record. -/
structure Setting (σ : Type) where
  field : RecordField σ
  value : Json
  put : σ → σ

namespace Setting

/-- The field reads what is written. -/
def Reads (p : Setting σ) : Prop := ∀ record, Json.Reads (p.field.read record) p.value (p.put record)

/-- The entry in the document. -/
def entry (p : Setting σ) : String × Json := (p.field.name, p.value)

/-- The record that entries make of another. -/
def putAll (parts : List (Setting σ)) (record : σ) : σ := parts.foldl (fun record p => p.put record) record

theorem reads_of {name : String} {reader : Reader α} {set : σ → α → σ} {j : Json} {a : α} (reads : Json.Reads reader j a) :
    Reads ⟨.of name reader set, j, fun record => set record a⟩ := by
  intro record s t rest blank spells ends
  change (reader (s ++ (t ++ rest))).map _ = _
  rw [reads s t rest blank spells ends]
  rfl

end Setting

section

variable {fields : List (RecordField σ)} {parts : List (Setting σ)}

/-- An entry of a field that has not come yet. -/
theorem readField_spelled {p : Setting σ} (known : fields.find? (·.name = p.field.name) = some p.field) (reads : p.Reads)
    {record : σ} {seen : List String} (new : p.field.name ∉ seen) {s s' t rest : List Char} (blank : Blank s)
    (blank' : Blank s') (spells : Spells p.value t) (ends : EndsNumber rest) :
    readField fields p.field.name (record, seen) (s ++ ':' :: (s' ++ (t ++ rest))) =
      .ok ((p.put record, p.field.name :: seen), rest) := by
  have fresh : seen.contains p.field.name = false := by simpa using new
  unfold readField
  simp only [known, fresh, readColon_blank blank]
  change (p.field.read record (s' ++ (t ++ rest)) >>= _) = _
  rw [reads record s' t rest blank' spells ends]
  rfl

/-- The entries after the first. -/
theorem readMembersAux_spelled (known : ∀ p ∈ parts, fields.find? (·.name = p.field.name) = some p.field)
    (reads : ∀ p ∈ parts, p.Reads) (distinct : (parts.map (·.field.name)).Nodup) {record : σ} {seen : List String}
    (new : ∀ p ∈ parts, p.field.name ∉ seen) {t : List Char} (spells : SpellsEntries (parts.map Setting.entry) t)
    (rest : List Char) {fuel : Nat} (enough : parts.length < fuel) :
    ∃ seen', readMembersAux (readField fields) fuel false (record, seen) (t ++ rest) =
      .ok ((Setting.putAll parts record, seen'), rest) := by
  induction parts generalizing record seen t fuel with
  | nil =>
    obtain ⟨fuel, rfl⟩ := Nat.exists_eq_succ_of_ne_zero (Nat.ne_of_gt enough)
    cases spells with
    | nil blank =>
      refine ⟨seen, ?_⟩
      rw [List.append_assoc, readMembersAux_blank blank]
      rfl
  | cons p parts ih =>
    obtain ⟨fuel, rfl⟩ := Nat.exists_eq_succ_of_ne_zero (Nat.ne_of_gt (Nat.zero_lt_of_lt enough))
    rw [List.forall_mem_cons] at known reads new
    rw [List.map_cons, List.nodup_cons] at distinct
    cases spells with
    | @cons _ _ _ s s' t u blank blank' head tail =>
      cases head with
      | @mk _ _ b b' t between between' value =>
        have ends := tail.endsNumber rest
        have text : s ++ ',' :: (s' ++ (stringChars p.field.name ++ (b ++ ':' :: (b' ++ t)) ++ u)) ++ rest =
            s ++ ',' :: (s' ++ (stringChars p.field.name ++ (b ++ ':' :: (b' ++ (t ++ (u ++ rest)))))) := by simp
        have newRest : ∀ q ∈ parts, q.field.name ∉ p.field.name :: seen := by
          intro q mem
          rw [List.mem_cons, not_or]
          exact ⟨fun same => distinct.1 (List.mem_map.2 ⟨q, mem, same⟩), new.2 q mem⟩
        rw [text, readMembersAux_comma_blank blank blank']
        rw [readField_spelled known.1 reads.1 new.1 between between' value ends]
        exact ih known.2 reads.2 distinct.2 newRest tail (Nat.lt_of_succ_lt_succ enough)

theorem SpellsEntries.length_lt {entries : List (String × Json)} {t : List Char} (spells : SpellsEntries entries t) :
    entries.length < t.length := by
  induction entries generalizing t with
  | nil => cases spells; simp
  | cons e entries ih =>
    cases spells with
    | cons blank blank' head tail =>
      have shorter := ih tail
      simp only [List.length_append, List.length_cons]
      omega

/-- A record is read from the entries that there are; what they leave has its default. -/
theorem reads_record (known : ∀ p ∈ parts, fields.find? (·.name = p.field.name) = some p.field)
    (reads : ∀ p ∈ parts, p.Reads) (distinct : (parts.map (·.field.name)).Nodup) (name : String) (default : σ) :
    Reads (readRecord name default fields) (.object (parts.map Setting.entry)) (Setting.putAll parts default) := by
  intro s t rest blank spells ends
  unfold readRecord
  rw [readBy_blank blank]
  cases parts with
  | nil =>
    cases spells with
    | leaf flat => cases flat
    | @emptyObject s inside =>
      change (readMembers (readField fields) (default, []) (s ++ ['\x7d'] ++ rest)).map _ = _
      rw [readMembers, List.append_assoc, readMembersAux_blank inside]
      rfl
  | cons p parts =>
    rw [List.forall_mem_cons] at known reads
    rw [List.map_cons, List.nodup_cons] at distinct
    cases spells with
    | leaf flat => cases flat
    | @object _ _ _ s t u inside head tail =>
      have longer := tail.length_lt
      rw [List.length_map] at longer
      cases head with
      | @mk _ _ b b' t between between' value =>
        have text : s ++ (stringChars p.field.name ++ (b ++ ':' :: (b' ++ t)) ++ u) ++ rest =
            s ++ (stringChars p.field.name ++ (b ++ ':' :: (b' ++ (t ++ (u ++ rest))))) := by simp
        have new : ∀ q ∈ parts, q.field.name ∉ [p.field.name] := by
          intro q mem
          rw [List.mem_singleton]
          exact fun same => distinct.1 (List.mem_map.2 ⟨q, mem, same⟩)
        have enough : parts.length <
            (s ++ (stringChars p.field.name ++ (b ++ ':' :: (b' ++ (t ++ (u ++ rest)))))).length := by
          simp only [List.length_append, List.length_cons]
          omega
        obtain ⟨seen, others⟩ : ∃ seen, readMembersAux (readField fields) _ false (p.put default, [p.field.name])
            (u ++ rest) = _ := readMembersAux_spelled known.2 reads.2 distinct.2 new tail rest enough
        change (readMembers (readField fields) (default, [])
          (s ++ (stringChars p.field.name ++ (b ++ ':' :: (b' ++ t)) ++ u) ++ rest)).map _ = _
        rw [text, readMembers, readMembersAux_blank inside, readMembersAux_first]
        rw [readField_spelled known.1 reads.1 List.not_mem_nil between between' value (tail.endsNumber rest)]
        change (readMembersAux (readField fields) _ false (p.put default, [p.field.name]) (u ++ rest)).map _ = _
        rw [others]
        rfl

/-- The field of a name is found among fields of which no two have a name in common. -/
theorem find?_of_mem (distinct : (fields.map (·.name)).Nodup) {field : RecordField σ} (mem : field ∈ fields) :
    fields.find? (·.name = field.name) = some field := by
  induction fields with
  | nil => cases mem
  | cons first fields ih =>
    rw [List.map_cons, List.nodup_cons] at distinct
    rcases List.mem_cons.1 mem with rfl | mem
    · simp
    · have other : first.name ≠ field.name := fun same => distinct.1 (same ▸ List.mem_map_of_mem mem)
      rw [List.find?_cons_of_neg (by simpa using other)]
      exact ih distinct.2 mem

/-- So it is if some of the entries are taken out of a record that has one for every field. -/
theorem reads_filter (distinct : (fields.map (·.name)).Nodup) (each : parts.map (·.field) = fields)
    (reads : ∀ p ∈ parts, p.Reads) (kept : Setting σ → Bool) (name : String) (default : σ) :
    Reads (readRecord name default fields) (.object ((parts.filter kept).map Setting.entry))
      (Setting.putAll (parts.filter kept) default) := by
  subst each
  refine reads_record (fun p mem => ?_) (fun p mem => reads p (List.mem_of_mem_filter mem)) ?_ name default
  · exact find?_of_mem distinct (List.mem_map_of_mem (List.mem_of_mem_filter mem))
  · rw [List.map_map] at distinct
    exact distinct.sublist (List.filter_sublist.map _)

end

/-- An object without some of its entries. -/
def without (removed : String → Bool) : Json → Json
  | .object entries => .object (entries.filter fun e => !removed e.1)
  | j => j

theorem without_parts (removed : String → Bool) (parts : List (Setting σ)) :
    (Json.object (parts.map Setting.entry)).without removed =
      .object ((parts.filter fun p => !removed p.field.name).map Setting.entry) := by
  rw [without, List.filter_map]
  rfl

end Json

end InterpreterHost
