import InterpreterHost.Proofs.Json.Documents

/-!
# Texts that spell a document

A document can be written in many ways that differ in the blanks between its parts.  The printer writes one of
them; who edits what it has written makes others.  What a text spells is said by a relation, so that a
statement about all texts of a document needs no printer, and the printer is one witness among many.

## Main definitions

* `Json.Blank` — blanks and nothing else
* `Json.Spells` — the text is one of a document, with blanks anywhere between its parts

## Main statements

* `Json.spells_prettyChars` — what the printer writes spells the document
* `Json.Spells.starts` — such a text begins with something that is no blank
* `Json.readElementsAux_blank`, `Json.readMembersAux_blank` — the readers pass over blanks
-/

namespace InterpreterHost.Json

/-- There are blanks and nothing else. -/
def Blank (s : List Char) : Prop := ∀ c ∈ s, isBlank c = true

theorem blank_nil : Blank [] := List.forall_mem_nil _

theorem blank_lineBreak (level : Nat) : Blank (lineBreak level) := by
  intro c mem
  rcases List.mem_cons.1 mem with rfl | mem
  · rfl
  · rw [List.eq_of_mem_replicate mem]
    rfl

mutual

/-- The text is one of the document. -/
inductive Spells : Json → List Char → Prop
  | leaf {j : Json} : j.nesting = 0 → Spells j (compactChars j)
  | emptyArray {s : List Char} : Blank s → Spells (.array []) ('[' :: (s ++ [']']))
  | array {v : Json} {items : List Json} {s t u : List Char} : Blank s → Spells v t → SpellsItems items u →
      Spells (.array (v :: items)) ('[' :: (s ++ (t ++ u)))
  | emptyObject {s : List Char} : Blank s → Spells (.object []) ('\x7b' :: (s ++ ['\x7d']))
  | object {k : String} {v : Json} {entries : List (String × Json)} {s t u : List Char} :
      Blank s → SpellsEntry k v t → SpellsEntries entries u →
      Spells (.object ((k, v) :: entries)) ('\x7b' :: (s ++ (t ++ u)))

/-- The text is that of the items after the first, with the closing bracket. -/
inductive SpellsItems : List Json → List Char → Prop
  | nil {s : List Char} : Blank s → SpellsItems [] (s ++ [']'])
  | cons {v : Json} {items : List Json} {s s' t u : List Char} : Blank s → Blank s' → Spells v t →
      SpellsItems items u → SpellsItems (v :: items) (s ++ ',' :: (s' ++ (t ++ u)))

/-- The text is a key with its value. -/
inductive SpellsEntry : String → Json → List Char → Prop
  | mk {k : String} {v : Json} {s s' t : List Char} : Blank s → Blank s' → Spells v t →
      SpellsEntry k v (stringChars k ++ (s ++ ':' :: (s' ++ t)))

/-- The text is that of the entries after the first, with the closing brace. -/
inductive SpellsEntries : List (String × Json) → List Char → Prop
  | nil {s : List Char} : Blank s → SpellsEntries [] (s ++ ['\x7d'])
  | cons {k : String} {v : Json} {entries : List (String × Json)} {s s' t u : List Char} : Blank s → Blank s' →
      SpellsEntry k v t → SpellsEntries entries u → SpellsEntries ((k, v) :: entries) (s ++ ',' :: (s' ++ (t ++ u)))

end

/-! ## What the printer writes -/

theorem spellsItems_prettyItems {level : Nat} {items : List Json}
    (parts : ∀ v ∈ items, Spells v (prettyChars (level + 1) v)) : SpellsItems items (prettyItems level items) := by
  induction items with
  | nil => exact .nil (blank_lineBreak level)
  | cons v items ih =>
    obtain ⟨head, tail⟩ := List.forall_mem_cons.1 parts
    have written : prettyItems level (v :: items) = [] ++
        ',' :: (lineBreak (level + 1) ++ (prettyChars (level + 1) v ++ prettyItems level items)) := by
      simp [prettyItems]
    rw [written]
    exact .cons blank_nil (blank_lineBreak _) head (ih tail)

theorem spellsEntry_pretty {level : Nat} (k : String) {v : Json} (value : Spells v (prettyChars level v)) :
    SpellsEntry k v (stringChars k ++ ([] ++ ':' :: ([' '] ++ prettyChars level v))) :=
  .mk blank_nil (by simp [Blank, isBlank]) value

theorem spellsEntries_prettyEntries {level : Nat} {entries : List (String × Json)}
    (parts : ∀ e ∈ entries, Spells e.2 (prettyChars (level + 1) e.2)) :
    SpellsEntries entries (prettyEntries level entries) := by
  induction entries with
  | nil => exact .nil (blank_lineBreak level)
  | cons e entries ih =>
    obtain ⟨k, v⟩ := e
    obtain ⟨head, tail⟩ := List.forall_mem_cons.1 parts
    have written : prettyEntries level ((k, v) :: entries) = [] ++ ',' :: (lineBreak (level + 1) ++
        ((stringChars k ++ ([] ++ ':' :: ([' '] ++ prettyChars (level + 1) v))) ++ prettyEntries level entries)) := by
      simp [prettyEntries]
    rw [written]
    exact .cons blank_nil (blank_lineBreak _) (spellsEntry_pretty k head) (ih tail)

/-- What the printer writes spells the document. -/
theorem spells_prettyChars (j : Json) (level : Nat) : Spells j (prettyChars level j) := by
  induction j using Json.induction generalizing level with
  | null | bool | integer | float | string => exact .leaf rfl
  | array items parts =>
    cases items with
    | nil => exact .emptyArray blank_nil
    | cons v items =>
      obtain ⟨head, tail⟩ := List.forall_mem_cons.1 parts
      have written : prettyChars level (.array (v :: items)) = '[' :: (lineBreak (level + 1) ++
          (prettyChars (level + 1) v ++ prettyItems level items)) := by
        simp [prettyChars]
      rw [written]
      exact .array (blank_lineBreak _) (head _) (spellsItems_prettyItems fun w mem => tail w mem _)
  | object entries parts =>
    cases entries with
    | nil => exact .emptyObject blank_nil
    | cons e entries =>
      obtain ⟨k, v⟩ := e
      obtain ⟨head, tail⟩ := List.forall_mem_cons.1 parts
      have written : prettyChars level (.object ((k, v) :: entries)) = '\x7b' :: (lineBreak (level + 1) ++
          ((stringChars k ++ ([] ++ ':' :: ([' '] ++ prettyChars (level + 1) v))) ++ prettyEntries level entries)) := by
        simp [prettyChars]
      rw [written]
      exact .object (blank_lineBreak _) (spellsEntry_pretty k (head _))
        (spellsEntries_prettyEntries fun e mem => tail e mem _)

/-! ## How such texts begin -/

/-- A text of a document that can be read begins with something that is no blank and does not end a list. -/
theorem Spells.starts {j : Json} {t : List Char} (spells : Spells j t) (proper : j.nesting = 0 → j.Proper) :
    Starts t := by
  cases spells with
  | leaf flat => exact (readsBack j (proper flat)).starts
  | emptyArray | array => exact ⟨'[', _, rfl, rfl, by decide⟩
  | emptyObject | object => exact ⟨'\x7b', _, rfl, rfl, by decide⟩

/-! ## Passing over blanks -/

section

variable {s s' text rest : List Char} {fuel : Nat} {first : Bool}

theorem skipBlanks_append (blank : Blank s) (text : List Char) : skipBlanks (s ++ text) = skipBlanks text :=
  List.dropWhile_append_of_pos blank

theorem skipBlanks_of_blank (blank : Blank s) : skipBlanks s = [] := by
  rw [← List.append_nil s, skipBlanks_append blank]
  rfl

/-- A number ends at blanks as it does at what comes behind them. -/
theorem endsNumber_append (blank : Blank s) (ends : EndsNumber rest) : EndsNumber (s ++ rest) := by
  cases s with
  | nil => exact ends
  | cons c s =>
    have isBlank : isBlank c = true := blank c List.mem_cons_self
    simp only [Json.isBlank, Bool.or_eq_true, beq_iff_eq] at isBlank
    rcases isBlank with ((rfl | rfl) | rfl) | rfl <;> simp [EndsNumber]

theorem SpellsItems.endsNumber {items : List Json} (spells : SpellsItems items text) (rest : List Char) :
    EndsNumber (text ++ rest) := by
  cases spells with
  | nil blank =>
    rw [List.append_assoc]
    exact endsNumber_append blank (by simp [EndsNumber])
  | cons blank =>
    rw [List.append_assoc]
    exact endsNumber_append blank (by simp [EndsNumber])

theorem SpellsEntries.endsNumber {entries : List (String × Json)} (spells : SpellsEntries entries text)
    (rest : List Char) : EndsNumber (text ++ rest) := by
  cases spells with
  | nil blank =>
    rw [List.append_assoc]
    exact endsNumber_append blank (by simp [EndsNumber])
  | cons blank =>
    rw [List.append_assoc]
    exact endsNumber_append blank (by simp [EndsNumber])

theorem readColon_blank (blank : Blank s) (text : List Char) : readColon (s ++ ':' :: text) = .ok text := by
  unfold readColon
  rw [skipBlanks_append blank]
  rfl

theorem readElementsAux_blank {item : Reader α} (blank : Blank s) (text : List Char) :
    readElementsAux item (fuel + 1) first (s ++ text) = readElementsAux item (fuel + 1) first text := by
  rw [readElementsAux, readElementsAux, skipBlanks_append blank]

/-- Blanks behind a comma do not matter. -/
theorem readElementsAux_congr {item : Reader α} {text text' : List Char} (same : skipBlanks text = skipBlanks text') :
    readElementsAux item (fuel + 1) false (',' :: text) = readElementsAux item (fuel + 1) false (',' :: text') := by
  have comma (text : List Char) : skipBlanks (',' :: text) = ',' :: text := rfl
  simp [readElementsAux, comma, same]

/-- Blanks on both sides of a comma are passed over. -/
theorem readElementsAux_comma_blank {item : Reader α} (blank : Blank s) (blank' : Blank s') (starts : Starts text) :
    readElementsAux item (fuel + 1) false (s ++ ',' :: (s' ++ text)) =
      item text >>= fun p => readElementsAux item fuel false p.2 >>= fun q => .ok (p.1 :: q.1, q.2) := by
  rw [readElementsAux_blank blank, readElementsAux_congr (skipBlanks_append blank' text), readElementsAux_comma starts]

theorem readMembersAux_blank {member : String → σ → Reader σ} {acc : σ} (blank : Blank s) (text : List Char) :
    readMembersAux member (fuel + 1) first acc (s ++ text) = readMembersAux member (fuel + 1) first acc text := by
  rw [readMembersAux, readMembersAux, skipBlanks_append blank]

theorem readMembersAux_congr {member : String → σ → Reader σ} {acc : σ} {text text' : List Char}
    (same : skipBlanks text = skipBlanks text') :
    readMembersAux member (fuel + 1) false acc (',' :: text) =
      readMembersAux member (fuel + 1) false acc (',' :: text') := by
  have comma (text : List Char) : skipBlanks (',' :: text) = ',' :: text := rfl
  simp [readMembersAux, comma, same]

theorem readMembersAux_comma_blank {member : String → σ → Reader σ} {acc : σ} (blank : Blank s) (blank' : Blank s')
    (key : String) (text : List Char) :
    readMembersAux member (fuel + 1) false acc (s ++ ',' :: (s' ++ (stringChars key ++ text))) =
      member key acc text >>= fun p => readMembersAux member fuel false p.1 p.2 := by
  rw [readMembersAux_blank blank, readMembersAux_congr (skipBlanks_append blank' _), readMembersAux_comma]

end

end InterpreterHost.Json
