import InterpreterHost.Proofs.Json.Acceptance
import InterpreterHost.Proofs.Json.Records
import InterpreterHost.Proofs.Value.Bindings

/-!
# Objects whose keys are repeated

An object is read entry by entry, and a key that comes again is bound anew.  To say what is left of its pairs, they
are first read as they stand in the text, one behind the other; that is the same loop with another way to keep what
was read.  The object is then the collection of its pairs, whatever the text is, and which pairs a text has is said
by `Spells`, which asks nothing of the keys.

## Main definitions

* `Json.readPairs` — the pairs of an object as they stand in the text
* `Json.gathered` — a document with the pairs of each object collected
* `Json.Readable` — a document whose numbers are read as they are written

## Main statements

* `Json.readMembers_readEntry` — an object is the collection of its pairs
* `Json.readMembers_spelled` — the pairs of a text are those that it spells
* `Json.reads_gathered` — a text that repeats keys, at any depth, is read as the collection of what it spells
* `Json.read_of_brace` — whatever follows a brace is read as the collection of its pairs, or refused where they are
-/

namespace InterpreterHost.Json

/-! ## Pairs -/

/-- The value of an entry, behind the pairs before it. -/
def readPair (value : Reader Json) (key : String) (pairs : List (String × Json)) : Reader (List (String × Json)) :=
  fun s => do
    let (v, rest) ← value (← readColon s)
    .ok (pairs ++ [(key, v)], rest)

/-- The pairs of an object as they stand in the text; their values enter at most `depth` containers. -/
def readPairs (depth : Nat) : Reader (List (String × Json)) := fun s =>
  match skipBlanks s with
  | '\x7b' :: rest => readMembers (readPair (readValue depth)) [] rest
  | s => next .expectedValue s

theorem map_bind {α β γ : Type} (first : Except Refusal α) (next : α → Except Refusal β) (f : β → γ) :
    (first >>= next).map f = first >>= fun a => (next a).map f := by
  cases first <;> rfl

/-- Two ways to keep what is read of entries, one of them seen in the other after each entry. -/
theorem readMembersAux_map {f : τ → σ} {member : String → σ → Reader σ} {member' : String → τ → Reader τ}
    (entry : ∀ key acc s, member key (f acc) s = (member' key acc s).map fun p => (f p.1, p.2)) (fuel : Nat)
    (first : Bool) (acc : τ) (s : List Char) :
    readMembersAux member fuel first (f acc) s =
      (readMembersAux member' fuel first acc s).map fun p => (f p.1, p.2) := by
  induction fuel generalizing first acc s with
  | zero => rfl
  | succ fuel ih =>
    rw [readMembersAux, readMembersAux]
    obtain ⟨text, skipped⟩ : ∃ text, skipBlanks s = text := ⟨_, rfl⟩
    rw [skipped]
    split
    · rfl
    · rfl
    · -- The key is read in the same way, whatever was kept before it.
      rw [map_bind]
      refine bind_congr fun start => ?_
      rw [map_bind]
      refine bind_congr ?_
      rintro ⟨key, rest⟩
      dsimp only
      rw [map_bind, entry]
      cases member' key acc rest with
      | error r => rfl
      | ok q => exact ih false q.1 q.2

theorem readEntry_ofList (value : Reader Json) (key : String) (pairs : List (String × Json)) (s : List Char) :
    readEntry value key (Entries.ofList pairs) s =
      (readPair value key pairs s).map fun p => (Entries.ofList p.1, p.2) := by
  unfold readEntry readPair
  rw [map_bind]
  refine bind_congr fun text => ?_
  rw [map_bind]
  refine bind_congr fun p => ?_
  change Except.ok _ = Except.ok (Entries.ofList (pairs ++ [(key, p.1)]), p.2)
  rw [Entries.ofList_concat]

/-- An object is the collection of its pairs. -/
theorem readMembers_readEntry (value : Reader Json) (s : List Char) :
    readMembers (readEntry value) [] s =
      (readMembers (readPair value) [] s).map fun p => (Entries.ofList p.1, p.2) :=
  readMembersAux_map (readEntry_ofList value) _ true [] s

/-! ## The pairs that a text spells -/

section

variable {value : Reader Json} {f : Json → Json} {entries : List (String × Json)} {s s' t : List Char}

theorem readPair_spelled {v : Json} (reads : Reads value v (f v)) (blank : Blank s) (blank' : Blank s')
    (spells : Spells v t) {rest : List Char} (ends : EndsNumber rest) (key : String)
    (pairs : List (String × Json)) :
    readPair value key pairs (s ++ ':' :: (s' ++ (t ++ rest))) = .ok (pairs ++ [(key, f v)], rest) := by
  unfold readPair
  rw [readColon_blank blank]
  change (value (s' ++ (t ++ rest)) >>= _) = _
  rw [reads s' t rest blank' spells ends]
  rfl

/-- The pairs after the first. -/
theorem readMembersAux_pairs (reads : ∀ e ∈ entries, Reads value e.2 (f e.2)) (spells : SpellsEntries entries t)
    (rest : List Char) {fuel : Nat} (enough : entries.length < fuel) (pairs : List (String × Json)) :
    readMembersAux (readPair value) fuel false pairs (t ++ rest) =
      .ok (pairs ++ Entries.mapValues f entries, rest) := by
  induction entries generalizing t fuel pairs with
  | nil =>
    obtain ⟨fuel, rfl⟩ := Nat.exists_eq_succ_of_ne_zero (Nat.ne_of_gt enough)
    cases spells with
    | nil blank =>
      rw [List.append_assoc, readMembersAux_blank blank, Entries.mapValues, List.map_nil, List.append_nil]
      rfl
  | cons e entries ih =>
    obtain ⟨fuel, rfl⟩ := Nat.exists_eq_succ_of_ne_zero (Nat.ne_of_gt (Nat.zero_lt_of_lt enough))
    obtain ⟨first, others⟩ := List.forall_mem_cons.1 reads
    cases spells with
    | @cons k v _ s s' t u blank blank' head tail =>
      cases head with
      | @mk _ _ b b' t between between' spelled =>
        have text : s ++ ',' :: (s' ++ (stringChars k ++ (b ++ ':' :: (b' ++ t)) ++ u)) ++ rest =
            s ++ ',' :: (s' ++ (stringChars k ++ (b ++ ':' :: (b' ++ (t ++ (u ++ rest)))))) := by simp
        have joined : pairs ++ Entries.mapValues f ((k, v) :: entries) =
            pairs ++ [(k, f v)] ++ Entries.mapValues f entries := by
          rw [List.append_assoc]
          rfl
        rw [text, readMembersAux_comma_blank blank blank',
          readPair_spelled first between between' spelled (tail.endsNumber rest), joined]
        exact ih others tail (Nat.lt_of_succ_lt_succ enough) _

/-- The pairs of a text are those that it spells, with all repetitions. -/
theorem readMembers_spelled (reads : ∀ e ∈ entries, Reads value e.2 (f e.2))
    (spells : Spells (.object entries) ('\x7b' :: t)) (rest : List Char) :
    readMembers (readPair value) [] (t ++ rest) = .ok (Entries.mapValues f entries, rest) := by
  obtain ⟨whole, begins⟩ : ∃ whole, whole = '\x7b' :: t := ⟨_, rfl⟩
  rw [← begins] at spells
  cases spells with
  | leaf flat => cases flat
  | emptyObject inside =>
    cases begins
    rw [readMembers, List.append_assoc, readMembersAux_blank inside]
    rfl
  | @object k v entries s t u inside head tail =>
    cases begins
    obtain ⟨first, others⟩ := List.forall_mem_cons.1 reads
    have longer := tail.length_lt
    cases head with
    | @mk _ _ b b' t between between' spelled =>
      have text : s ++ (stringChars k ++ (b ++ ':' :: (b' ++ t)) ++ u) ++ rest =
          s ++ (stringChars k ++ (b ++ ':' :: (b' ++ (t ++ (u ++ rest))))) := by simp
      have enough : entries.length < (s ++ (stringChars k ++ (b ++ ':' :: (b' ++ (t ++ (u ++ rest)))))).length := by
        simp only [List.length_append, List.length_cons]
        omega
      rw [text, readMembers, readMembersAux_blank inside, readMembersAux_first,
        readPair_spelled first between between' spelled (tail.endsNumber rest)]
      exact readMembersAux_pairs others tail rest enough [(k, f v)]

end

/-! ## Documents with repeated keys -/

mutual

/-- The document with the pairs of each object collected. -/
def gathered : Json → Json
  | array items => array (gatheredItems items)
  | object entries => object (Entries.ofList (gatheredEntries entries))
  | j => j

def gatheredItems : List Json → List Json
  | [] => []
  | v :: items => gathered v :: gatheredItems items

def gatheredEntries : List (String × Json) → List (String × Json)
  | [] => []
  | (k, v) :: entries => (k, gathered v) :: gatheredEntries entries

end

mutual

/-- The numbers of the document are read as they are written: integers have 64 bits, and doubles are finite. -/
def Readable : Json → Prop
  | integer i => isWordInteger i
  | float f => f.isFinite
  | array items => ReadableItems items
  | object entries => ReadableEntries entries
  | _ => True

def ReadableItems : List Json → Prop
  | [] => True
  | v :: items => Readable v ∧ ReadableItems items

def ReadableEntries : List (String × Json) → Prop
  | [] => True
  | (_, v) :: entries => Readable v ∧ ReadableEntries entries

end

theorem gatheredItems_eq_map (items : List Json) : gatheredItems items = items.map gathered := by
  induction items with
  | nil => rfl
  | cons v items ih => rw [gatheredItems, ih, List.map_cons]

theorem gatheredEntries_eq_mapValues (entries : List (String × Json)) :
    gatheredEntries entries = Entries.mapValues gathered entries := by
  induction entries with
  | nil => rfl
  | cons e entries ih =>
    rw [gatheredEntries, ih]
    rfl

theorem readableItems_iff {items : List Json} : ReadableItems items ↔ ∀ v ∈ items, v.Readable := by
  induction items with
  | nil => simp [ReadableItems]
  | cons v items ih => rw [ReadableItems, ih, List.forall_mem_cons]

theorem readableEntries_iff {entries : List (String × Json)} :
    ReadableEntries entries ↔ ∀ e ∈ entries, e.2.Readable := by
  induction entries with
  | nil => simp [ReadableEntries]
  | cons e entries ih => rw [ReadableEntries, ih, List.forall_mem_cons]

/-- Only containers ask anything of their keys. -/
theorem Readable.proper {j : Json} (readable : j.Readable) (flat : j.nesting = 0) : j.Proper := by
  cases j with
  | array | object => cases flat
  | integer | float => exact readable
  | null | bool | string => trivial

theorem readValue_blank {s : List Char} (blank : Blank s) (depth : Nat) (text : List Char) :
    readValue depth (s ++ text) = readValue depth text := by
  unfold readValue
  rw [skipBlanks_append blank]

theorem reads_leaf {j : Json} (proper : j.Proper) (flat : j.nesting = 0) (depth : Nat) :
    Reads (readValue depth) j j := by
  intro s t rest blank spells ends
  rw [readValue_blank blank]
  cases spells with
  | leaf _ =>
    have fits : j.nesting ≤ depth := by
      rw [flat]
      exact Nat.zero_le depth
    exact ((readsBack j proper).read depth rest ends).accepts fits
  | emptyArray | array | emptyObject | object => cases flat

/-- A text that repeats keys, at any depth, is read as the collection of what it spells. -/
theorem reads_gathered (j : Json) : j.Readable → ∀ depth, j.nesting ≤ depth → Reads (readValue depth) j j.gathered := by
  induction j using Json.induction with
  | array items parts =>
    rintro readable (_ | depth) fits s t rest blank spells ends
    · exact absurd fits (Nat.not_succ_le_zero _)
    have readable := readableItems_iff.1 readable
    have fits := nestingItems_le_iff.1 (Nat.le_of_succ_le_succ fits)
    have reads : List.Forall₂ (Reads (readValue depth)) items (items.map gathered) :=
      List.forall₂_map_right_iff.2 (List.forall₂_same.2 fun v mem => parts v mem (readable v mem) depth (fits v mem))
    have list := reads_list reads (fun v mem t spells => spells.starts (readable v mem).proper) [] t rest blank_nil
      spells ends
    obtain ⟨inside, rfl⟩ : ∃ inside, t = '[' :: inside := by
      cases spells with
      | leaf flat => cases flat
      | emptyArray | array => exact ⟨_, rfl⟩
    replace list : readElements (readValue depth) (inside ++ rest) = .ok (items.map gathered, rest) := list
    rw [readValue_blank blank, List.cons_append, readValue_bracket, list, gathered, gatheredItems_eq_map]
    rfl
  | object entries parts =>
    rintro readable (_ | depth) fits s t rest blank spells ends
    · exact absurd fits (Nat.not_succ_le_zero _)
    have readable := readableEntries_iff.1 readable
    have fits := nestingEntries_le_iff.1 (Nat.le_of_succ_le_succ fits)
    obtain ⟨inside, rfl⟩ : ∃ inside, t = '\x7b' :: inside := by
      cases spells with
      | leaf flat => cases flat
      | emptyObject | object => exact ⟨_, rfl⟩
    have pairs := readMembers_spelled (fun e mem => parts e mem (readable e mem) depth (fits e mem)) spells rest
    rw [readValue_blank blank, List.cons_append, readValue_brace, readMembers_readEntry, pairs, gathered,
      gatheredEntries_eq_mapValues]
    rfl
  | _ => exact fun readable depth _ => reads_leaf (readable.proper rfl) rfl depth

/-! ## Whole texts -/

/-- A text of a document, with blanks around it, is read as the collection of what it spells. -/
theorem read_spelled {j : Json} {s s' t : List Char} (readable : j.Readable) (fits : j.nesting ≤ maxNesting)
    (blank : Blank s) (spells : Spells j t) (blank' : Blank s') :
    read (String.ofList (s ++ (t ++ s'))) = .ok j.gathered :=
  (reads_gathered j readable maxNesting fits).readAll_eq blank spells blank'

/-- What comes of all of a text, if it is seen in what another reader gives. -/
theorem readAll_map {α β : Type} {reader : Reader β} {reader' : Reader α} {f : α → β} {text : String}
    (same : reader text.toList = (reader' text.toList).map fun p => (f p.1, p.2)) :
    readAll reader text = (readAll reader' text).map f := by
  unfold readAll
  dsimp only
  rw [same]
  cases reader' text.toList with
  | error r => rfl
  | ok p =>
    dsimp only [bind, Except.bind, Except.map]
    cases skipBlanks p.2 <;> rfl

/-- A text that begins with a brace is read as the collection of its pairs, and refused where they are. -/
theorem read_of_brace {text : String} {rest : List Char} (brace : skipBlanks text.toList = '\x7b' :: rest) :
    read text = (readAll (readPairs 126) text).map fun pairs => .object (Entries.ofList pairs) := by
  refine readAll_map ?_
  unfold readValue readPairs
  rw [brace]
  change (readMembers (readEntry (readValue 126)) [] rest).map _ = _
  rw [readMembers_readEntry]
  change _ = (readMembers (readPair (readValue 126)) [] rest).map _
  cases readMembers (readPair (readValue 126)) [] rest <;> rfl

end InterpreterHost.Json
