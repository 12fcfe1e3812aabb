import InterpreterHost.Proofs.Json.Pairs
import InterpreterHost.Proofs.Text.Order
import InterpreterHost.Proofs.Value.Bindings
import InterpreterHost.Proofs.Value.JsonText
import InterpreterHost.Value.Display

/-!
# The texts of maps

Whoever writes a map gives pairs, in any order and with keys that come again, and the pairs may hold others.  Such a
draft is collected into a map, a table gives the entries of the map in an order of its own, and the table is
written: for people with its keys sorted, as JSON through an object that keeps its keys in order.  The two ways come
to the same, as both write the entries in the order of their keys, and there is one such list for what a draft
binds.

Drafts are compared by what they bind, `Agrees`, which says nothing about lists or orders.  All that is known of the
texts goes through one normal form, `collected`: agreeing drafts have the same, and a table is written as it is.

## Main definitions

* `Value.collected` — the pairs of each map in a value are collected
* `Value.document` — the document of a value whose maps give their entries in any order
* `Value.Agrees` — two drafts bind the same, at every level
* `Value.Tabulates` — a value is what a draft is collected into, its maps as a table gives them
* `Value.Collects` — what pairs are collected into, and how that is written

## Main statements

* `Value.agrees_iff` — drafts agree if they are collected into the same
* `Value.display_of_distinct`, `Value.document_eq` — a table is written as what it is collected into
* `Value.ofJson_gathered` — collecting the pairs of objects first leaves the same value
* `Value.rendersContents` — the texts of a map depend on what it binds and on nothing else
-/

namespace InterpreterHost

/-! ## The text of an object -/

namespace Json

/-- A text in quotes. -/
def quoted (s : String) : String := String.ofList (stringChars s)

/-- An entry of an object. -/
def compactEntry (e : String × Json) : String := quoted e.1 ++ ":" ++ e.2.compact

theorem ofList_compactEntries (entries : List (String × Json)) (first : String) :
    first ++ String.ofList (compactEntries entries) =
      ",".intercalate (first :: entries.map compactEntry) ++ "\x7d" := by
  induction entries generalizing first with
  | nil => simp [compactEntries]
  | cons e entries ih =>
    have entry : String.ofList (compactEntries (e :: entries)) =
        "," ++ (compactEntry e ++ String.ofList (compactEntries entries)) := by
      simp [compactEntries, compactEntry, compact, quoted, ← String.toList_inj]
    rw [entry, ih, List.map_cons, String.intercalate_cons_cons]
    simp [String.append_assoc]

/-- An object is written entry by entry, with commas in between. -/
theorem compact_object (entries : List (String × Json)) :
    (object entries).compact = "\x7b" ++ ",".intercalate (entries.map compactEntry) ++ "\x7d" := by
  cases entries with
  | nil => rfl
  | cons e entries =>
    have text : (object (e :: entries)).compact =
        "\x7b" ++ (compactEntry e ++ String.ofList (compactEntries entries)) := by
      simp [compact, compactChars, compactEntry, quoted, ← String.toList_inj]
    rw [text, ofList_compactEntries, List.map_cons, String.append_assoc]

end Json

namespace Value

/-! ## Drafts -/

mutual

/-- The pairs of each map in the value are collected. -/
def collected : Value → Value
  | array items => array (collectedItems items)
  | map pairs => ofPairs (collectedEntries pairs)
  | v => v

def collectedItems : List Value → List Value
  | [] => []
  | v :: items => collected v :: collectedItems items

def collectedEntries : List (String × Value) → List (String × Value)
  | [] => []
  | (k, v) :: pairs => (k, collected v) :: collectedEntries pairs

end

mutual

/-- The document of a value whose maps give their entries in any order: an object binds one key after the other, in
its place. -/
def document : Value → Json
  | array items => .array (documentItems items)
  | map entries => .object (Entries.ofList (documentEntries entries))
  | v => v.toJson

def documentItems : List Value → List Json
  | [] => []
  | v :: items => document v :: documentItems items

def documentEntries : List (String × Value) → List (String × Json)
  | [] => []
  | (k, v) :: entries => (k, document v) :: documentEntries entries

end

theorem collectedItems_eq_map (items : List Value) : collectedItems items = items.map collected := by
  induction items with
  | nil => rfl
  | cons v items ih => rw [collectedItems, ih, List.map_cons]

theorem collectedEntries_eq_mapValues (pairs : List (String × Value)) :
    collectedEntries pairs = Entries.mapValues collected pairs := by
  induction pairs with
  | nil => rfl
  | cons p pairs ih =>
    rw [collectedEntries, ih]
    rfl

theorem collected_map (pairs : List (String × Value)) :
    (map pairs).collected = map ((Entries.ofList pairs).mapValues collected) := by
  rw [collected, collectedEntries_eq_mapValues, ofPairs, Entries.ofList_mapValues]

theorem documentItems_eq_map (items : List Value) : documentItems items = items.map document := by
  induction items with
  | nil => rfl
  | cons v items ih => rw [documentItems, ih, List.map_cons]

theorem documentEntries_eq_mapValues (entries : ValueMap) :
    documentEntries entries = entries.mapValues document := by
  induction entries with
  | nil => rfl
  | cons e entries ih =>
    rw [documentEntries, ih]
    rfl

theorem ordered_collected (v : Value) : v.collected.Ordered := by
  induction v using Value.induction with
  | array items parts =>
    rw [collected, collectedItems_eq_map]
    exact orderedItems_iff.2 (List.forall_mem_map.2 parts)
  | map pairs parts =>
    rw [collected_map]
    refine ⟨(Entries.ascending_ofList pairs).mapValues collected, orderedEntries_iff.2 ?_⟩
    exact List.forall_mem_map.2 fun e member => parts e (Entries.mem_ofList member)
  | _ => trivial

theorem collected_of_ordered {v : Value} : v.Ordered → v.collected = v := by
  induction v using Value.induction with
  | array items parts =>
    intro ordered
    rw [collected, collectedItems_eq_map]
    congr 1
    calc items.map collected = items.map id :=
          List.map_congr_left fun v member => parts v member (orderedItems_iff.1 ordered v member)
      _ = items := List.map_id items
  | map entries parts =>
    rintro ⟨ascending, ordered⟩
    rw [collected_map, Entries.ofList_of_ascending ascending]
    congr 1
    calc Entries.mapValues collected entries = Entries.mapValues id entries :=
          Entries.mapValues_congr fun e member => parts e member (orderedEntries_iff.1 ordered e member)
      _ = entries := Entries.mapValues_id entries
  | _ => exact fun _ => rfl

/-! ## What drafts bind -/

/-- Two drafts bind the same, at every level: of the pairs of a map, the last one with each key counts. -/
inductive Agrees : Value → Value → Prop
  | same (v : Value) : Agrees v v
  | array {items items' : List Value} : (∀ i : Nat, Option.Rel Agrees items[i]? items'[i]?) →
      Agrees (array items) (array items')
  | map {pairs pairs' : List (String × Value)} :
      (∀ k, Option.Rel Agrees (Entries.last? pairs k) (Entries.last? pairs' k)) → Agrees (map pairs) (map pairs')

/-- Agreeing items are collected into the same. -/
theorem agrees_items_iff {items items' : List Value}
    (parts : ∀ v ∈ items, ∀ w, v.Agrees w ↔ v.collected = w.collected) :
    (∀ i : Nat, Option.Rel Agrees items[i]? items'[i]?) ↔ (array items).collected = (array items').collected := by
  rw [collected, collected, collectedItems_eq_map, collectedItems_eq_map, array.injEq, List.ext_getElem?_iff]
  refine forall_congr' fun i => ?_
  rw [List.getElem?_map, List.getElem?_map]
  exact rel_iff_map_eq fun v found => parts v (List.mem_of_getElem? found)

/-- Agreeing bindings are collected into the same: there is one list of entries in order for them. -/
theorem agrees_pairs_iff {pairs pairs' : List (String × Value)}
    (parts : ∀ p ∈ pairs, ∀ w, p.2.Agrees w ↔ p.2.collected = w.collected) :
    (∀ k, Option.Rel Agrees (Entries.last? pairs k) (Entries.last? pairs' k)) ↔
      (map pairs).collected = (map pairs').collected := by
  have each (k : String) : Option.Rel Agrees (Entries.last? pairs k) (Entries.last? pairs' k) ↔
      (Entries.ofList (collectedEntries pairs)).find? k = (Entries.ofList (collectedEntries pairs')).find? k := by
    rw [Entries.find?_ofList, Entries.find?_ofList, collectedEntries_eq_mapValues, collectedEntries_eq_mapValues,
      Entries.last?_mapValues, Entries.last?_mapValues]
    exact rel_iff_map_eq fun v found => parts (k, v) (Entries.mem_of_last? found)
  rw [collected, collected, ofPairs, ofPairs, map.injEq, forall_congr' each]
  exact ⟨(Entries.ascending_ofList _).ext (Entries.ascending_ofList _), fun same k => congrArg (Entries.find? · k) same⟩

/-- Drafts agree if they are collected into the same. -/
theorem agrees_iff {v w : Value} : v.Agrees w ↔ v.collected = w.collected := by
  induction v using Value.induction generalizing w with
  | array items parts =>
    refine ⟨fun agrees => ?_, fun same => ?_⟩
    · cases agrees with
      | same => rfl
      | array each => exact (agrees_items_iff fun v member w => parts v member).1 each
    · cases w with
      | array items' => exact .array ((agrees_items_iff fun v member w => parts v member).2 same)
      | _ => cases same
  | map pairs parts =>
    refine ⟨fun agrees => ?_, fun same => ?_⟩
    · cases agrees with
      | same => rfl
      | map each => exact (agrees_pairs_iff fun p member w => parts p member).1 each
    · cases w with
      | map pairs' => exact .map ((agrees_pairs_iff fun p member w => parts p member).2 same)
      | _ => cases same
  | _ =>
    refine ⟨fun agrees => ?_, fun same => ?_⟩
    · cases agrees
      rfl
    · cases w <;> cases same
      exact .same _

/-- The value is what the draft is collected into, the entries of its maps in the order in which a table gives them. -/
structure Tabulates (draft v : Value) : Prop where
  distinct : v.Distinct
  agrees : draft.Agrees v

theorem tabulates_collected (v : Value) : Tabulates v v.collected :=
  ⟨(ordered_collected v).distinct, agrees_iff.2 (collected_of_ordered (ordered_collected v)).symm⟩

/-! ## The texts of tables -/

theorem displayItems_eq_map (items : List Value) : displayItems items = items.map display := by
  induction items with
  | nil => rfl
  | cons v items ih => rw [displayItems, ih, List.map_cons]

theorem displayEntries_eq_mapValues (entries : ValueMap) : displayEntries entries = entries.mapValues display := by
  induction entries with
  | nil => rfl
  | cons e entries ih =>
    rw [displayEntries, ih]
    rfl

/-- A table is displayed in the order of its keys, whatever its own is. -/
theorem display_map {entries : ValueMap} (distinct : entries.Distinct) :
    (map entries).display =
      "\x7b" ++ ", ".intercalate (((Entries.ofList entries).mapValues display).map displayEntry) ++ "\x7d" := by
  rw [display, displayEntries_eq_mapValues, (distinct.mapValues display).sorted_eq_ofList, Entries.ofList_mapValues]

/-- A table is displayed as what it is collected into. -/
theorem display_of_distinct {v : Value} : v.Distinct → v.display = v.collected.display := by
  induction v using Value.induction with
  | array items parts =>
    intro distinct
    rw [collected, display, display, displayItems_eq_map, displayItems_eq_map, collectedItems_eq_map, List.map_map,
      List.map_congr_left fun v member => parts v member (distinctItems_iff.1 distinct v member)]
    rfl
  | map entries parts =>
    rintro ⟨distinct, parts'⟩
    have ascending := (Entries.ascending_ofList entries).mapValues collected
    have same : (Entries.ofList entries).mapValues display =
        (Entries.ofList entries).mapValues (display ∘ collected) :=
      Entries.mapValues_congr fun e member =>
        parts e (Entries.mem_ofList member) (distinctEntries_iff.1 parts' e (Entries.mem_ofList member))
    rw [collected_map, display_map distinct, display_map ascending.distinct, Entries.ofList_of_ascending ascending,
      Entries.mapValues_mapValues, same]
  | _ => exact fun _ => rfl

/-- The document of a table is that of what it is collected into. -/
theorem document_eq (v : Value) : v.document = v.collected.toJson := by
  induction v using Value.induction with
  | array items parts =>
    rw [document, documentItems_eq_map, collected, collectedItems_eq_map, toJson, toJsonItems_eq_map, List.map_map]
    congr 1
    exact List.map_congr_left parts
  | map entries parts =>
    rw [document, documentEntries_eq_mapValues, Entries.ofList_mapValues, collected_map, toJson,
      toJsonEntries_eq_mapValues, Entries.mapValues_mapValues]
    congr 1
    exact Entries.mapValues_congr fun e member => parts e (Entries.mem_ofList member)
  | _ => rfl

/-- Where the entries are in order, that is the document itself. -/
theorem document_of_ordered {v : Value} (ordered : v.Ordered) : v.document = v.toJson := by
  rw [document_eq, collected_of_ordered ordered]

/-! ## Documents with repeated keys -/

/-- The value of an object that was collected is the collection of the values. -/
theorem ofJson_ofList (pairs : List (String × Json)) :
    ofJson (.object (Entries.ofList pairs)) = ofPairs (Entries.mapValues ofJson pairs) := by
  rw [ofJson_object (Entries.ascending_ofList pairs), ← Entries.ofList_mapValues, ofPairs]

/-- The value of a document is that of the document with the pairs of each object collected. -/
theorem ofJson_gathered (j : Json) : ofJson j.gathered = ofJson j := by
  induction j using Json.induction with
  | array items parts =>
    rw [Json.gathered, Json.gatheredItems_eq_map, ofJson, ofJson, ofJsonItems_eq_map, ofJsonItems_eq_map, List.map_map]
    congr 1
    exact List.map_congr_left parts
  | object entries parts =>
    rw [Json.gathered, Json.gatheredEntries_eq_mapValues, ofJson_ofList, Entries.mapValues_mapValues, ofJson,
      ofJsonEntries_eq_mapValues, ofPairs]
    congr 2
    exact Entries.mapValues_congr parts
  | _ => rfl

/-! ## The texts of maps -/

/-- What pairs are collected into, and how that is written. -/
structure Collects (pairs : List (String × Value)) (entries : ValueMap) : Prop where
  /-- Each key is bound to the value of the last pair with it. -/
  bound : ∀ k v, entries.find? k = some v ↔
    ∃ before after, pairs = before ++ (k, v) :: after ∧ k ∉ Entries.keys after
  /-- The keys are those of the pairs. -/
  keys : ∀ k, k ∈ entries.keys ↔ k ∈ Entries.keys pairs
  /-- No key stands twice, and their octets ascend. -/
  ascending : (entries.keys.map fun k => Utf8.encode k.toList).Pairwise (· < ·)
  /-- The text for people has one entry for each of them, in this order, whatever that of the table is. -/
  displayed : ∀ table : ValueMap, table.Perm entries → (map table).display =
    "\x7b" ++ ", ".intercalate (entries.map fun e => Text.quote e.1 ++ ": " ++ e.2.display) ++ "\x7d"
  /-- So has the text in JSON. -/
  written : ∀ table : ValueMap, table.Perm entries → (map table).document.compact =
    "\x7b" ++ ",".intercalate (entries.map fun e => Json.quoted e.1 ++ ":" ++ e.2.document.compact) ++ "\x7d"

theorem collects_ofList (pairs : List (String × Value)) : Collects pairs (Entries.ofList pairs) where
  bound k v := by rw [Entries.find?_ofList, Entries.last?_eq_some_iff]
  keys k := Entries.mem_keys_ofList
  ascending := List.pairwise_map.2 ((Entries.ascending_ofList pairs).imp fun before =>
    Utf8.encode_lt (String.lt_iff.1 before))
  displayed table perm := by
    have ascending := Entries.ascending_ofList pairs
    rw [display_map (ascending.distinct.perm perm.symm), Entries.ofList_of_perm ascending perm, Entries.mapValues,
      List.map_map]
    rfl
  written table perm := by
    rw [document, documentEntries_eq_mapValues, Entries.ofList_mapValues,
      Entries.ofList_of_perm (Entries.ascending_ofList pairs) perm, Json.compact_object, Entries.mapValues,
      List.map_map]
    rfl

/-- The texts of a map depend on what it binds and on nothing else.  Pairs are collected into the map that binds each
key to its last value, and its texts have each key once, in the order of their octets.  The document of a table is
that of the value where its entries are in order already.  Drafts that bind the same, in whatever order and with
whatever repetitions, at every level, have the same texts, in whatever order the tables give the entries.  And a JSON
text that repeats keys is read as the collection of its pairs. -/
theorem rendersContents :
    (∀ pairs, ∃ entries, ofPairs pairs = map entries ∧ Collects pairs entries) ∧
    (∀ v : Value, v.Ordered → v.document = v.toJson) ∧
    (∀ draft, Tabulates draft draft.collected ∧ ∀ v, Tabulates draft v →
      v.display = draft.collected.display ∧ v.document.compact = draft.collected.jsonText) ∧
    (∀ draft draft' v w, Agrees draft draft' → Tabulates draft v → Tabulates draft' w →
      v.display = w.display ∧ v.document.compact = w.document.compact) ∧
    (∀ j s t s', j.Readable → j.nesting ≤ 127 → Json.Blank s → Json.Spells j t → Json.Blank s' →
      parseJson (String.ofList (s ++ (t ++ s'))) = .ok (ofJson j)) ∧
    ∀ text rest, Json.skipBlanks text.toList = '\x7b' :: rest →
      parseJson text =
        (Json.readAll (Json.readPairs 126) text).map fun pairs => ofPairs (Entries.mapValues ofJson pairs) := by
  have texts (draft v : Value) (tabulates : Tabulates draft v) :
      v.display = draft.collected.display ∧ v.document.compact = draft.collected.jsonText := by
    rw [display_of_distinct tabulates.distinct, document_eq, agrees_iff.1 tabulates.agrees, jsonText]
    exact ⟨rfl, rfl⟩
  refine ⟨fun pairs => ⟨_, rfl, collects_ofList pairs⟩, fun v => document_of_ordered,
    fun draft => ⟨tabulates_collected draft, texts draft⟩, fun draft draft' v w agrees tabulates tabulates' => ?_,
    fun j s t s' readable fits blank spells blank' => ?_, fun text rest brace => ?_⟩
  · obtain ⟨display, document⟩ := texts draft v tabulates
    obtain ⟨display', document'⟩ := texts draft' w tabulates'
    rw [display, document, agrees_iff.1 agrees, display', document']
    exact ⟨rfl, rfl⟩
  · rw [parseJson, Json.read_spelled readable fits blank spells blank', ← ofJson_gathered]
    rfl
  · rw [parseJson, Json.read_of_brace brace]
    cases Json.readAll (Json.readPairs 126) text with
    | error e => rfl
    | ok pairs => exact congrArg Except.ok (ofJson_ofList pairs)

/-- Pairs with a key that comes again, of which the last holds such pairs as well. -/
def repeating : Value :=
  map [("b", null), ("a", bool true), ("b", map [("x", int 1), ("y", int 2), ("x", null)])]

/-- What they bind, as one table gives it. -/
def tabulated : Value := map [("b", map [("y", int 2), ("x", null)]), ("a", bool true)]

/-- A document with a repeated key. -/
def repeatingDocument : Json := .object [("k", .bool true), ("k", .null)]

example : tabulated.display = "\x7b\"a\": true, \"b\": \x7b\"x\": null, \"y\": 2\x7d\x7d" := by
  cbv

/-- Pairs that repeat keys are written as a table that gives what they bind in another order, and a text that repeats
a key is read. -/
theorem rendersContents_repeating :
    repeating.Agrees tabulated ∧ Tabulates repeating tabulated ∧
      repeating.collected.display = tabulated.display ∧
      repeating.collected.document.compact = tabulated.document.compact ∧
      repeatingDocument.Readable ∧ parseJson repeatingDocument.pretty = .ok (ofJson repeatingDocument) ∧
      parseJson repeatingDocument.pretty = (Json.readAll (Json.readPairs 126) repeatingDocument.pretty).map
        fun pairs => ofPairs (Entries.mapValues ofJson pairs) := by
  obtain ⟨-, -, tabulates, texts, spelled, pairs⟩ := rendersContents
  have agrees : repeating.Agrees tabulated := agrees_iff.2 (by rfl)
  have distinct : tabulated.Distinct :=
    ⟨show ["b", "a"].Nodup by decide, ⟨show ["y", "x"].Nodup by decide, trivial, trivial, trivial⟩, trivial, trivial⟩
  have readable : repeatingDocument.Readable := ⟨trivial, trivial, trivial⟩
  have same := texts repeating tabulated repeating.collected tabulated agrees (tabulates repeating).1
    ⟨distinct, .same tabulated⟩
  have read := spelled repeatingDocument [] _ [] readable (by decide) Json.blank_nil
    (Json.spells_prettyChars repeatingDocument 0) Json.blank_nil
  rw [List.nil_append, List.append_nil] at read
  exact ⟨agrees, ⟨distinct, agrees⟩, same.1, same.2, readable, read, pairs _ _ (by rfl)⟩

end Value

end InterpreterHost
