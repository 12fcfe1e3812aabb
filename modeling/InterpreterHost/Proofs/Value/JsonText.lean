import InterpreterHost.Proofs.Json.Acceptance
import InterpreterHost.Proofs.Value.Bindings
import InterpreterHost.Proofs.Value.Truncation
import InterpreterHost.Value.Json

/-!
# Values that are written as JSON and read again

What comes back of a value is its normal form: a blob comes back as the array of its octets, a
timestamp as its text, and a float that is not finite as null.  A value that was read is in normal
form, so that it comes back as it is.

## Main definitions

* `Value.nesting` — the greatest number of containers around and including a part of a value
* `Value.Plain` — a value without blobs, timestamps and floats that are not finite

## Main statements

* `Value.ofJson_toJson` — the value of the document of a value is its normal form
* `Value.fromDocument_ofJson` — the value of a document that can be read is plain and nests as deep
* `Value.parseJson_jsonText` — writing and reading

## Design notes

The reader bounds the nesting of a document.  A blob is written as a list, so it counts as a container
here, which it does not for `Value.depth`.
-/

namespace InterpreterHost.Value

/-! ## Parts of containers -/

theorem toJsonItems_eq_map (items : List Value) : toJsonItems items = items.map toJson := by
  induction items with
  | nil => rfl
  | cons v items ih => rw [toJsonItems, ih, List.map_cons]

theorem toJsonEntries_eq_mapValues (entries : ValueMap) :
    toJsonEntries entries = entries.mapValues toJson := by
  induction entries with
  | nil => rfl
  | cons e entries ih =>
    rw [toJsonEntries, ih]
    rfl

theorem ofJsonItems_eq_map (items : List Json) : ofJsonItems items = items.map ofJson := by
  induction items with
  | nil => rfl
  | cons v items ih => rw [ofJsonItems, ih, List.map_cons]

theorem ofJsonEntries_eq_mapValues (entries : Entries Json) :
    ofJsonEntries entries = entries.mapValues ofJson := by
  induction entries with
  | nil => rfl
  | cons e entries ih =>
    rw [ofJsonEntries, ih]
    rfl

theorem normalizedItems_eq_map (items : List Value) : normalizedItems items = items.map normalized := by
  induction items with
  | nil => rfl
  | cons v items ih => rw [normalizedItems, ih, List.map_cons]

theorem normalizedEntries_eq_mapValues (entries : ValueMap) :
    normalizedEntries entries = entries.mapValues normalized := by
  induction entries with
  | nil => rfl
  | cons e entries ih =>
    rw [normalizedEntries, ih]
    rfl

/-! ## Shape -/

mutual

/-- The greatest number of arrays, maps and blobs around and including a part of the value. -/
def nesting : Value → Nat
  | blob _ => 1
  | array items => nestingItems items + 1
  | map entries => nestingEntries entries + 1
  | _ => 0

def nestingItems : List Value → Nat
  | [] => 0
  | v :: items => max (nesting v) (nestingItems items)

def nestingEntries : List (String × Value) → Nat
  | [] => 0
  | (_, v) :: entries => max (nesting v) (nestingEntries entries)

end

mutual

/-- A value without blobs, timestamps and floats that are not finite. -/
def Plain : Value → Prop
  | float f => f.isFinite
  | blob _ => False
  | timestamp _ => False
  | array items => PlainItems items
  | map entries => PlainEntries entries
  | _ => True

def PlainItems : List Value → Prop
  | [] => True
  | v :: items => Plain v ∧ PlainItems items

def PlainEntries : List (String × Value) → Prop
  | [] => True
  | (_, v) :: entries => Plain v ∧ PlainEntries entries

end

theorem plainItems_iff {items : List Value} : PlainItems items ↔ ∀ v ∈ items, v.Plain := by
  induction items with
  | nil => simp [PlainItems]
  | cons v items ih => rw [PlainItems, ih, List.forall_mem_cons]

theorem plainEntries_iff {entries : ValueMap} :
    PlainEntries entries ↔ ∀ e ∈ entries, e.2.Plain := by
  induction entries with
  | nil => simp [PlainEntries]
  | cons e entries ih => rw [PlainEntries, ih, List.forall_mem_cons]

/-! ## The normal form -/

theorem plain_normalized (v : Value) : v.normalized.Plain := by
  induction v using Value.induction with
  | float f =>
    rw [normalized]
    split
    · assumption
    · trivial
  | blob bytes =>
    refine plainItems_iff.2 (List.forall_mem_map.2 fun b _ => ?_)
    trivial
  | array items parts =>
    rw [normalized, normalizedItems_eq_map]
    exact plainItems_iff.2 (List.forall_mem_map.2 parts)
  | map entries parts =>
    rw [normalized, normalizedEntries_eq_mapValues]
    exact plainEntries_iff.2 (List.forall_mem_map.2 parts)
  | _ => trivial

theorem normalized_of_plain {v : Value} : v.Plain → v.normalized = v := by
  induction v using Value.induction with
  | float f => exact fun finite => if_pos finite
  | blob bytes => exact False.elim
  | timestamp t => exact False.elim
  | array items parts =>
    intro plain
    rw [normalized, normalizedItems_eq_map]
    congr 1
    calc items.map normalized = items.map id :=
          List.map_congr_left fun v member => parts v member (plainItems_iff.1 plain v member)
      _ = items := List.map_id items
  | map entries parts =>
    intro plain
    rw [normalized, normalizedEntries_eq_mapValues]
    congr 1
    calc Entries.mapValues normalized entries = Entries.mapValues id entries :=
          Entries.mapValues_congr fun e member => parts e member (plainEntries_iff.1 plain e member)
      _ = entries := Entries.mapValues_id entries
  | _ => exact fun _ => rfl

theorem toJson_normalized (v : Value) : v.normalized.toJson = v.toJson := by
  induction v using Value.induction with
  | float f =>
    rw [normalized]
    split
    · rfl
    · next infinite => rw [toJson, toJson, if_neg infinite]
  | blob bytes =>
    rw [normalized, toJson, toJson, toJsonItems_eq_map, List.map_map]
    congr 1
    refine List.map_congr_left fun b _ => ?_
    have small : b.toNat < 2 ^ 63 := Nat.lt_trans b.toNat_lt (by decide)
    rw [Function.comp_apply, toJson, Int64.toInt_ofNat_of_lt small]
  | array items parts =>
    rw [normalized, normalizedItems_eq_map, toJson, toJson, toJsonItems_eq_map, toJsonItems_eq_map,
      List.map_map]
    congr 1
    exact List.map_congr_left parts
  | map entries parts =>
    rw [normalized, normalizedEntries_eq_mapValues, toJson, toJson, toJsonEntries_eq_mapValues,
      toJsonEntries_eq_mapValues, Entries.mapValues_mapValues]
    congr 1
    exact Entries.mapValues_congr parts
  | _ => rfl

/-! ## Documents of values -/

/-- The entries of a proper document ascend, so that each has its place already. -/
theorem ofJson_object {entries : Entries Json} (ascending : entries.Ascending) :
    ofJson (.object entries) = map (entries.mapValues ofJson) := by
  rw [ofJson, ofJsonEntries_eq_mapValues, Entries.ofList_of_ascending (ascending.mapValues ofJson)]

theorem proper_toJson {v : Value} : v.Ordered → v.toJson.Proper := by
  induction v using Value.induction with
  | int i =>
    intro _
    have least := i.le_toInt
    have greatest := i.toInt_lt
    simp only [toJson, Json.Proper, Json.isWordInteger, Bool.and_eq_true, decide_eq_true_eq]
    omega
  | float f =>
    intro _
    rw [toJson]
    split
    · assumption
    · trivial
  | blob bytes =>
    refine fun _ => Json.properItems_iff.2 (List.forall_mem_map.2 fun b _ => ?_)
    have small := b.toNat_lt
    simp only [Json.Proper, Json.isWordInteger, Bool.and_eq_true, decide_eq_true_eq]
    omega
  | array items parts =>
    intro ordered
    rw [toJson, toJsonItems_eq_map]
    refine Json.properItems_iff.2 (List.forall_mem_map.2 fun v member => ?_)
    exact parts v member (orderedItems_iff.1 ordered v member)
  | map entries parts =>
    rintro ⟨ascending, ordered⟩
    rw [toJson, toJsonEntries_eq_mapValues]
    refine ⟨ascending.mapValues toJson,
      Json.properEntries_iff.2 (List.forall_mem_map.2 fun e member => ?_)⟩
    exact parts e member (orderedEntries_iff.1 ordered e member)
  | _ => exact fun _ => trivial

/-- The value of the document of a value is its normal form. -/
theorem ofJson_toJson {v : Value} : v.Ordered → ofJson v.toJson = v.normalized := by
  induction v using Value.induction with
  | int i =>
    intro _
    have least := i.le_toInt
    have greatest := i.toInt_lt
    rw [toJson, ofJson, if_pos (by omega), Int64.ofInt_toInt]
    rfl
  | float f =>
    intro _
    rw [toJson, normalized]
    split <;> rfl
  | blob bytes =>
    intro _
    rw [toJson, ofJson, ofJsonItems_eq_map, normalized]
    congr 1
    refine List.map_map.trans (List.map_congr_left fun b _ => ?_)
    have small := b.toNat_lt
    rw [Function.comp_apply, ofJson, if_pos (by omega), Int64.ofInt_eq_ofNat]
  | array items parts =>
    intro ordered
    rw [toJson, toJsonItems_eq_map, ofJson, ofJsonItems_eq_map, List.map_map, normalized,
      normalizedItems_eq_map]
    congr 1
    exact List.map_congr_left fun v member => parts v member (orderedItems_iff.1 ordered v member)
  | map entries parts =>
    rintro ⟨ascending, ordered⟩
    rw [toJson, toJsonEntries_eq_mapValues, ofJson_object (ascending.mapValues toJson),
      Entries.mapValues_mapValues, normalized, normalizedEntries_eq_mapValues]
    congr 1
    exact Entries.mapValues_congr fun e member => parts e member (orderedEntries_iff.1 ordered e member)
  | _ => exact fun _ => rfl

theorem nestingItems_toJson {items : List Value} (parts : ∀ v ∈ items, v.toJson.nesting = v.nesting) :
    Json.nestingItems (toJsonItems items) = nestingItems items := by
  induction items with
  | nil => rfl
  | cons v items ih =>
    obtain ⟨head, tail⟩ := List.forall_mem_cons.1 parts
    rw [toJsonItems, Json.nestingItems, nestingItems, head, ih tail]

theorem nestingEntries_toJson {entries : ValueMap} (parts : ∀ e ∈ entries, e.2.toJson.nesting = e.2.nesting) :
    Json.nestingEntries (toJsonEntries entries) = nestingEntries entries := by
  induction entries with
  | nil => rfl
  | cons e entries ih =>
    obtain ⟨head, tail⟩ := List.forall_mem_cons.1 parts
    rw [toJsonEntries, Json.nestingEntries, nestingEntries, head, ih tail]

theorem nesting_toJson (v : Value) : v.toJson.nesting = v.nesting := by
  induction v using Value.induction with
  | float f =>
    rw [toJson]
    split <;> rfl
  | blob bytes =>
    have flat : Json.nestingItems (bytes.map fun b => .integer b.toNat) = 0 := by
      refine Nat.le_zero.1 (Json.nestingItems_le_iff.2 (List.forall_mem_map.2 fun b _ => ?_))
      exact Nat.le_refl 0
    rw [toJson, Json.nesting, flat]
    rfl
  | array items parts => rw [toJson, Json.nesting, nestingItems_toJson parts, nesting]
  | map entries parts => rw [toJson, Json.nesting, nestingEntries_toJson parts, nesting]
  | _ => rfl

/-! ## Values of documents -/

theorem nestingItems_ofJson {items : List Json} (parts : ∀ v ∈ items, (ofJson v).nesting = v.nesting) :
    nestingItems (items.map ofJson) = Json.nestingItems items := by
  induction items with
  | nil => rfl
  | cons v items ih =>
    obtain ⟨head, tail⟩ := List.forall_mem_cons.1 parts
    rw [List.map_cons, Json.nestingItems, nestingItems, head, ih tail]

theorem nestingEntries_ofJson {entries : Entries Json}
    (parts : ∀ e ∈ entries, (ofJson e.2).nesting = e.2.nesting) :
    nestingEntries (entries.mapValues ofJson) = Json.nestingEntries entries := by
  induction entries with
  | nil => rfl
  | cons e entries ih =>
    obtain ⟨head, tail⟩ := List.forall_mem_cons.1 parts
    have first : Entries.mapValues ofJson (e :: entries) = (e.1, ofJson e.2) :: Entries.mapValues ofJson entries := rfl
    rw [first, Json.nestingEntries, nestingEntries, head, ih tail]

/-- What holds of the value of a document that can be read. -/
structure FromDocument (j : Json) (v : Value) : Prop where
  ordered : v.Ordered
  plain : v.Plain
  nesting : v.nesting = j.nesting

theorem fromDocument_ofJson (j : Json) : j.Proper → FromDocument j (ofJson j) := by
  induction j using Json.induction with
  | null => exact fun _ => ⟨trivial, trivial, rfl⟩
  | bool b => exact fun _ => ⟨trivial, trivial, rfl⟩
  | integer i =>
    intro word
    rw [ofJson]
    split
    · exact ⟨trivial, trivial, rfl⟩
    · simp only [Json.Proper, Json.isWordInteger, Bool.and_eq_true, decide_eq_true_eq] at word
      exact ⟨trivial, Binary64.isFinite_ofInt (by omega), rfl⟩
  | float f => exact fun finite => ⟨trivial, finite, rfl⟩
  | string s => exact fun _ => ⟨trivial, trivial, rfl⟩
  | array items parts =>
    intro proper
    have each := fun v member => parts v member (Json.properItems_iff.1 proper v member)
    rw [ofJson, ofJsonItems_eq_map]
    refine ⟨orderedItems_iff.2 (List.forall_mem_map.2 fun v member => (each v member).ordered),
      plainItems_iff.2 (List.forall_mem_map.2 fun v member => (each v member).plain), ?_⟩
    rw [nesting, Json.nesting, nestingItems_ofJson fun v member => (each v member).nesting]
  | object entries parts =>
    rintro ⟨ascending, proper⟩
    have each := fun e member => parts e member (Json.properEntries_iff.1 proper e member)
    rw [ofJson_object ascending]
    refine ⟨⟨ascending.mapValues ofJson,
        orderedEntries_iff.2 (List.forall_mem_map.2 fun e member => (each e member).ordered)⟩,
      plainEntries_iff.2 (List.forall_mem_map.2 fun e member => (each e member).plain), ?_⟩
    rw [nesting, Json.nesting, nestingEntries_ofJson fun e member => (each e member).nesting]

/-- The value of a document that was read. -/
theorem fromDocument_of_parseJson {text : String} {w : Value} (h : parseJson text = .ok w) :
    ∃ j, j.nesting ≤ Json.maxNesting ∧ FromDocument j w := by
  unfold parseJson at h
  cases read : Json.read text with
  | error e =>
    rw [read] at h
    cases h
  | ok j =>
    rw [read] at h
    cases h
    have fits := Json.read_eq_ok read
    exact ⟨j, fits.2, fromDocument_ofJson j fits.1⟩

/-! ## Writing and reading -/

section

variable {v : Value}

theorem parseJson_jsonText_of_le (ordered : v.Ordered) (fits : v.nesting ≤ Json.maxNesting) :
    parseJson v.jsonText = .ok v.normalized := by
  have read := (Json.read_compact (proper_toJson ordered)).1 (by rwa [nesting_toJson])
  rw [parseJson, jsonText, read, ← ofJson_toJson ordered]
  rfl

theorem parseJson_jsonText_of_lt (ordered : v.Ordered) (deep : Json.maxNesting < v.nesting) :
    ∃ e, parseJson v.jsonText = .error e ∧ e.fault = .tooDeep := by
  obtain ⟨e, read, fault⟩ :=
    (Json.read_compact (proper_toJson ordered)).2 (by rwa [nesting_toJson])
  exact ⟨e, by rw [parseJson, jsonText, read]; rfl, fault⟩

end

/-- A value that is written as JSON comes back as its normal form, unless a path through it enters more
than 127 containers.  The normal form is its own normal form and has the same document, and a value
without blobs, timestamps and floats that are not finite is in normal form.  So is every value of a text,
which is read again from its own text as the same value, down to the types of its numbers. -/
theorem parseJson_jsonText :
    (∀ v : Value, v.Ordered →
      (parseJson v.jsonText = .ok v.normalized ↔ v.nesting ≤ 127) ∧
      (127 < v.nesting → ∃ e, parseJson v.jsonText = .error e ∧ e.fault = .tooDeep)) ∧
    (∀ v : Value, v.normalized.normalized = v.normalized) ∧
    (∀ v : Value, v.Plain → v.normalized = v) ∧
    (∀ v : Value, v.normalized.toJson = v.toJson) ∧
    ∀ text w, parseJson text = .ok w → w.normalized = w ∧ parseJson w.jsonText = .ok w := by
  refine ⟨fun v ordered => ⟨⟨fun accepted => ?_, parseJson_jsonText_of_le ordered⟩,
      parseJson_jsonText_of_lt ordered⟩,
    fun v => normalized_of_plain (plain_normalized v), fun v => normalized_of_plain,
    toJson_normalized, fun text w read => ?_⟩
  · refine Nat.le_of_not_lt fun deep => ?_
    obtain ⟨e, refused, -⟩ := parseJson_jsonText_of_lt ordered deep
    rw [refused] at accepted
    cases accepted
  · obtain ⟨j, fits, document⟩ := fromDocument_of_parseJson read
    have normal := normalized_of_plain document.plain
    have again := parseJson_jsonText_of_le document.ordered (document.nesting ▸ fits)
    rw [normal] at again
    exact ⟨normal, again⟩

/-- As many arrays within one another. -/
def nested : Nat → Value
  | 0 => null
  | n + 1 => array [nested n]

theorem ordered_nested (n : Nat) : (nested n).Ordered := by
  induction n with
  | zero => trivial
  | succ n ih => exact ⟨ih, trivial⟩

theorem plain_nested (n : Nat) : (nested n).Plain := by
  induction n with
  | zero => trivial
  | succ n ih => exact ⟨ih, trivial⟩

theorem nesting_nested (n : Nat) : (nested n).nesting = n := by
  induction n with
  | zero => rfl
  | succ n ih => rw [nested, nesting, nestingItems, nestingItems, ih, Nat.max_eq_left (Nat.zero_le n)]

/-- A value of which much is lost. -/
def lossy : Value :=
  map [("blob", blob [0, 255]), ("instant", timestamp ⟨0, 0⟩), ("items", array [float .nan, float ⟨0⟩])]

/-- As deep as can be read, deeper, and with parts that do not come back. -/
theorem parseJson_jsonText_lossy :
    lossy.Ordered ∧ parseJson lossy.jsonText = .ok lossy.normalized ∧
      (nested 127).Plain ∧ (nested 127).normalized = nested 127 ∧
      (nested 128).Ordered ∧ (∃ e, parseJson (nested 128).jsonText = .error e ∧ e.fault = .tooDeep) ∧
      lossy.normalized.normalized = lossy.normalized ∧
      parseJson lossy.normalized.jsonText = .ok lossy.normalized := by
  obtain ⟨written, -, identity, -, readAgain⟩ := parseJson_jsonText
  have ordered : lossy.Ordered := ⟨by decide, trivial, trivial, ⟨trivial, trivial, trivial⟩, trivial⟩
  have accepted := (written lossy ordered).1.2 (by decide)
  have deep : 127 < (nested 128).nesting := by
    rw [nesting_nested]
    decide
  exact ⟨ordered, accepted, plain_nested 127, identity _ (plain_nested 127), ordered_nested 128,
    (written (nested 128) (ordered_nested 128)).2 deep, readAgain _ _ accepted⟩

end InterpreterHost.Value
