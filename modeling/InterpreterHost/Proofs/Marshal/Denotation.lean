import InterpreterHost.Proofs.Calendar.Range
import InterpreterHost.Proofs.Marshal.Course
import InterpreterHost.Proofs.Value.Truncation
import Mathlib.Data.List.Perm.Basic

/-!
# What an object denotes

An object that can be read denotes a value: its graph, unfolded into a tree.  Lists and tuples are
arrays, octets of either kind are blobs, dates are their instants, and dictionaries are maps in the
order of their keys, without the entries whose keys are no texts.

## Main definitions

* `Heap.Sound` — what the interpreter sees to in its objects
* `Heap.Denotes` — the value is the object, read as a tree
* `Value.Fits` — what else is known of a value that was read
* `Job.Finds` — what holds of the result of a job that may fail

## Main statements

* `Job.ends_offsetOf_known` — the offset that a time zone is found to have
* `Job.finds_convert` — a value that was read is denoted by the object
* `Heap.dated` — the instants in a value that was read are those of dates that were visited

## Design notes

A map is kept in the order of its keys, a dictionary in the order of insertion.  `Heap.Denotes`
therefore relates a map to a rearrangement of the entries; that no two keys are the same text makes
it one, since otherwise a later entry would take the place of an earlier one.
-/

namespace InterpreterHost

namespace Heap

/-! ## Sound heaps -/

/-- What the interpreter sees to in its objects. -/
structure Sound (h : Heap) : Prop where
  /-- Dates are in its calendar. -/
  year : ∀ {r t}, h.object r = .datetime t → DateTime.hasYear t.date.year
  /-- The durations that its time zones are made with are shorter than a day. -/
  offset : ∀ {r t m}, h.object r = .datetime t → t.zone = some (.fixed m) → DateTime.isOffset m
  /-- No two keys of a dictionary are the same text. -/
  keys : ∀ {r entries}, h.object r = .dict entries → ((h.textEntries entries).map Prod.fst).Nodup

/-! ## Values of objects -/

mutual

/-- The value is the object at a place, read as a tree. -/
def Denotes (h : Heap) : Value → Ref → Prop
  | .null, r => h.object r = .none
  | .bool b, r => h.object r = .bool b
  | .int i, r => h.object r = .int i.toInt
  | .float f, r => h.object r = .float f
  | .string s, r => h.object r = .str (.ofString s)
  | .blob content, r => h.object r = .bytes content ∨ h.object r = .byteArray content
  | .timestamp t, r => ∃ c, h.object r = .datetime c ∧ c.isValid ∧ c.instant = t
  | .array items, r => ∃ refs, (h.object r = .list refs ∨ h.object r = .tuple refs) ∧
      DenotesAll h items refs
  | .map entries, r => ∃ refs kept, h.object r = .dict refs ∧ kept.Perm (h.textEntries refs) ∧
      DenotesEntries h entries kept

def DenotesAll (h : Heap) : List Value → List Ref → Prop
  | [], refs => refs = []
  | v :: items, refs => ∃ r rest, refs = r :: rest ∧ Denotes h v r ∧ DenotesAll h items rest

def DenotesEntries (h : Heap) : List (String × Value) → List (CodePoints × Ref) → Prop
  | [], kept => kept = []
  | (k, v) :: entries, kept => ∃ r rest, kept = (.ofString k, r) :: rest ∧ Denotes h v r ∧
      DenotesEntries h entries rest

end

theorem denotesEntries_iff {h : Heap} {entries : List (String × Value)} {kept : List (CodePoints × Ref)} :
    h.DenotesEntries entries kept ↔
      List.Forall₂ (fun e e' => e'.1 = .ofString e.1 ∧ h.Denotes e.2 e'.2) entries kept := by
  induction entries generalizing kept with
  | nil => simp [DenotesEntries]
  | cons e entries ih =>
    obtain ⟨k, v⟩ := e
    rw [List.forall₂_cons_left_iff]
    constructor
    · rintro ⟨r, rest, rfl, value, others⟩
      exact ⟨(.ofString k, r), rest, ⟨rfl, value⟩, ih.1 others, rfl⟩
    · rintro ⟨⟨t, r⟩, rest, ⟨name, value⟩, others, rfl⟩
      exact ⟨r, rest, by rw [← name], value, ih.2 others⟩

/-- The keys of a map are the texts of the keys that were kept. -/
theorem DenotesEntries.keys {h : Heap} {entries : ValueMap} {kept : List (CodePoints × Ref)}
    (denoted : h.DenotesEntries entries kept) : kept.map Prod.fst = entries.keys.map .ofString := by
  induction entries generalizing kept with
  | nil =>
    obtain rfl : kept = [] := denoted
    rfl
  | cons e entries ih =>
    obtain ⟨r, rest, rfl, -, others⟩ := denoted
    rw [Entries.keys_cons, List.map_cons, List.map_cons, ih others]

end Heap

namespace Value

/-! ## Depth, order and dates -/

/-- What is known of a value that was read with `levels` containers left: it is not too deep, its maps
are in order, and dates can be read if there is an instant in it. -/
structure Fits (v : Value) (levels : Nat) (dates : Prop) : Prop where
  depth : v.depth < levels
  ordered : v.Ordered
  dates : v.hasTimestamp → dates

namespace Fits

variable {levels : Nat} {dates dates' : Prop}

theorem imp {v : Value} (fits : v.Fits levels dates) (found : dates → dates') : v.Fits levels dates' :=
  { fits with dates := found ∘ fits.dates }

/-- A value that is no container and no date. -/
theorem leaf {v : Value} (flat : v.depth = 0) (ordered : v.Ordered) (dateless : v.hasTimestamp = false) :
    v.Fits (levels + 1) dates := by
  refine ⟨by rw [flat]; exact Nat.succ_pos levels, ordered, fun found => ?_⟩
  rw [dateless] at found
  cases found

/-- An array of items that fit. -/
theorem array {items : List Value} (parts : ∀ v ∈ items, v.Fits levels dates) :
    (Value.array items).Fits (levels + 1) dates := by
  suffices depthItems items ≤ levels ∧ OrderedItems items ∧ (anyTimestamp items → dates) by
    exact ⟨Nat.lt_succ_of_le this.1, this.2.1, this.2.2⟩
  induction items with
  | nil => exact ⟨Nat.zero_le _, trivial, nofun⟩
  | cons v items ih =>
    obtain ⟨head, tail⟩ := List.forall_mem_cons.1 parts
    obtain ⟨depth, ordered, found⟩ := ih tail
    refine ⟨?_, ⟨head.ordered, ordered⟩, fun any => ?_⟩
    · have first := head.depth
      rw [depthItems]
      omega
    · rw [anyTimestamp, Bool.or_eq_true] at any
      exact any.elim head.dates found

/-- A map of values that fit. -/
theorem map {entries : ValueMap} (ascending : entries.Ascending)
    (parts : ∀ e ∈ entries, e.2.Fits levels dates) : (Value.map entries).Fits (levels + 1) dates := by
  suffices depthEntries entries ≤ levels ∧ OrderedEntries entries ∧
      (anyTimestampEntries entries → dates) by
    exact ⟨Nat.lt_succ_of_le this.1, ⟨ascending, this.2.1⟩, this.2.2⟩
  clear ascending
  induction entries with
  | nil => exact ⟨Nat.zero_le _, trivial, nofun⟩
  | cons e entries ih =>
    obtain ⟨k, v⟩ := e
    obtain ⟨head, tail⟩ := List.forall_mem_cons.1 parts
    obtain ⟨depth, ordered, found⟩ := ih tail
    refine ⟨?_, ⟨head.ordered, ordered⟩, fun any => ?_⟩
    · have first : v.depth < levels := head.depth
      rw [depthEntries]
      omega
    · rw [anyTimestampEntries, Bool.or_eq_true] at any
      exact any.elim head.dates found

end Fits

end Value

namespace Job

open Owner (Steady)

/-! ## Results of jobs that may fail -/

/-- If the job gives a result that is no error then `P` holds of it, the owner is steady and no
exception is pending. -/
def Finds (code : Job (Except ε α)) (o : Owner) (P : α → Owner → Prop) : Prop :=
  Ends code o (fun result o' => ∀ a, result = .ok a → Steady o o' ∧ o'.pending = none ∧ P a o')
    fun _ => True

namespace Finds

variable {o : Owner} {P : α → Owner → Prop} {Q : β → Owner → Prop}

theorem pure (calm : o.pending = none) {a : α} (holds : P a o) :
    Finds (pure (.ok a : Except ε α)) o P := by
  rintro _ ⟨⟩
  exact ⟨.refl o, calm, holds⟩

theorem error (e : ε) : Finds (Pure.pure (.error e : Except ε α)) o P := by
  rintro _ ⟨⟩

theorem bind {code : Job (Except ε α)} {next : Except ε α → Job (Except δ β)} (first : Finds code o P)
    (second : ∀ a o', Steady o o' → o'.pending = none → P a o' → Finds (next (.ok a)) o' Q)
    (failed : ∀ e, ∃ e', next (.error e) = Pure.pure (.error e')) : Finds (code >>= next) o Q := by
  rw [Finds, ends_bind]
  refine first.imp ?_
  intro result o₁ found
  cases result with
  | error e =>
    obtain ⟨e', ended⟩ := failed e
    rw [ended]
    rintro _ ⟨⟩
  | ok a =>
    obtain ⟨steady, calm, holds⟩ := found a rfl
    refine (second a o₁ steady calm holds).imp ?_
    intro result o₂ found' b equal
    obtain ⟨steady', calm', holds'⟩ := found' b equal
    exact ⟨steady.trans steady', calm', holds'⟩

/-- What was read before is made use of. -/
theorem map {code : Job (Except ε α)} {f : α → β} (first : Finds code o P)
    (second : ∀ a o', P a o' → Q (f a) o') :
    Finds (do return (← code).map f) o Q :=
  first.bind (fun a _ _ calm holds => .pure calm (second a _ holds)) fun e => ⟨e, rfl⟩

/-- Whether dates can be read is found out first. -/
theorem bind_prepareDates {next : Except String Unit → Job (Except δ β)} (calm : o.pending = none)
    (second : ∀ ready o', (ready = .ok () → o'.hasDates) → Steady o o' → o'.pending = none →
      Finds (next ready) o' Q) : Finds (prepareDates >>= next) o Q := by
  rw [Finds, ends_bind]
  refine (ends_prepareDates_calm calm).imp ?_
  rintro ready o₁ ⟨dates, steady, calm₁⟩
  refine (second ready o₁ (steady.hasDates ∘ dates.1) steady calm₁).imp ?_
  intro result o₂ found b equal
  obtain ⟨steady', calm', holds⟩ := found b equal
  exact ⟨steady.trans steady', calm', holds⟩

end Finds

section

variable {o : Owner}

theorem finds_integerOf (calm : o.pending = none) (i : Int) :
    Finds (integerOf i) o fun n _ => n.toInt = i := by
  unfold integerOf
  by_cases range : isInt64 i
  · have same : (Int64.ofInt i).toInt = i := by
      simp only [isInt64, Bool.and_eq_true, decide_eq_true_eq] at range
      exact Int64.toInt_ofInt_of_le (by omega) (by omega)
    rw [if_neg (not_not_intro range), Finds, ends_bind, ends_get, calm, if_neg (by simp)]
    exact Finds.pure calm same
  · rw [if_pos range, Finds, ends_bind]
    refine (ends_failWith (fun _ _ => trivial) _).imp ?_
    rintro error o' - _ ⟨⟩

theorem finds_textOf (calm : o.pending = none) (t : CodePoints) :
    Finds (textOf t) o fun s _ => .ofString s = t := by
  unfold textOf
  cases text : t.toString? with
  | some s => exact .pure calm (CodePoints.ofString_of_toString? text)
  | none =>
    rw [Finds, ends_bind]
    refine (ends_failWith (fun _ _ => trivial) _).imp ?_
    rintro error o' - _ ⟨⟩

/-- When a time zone is asked, no exception being pending and memory being left, the offset is found
that is known. -/
theorem ends_offsetOf_known (calm : o.pending = none) {zone : Zone} (spared : zone.exhausts = false) :
    Ends (offsetOf zone) o (fun offset o' => offset = zone.known ∧ Steady o o' ∧ o'.pending = none)
      fun _ => True := by
  -- An exception that is raised is taken away, since it does not say that memory ran out.
  have raised (e : Raised) (answer : zone.answer = .error e) (unknown : zone.known = none) :
      Ends (do let _ ← failWith e; return none) o
        (fun offset o' => offset = zone.known ∧ Steady o o' ∧ o'.pending = none) fun _ => True := by
    rw [ends_bind]
    refine (ends_failWith (fun _ _ => trivial) e).imp ?_
    rintro error o' ⟨-, steady, left⟩
    have memory : e.thrown.exceptionClass.isMemoryError = false := by
      rw [Zone.isMemoryError_of_error answer, spared]
    rw [memory] at left
    exact ⟨unknown.symm, steady, left⟩
  unfold offsetOf
  dsimp only
  rw [ends_bind, ends_get, calm]
  cases zone with
  | fixed micros => exact ⟨rfl, .refl o, calm⟩
  | absent => exact ⟨rfl, .refl o, calm⟩
  | offset micros | derived micros =>
    by_cases within : DateTime.isOffset micros
    · simp only [Zone.answer, within, if_true]
      exact ⟨by simp [Zone.known, Zone.answer, within], .refl o, calm⟩
    · simp only [Zone.answer, Zone.known, within, Bool.false_eq_true, if_false] at raised ⊢
      exact raised _ rfl trivial
  | raises e => exact raised _ rfl rfl

/-- Reading a date gives its instant. -/
theorem finds_instantOf (calm : o.pending = none) {t : DateTime} (spared : t.zone.any Zone.exhausts = false) :
    Finds (instantOf t) o fun instant _ => t.isValid ∧ t.instant = instant := by
  unfold instantOf
  by_cases valid : t.isValid
  · rw [if_neg (not_not_intro valid)]
    cases zone : t.zone with
    | none =>
      refine .pure calm ⟨valid, ?_⟩
      simp only [DateTime.instant, zone, Option.bind_none]
    | some zone' =>
      have spared' : zone'.exhausts = false := by rwa [zone, Option.any_some] at spared
      rw [Finds, ends_bind]
      refine (ends_offsetOf_known calm spared').imp ?_
      rintro offset o₁ ⟨rfl, steady, calm₁⟩
      cases known : zone'.known with
      | some micros =>
        rintro _ ⟨⟩
        refine ⟨steady, calm₁, valid, ?_⟩
        simp only [DateTime.instant, zone, Option.bind_some, known, DateTime.toMicros_wallClock valid]
      | none =>
        dsimp only
        rw [ends_bind]
        refine ends_warn (fun _ _ => trivial) ?_
        rintro - _ ⟨⟩
        refine ⟨steady.trans (.addLog _ _), calm₁, valid, ?_⟩
        simp only [DateTime.instant, zone, Option.bind_some, known]
  · rw [if_pos valid]
    exact .error _

end

/-! ## Reading -/

/-- No date that is visited has a time zone that runs out of memory. -/
def Spared (visits : List Visit) : Prop := ∀ t, .clock t ∈ visits → t.zone.any Zone.exhausts = false

section

variable {h : Heap} {levels : Nat}

/-- What is to be shown of reading objects with `levels` containers left. -/
def Understands (h : Heap) (levels : Nat) : Prop :=
  ∀ {o : Owner}, o.interpreter.heap = h → o.pending = none → ∀ r, Spared (h.visits levels r) →
    Finds (convert levels r) o fun v o' => h.Denotes v r ∧ v.Fits levels o'.hasDates

theorem finds_convertItems (understands : Understands h levels) {o : Owner}
    (heap : o.interpreter.heap = h) (calm : o.pending = none) (refs : List Ref)
    (spared : ∀ r ∈ refs, Spared (h.visits levels r)) :
    Finds (convertItems levels refs) o fun items o' =>
      h.DenotesAll items refs ∧ ∀ v ∈ items, v.Fits levels o'.hasDates := by
  induction refs generalizing o with
  | nil =>
    rw [convertItems]
    exact .pure calm ⟨rfl, List.forall_mem_nil _⟩
  | cons r refs ih =>
    obtain ⟨head, tail⟩ := List.forall_mem_cons.1 spared
    rw [convertItems]
    refine (understands heap calm r head).bind ?_ fun e => ⟨e, rfl⟩
    rintro v o₁ steady calm₁ ⟨denoted, fits⟩
    have heap₁ : o₁.interpreter.heap = h := by rw [steady.interpreter, heap]
    have rest := ih heap₁ calm₁ tail
    refine rest.bind ?_ fun e => ⟨e, rfl⟩
    rintro items o₂ steady₂ calm₂ ⟨others, fits'⟩
    refine .pure calm₂ ⟨⟨r, refs, rfl, denoted, others⟩, ?_⟩
    exact List.forall_mem_cons.2 ⟨fits.imp steady₂.hasDates, fits'⟩

/-- What was made of the entries of a dictionary that were read. -/
structure Gathered (h : Heap) (levels : Nat) (dates : Prop) (made : ValueMap)
    (done : List (CodePoints × Ref)) : Prop where
  ascending : made.Ascending
  denoted : ∃ kept, kept.Perm done ∧ h.DenotesEntries made kept
  fits : ∀ e ∈ made, e.2.Fits levels dates

/-- One more entry, with a key that no other has. -/
theorem Gathered.insert {dates : Prop} {made : ValueMap} {done : List (CodePoints × Ref)}
    (gathered : Gathered h levels dates made done) {key : String} {v : Value} {r : Ref}
    (fresh : .ofString key ∉ done.map Prod.fst) (denoted : h.Denotes v r) (fits : v.Fits levels dates) :
    Gathered h levels dates (made.insert key v) (done ++ [(.ofString key, r)]) := by
  obtain ⟨kept, rearranged, all⟩ := gathered.denoted
  have fresh' : key ∉ made.keys := by
    intro bound
    refine fresh ((rearranged.map Prod.fst).mem_iff.1 ?_)
    rw [all.keys]
    exact List.mem_map_of_mem bound
  have inserted := Entries.insert_perm fresh' v
  refine ⟨gathered.ascending.insert key v, ?_, ?_⟩
  · have all' : h.DenotesEntries ((key, v) :: made) ((.ofString key, r) :: kept) :=
      ⟨r, kept, rfl, denoted, all⟩
    -- The entries that denote the map are put in the order of its keys.
    obtain ⟨kept', all'', rearranged'⟩ :=
      List.perm_comp_forall₂ inserted (Heap.denotesEntries_iff.1 all')
    refine ⟨kept', rearranged'.trans ?_, Heap.denotesEntries_iff.2 all''⟩
    exact (rearranged.cons _).trans (List.perm_append_singleton _ _).symm
  · intro e member
    rcases List.mem_cons.1 (inserted.mem_iff.1 member) with rfl | old
    · exact fits
    · exact gathered.fits e old

theorem finds_convertEntries (understands : Understands h levels) {o : Owner}
    (heap : o.interpreter.heap = h) (calm : o.pending = none) (entries : List (Ref × Ref))
    (spared : ∀ e ∈ h.textEntries entries, Spared (h.visits levels e.2)) {made : ValueMap}
    {done : List (CodePoints × Ref)} (gathered : Gathered h levels o.hasDates made done)
    (distinct : ((done ++ h.textEntries entries).map Prod.fst).Nodup) :
    Finds (convertEntries levels made entries) o fun m o' =>
      Gathered h levels o'.hasDates m (done ++ h.textEntries entries) := by
  induction entries generalizing o made done with
  | nil =>
    rw [convertEntries]
    refine .pure calm ?_
    rw [Heap.textEntries, List.filterMap_nil, List.append_nil]
    exact gathered
  | cons entry entries ih =>
    obtain ⟨k, r⟩ := entry
    rw [convertEntries, Finds, ends_bind, ends_heap, heap]
    rw [Heap.textEntries_cons] at spared distinct ⊢
    cases key : h.object k with
    | str t =>
      simp only [key] at spared distinct ⊢
      obtain ⟨head, tail⟩ := List.forall_mem_cons.1 spared
      refine (finds_textOf calm t).bind ?_ fun e => ⟨.interpreter e, rfl⟩
      rintro s o₁ steady calm₁ rfl
      have heap₁ : o₁.interpreter.heap = h := by rw [steady.interpreter, heap]
      refine (understands heap₁ calm₁ r head).bind ?_ fun e => ⟨e, rfl⟩
      rintro v o₂ steady₂ calm₂ ⟨denoted, fits⟩
      have heap₂ : o₂.interpreter.heap = h := by rw [steady₂.interpreter, heap₁]
      have split : done ++ (.ofString s, r) :: h.textEntries entries =
          (done ++ [(.ofString s, r)]) ++ h.textEntries entries := by
        rw [List.append_assoc, List.singleton_append]
      have fresh : .ofString s ∉ done.map Prod.fst := by
        rw [List.map_append, List.map_cons] at distinct
        exact fun found => (List.nodup_append.1 distinct).2.2 _ found _ (List.mem_cons_self ..) rfl
      have gathered' : Gathered h levels o₂.hasDates made done :=
        ⟨gathered.ascending, gathered.denoted,
          fun e member => (gathered.fits e member).imp (steady₂.hasDates ∘ steady.hasDates)⟩
      rw [split] at distinct ⊢
      exact ih heap₂ calm₂ tail (gathered'.insert fresh denoted fits) distinct
    | _ =>
      -- The key is no text: the entry is left out.
      simp only [key] at spared distinct ⊢
      exact ih heap calm spared gathered distinct

/-- Reading an object with one container more. -/
theorem understands_succ (sound : h.Sound) (understands : Understands h levels) :
    Understands h (levels + 1) := by
  intro o heap calm r spared
  rw [Finds, Ends, run_convert_succ, heap]
  change Finds (readShape levels (h.shape r)) o _
  rw [Heap.visits] at spared
  unfold Heap.shape at spared ⊢
  cases object : h.object r with
  | bool b | float f => exact .pure calm ⟨object, .leaf rfl trivial rfl⟩
  | bytes content => exact .pure calm ⟨.inl object, .leaf rfl trivial rfl⟩
  | byteArray content => exact .pure calm ⟨.inr object, .leaf rfl trivial rfl⟩
  | int i =>
    refine (finds_integerOf calm i).bind ?_ fun e => ⟨.interpreter e, rfl⟩
    rintro n o₁ - calm₁ rfl
    exact .pure calm₁ ⟨object, .leaf rfl trivial rfl⟩
  | str t =>
    refine (finds_textOf calm t).bind ?_ fun e => ⟨.interpreter e, rfl⟩
    rintro s o₁ - calm₁ rfl
    exact .pure calm₁ ⟨object, .leaf rfl trivial rfl⟩
  | datetime t =>
    simp only [object] at spared
    refine .bind_prepareDates calm ?_
    intro ready o₁ found steady calm₁
    cases ready with
    | error why => exact .error _
    | ok _ =>
      refine (finds_instantOf calm₁ (spared t (List.mem_singleton.2 rfl))).bind ?_
        fun e => ⟨.interpreter e, rfl⟩
      rintro instant o₂ steady₂ calm₂ ⟨valid, equal⟩
      refine .pure calm₂ ⟨⟨t, object, valid, equal⟩, Nat.succ_pos _, trivial, fun _ => ?_⟩
      exact steady₂.hasDates (found rfl)
  | none =>
    refine .bind_prepareDates calm ?_
    intro _ o₁ _ steady calm₁
    exact .pure calm₁ ⟨object, .leaf rfl trivial rfl⟩
  | list refs | tuple refs =>
    simp only [object] at spared
    have parts (r : Ref) (member : r ∈ refs) : Spared (h.visits levels r) := by
      intro t visited
      exact spared t (List.mem_cons_of_mem _ (List.mem_flatMap.2 ⟨r, member, visited⟩))
    refine .bind_prepareDates calm ?_
    intro _ o₁ _ steady calm₁
    have heap₁ : o₁.interpreter.heap = h := by rw [steady.interpreter, heap]
    refine (finds_convertItems understands heap₁ calm₁ refs parts).map ?_
    rintro items o₂ ⟨denoted, fits⟩
    exact ⟨⟨refs, by simp only [object, true_or, or_true], denoted⟩, .array fits⟩
  | dict entries =>
    simp only [object] at spared
    have parts (e : CodePoints × Ref) (member : e ∈ h.textEntries entries) :
        Spared (h.visits levels e.2) := by
      intro t visited
      refine spared t (List.mem_cons_of_mem _ (List.mem_flatMap.2 ⟨e, member, ?_⟩))
      exact List.mem_cons_of_mem _ visited
    refine .bind_prepareDates calm ?_
    intro _ o₁ _ steady calm₁
    have heap₁ : o₁.interpreter.heap = h := by rw [steady.interpreter, heap]
    have nothing : Gathered h levels o₁.hasDates [] [] :=
      ⟨Entries.ascending_nil, ⟨[], .refl _, rfl⟩, List.forall_mem_nil _⟩
    refine (finds_convertEntries understands heap₁ calm₁ entries parts nothing (sound.keys object)).map ?_
    rintro m o₂ gathered
    obtain ⟨kept, rearranged, denoted⟩ := gathered.denoted
    exact ⟨⟨entries, kept, object, rearranged, denoted⟩, .map gathered.ascending gathered.fits⟩
  | _ =>
    refine .bind_prepareDates calm ?_
    intro _ o₁ _ steady calm₁
    exact .error _

/-- A value that was read is denoted by the object. -/
theorem finds_convert (sound : h.Sound) (levels : Nat) : Understands h levels := by
  induction levels with
  | zero =>
    intro o heap calm r spared
    rw [convert]
    exact .error _
  | succ levels ih => exact understands_succ sound ih

end

end Job

/-! ## Instants -/

namespace Heap

variable {h : Heap} {levels : Nat}

theorem visits_sequence {r : Ref} {refs : List Ref} (object : h.object r = .list refs ∨ h.object r = .tuple refs) :
    h.visits (levels + 1) r = .late :: refs.flatMap (h.visits levels) := by
  rcases object with list | tuple
  · simp only [visits, shape, list]
  · simp only [visits, shape, tuple]

theorem visits_mapping {r : Ref} {entries : List (Ref × Ref)} (object : h.object r = .dict entries) :
    h.visits (levels + 1) r =
      .late :: (h.textEntries entries).flatMap fun e => .text e.1 :: h.visits levels e.2 := by
  simp only [visits, shape, object]

/-- The instant is that of a date that is visited. -/
def Dates (h : Heap) (visits : List Visit) (t : Timestamp) : Prop :=
  ∃ r c, h.object r = .datetime c ∧ .clock c ∈ visits ∧ c.isValid ∧ c.instant = t

theorem Dates.mono {visits visits' : List Visit} {t : Timestamp} (dates : h.Dates visits t)
    (more : visits ⊆ visits') : h.Dates visits' t := by
  obtain ⟨r, c, object, visited, valid, equal⟩ := dates
  exact ⟨r, c, object, more visited, valid, equal⟩

/-- What is to be shown of the instants in a value. -/
def Dated (h : Heap) (v : Value) : Prop :=
  ∀ levels r, h.Denotes v r → v.depth < levels → ∀ t ∈ v.timestamps, h.Dates (h.visits levels r) t

theorem dated_items {items : List Value} (parts : ∀ v ∈ items, h.Dated v) {refs : List Ref}
    (denoted : h.DenotesAll items refs) (depth : Value.depthItems items ≤ levels) :
    ∀ t ∈ Value.timestampsAll items, h.Dates (refs.flatMap (h.visits levels)) t := by
  induction items generalizing refs with
  | nil => exact List.forall_mem_nil _
  | cons v items ih =>
    obtain ⟨head, tail⟩ := List.forall_mem_cons.1 parts
    obtain ⟨r, rest, rfl, first, others⟩ := denoted
    rw [Value.depthItems] at depth
    rw [Value.timestampsAll, List.flatMap_cons]
    intro t member
    rcases List.mem_append.1 member with here | there
    · exact (head levels r first (by omega) t here).mono (List.subset_append_left _ _)
    · exact (ih tail others (by omega) t there).mono (List.subset_append_right _ _)

theorem dated_entries {entries : List (String × Value)} (parts : ∀ e ∈ entries, h.Dated e.2)
    {kept : List (CodePoints × Ref)} (denoted : h.DenotesEntries entries kept)
    (depth : Value.depthEntries entries ≤ levels) :
    ∀ t ∈ Value.timestampsEntries entries,
      h.Dates (kept.flatMap fun e => .text e.1 :: h.visits levels e.2) t := by
  induction entries generalizing kept with
  | nil => exact List.forall_mem_nil _
  | cons e entries ih =>
    obtain ⟨k, v⟩ := e
    obtain ⟨head, tail⟩ := List.forall_mem_cons.1 parts
    obtain ⟨r, rest, rfl, first, others⟩ := denoted
    rw [Value.depthEntries] at depth
    rw [Value.timestampsEntries, List.flatMap_cons]
    intro t member
    rcases List.mem_append.1 member with here | there
    · have dates := head levels r first (by simp only; omega) t here
      exact dates.mono (List.subset_append_of_subset_left _ (List.subset_cons_self _ _))
    · exact (ih tail others (by omega) t there).mono (List.subset_append_right _ _)

/-- The instants in a value that was read are those of dates that were visited. -/
theorem dated (v : Value) : h.Dated v := by
  induction v using Value.induction with
  | timestamp t =>
    intro levels r denoted depth t' member
    obtain ⟨c, object, valid, equal⟩ := denoted
    obtain rfl : t' = t := List.mem_singleton.1 member
    cases levels with
    | zero => exact absurd depth (Nat.not_lt_zero _)
    | succ levels =>
      refine ⟨r, c, object, ?_, valid, equal⟩
      simp only [visits, shape, object, List.mem_singleton]
  | array items parts =>
    intro levels r denoted depth t member
    obtain ⟨refs, object, all⟩ := denoted
    cases levels with
    | zero => exact absurd depth (Nat.not_lt_zero _)
    | succ levels =>
      rw [visits_sequence object]
      have dates := dated_items parts all (Nat.lt_succ_iff.1 depth) t member
      exact dates.mono (List.subset_cons_self _ _)
  | map entries parts =>
    intro levels r denoted depth t member
    obtain ⟨refs, kept, object, rearranged, all⟩ := denoted
    cases levels with
    | zero => exact absurd depth (Nat.not_lt_zero _)
    | succ levels =>
      rw [visits_mapping object]
      have dates := dated_entries parts all (Nat.lt_succ_iff.1 depth) t member
      exact dates.mono (List.Subset.trans (rearranged.flatMap_right _).subset (List.subset_cons_self _ _))
  | _ =>
    intro levels r _ _
    exact List.forall_mem_nil _

end Heap

end InterpreterHost
