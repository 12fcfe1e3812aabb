import InterpreterHost.Proofs.Marshal.Shape
import InterpreterHost.Proofs.Owner.Blind
import Mathlib.Data.List.Forall2

/-!
# What reading does not depend on

Reading sees the shapes of objects and, of a dictionary, the entries whose keys are texts.  Two
graphs that agree in those are read as the same value, with the same errors, warnings and exceptions
on the way.

## Main definitions

* `Shape.Alike` — two objects look the same to one who reads them, if their parts do
* `Heap.Alike` — a relation between objects of two heaps that look the same
* `Job.Mirrors` — two jobs do the same, each with its own heap

## Main statements

* `Job.mirrors_convert` — objects that look the same are read in the same way

## Design notes

The relation is between places of two heaps, so that the graphs may share parts or contain themselves
in different ways.  It is any one that is closed under taking parts.
-/

namespace InterpreterHost

/-! ## Objects that look the same -/

/-- Two shapes are the same, but for entries of dictionaries whose keys are no texts; parts are
related by `R`. -/
inductive Shape.Alike (h h' : Heap) (R : Ref → Ref → Prop) : Shape → Shape → Prop where
  | known (v : Value) : Alike h h' R (.known v) (.known v)
  | int (i : Int) : Alike h h' R (.int i) (.int i)
  | text (t : CodePoints) : Alike h h' R (.text t) (.text t)
  | clock (t : DateTime) : Alike h h' R (.clock t) (.clock t)
  | null : Alike h h' R .null .null
  | sequence {items items' : List Ref} (parts : List.Forall₂ R items items') :
      Alike h h' R (.sequence items) (.sequence items')
  | mapping {entries entries' : List (Ref × Ref)}
      (parts : List.Forall₂ (fun e e' => e.1 = e'.1 ∧ R e.2 e'.2)
        (h.textEntries entries) (h'.textEntries entries')) :
      Alike h h' R (.mapping entries) (.mapping entries')
  | foreign (typeName : String) : Alike h h' R (.foreign typeName) (.foreign typeName)

/-- The relation is between objects that look the same, and so do their parts. -/
def Heap.Alike (h h' : Heap) (R : Ref → Ref → Prop) : Prop :=
  ∀ r r', R r r' → Shape.Alike h h' R (h.shape r) (h'.shape r')

namespace Job

variable {α β : Type} {h h' : Heap}

/-! ## Jobs that do the same -/

/-- The second job does with one heap what the first does with the other; neither changes its heap. -/
def Mirrors (h h' : Heap) (code code' : Job α) : Prop :=
  ∀ o, o.interpreter.heap = h →
    code'.run (o.withHeap h') = ((code.run o).1, (code.run o).2.withHeap h') ∧
      (code.run o).2.interpreter.heap = h

/-- A blind job does the same with any heap. -/
theorem Blind.mirrors {code : Job α} (blind : Blind code) : Mirrors h h' code code := by
  rintro o rfl
  have same := congrArg (fun end_ => end_.2.interpreter.heap) (blind o o.interpreter.heap)
  exact ⟨blind o h', same⟩

namespace Mirrors

theorem bind {code code' : Job α} {next next' : α → Job β} (first : Mirrors h h' code code')
    (second : ∀ a, Mirrors h h' (next a) (next' a)) :
    Mirrors h h' (code >>= next) (code' >>= next') := by
  intro o heap
  obtain ⟨run, heap'⟩ := first o heap
  rw [run_bind, run_bind, run]
  revert heap'
  rcases code.run o with ⟨result, o'⟩
  intro heap'
  cases result with
  | ok a => exact second a o' heap'
  | error p => exact ⟨rfl, heap'⟩

/-- Jobs may be replaced by what they do. -/
theorem of_run {code code' other other' : Job α} (mirrors : Mirrors h h' other other')
    (run : ∀ o, o.interpreter.heap = h → code.run o = other.run o)
    (run' : ∀ o, o.interpreter.heap = h' → code'.run o = other'.run o) :
    Mirrors h h' code code' := by
  intro o heap
  rw [run o heap, run' (o.withHeap h') rfl]
  exact mirrors o heap

end Mirrors

/-! ## Entries -/

/-- Reading an entry whose key is a text, and then the others. -/
def readEntry (levels : Nat) (made : ValueMap) (t : CodePoints) (r : Ref)
    (entries : List (Ref × Ref)) : Job (Except CallError ValueMap) := do
  match ← textOf t with
  | .error e => return .error (.interpreter e)
  | .ok key =>
    match ← convert levels r with
    | .error e => return .error e
    | .ok v => convertEntries levels (made.insert key v) entries

/-- The first entry is read if its key is a text, and passed over otherwise. -/
theorem run_convertEntries_cons (levels : Nat) (made : ValueMap) (k r : Ref)
    (entries : List (Ref × Ref)) (o : Owner) :
    (convertEntries levels made ((k, r) :: entries)).run o =
      match o.interpreter.heap.object k with
      | .str t => (readEntry levels made t r entries).run o
      | _ => (convertEntries levels made entries).run o := by
  have heap : heap.run o = (.ok o.interpreter.heap, o) := rfl
  rw [convertEntries, run_bind, heap]
  dsimp only
  cases o.interpreter.heap.object k with
  | str t => rfl
  | _ => rfl

theorem run_convertEntries_of_nil {entries : List (Ref × Ref)} (texts : h.textEntries entries = [])
    (levels : Nat) (made : ValueMap) (o : Owner) (heap : o.interpreter.heap = h) :
    (convertEntries levels made entries).run o = (pure (.ok made) : Job _).run o := by
  induction entries with
  | nil => rw [convertEntries]
  | cons entry entries ih =>
    obtain ⟨k, r⟩ := entry
    rw [run_convertEntries_cons, heap]
    rw [Heap.textEntries_cons] at texts
    cases object : h.object k with
    | str t => simp [object] at texts
    | _ => exact ih (by simpa only [object] using texts)

theorem run_convertEntries_of_cons {entries : List (Ref × Ref)} {t : CodePoints} {r : Ref}
    {rest : List (CodePoints × Ref)} (texts : h.textEntries entries = (t, r) :: rest) :
    ∃ entries', h.textEntries entries' = rest ∧ ∀ levels made o, o.interpreter.heap = h →
      (convertEntries levels made entries).run o = (readEntry levels made t r entries').run o := by
  induction entries with
  | nil => cases texts
  | cons entry entries ih =>
    obtain ⟨k, r'⟩ := entry
    rw [Heap.textEntries_cons] at texts
    cases object : h.object k with
    | str t' =>
      simp only [object, List.cons.injEq] at texts
      obtain ⟨equal, tail⟩ := texts
      cases equal
      refine ⟨entries, tail, fun levels made o heap => ?_⟩
      rw [run_convertEntries_cons, heap, object]
    | _ =>
      obtain ⟨entries', tail, run⟩ := ih (by simpa only [object] using texts)
      refine ⟨entries', tail, fun levels made o heap => ?_⟩
      rw [run_convertEntries_cons, heap, object]
      exact run levels made o heap

/-! ## Reading -/

section

variable {R : Ref → Ref → Prop} {levels : Nat}

theorem mirrors_convertItems
    (parts : ∀ r r', R r r' → Mirrors h h' (convert levels r) (convert levels r'))
    {items items' : List Ref} (related : List.Forall₂ R items items') :
    Mirrors h h' (convertItems levels items) (convertItems levels items') := by
  induction related with
  | nil =>
    rw [convertItems]
    exact (Blind.pure _).mirrors
  | cons first _ ih =>
    rw [convertItems, convertItems]
    refine .bind (parts _ _ first) ?_
    intro result
    cases result with
    | error e => exact (Blind.pure _).mirrors
    | ok v => exact .bind ih fun _ => (Blind.pure _).mirrors

theorem mirrors_convertEntries
    (parts : ∀ r r', R r r' → Mirrors h h' (convert levels r) (convert levels r'))
    {entries entries' : List (Ref × Ref)}
    (related : List.Forall₂ (fun e e' => e.1 = e'.1 ∧ R e.2 e'.2)
      (h.textEntries entries) (h'.textEntries entries')) (made : ValueMap) :
    Mirrors h h' (convertEntries levels made entries) (convertEntries levels made entries') := by
  -- The entries that count are those whose keys are texts; the others are passed over.
  generalize texts : h.textEntries entries = xs at related
  generalize texts' : h'.textEntries entries' = ys at related
  induction related generalizing entries entries' made with
  | nil =>
    exact .of_run (Blind.pure _).mirrors (run_convertEntries_of_nil texts levels made)
      (run_convertEntries_of_nil texts' levels made)
  | @cons x y xs ys first _ ih =>
    obtain ⟨t, r⟩ := x
    obtain ⟨t', r'⟩ := y
    obtain ⟨rfl, value⟩ := first
    obtain ⟨rest, restTexts, run⟩ := run_convertEntries_of_cons texts
    obtain ⟨rest', restTexts', run'⟩ := run_convertEntries_of_cons texts'
    refine .of_run ?_ (run levels made) (run' levels made)
    refine .bind (blind_textOf t).mirrors ?_
    intro key
    cases key with
    | error e => exact (Blind.pure _).mirrors
    | ok key =>
      refine .bind (parts r r' value) ?_
      intro result
      cases result with
      | error e => exact (Blind.pure _).mirrors
      | ok v => exact ih _ restTexts restTexts'

theorem mirrors_readShape
    (parts : ∀ r r', R r r' → Mirrors h h' (convert levels r) (convert levels r'))
    {s s' : Shape} (alike : Shape.Alike h h' R s s') :
    Mirrors h h' (readShape levels s) (readShape levels s') := by
  cases alike with
  | known v => exact (Blind.pure _).mirrors
  | int i => exact .bind (blind_integerOf i).mirrors fun _ => (Blind.pure _).mirrors
  | text t => exact .bind (blind_textOf t).mirrors fun _ => (Blind.pure _).mirrors
  | clock t =>
    refine .bind blind_prepareDates.mirrors ?_
    intro ready
    cases ready with
    | ok _ => exact .bind (blind_instantOf t).mirrors fun _ => (Blind.pure _).mirrors
    | error _ => exact (Blind.pure _).mirrors
  | null | foreign _ => exact .bind blind_prepareDates.mirrors fun _ => (Blind.pure _).mirrors
  | sequence related =>
    refine .bind blind_prepareDates.mirrors ?_
    intro _
    exact .bind (mirrors_convertItems parts related) fun _ => (Blind.pure _).mirrors
  | mapping related =>
    refine .bind blind_prepareDates.mirrors ?_
    intro _
    exact .bind (mirrors_convertEntries parts related []) fun _ => (Blind.pure _).mirrors

/-- Objects that look the same are read in the same way. -/
theorem mirrors_convert (alike : h.Alike h' R) (levels : Nat) {r r' : Ref} (related : R r r') :
    Mirrors h h' (convert levels r) (convert levels r') := by
  induction levels generalizing r r' with
  | zero =>
    rw [convert, convert]
    exact (Blind.pure _).mirrors
  | succ levels ih =>
    refine .of_run (mirrors_readShape (fun _ _ => ih) (alike r r' related)) ?_ ?_
    · rintro o rfl
      exact run_convert_succ levels r o
    · rintro o rfl
      exact run_convert_succ levels r' o

end

end Job

end InterpreterHost
