import InterpreterHost.Proofs.Marshal.Visit

/-!
# Reading follows its visits

## Main statements

* `Job.ends_offsetOf` — what becomes of the pending exception when a time zone is asked
* `Job.ends_convert_succ` — the visit to an object, with the visits to its parts
* `Job.ends_convert` — reading ends as `Heap.visits` has it
-/

namespace InterpreterHost

/-! ## What time zones answer -/

theorem Zone.exhausts_of_ok {zone : Zone} {offset : Option Int} (h : zone.answer = .ok offset) :
    zone.exhausts = false := by
  cases zone with
  | raises e => cases h
  | _ => rfl

/-- Only a zone for which memory runs out says so. -/
theorem Zone.isMemoryError_of_error {zone : Zone} {e : Raised} (h : zone.answer = .error e) :
    e.thrown.exceptionClass.isMemoryError = zone.exhausts := by
  cases zone with
  | offset micros | derived micros =>
    simp only [Zone.answer] at h
    split at h
    · cases h
    · cases h
      rfl
  | fixed _ | absent => cases h
  | raises _ =>
    cases h
    rfl

namespace Job

open Owner (Steady)

variable {o : Owner} {s : Reader} {E : Panic → Prop}

/-! ## Exceptions of the reader's own -/

/-- An exception that is set and taken away at once becomes an error, in place of any other. -/
theorem ends_failWith (warns : o.Warns E) (e : Raised) :
    Ends (failWith e) o (fun error o' => error = o.errorOf e ∧ Steady o o' ∧
      o'.pending = if e.thrown.exceptionClass.isMemoryError then some e else none) E := by
  have steady : Steady o { o with pending := some e } := .setPending o _
  unfold failWith
  rw [ends_bind, ends_modify]
  refine (ends_fetch (steady.warns warns) rfl).imp ?_
  rintro error o' ⟨equal, steady', pending⟩
  exact ⟨equal.trans (steady.errorOf e), steady.trans steady', pending⟩

/-! ## Visits without parts -/

theorem ends_readInt (fits : s.Fits o) (warns : o.Warns E) (i : Int) :
    Ends (do return leaf .int (← integerOf i)) o (Reads o s [.int i]) E := by
  unfold integerOf
  by_cases range : isInt64 i
  · rw [if_neg (not_not_intro range), ends_bind, ends_bind, ends_get]
    -- The number -1 stands for an error too, and what is pending tells which it is.
    by_cases taken : i = -1 ∧ o.pending.isSome
    · rw [if_pos taken, ends_bind]
      obtain ⟨rfl, isSome⟩ := taken
      obtain ⟨e, pending⟩ := Option.isSome_iff_exists.1 isSome
      have memory := fits.pends.isMemoryError pending
      refine (ends_fetch warns pending).imp ?_
      rintro error o' ⟨equal, steady, left⟩
      have fault : s.fault? (.int (-1)) = some .exhausted := by
        simp [Reader.fault?, range, ← fits.pends.isSome, pending]
      rw [Owner.errorOf, if_pos memory] at equal
      rw [if_pos memory, ← pending] at left
      subst equal
      exact .failed steady fault (by simpa [Fault.isSilent] using fits.pends.of_pending left)
    · rw [if_neg taken, ends_pure]
      have fine : s.fault? (.int i) = none := by
        simpa [Reader.fault?, range, ← fits.pends.isSome] using taken
      exact .visited (.refl o) fine fits _
  · rw [if_pos range, ends_bind, ends_bind]
    refine (ends_failWith warns _).imp ?_
    rintro error o' ⟨equal, steady, left⟩
    have fault : s.fault? (.int i) = some .overflow := by simp [Reader.fault?, range]
    subst equal
    exact .failed steady fault (by simpa [Fault.isSilent] using Owner.Pends.of_fetched left)

theorem ends_readText (fits : s.Fits o) (warns : o.Warns E) (t : CodePoints) :
    Ends (textOf t) o (fun result => Reads o s [.text t] (result.mapError .interpreter)) E := by
  unfold textOf
  cases text : t.toString? with
  | some string =>
    have fine : s.fault? (.text t) = none := by simp [Reader.fault?, text]
    exact .visited (.refl o) fine fits _
  | none =>
    simp only [ends_bind]
    refine (ends_failWith warns _).imp ?_
    rintro error o' ⟨equal, steady, left⟩
    have fault : s.fault? (.text t) = some (.unencodable t) := by simp [Reader.fault?, text]
    subst equal
    exact .failed steady fault (by simpa [Fault.isSilent] using Owner.Pends.of_fetched left)

/-! ## Dates -/

/-- To look for the dates leaves the pending exception of a reader. -/
theorem pending_of_looked {o' : Owner} (fits : s.Fits o)
    (pending : o'.pending = o.pending ∨ o'.pending = none ∧ ¬ o.hasDates) :
    o'.pending = o.pending := by
  rcases pending with same | ⟨gone, missing⟩
  · exact same
  · have calm : s.exhausted = false := by
      cases exhausted : s.exhausted with
      | false => rfl
      | true => exact absurd (fits.hasDates.trans (fits.hasDates_of_exhausted exhausted)) missing
    have none : o.pending = none := by simpa [Owner.Pends, calm] using fits.pends
    rw [gone, none]

/-- When a time zone is asked no exception is pending afterwards, unless the zone ran out of memory. -/
theorem ends_offsetOf (warns : o.Warns E) (zone : Zone) :
    Ends (offsetOf zone) o (fun _ o' => Steady o o' ∧ o'.Pends zone.exhausts) E := by
  unfold offsetOf
  dsimp only
  rw [ends_bind, ends_get]
  split
  · next offset answer pending =>
    have answered : zone.exhausts = false := by
      split at answer
      · rfl
      · next h => exact Zone.exhausts_of_ok h
      · exact Zone.exhausts_of_ok answer
    exact ⟨.refl o, by rw [answered]; exact pending⟩
  · next offset e answer pending =>
    have answered : zone.exhausts = false := by
      split at answer
      · rfl
      · next h => exact Zone.exhausts_of_ok h
      · exact Zone.exhausts_of_ok answer
    rw [ends_bind, answered]
    exact (ends_failWith warns _).imp fun _ _ h => ⟨h.2.1, .of_fetched h.2.2⟩
  · next e answer =>
    have raised : zone.answer = .error e := by
      split at answer
      · cases answer
      · cases answer
      · exact answer
    rw [ends_bind, ← Zone.isMemoryError_of_error raised]
    exact (ends_failWith warns _).imp fun _ _ h => ⟨h.2.1, .of_fetched h.2.2⟩

/-- The visit to a date. -/
theorem ends_readClock (fits : s.Fits o) (warns : o.Warns E) (levels : Nat) (t : DateTime) :
    Ends (readShape levels (.clock t)) o (Reads o s [.clock t]) E := by
  unfold readShape
  rw [ends_bind]
  refine ends_prepareDates.imp ?_
  rintro ready o₁ ⟨dates, steady, finds, pending⟩
  have same : o₁.pending = o.pending := pending_of_looked fits pending
  cases ready with
  | error why =>
    have missing : ¬ o.hasDates := fun h => nomatch dates.2 h
    have missing' : ¬ s.hasDates := by rwa [← fits.hasDates]
    have fault : s.fault? (.clock t) = some (.unsupported "datetime.datetime") := by
      simp [Reader.fault?, missing']
    exact .failed steady fault (by simpa [Fault.isSilent] using fits.pends.of_pending same)
  | ok _ =>
    have present : o.hasDates := dates.1 rfl
    have present' : s.hasDates := by rwa [← fits.hasDates]
    dsimp only
    unfold instantOf
    by_cases valid : t.isValid
    · have fine : s.fault? (.clock t) = none := by simp [Reader.fault?, present', valid]
      -- The state afterwards, once it is known what is pending.
      have fits' : ∀ o₂ : Owner, Owner.Steady o₁ o₂ → o₂.Pends (s.next (.clock t)).exhausted →
          (s.next (.clock t)).Fits o₂ := by
        intro o₂ steady₂ pends
        have found : s.findsDates := by
          rw [← fits.findsDates]
          exact Owner.findsDates_of_hasDates present
        refine ⟨?_, ?_, pends, fun _ => found⟩
        · rw [steady₂.hasDates (by rwa [finds, fits.findsDates])]
          exact found.symm
        · rw [steady₂.findsDates, steady.findsDates, fits.findsDates]
          rfl
      rw [if_neg (not_not_intro valid)]
      cases zone : t.zone with
      | none =>
        refine .visited steady fine (fits' o₁ (.refl o₁) ?_) _
        simpa only [Reader.next, zone] using fits.pends.of_pending same
      | some zone' =>
        simp only [ends_bind]
        refine (ends_offsetOf (steady.warns warns) zone').imp ?_
        rintro offset o₂ ⟨steady₂, pends⟩
        have pends' : o₂.Pends (s.next (.clock t)).exhausted := by
          simpa only [Reader.next, zone] using pends
        cases offset with
        | some micros => exact .visited (steady.trans steady₂) fine (fits' o₂ steady₂ pends') _
        | none =>
          rw [ends_bind]
          refine ends_warn ((steady.trans steady₂).warns warns) ?_
          intro _
          refine .visited ((steady.trans steady₂).trans (.addLog _ _)) fine (fits' _ ?_ ?_) _
          · exact steady₂.trans (.addLog _ _)
          · exact pends'
    · have fault : s.fault? (.clock t) = some .invalidDate := by
        simp [Reader.fault?, present', valid]
      rw [if_pos valid]
      exact .failed steady fault (by simpa [Fault.isSilent] using fits.pends.of_pending same)

/-! ## Visits with parts -/

/-- The visit to a container, before its parts. -/
theorem ends_late (fits : s.Fits o) :
    Ends prepareDates o (fun _ o' => Reads o s [.late] (.ok () : Except CallError Unit) o') E := by
  refine ends_prepareDates.imp ?_
  rintro ready o₁ ⟨_, steady, finds, pending⟩
  have pends : o₁.Pends s.exhausted := fits.pends.of_pending (pending_of_looked fits pending)
  have fine : s.fault? .late = none := rfl
  refine .visited steady fine ⟨?_, ?_, pends, fun exhausted => ?_⟩ ()
  · rw [finds, fits.findsDates]
    rfl
  · rw [steady.findsDates, fits.findsDates]
    rfl
  · change s.findsDates
    rw [← fits.findsDates]
    exact Owner.findsDates_of_hasDates (fits.hasDates.trans (fits.hasDates_of_exhausted exhausted))

/-- What is to be shown of the objects inside of containers. -/
def Follows (E : Panic → Prop) (levels : Nat) : Prop :=
  ∀ {o : Owner} {s : Reader}, s.Fits o → o.Warns E → ∀ r,
    Ends (convert levels r) o (Reads o s (o.interpreter.heap.visits levels r)) E

theorem ends_convertItems {levels : Nat} (follows : Follows E levels) (fits : s.Fits o)
    (warns : o.Warns E) (items : List Ref) :
    Ends (convertItems levels items) o
      (Reads o s (items.flatMap (o.interpreter.heap.visits levels))) E := by
  induction items generalizing o s with
  | nil =>
    rw [convertItems]
    exact ends_pure.2 (Reads.nil fits [])
  | cons r items ih =>
    rw [List.flatMap_cons, convertItems, ends_bind]
    refine (follows fits warns r).imp ?_
    intro result o₁ read
    cases result with
    | error e => exact read.append_of_error _
    | ok v =>
      rw [ends_bind]
      have rest := ih read.of_ok.2 (read.steady.warns warns)
      rw [read.steady.interpreter] at rest
      exact rest.imp fun _ _ read' => read.append_of_ok (read'.map _)

theorem ends_convertEntries {levels : Nat} (follows : Follows E levels) (fits : s.Fits o)
    (warns : o.Warns E) (made : ValueMap) (entries : List (Ref × Ref)) :
    Ends (convertEntries levels made entries) o
      (Reads o s ((o.interpreter.heap.textEntries entries).flatMap fun e =>
        .text e.1 :: o.interpreter.heap.visits levels e.2)) E := by
  induction entries generalizing o s made with
  | nil =>
    rw [convertEntries]
    exact ends_pure.2 (Reads.nil fits made)
  | cons entry entries ih =>
    obtain ⟨k, r⟩ := entry
    rw [convertEntries, ends_bind, ends_heap, Heap.textEntries_cons]
    cases o.interpreter.heap.object k with
    | str t =>
      dsimp only
      rw [List.flatMap_cons, List.cons_append, ends_bind]
      refine (ends_readText fits warns t).imp ?_
      intro key o₁ read
      cases key with
      | error e => exact read.append_of_error _
      | ok key =>
        dsimp only
        rw [ends_bind]
        have value := follows read.of_ok.2 (read.steady.warns warns) r
        rw [read.steady.interpreter] at value
        refine value.imp ?_
        intro result o₂ read'
        have both := read.append_of_ok read'
        cases result with
        | error e => exact both.append_of_error _
        | ok v =>
          have rest := ih both.of_ok.2 (both.steady.warns warns) (made.insert key v)
          rw [both.steady.interpreter] at rest
          exact rest.imp fun _ _ read'' => both.append_of_ok read''
    | _ =>
      -- The key is no text: the entry is no visit.
      exact ih fits warns made

/-- The visits to an object and to its parts. -/
theorem ends_convert_succ {levels : Nat} (follows : Follows E levels) : Follows E (levels + 1) := by
  intro o s fits warns r
  rw [Ends, run_convert_succ]
  change Ends (readShape levels (o.interpreter.heap.shape r)) o _ E
  unfold Heap.visits
  cases o.interpreter.heap.shape r with
  | known v =>
    have fine : s.fault? .known = none := rfl
    exact ends_pure.2 (.visited (.refl o) fine fits v)
  | int i => exact ends_readInt fits warns i
  | text t =>
    rw [readShape, ends_bind]
    refine (ends_readText fits warns t).imp ?_
    intro result o₁ read
    cases result with
    | error e => exact ends_pure.2 (read.map Value.string)
    | ok text => exact ends_pure.2 (read.map Value.string)
  | clock t => exact ends_readClock fits warns levels t
  | null =>
    rw [readShape, ends_bind]
    exact (ends_late fits).imp fun _ o₁ read => ends_pure.2 (read.map fun _ => Value.null)
  | sequence items =>
    rw [readShape, ends_bind]
    refine (ends_late fits).imp ?_
    intro _ o₁ read
    have parts := ends_convertItems follows read.of_ok.2 (read.steady.warns warns) items
    rw [read.steady.interpreter] at parts
    rw [ends_bind]
    exact parts.imp fun _ _ read' => read.append_of_ok (read'.map Value.array)
  | mapping entries =>
    rw [readShape, ends_bind]
    refine (ends_late fits).imp ?_
    intro _ o₁ read
    have parts := ends_convertEntries follows read.of_ok.2 (read.steady.warns warns) [] entries
    rw [read.steady.interpreter] at parts
    rw [ends_bind]
    exact parts.imp fun _ _ read' => read.append_of_ok (read'.map Value.map)
  | foreign typeName =>
    rw [readShape, ends_bind]
    refine ends_prepareDates.imp ?_
    rintro _ o₁ ⟨_, steady, _, pending⟩
    have pends : o₁.Pends s.exhausted := fits.pends.of_pending (pending_of_looked fits pending)
    have fault : s.fault? (.foreign typeName) = some (.unsupported typeName) := rfl
    exact ends_pure.2 (Reads.failed steady fault (by simpa [Fault.isSilent] using pends))

/-- Reading ends as its visits have it. -/
theorem ends_convert (fits : s.Fits o) (warns : o.Warns E) (levels : Nat) (r : Ref) :
    Ends (convert levels r) o (Reads o s (o.interpreter.heap.visits levels r)) E := by
  -- Each level reads the one below it, be the graph as it may.
  have follows : Follows E levels := by
    induction levels with
    | zero =>
      intro o s fits warns r
      have fault : s.fault? .tooDeep = some .tooDeep := rfl
      rw [convert]
      exact ends_pure.2 (Reads.failed (.refl o) fault (by simpa [Fault.isSilent] using fits.pends))
    | succ levels ih => exact ends_convert_succ ih
  exact follows fits warns r

end Job

end InterpreterHost
