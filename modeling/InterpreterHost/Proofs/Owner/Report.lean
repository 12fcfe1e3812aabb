import InterpreterHost.Proofs.Owner.Outcome

/-!
# Reports as a function of the owner

What the host looks up of the interpreter settles once and for all which formatter writes its
reports.  The report of an exception is therefore a function of the exception and of the owner that
takes it over, however often the host has looked before.

## Main definitions

* `Owner.lookUp` — what a look-up gives
* `Owner.reportOf` — the report of an exception
* `Owner.Steady` — what look-ups, warnings and reports leave as it was

## Main statements

* `Job.ends_prepare` — a look-up gives `Owner.lookUp`, and the next one will too
* `Job.ends_report` — a report is `Owner.reportOf`
* `Job.ends_fetch` — what becomes of the pending exception
-/

namespace InterpreterHost

/-! ## Memory -/

@[simp] theorem Raised.isMemoryError_builtin (className message : String) :
    (Raised.builtin className message).thrown.exceptionClass.isMemoryError = false := rfl

@[simp] theorem Raised.isMemoryError_unencodable (t : CodePoints) :
    (Raised.unencodable t).thrown.exceptionClass.isMemoryError = false := rfl

namespace Owner

/-! ## What is looked up -/

/-- Whether dates can be made and read once the host has looked for them. -/
def findsDates (o : Owner) : Bool :=
  o.datesReady || o.formatter.isSome || o.interpreter.services.datetime

/-- The formatter that a look-up gives, unless something is missing. -/
def formatter? (o : Owner) : Option Formatter :=
  o.formatter.or
    (if o.findsDates && o.interpreter.services.traceback then o.interpreter.services.formatter else none)

/-- Whether dates can be made and read, be it after a look-up in which nothing is missing. -/
def hasDates (o : Owner) : Bool := o.datesReady || o.formatter?.isSome

theorem findsDates_of_hasDates {o : Owner} (h : o.hasDates) : o.findsDates := by
  cases formatter : o.formatter with
  | some f => simp [findsDates, formatter]
  | none =>
    cases dates : o.findsDates with
    | true => rfl
    | false => simp_all [hasDates, formatter?, findsDates]

/-- Nothing has changed but the pending exception, the log and what the host remembers of its
look-ups, and those will go on giving the same. -/
structure Steady (before after : Owner) : Prop where
  interpreter : after.interpreter = before.interpreter
  panicOnWarning : after.panicOnWarning = before.panicOnWarning
  formatter? : after.formatter? = before.formatter?
  findsDates : after.findsDates = before.findsDates
  hasDates : before.hasDates → after.hasDates

namespace Steady

@[refl] theorem refl (o : Owner) : Steady o o := ⟨rfl, rfl, rfl, rfl, id⟩

theorem trans {o₁ o₂ o₃ : Owner} (h : Steady o₁ o₂) (h' : Steady o₂ o₃) : Steady o₁ o₃ where
  interpreter := h'.interpreter.trans h.interpreter
  panicOnWarning := h'.panicOnWarning.trans h.panicOnWarning
  formatter? := h'.formatter?.trans h.formatter?
  findsDates := h'.findsDates.trans h.findsDates
  hasDates := h'.hasDates ∘ h.hasDates

theorem warns {o o' : Owner} {E : Panic → Prop} (h : Steady o o') (warns : o.Warns E) : o'.Warns E := by
  intro text panics
  exact warns text (h.panicOnWarning ▸ panics)

theorem setPending (o : Owner) (e : Option Raised) : Steady o { o with pending := e } :=
  ⟨rfl, rfl, rfl, rfl, id⟩

theorem addLog (o : Owner) (records : List LogRecord) : Steady o { o with log := o.log ++ records } :=
  ⟨rfl, rfl, rfl, rfl, id⟩

end Steady

end Owner

namespace Job

open Owner

variable {o : Owner} {E : Panic → Prop}

/-! ## Looking up -/

/-- A look-up gives what it always will, never panics and finds the dates if they can be found.  It
takes an exception away only if something is missing. -/
theorem ends_prepare :
    Ends prepare o (fun found o' => found.toOption = o.formatter? ∧ Steady o o' ∧
      o'.hasDates = o.findsDates ∧
      (o'.pending = o.pending ∨ o'.pending = none ∧ o.formatter? = none)) E := by
  unfold prepare
  simp only [ends_bind, ends_get]
  cases formatter : o.formatter with
  | some f =>
    have found : o.formatter? = some f := by simp [formatter?, formatter]
    refine ⟨found.symm, .refl o, ?_, .inl rfl⟩
    simp [hasDates, findsDates, found, formatter]
  | none =>
    dsimp only
    have finds : o.findsDates = (o.datesReady || o.interpreter.services.datetime) := by
      simp [findsDates, formatter]
    cases dates : o.findsDates with
    | false =>
      have missing : ¬ o.interpreter.services.datetime ∧ ¬ o.datesReady := by grind
      have fails : o.formatter? = none := by simp [formatter?, formatter, dates]
      rw [if_pos missing, ends_bind, ends_clearPending, ends_pure]
      refine ⟨fails.symm, .setPending o none, ?_, .inr ⟨rfl, fails⟩⟩
      change o.hasDates = _
      simp [hasDates, fails, missing.2]
    | true =>
      have present : ¬ (¬ o.interpreter.services.datetime ∧ ¬ o.datesReady) := by grind
      rw [if_neg present, ends_bind, ends_modify]
      -- From here on the dates are there, whatever else is missing.
      by_cases traceback : o.interpreter.services.traceback
      · rw [if_neg (not_not_intro traceback)]
        cases service : o.interpreter.services.formatter with
        | none =>
          rw [ends_bind, ends_clearPending, ends_pure]
          refine ⟨?_, ⟨rfl, rfl, ?_, ?_, ?_⟩, ?_, .inr ⟨rfl, ?_⟩⟩ <;>
            simp_all [hasDates, formatter?, findsDates, Except.toOption]
        | some f =>
          rw [ends_bind, ends_modify, ends_pure]
          refine ⟨?_, ⟨rfl, rfl, ?_, ?_, ?_⟩, ?_, .inl rfl⟩ <;>
            simp_all [hasDates, formatter?, findsDates, Except.toOption]
      · rw [if_pos traceback, ends_bind, ends_clearPending, ends_pure]
        refine ⟨?_, ⟨rfl, rfl, ?_, ?_, ?_⟩, ?_, .inr ⟨rfl, ?_⟩⟩ <;>
          simp_all [hasDates, formatter?, findsDates, Except.toOption]

/-! ## Reports -/

end Job

namespace Owner

/-- The entries of a formatted exception, unless the formatter is missing or of no use. -/
def formatted? (o : Owner) (e : Raised) : Option (List String) :=
  match o.formatter? with
  | some .standard => if e.formattable then e.entries.mapM CodePoints.toString? else none
  | some .empty => some []
  | _ => none

/-- The report of an exception. -/
def reportOf (o : Owner) (e : Raised) : ExceptionReport :=
  match o.formatted? e with
  | some entries => .ofFormatted entries e.thrown.exceptionClass.isSyntaxError
  | none => .ofMain e.shortText

/-- What the exception becomes that is pending when a report is asked for. -/
def errorOf (o : Owner) (e : Raised) : InterpreterError :=
  if e.thrown.exceptionClass.isMemoryError then .noMemory else .exception (o.reportOf e)

theorem Steady.reportOf {o o' : Owner} (h : Steady o o') (e : Raised) : o'.reportOf e = o.reportOf e := by
  simp only [Owner.reportOf, formatted?, h.formatter?]

theorem Steady.errorOf {o o' : Owner} (h : Steady o o') (e : Raised) : o'.errorOf e = o.errorOf e := by
  simp only [Owner.errorOf, h.reportOf]

end Owner

namespace Job

variable {o : Owner} {E : Panic → Prop}

/-- What a part of a report ends in: a result that is known, and no exception that was not there. -/
def Reports (o : Owner) (result : α) (found : α) (o' : Owner) : Prop :=
  found = result ∧ Owner.Steady o o' ∧ (o.pending = none → o'.pending = none)

theorem ends_formattedBy (warns : o.Warns E) (formatter : Formatter) (e : Raised) :
    Ends (formattedBy formatter e) o (Reports o
      (match formatter with
        | .standard => if e.formattable then e.entries.mapM CodePoints.toString? else none
        | .empty => some []
        | _ => none)) E := by
  have failed : Ends (do
      clearPending
      warn "traceback.format_exception failed"
      return none) o (Reports o (none : Option (List String))) E := by
    simp only [ends_bind, ends_clearPending]
    refine ends_warn (o := { o with pending := none }) warns ?_
    intro _
    exact ⟨rfl, (Owner.Steady.setPending o none).trans (.addLog _ _), fun _ => rfl⟩
  cases formatter with
  | standard =>
    by_cases formattable : e.formattable
    · simp only [formattedBy, formattable, if_true]
      exact ⟨rfl, .refl o, id⟩
    · simpa only [formattedBy, formattable, if_false, Bool.false_eq_true] using failed
  | raising => exact failed
  | empty => exact ⟨rfl, .refl o, id⟩
  | tuple | number | surrogate => exact ⟨rfl, .refl o, id⟩

/-- Exceptions are formatted as `Owner.formatted?` says. -/
theorem ends_formatted (warns : o.Warns E) (e : Raised) :
    Ends (formatted e) o (Reports o (o.formatted? e)) E := by
  unfold formatted
  rw [ends_bind]
  refine ends_prepare.imp ?_
  rintro found o₁ ⟨looked, steady, _, pending⟩
  have cleared : o.pending = none → o₁.pending = none := by
    rcases pending with same | ⟨gone, -⟩ <;> simp_all
  cases found with
  | ok formatter =>
    refine (ends_formattedBy (steady.warns warns) formatter e).imp ?_
    intro entries o₂ h
    obtain ⟨rfl, steady', cleared'⟩ := h
    refine ⟨?_, steady.trans steady', cleared' ∘ cleared⟩
    simp only [Owner.formatted?, ← looked, Except.toOption]
    cases formatter <;> rfl
  | error why =>
    simp only [ends_bind]
    refine ends_warn (steady.warns warns) ?_
    intro _
    refine ⟨?_, steady.trans (.addLog _ _), cleared⟩
    simp [Owner.formatted?, ← looked, Except.toOption]

/-- What a part of a report that nobody wants ends in. -/
def Vanishes (o : Owner) (_ : Unit) (o' : Owner) : Prop :=
  Owner.Steady o o' ∧ (o.pending = none → o'.pending = none)

theorem Vanishes.refl (o : Owner) : Vanishes o () o := ⟨.refl o, id⟩

/-- An exception whose report nobody wants is gone, and so is one that its message raises. -/
theorem ends_discard (warns : o.Warns E) (e : Raised) : Ends (discard e) o (Vanishes o) E := by
  unfold discard
  split
  · rw [ends_bind]
    refine (ends_formatted warns e).imp ?_
    rintro entries o₁ ⟨-, steady, cleared⟩
    have vanished : Vanishes o () o₁ := ⟨steady, cleared⟩
    split
    · split
      · split
        · rw [ends_bind]
          refine (ends_formatted (steady.warns warns) _).imp ?_
          rintro _ o₂ ⟨-, steady', cleared'⟩
          exact ⟨steady.trans steady', cleared' ∘ cleared⟩
        · exact vanished
      · exact vanished
    · exact vanished
  · exact .refl o

/-- What the message of an exception raises is gone. -/
theorem ends_askMessage (warns : o.Warns E) (e : Raised) : Ends (askMessage e) o (Vanishes o) E := by
  unfold askMessage
  split
  · split
    · exact ends_discard warns _
    · exact .refl o
  · exact ends_discard warns _

/-- An exception is reported as `Owner.reportOf` says, and a further one that comes up is gone. -/
theorem ends_report (warns : o.Warns E) (e : Raised) :
    Ends (report e) o (Reports o (o.reportOf e)) E := by
  unfold report
  rw [ends_bind]
  refine (ends_formatted warns e).imp ?_
  intro entries o₁ h
  obtain ⟨rfl, steady, cleared⟩ := h
  cases formatted : o.formatted? e with
  | some entries => exact ⟨by simp [Owner.reportOf, formatted], steady, cleared⟩
  | none =>
    dsimp only
    rw [ends_bind]
    refine (ends_askMessage (steady.warns warns) e).imp ?_
    rintro _ o₂ ⟨steady', cleared'⟩
    exact ⟨by simp [Owner.reportOf, formatted], steady.trans steady', cleared' ∘ cleared⟩

/-- The pending exception becomes an error.  That memory ran out stays pending. -/
theorem ends_fetch (warns : o.Warns E) {e : Raised} (pending : o.pending = some e) :
    Ends fetch o (fun error o' => error = o.errorOf e ∧ Owner.Steady o o' ∧
      o'.pending = if e.thrown.exceptionClass.isMemoryError then some e else none) E := by
  unfold fetch
  rw [ends_bind, ends_get]
  simp only [pending]
  by_cases memory : e.thrown.exceptionClass.isMemoryError
  · simp only [memory, if_true]
    exact ⟨by simp [Owner.errorOf, memory], .refl o, pending⟩
  · have steady : Owner.Steady o { o with pending := none } := .setPending o none
    simp only [memory, Bool.false_eq_true, if_false, ends_bind, ends_clearPending]
    refine (ends_report (steady.warns warns) e).imp ?_
    intro report o' h
    obtain ⟨rfl, steady', cleared⟩ := h
    refine ⟨?_, steady.trans steady', cleared rfl⟩
    simp [Owner.errorOf, memory, steady.reportOf]

end Job

end InterpreterHost
