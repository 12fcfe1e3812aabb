import InterpreterHost.Proofs.Owner.Keeping

/-!
# What jobs log

Jobs add records to the log and take none away.  Which records a job adds is stated of the log that it
starts with: the log of the owner afterwards goes on from there.

## Main definitions

* `Owner.Logged` — the log goes on with records of which a property holds

## Main statements

* `Job.logged_prepareDates` — looking up is silent
* `Job.logged_failWith` — a report logs at most that an exception cannot be formatted
-/

namespace InterpreterHost

/-- The log goes on from `log` with records of which `P` holds. -/
def Owner.Logged (P : LogRecord → Prop) (log : List LogRecord) (o : Owner) : Prop :=
  ∃ new, o.log = log ++ new ∧ ∀ r ∈ new, P r

namespace Owner

variable {P : LogRecord → Prop} {log : List LogRecord} {o : Owner}

theorem logged_self : o.Logged P o.log := ⟨[], (List.append_nil _).symm, nofun⟩

theorem Logged.snoc {r : LogRecord} (logged : o.Logged P log) (holds : P r) {o' : Owner}
    (added : o'.log = o.log ++ [r]) : o'.Logged P log := by
  obtain ⟨new, same, all⟩ := logged
  refine ⟨new ++ [r], by rw [added, same, List.append_assoc], fun r' member => ?_⟩
  rcases List.mem_append.1 member with member | member
  · exact all r' member
  · rwa [List.mem_singleton.1 member]

theorem settlesReports_logged (log : List LogRecord) :
    Owner.SettlesReports (Owner.Logged LogRecord.OfReport log) := by
  intro o o' step logged
  cases step with
  | lookUp step => cases step <;> exact logged
  | warn said => exact logged.snoc said rfl

end Owner

namespace Job

variable {α : Type} {o : Owner} {Q : α → Owner → Prop} {E : Panic → Prop}

/-- What a job ends in has the properties too that the job keeps. -/
theorem Ends.maintains {code : Job α} (ends : Ends code o Q E) {I : Owner → Prop} (keeps : Maintains I code)
    (holds : I o) : Ends code o (fun a o' => Q a o' ∧ I o') E := by
  have kept := keeps o holds
  unfold Ends at *
  rcases run : code.run o with ⟨p | a, o'⟩
  · rwa [run] at ends
  · rw [run] at ends kept
    exact ⟨ends, kept⟩

/-- To look for the dates is silent. -/
theorem logged_prepareDates (log : List LogRecord) : Maintains (fun o => o.log = log) prepareDates := by
  refine maintains_prepareDates fun o o' step same => ?_
  cases step <;> exact same

/-- An exception that is set and taken away at once logs at most that it cannot be formatted. -/
theorem logged_failWith (log : List LogRecord) (e : Raised) :
    Maintains (Owner.Logged LogRecord.OfReport log) (failWith e) :=
  .bind (.modify fun _ logged => logged) fun _ => maintains_fetch (Owner.settlesReports_logged log)

end Job

end InterpreterHost
