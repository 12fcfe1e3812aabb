import InterpreterHost.Proofs.Marshal.Shape
import InterpreterHost.Proofs.Owner.Keeping

/-!
# Reading keeps what the host keeps

To read an object is the host's own work: it may look up the dates, take away an exception and log that an
offset cannot be had, and it does nothing else.  With that a call keeps what the code that is called keeps
also where its result is read.

## Main statements

* `Job.maintains_fromObject` — reading an object keeps such properties
* `Call.maintains_toValue` — and so does reading a result, which is given up then
-/

namespace InterpreterHost

namespace Job

variable {I : Owner → Prop} (settles : Owner.Settles I)
include settles

theorem maintains_failWith (e : Raised) : Maintains I (failWith e) :=
  .bind (maintains_modify settles fun _ => ⟨rfl, rfl, rfl, rfl, rfl⟩) fun _ => maintains_fetch settles.reports

theorem maintains_textOf (t : CodePoints) : Maintains I (textOf t) := by
  unfold textOf
  split
  · exact .pure _
  · exact .bind (maintains_failWith settles _) fun _ => .pure _

theorem maintains_integerOf (i : Int) : Maintains I (integerOf i) := by
  unfold integerOf
  split
  · exact .bind (maintains_failWith settles _) fun _ => .pure _
  · refine .bind .get fun o => ?_
    split
    · exact .bind (maintains_fetch settles.reports) fun _ => .pure _
    · exact .pure _

theorem maintains_offsetOf (zone : Zone) : Maintains I (offsetOf zone) := by
  refine .bind .get fun o => ?_
  split
  · exact .pure _
  · exact .bind (maintains_failWith settles _) fun _ => .pure _
  · exact .bind (maintains_failWith settles _) fun _ => .pure _

theorem maintains_instantOf (t : DateTime) : Maintains I (instantOf t) := by
  unfold instantOf
  split
  · exact .pure _
  · split
    · exact .pure _
    · next zone _ =>
      refine .bind (maintains_offsetOf settles zone) fun offset => ?_
      cases offset with
      | some micros => exact .pure _
      | none => exact .bind (maintains_warn settles _ _) fun _ => .pure _

section

variable {levels : Nat} (parts : ∀ r, Maintains I (convert levels r))
include parts
omit settles

theorem maintains_convertItems (items : List Ref) : Maintains I (convertItems levels items) := by
  induction items with
  | nil =>
    rw [convertItems]
    exact .pure _
  | cons r items ih =>
    rw [convertItems]
    refine .bind (parts r) fun result => ?_
    cases result with
    | error e => exact .pure _
    | ok v => exact .bind ih fun _ => .pure _

include settles

theorem maintains_convertEntries (made : ValueMap) (entries : List (Ref × Ref)) :
    Maintains I (convertEntries levels made entries) := by
  induction entries generalizing made with
  | nil =>
    rw [convertEntries]
    exact .pure _
  | cons entry entries ih =>
    obtain ⟨k, r⟩ := entry
    rw [convertEntries]
    refine .bind (.bind .get fun _ => .pure _) fun h => ?_
    split
    · refine .bind (maintains_textOf settles _) fun key => ?_
      cases key with
      | error e => exact .pure _
      | ok key =>
        refine .bind (parts r) fun result => ?_
        cases result with
        | error e => exact .pure _
        | ok v => exact ih _
    · exact ih _

theorem maintains_readShape (s : Shape) : Maintains I (readShape levels s) := by
  have ready : Maintains I prepareDates := maintains_prepareDates settles.lookUps
  cases s with
  | known v => exact .pure _
  | int i => exact .bind (maintains_integerOf settles i) fun _ => .pure _
  | text t => exact .bind (maintains_textOf settles t) fun _ => .pure _
  | clock t =>
    refine .bind ready fun found => ?_
    cases found with
    | ok => exact .bind (maintains_instantOf settles t) fun _ => .pure _
    | error why => exact .pure _
  | null | foreign _ => exact .bind ready fun _ => .pure _
  | sequence items => exact .bind ready fun _ => .bind (maintains_convertItems parts items) fun _ => .pure _
  | mapping entries =>
    exact .bind ready fun _ => .bind (maintains_convertEntries settles parts _ entries) fun _ => .pure _

end

theorem maintains_convert (levels : Nat) (r : Ref) : Maintains I (convert levels r) := by
  induction levels generalizing r with
  | zero =>
    rw [convert]
    exact .pure _
  | succ levels ih =>
    intro o holds
    rw [run_convert_succ]
    exact maintains_readShape settles ih _ o holds

/-- To read an object is the host's own work. -/
theorem maintains_fromObject (r : Ref) : Maintains I (fromObject r) := maintains_convert settles _ r

end Job

namespace Call

variable {I : Owner → Prop}

theorem maintains_toValue (settles : Owner.Settles I) (library : Owner.LibraryMaintains I) (name : String)
    (result : Ref) : Job.Maintains I (toValue name result).run :=
  maintains_releasing settles library _ (.bind (Job.maintains_fromObject settles result) fun _ => .pure _)

end Call

end InterpreterHost
