import InterpreterHost.Marshal.FromObject
import InterpreterHost.Proofs.Owner.Outcome

/-!
# Jobs that do not look at the heap

What a reader does with a single object depends on the object and on the owner, but not on what
else is in the heap.

## Main definitions

* `Job.Blind` — the job neither looks at the heap nor changes it

## Main statements

* `Job.Blind.bind` — one blind job after another is blind
* `Job.blind_fetch`, `Job.blind_prepareDates`, `Job.blind_instantOf` — the jobs of a reader are blind
-/

namespace InterpreterHost

/-- The owner with another heap. -/
def Owner.withHeap (o : Owner) (h : Heap) : Owner :=
  { o with interpreter := { o.interpreter with heap := h } }

namespace Job

variable {α β : Type}

/-- The job neither looks at the heap nor changes it. -/
def Blind (code : Job α) : Prop :=
  ∀ o h, code.run (o.withHeap h) = ((code.run o).1, (code.run o).2.withHeap h)

/-! ## Parts of a job -/

namespace Blind

theorem pure (a : α) : Blind (pure a) := fun _ _ => rfl

theorem modify {f : Owner → Owner} (h : ∀ o h, f (o.withHeap h) = (f o).withHeap h) :
    Blind (modify f) := by
  intro o heap
  change (Except.ok (), f (o.withHeap heap)) = (Except.ok (), (f o).withHeap heap)
  rw [h]

theorem bind {code : Job α} {next : α → Job β} (first : Blind code) (second : ∀ a, Blind (next a)) :
    Blind (code >>= next) := by
  intro o h
  rw [run_bind, run_bind, first o h]
  rcases code.run o with ⟨result, o'⟩
  cases result with
  | ok a => exact second a o' h
  | error p => rfl

/-- A job may look at the owner as long as it does not look at the heap. -/
theorem get_bind {next : Owner → Job β} (same : ∀ o h, next (o.withHeap h) = next o)
    (second : ∀ o, Blind (next o)) : Blind (get >>= next) := by
  intro o h
  change (next (o.withHeap h)).run (o.withHeap h) = _
  rw [same, second]
  rfl

end Blind

/-! ## Jobs of a reader -/

theorem blind_clearPending : Blind clearPending := .modify fun _ _ => rfl

theorem blind_warn (message : String) (path : Option String) : Blind (warn message path) := by
  intro o h
  obtain ⟨_, _, _, _, _, _, panicOnWarning⟩ := o
  cases panicOnWarning with
  | none => rfl
  | some text => rfl

theorem blind_prepare : Blind prepare := by
  refine .get_bind (fun _ _ => rfl) ?_
  intro o
  split
  · exact .pure _
  · dsimp only
    split
    · exact .bind blind_clearPending fun _ => .pure _
    · refine .bind (.modify fun _ _ => rfl) fun _ => ?_
      split
      · exact .bind blind_clearPending fun _ => .pure _
      · split
        · exact .bind blind_clearPending fun _ => .pure _
        · exact .bind (.modify fun _ _ => rfl) fun _ => .pure _

theorem blind_prepareDates : Blind prepareDates := by
  refine .get_bind (fun _ _ => rfl) ?_
  intro o
  split
  · exact .pure _
  · exact .bind blind_prepare fun _ => .pure _

theorem blind_formattedBy (formatter : Formatter) (e : Raised) : Blind (formattedBy formatter e) := by
  have failed : Blind (do
      clearPending
      warn "traceback.format_exception failed"
      return (none : Option (List String))) :=
    .bind blind_clearPending fun _ => .bind (blind_warn _ _) fun _ => .pure _
  unfold formattedBy
  cases formatter with
  | standard =>
    dsimp only
    split
    · exact .pure _
    · exact failed
  | raising => exact failed
  | empty | tuple | number | surrogate => exact .pure _

theorem blind_formatted (e : Raised) : Blind (formatted e) := by
  refine .bind blind_prepare ?_
  intro found
  cases found with
  | ok formatter => exact blind_formattedBy formatter e
  | error why => exact .bind (blind_warn _ _) fun _ => .pure _

theorem blind_discard (e : Raised) : Blind (discard e) := by
  unfold discard
  split
  · refine .bind (blind_formatted e) fun entries => ?_
    split
    · split
      · split
        · exact .bind (blind_formatted _) fun _ => .pure _
        · exact .pure _
      · exact .pure _
    · exact .pure _
  · exact .pure _

theorem blind_askMessage (e : Raised) : Blind (askMessage e) := by
  unfold askMessage
  split
  · split
    · exact blind_discard _
    · exact .pure _
  · exact blind_discard _

theorem blind_report (e : Raised) : Blind (report e) := by
  refine .bind (blind_formatted e) ?_
  intro entries
  cases entries with
  | some entries => exact .pure _
  | none => exact .bind (blind_askMessage e) fun _ => .pure _

theorem blind_fetch : Blind fetch := by
  refine .get_bind (fun _ _ => rfl) ?_
  intro o
  split
  · exact .pure _
  · split
    · exact .pure _
    · exact .bind blind_clearPending fun _ => .bind (blind_report _) fun _ => .pure _

theorem blind_failWith (e : Raised) : Blind (failWith e) :=
  .bind (.modify fun _ _ => rfl) fun _ => blind_fetch

theorem blind_integerOf (i : Int) : Blind (integerOf i) := by
  unfold integerOf
  split
  · exact .bind (blind_failWith _) fun _ => .pure _
  · refine .get_bind (fun _ _ => rfl) fun o => ?_
    split
    · exact .bind blind_fetch fun _ => .pure _
    · exact .pure _

theorem blind_textOf (t : CodePoints) : Blind (textOf t) := by
  unfold textOf
  split
  · exact .pure _
  · exact .bind (blind_failWith _) fun _ => .pure _

theorem blind_offsetOf (zone : Zone) : Blind (offsetOf zone) := by
  refine .get_bind (fun _ _ => rfl) ?_
  intro o
  split
  · exact .pure _
  · exact .bind (blind_failWith _) fun _ => .pure _
  · exact .bind (blind_failWith _) fun _ => .pure _

theorem blind_instantOf (t : DateTime) : Blind (instantOf t) := by
  unfold instantOf
  split
  · exact .pure _
  · split
    · exact .pure _
    · refine .bind (blind_offsetOf _) fun offset => ?_
      split
      · exact .pure _
      · exact .bind (blind_warn _ _) fun _ => .pure _

end Job

end InterpreterHost
