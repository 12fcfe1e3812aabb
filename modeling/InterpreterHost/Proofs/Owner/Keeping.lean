import InterpreterHost.Call.Module
import InterpreterHost.Proofs.Marshal.Making

/-!
# What jobs keep

The host itself changes little of the interpreter: it makes objects, gives up references and puts files
where it wants them.  All else is changed by the code of the interpreter alone.  A property of the rest
therefore stays whatever the host does, if that code keeps it.

## Main definitions

* `Job.Maintains` — whatever comes of the job, a property of the owner stays
* `Owner.SameSetting`, `Owner.Settles` — what the host itself leaves as it is, and properties of that
* `Owner.LookUpStep`, `Owner.ReportStep` — what the host changes to report an exception
* `LogRecord.OfReport` — what is logged of an exception that cannot be formatted
* `Owner.LibraryMaintains` — the code of the library keeps a property

## Main statements

* `Job.maintains_fetch`, `Job.maintains_placing` — what the host does by itself keeps such properties
* `Job.maintains_letGo` — so do the objects that it lets go of, if what finalizes them does
* `Call.maintains_member` — a call keeps them if the code that is called does
-/

namespace InterpreterHost

/-! ## Properties that jobs keep -/

/-- The job keeps a property of the owner, whatever comes of it. -/
def Job.Maintains {α : Type} (I : Owner → Prop) (code : Job α) : Prop := ∀ o, I o → I (code.run o).2

namespace Job.Maintains

variable {α β ε : Type} {I : Owner → Prop}

theorem pure (a : α) : Job.Maintains I (pure a) := fun _ holds => holds

theorem throw (p : Panic) : Job.Maintains I (throw p : Job α) := fun _ holds => holds

theorem get : Job.Maintains I get := fun _ holds => holds

theorem modify {f : Owner → Owner} (keeps : ∀ o, I o → I (f o)) : Job.Maintains I (modify f : Job PUnit) := keeps

theorem bind {code : Job α} {next : α → Job β} (first : Job.Maintains I code)
    (second : ∀ a, Job.Maintains I (next a)) : Job.Maintains I (code >>= next) := by
  intro o holds
  have kept := first o holds
  rw [run_bind]
  rcases run : code.run o with ⟨p | a, o'⟩
  · rwa [run] at kept
  · rw [run] at kept
    exact second a o' kept

theorem tryCatch {code : Job α} {handler : Panic → Job α} (first : Job.Maintains I code)
    (second : ∀ p, Job.Maintains I (handler p)) : Job.Maintains I (tryCatch code handler) := by
  intro o holds
  have kept := first o holds
  rw [run_tryCatch]
  rcases run : code.run o with ⟨p | a, o'⟩
  · rw [run] at kept
    exact second p o' kept
  · rwa [run] at kept

/-- A job may read the owner before it goes on. -/
theorem get_bind {next : Owner → Job β} (second : ∀ o, I o → I ((next o).run o).2) :
    Job.Maintains I (MonadState.get >>= next) := second

end Job.Maintains

/-! ## What the host itself changes -/

/-- Owners that differ in nothing but the heap, the files and what the host remembers: the log, the
pending exception and what it has looked up. -/
structure Owner.SameSetting (o o' : Owner) : Prop where
  library : o'.library = o.library
  modules : o'.interpreter.modules = o.interpreter.modules
  searchPath : o'.interpreter.searchPath = o.interpreter.searchPath
  directories : o'.interpreter.directories = o.interpreter.directories
  services : o'.interpreter.services = o.interpreter.services

/-- The property does not look at what the host itself changes. -/
def Owner.Settles (I : Owner → Prop) : Prop := ∀ o o', Owner.SameSetting o o' → I o → I o'

namespace Job

variable {I : Owner → Prop}

theorem maintains_modify (settles : Owner.Settles I) {f : Owner → Owner}
    (same : ∀ o, Owner.SameSetting o (f o)) : Maintains I (modify f : Job PUnit) :=
  fun o => settles o (f o) (same o)

theorem maintains_releaseAll (settles : Owner.Settles I) (refs : List Ref) : Maintains I (releaseAll refs) :=
  maintains_modify settles fun _ => ⟨rfl, rfl, rfl, rfl, rfl⟩

theorem maintains_setFiles (settles : Owner.Settles I) (f : Entries Octets → Entries Octets) :
    Maintains I (setFiles f) :=
  maintains_modify settles fun _ => ⟨rfl, rfl, rfl, rfl, rfl⟩

theorem maintains_warn (settles : Owner.Settles I) (message : String) (path : Option String) :
    Maintains I (warn message path) := by
  refine .get_bind fun o holds => ?_
  have kept : I { o with log := o.log ++ [LogRecord.warning message path], panicOnWarning := none } :=
    settles o _ ⟨rfl, rfl, rfl, rfl, rfl⟩ holds
  cases o.panicOnWarning <;> exact kept

end Job

/-! ## Reports -/

/-- What is logged of an exception that cannot be formatted. -/
inductive LogRecord.OfReport : LogRecord → Prop where
  | failed : OfReport (.warning "traceback.format_exception failed" none)
  | unavailable (why : String) : OfReport (.warning s!"traceback formatter unavailable: {why}" none)

/-- A change that the host makes when it looks up what it needs of the interpreter: it remembers what
it has found, or clears the pending exception. -/
inductive Owner.LookUpStep : Owner → Owner → Prop where
  | clearPending (o : Owner) : LookUpStep o { o with pending := none }
  | findDates (o : Owner) : LookUpStep o { o with datesReady := true }
  | findFormatter (o : Owner) (formatter : Formatter) : LookUpStep o { o with formatter := some formatter }

/-- A change that the host makes when it reports an exception: one of a look-up, or it logs that the
exception cannot be formatted. -/
inductive Owner.ReportStep : Owner → Owner → Prop where
  | lookUp {o o' : Owner} : Owner.LookUpStep o o' → ReportStep o o'
  | warn (o : Owner) {message : String} : LogRecord.OfReport (.warning message none) →
      ReportStep o { o with log := o.log ++ [.warning message none], panicOnWarning := none }

/-- The property stays whatever is looked up. -/
def Owner.SettlesLookUps (I : Owner → Prop) : Prop := ∀ o o', Owner.LookUpStep o o' → I o → I o'

/-- The property stays however an exception is reported. -/
def Owner.SettlesReports (I : Owner → Prop) : Prop := ∀ o o', Owner.ReportStep o o' → I o → I o'

theorem Owner.SettlesReports.lookUps {I : Owner → Prop} (settles : Owner.SettlesReports I) :
    Owner.SettlesLookUps I := fun o o' step => settles o o' (.lookUp step)

theorem Owner.Settles.reports {I : Owner → Prop} (settles : Owner.Settles I) : Owner.SettlesReports I := by
  intro o o' step
  refine settles o o' ?_
  cases step with
  | lookUp step => cases step <;> exact ⟨rfl, rfl, rfl, rfl, rfl⟩
  | warn _ => exact ⟨rfl, rfl, rfl, rfl, rfl⟩

theorem Owner.Settles.lookUps {I : Owner → Prop} (settles : Owner.Settles I) : Owner.SettlesLookUps I :=
  settles.reports.lookUps

namespace Job

variable {I : Owner → Prop}

theorem maintains_clearPending (settles : Owner.SettlesLookUps I) : Maintains I clearPending :=
  fun o => settles o _ (.clearPending o)

theorem maintains_warn_report (settles : Owner.SettlesReports I) {message : String}
    (said : LogRecord.OfReport (.warning message none)) : Maintains I (warn message) := by
  refine .get_bind fun o holds => ?_
  have kept := settles o _ (.warn o said) holds
  cases o.panicOnWarning <;> exact kept

theorem maintains_prepare (settles : Owner.SettlesLookUps I) : Maintains I prepare := by
  have cleared {α : Type} (a : α) : Maintains I (do
      clearPending
      return a) := .bind (maintains_clearPending settles) fun _ => .pure a
  refine .bind .get fun o => ?_
  split
  · exact .pure _
  · dsimp only
    split
    · exact cleared _
    · refine .bind (.modify fun o => settles o _ (.findDates o)) fun _ => ?_
      split
      · exact cleared _
      · split
        · exact cleared _
        · exact .bind (.modify fun o => settles o _ (.findFormatter o _)) fun _ => .pure _

theorem maintains_formatted (settles : Owner.SettlesReports I) (e : Raised) : Maintains I (formatted e) := by
  have failed : Maintains I (do
      clearPending
      warn "traceback.format_exception failed"
      return (none : Option (List String))) :=
    .bind (maintains_clearPending settles.lookUps) fun _ =>
      .bind (maintains_warn_report settles .failed) fun _ => .pure _
  refine .bind (maintains_prepare settles.lookUps) fun found => ?_
  cases found with
  | error why => exact .bind (maintains_warn_report settles (.unavailable why)) fun _ => .pure _
  | ok formatter =>
    cases formatter with
    | standard =>
      dsimp only [formattedBy]
      split
      · exact .pure _
      · exact failed
    | raising => exact failed
    | empty | tuple | number | surrogate => exact .pure _

theorem maintains_discard (settles : Owner.SettlesReports I) (e : Raised) : Maintains I (discard e) := by
  unfold discard
  split
  · refine .bind (maintains_formatted settles e) fun entries => ?_
    split
    · split
      · split
        · exact .bind (maintains_formatted settles _) fun _ => .pure _
        · exact .pure _
      · exact .pure _
    · exact .pure _
  · exact .pure _

theorem maintains_askMessage (settles : Owner.SettlesReports I) (e : Raised) : Maintains I (askMessage e) := by
  unfold askMessage
  split
  · split
    · exact maintains_discard settles _
    · exact .pure _
  · exact maintains_discard settles _

theorem maintains_report (settles : Owner.SettlesReports I) (e : Raised) : Maintains I (report e) := by
  refine .bind (maintains_formatted settles e) fun entries => ?_
  cases entries with
  | some entries => exact .pure _
  | none => exact .bind (maintains_askMessage settles e) fun _ => .pure _

/-- To take an exception away and report it is the host's own work. -/
theorem maintains_fetch (settles : Owner.SettlesReports I) : Maintains I fetch := by
  refine .bind .get fun o => ?_
  split
  · exact .pure _
  · split
    · exact .pure _
    · exact .bind (maintains_clearPending settles.lookUps) fun _ => .bind (maintains_report settles _) fun _ => .pure _

/-! ## Making objects -/

theorem maintains_prepareDates (settles : Owner.SettlesLookUps I) : Maintains I prepareDates := by
  refine .bind .get fun o => ?_
  split
  · exact .pure _
  · exact .bind (maintains_prepare settles) fun _ => .pure _

/-- To make objects of values is the host's own work. -/
theorem maintains_placing (settles : Owner.Settles I) (needsDates : Bool)
    (make : Heap → Except Raised Ref × Heap) : Maintains I (placing needsDates make) := by
  rw [placing_eq]
  refine .bind ?_ fun ready => ?_
  · split
    · exact maintains_prepareDates settles.lookUps
    · exact .pure _
  · cases ready with
    | error why => exact .pure _
    | ok =>
      refine .get_bind fun o holds => ?_
      have placed (heap : Heap) : I (o.withHeap heap) := settles o _ ⟨rfl, rfl, rfl, rfl, rfl⟩ holds
      have failed (e : Raised) : Maintains I (do
          modify fun o => { o with pending := some e }
          return .error (← fetch) : Job (Except InterpreterError Ref)) :=
        .bind (maintains_modify settles fun _ => ⟨rfl, rfl, rfl, rfl, rfl⟩) fun _ =>
          .bind (maintains_fetch settles.reports) fun _ => .pure _
      rcases make o.interpreter.heap with ⟨e | r, heap⟩
      · exact failed e _ (placed heap)
      · exact placed heap

theorem maintains_toArguments (settles : Owner.Settles I) (args : List Value) :
    Maintains I (toArguments args) := maintains_placing settles _ _

/-! ## Code of the interpreter -/

theorem run_get_bind {α : Type} (next : Owner → Job α) (o : Owner) :
    (get >>= next).run o = (next o).run o := rfl

theorem maintains_evaluate {α : Type} (settles : Owner.Settles I) {code : Computation α} {o : Owner}
    (kept : I { o with interpreter := (code.run o.interpreter).2 }) : I ((evaluate code).run o).2 := by
  unfold evaluate
  rw [run_get_bind]
  revert kept
  rcases code.run o.interpreter with ⟨e | a, interpreter⟩
  · exact settles { o with interpreter } _ ⟨rfl, rfl, rfl, rfl, rfl⟩
  · exact id

/-- The result, or the report of the exception where there is none. -/
def orFetch {α : Type} (first : Job (Option α)) : Job (Except InterpreterError α) := do
  match ← first with
  | some result => return .ok result
  | none => return .error (← fetch)

theorem checked_eq {α : Type} (code : Computation α) : checked code = orFetch (evaluate code) := rfl

theorem checkedCall_eq (code : Computation Ref) : checkedCall code = orFetch (evaluateCall code) := by
  unfold checkedCall orFetch
  congr 1
  funext result
  cases result <;> rfl

theorem maintains_orFetch {α : Type} (settles : Owner.Settles I) {first : Job (Option α)} {o : Owner}
    (kept : I (first.run o).2) : I ((orFetch first).run o).2 := by
  unfold orFetch
  rw [run_bind]
  rcases ran : first.run o with ⟨p | result, o'⟩
  · rwa [ran] at kept
  · rw [ran] at kept
    cases result with
    | some a => exact kept
    | none => exact Maintains.bind (maintains_fetch settles.reports) (fun _ => .pure _) o' kept

/-- Code of the interpreter that is checked keeps what it keeps by itself. -/
theorem maintains_checked {α : Type} (settles : Owner.Settles I) {code : Computation α} {o : Owner}
    (kept : I { o with interpreter := (code.run o.interpreter).2 }) : I ((checked code).run o).2 := by
  rw [checked_eq]
  exact maintains_orFetch settles (maintains_evaluate settles kept)

theorem maintains_evaluateCall (settles : Owner.Settles I) {code : Computation Ref} {o : Owner}
    (kept : I { o with interpreter := (code.run o.interpreter).2 }) : I ((evaluateCall code).run o).2 := by
  have evaluated := maintains_evaluate settles kept
  -- a result that comes while an exception is pending is given up again
  have refused (r : Ref) (e : Raised) : Maintains I (do
      let _ ← evaluate (Computation.release r)
      modify fun o => { o with pending := some (resultWithException e) }
      return none : Job (Option Ref)) := by
    refine .bind (fun o holds => maintains_evaluate settles ?_) fun _ =>
      .bind (maintains_modify settles fun _ => ⟨rfl, rfl, rfl, rfl, rfl⟩) fun _ => .pure _
    exact settles o _ ⟨rfl, rfl, rfl, rfl, rfl⟩ holds
  unfold evaluateCall
  rw [run_get_bind, run_bind]
  rcases ran : (evaluate code).run o with ⟨p | result, o'⟩
  · rwa [ran] at evaluated
  · rw [ran] at evaluated
    cases result with
    | none => exact evaluated
    | some r =>
      cases o.pending with
      | none => exact evaluated
      | some e => exact refused r e o' evaluated

theorem maintains_checkedCall (settles : Owner.Settles I) {code : Computation Ref} {o : Owner}
    (kept : I { o with interpreter := (code.run o.interpreter).2 }) : I ((checkedCall code).run o).2 := by
  rw [checkedCall_eq]
  exact maintains_orFetch settles (maintains_evaluateCall settles kept)

/-- The code runs in the interpreter of an owner with the property, and keeps it. -/
def CodeMaintains {α : Type} (I : Owner → Prop) (code : Library → Computation α) : Prop :=
  ∀ o, I o → I { o with interpreter := ((code o.library).run o.interpreter).2 }

end Job

/-- The code of the library, in an owner with the property, keeps it. -/
structure Owner.LibraryMaintains (I : Owner → Prop) : Prop where
  importModule : ∀ name, Job.CodeMaintains I fun library => library.importModule name
  getAttribute : ∀ r name, Job.CodeMaintains I fun library => library.getAttribute r name
  call : ∀ callee args named, Job.CodeMaintains I fun library => library.call callee args named

/-! ## Objects that go -/

namespace Job

variable {I : Owner → Prop} (settles : Owner.Settles I) (library : Owner.LibraryMaintains I)
include settles library

theorem maintains_finalize {o : Owner} (holds : I o) (f r : Ref) :
    I { o with interpreter := o.library.finalize f r o.interpreter } := by
  have called := library.call f [r] [] o holds
  unfold Library.finalize
  revert called
  dsimp only
  rcases (o.library.call f [r] []).run o.interpreter with ⟨e | result, i⟩
  · exact id
  · exact settles { o with interpreter := i } _ ⟨rfl, rfl, rfl, rfl, rfl⟩

/-- What is let go of is finalized by code of the library, one object after the other. -/
theorem maintains_letGo (refs : List Ref) : Maintains I (letGo refs) := by
  suffices within : ∀ n finalized o refs, I o →
      I { o with interpreter := o.library.letGoWithin n finalized o.interpreter refs } from
    fun o holds => within _ _ o refs holds
  intro n
  induction n with
  | zero => exact fun _ o _ holds => settles o _ ⟨rfl, rfl, rfl, rfl, rfl⟩ holds
  | succ n ih =>
    intro finalized o refs holds
    unfold Library.letGoWithin
    rcases o.interpreter.heap.releaseUntil finalized refs with ⟨heap, none | ⟨r, f, rest⟩⟩
    · exact settles o _ ⟨rfl, rfl, rfl, rfl, rfl⟩ holds
    · have changed : I (o.withHeap heap) := settles o _ ⟨rfl, rfl, rfl, rfl, rfl⟩ holds
      have finalized' := maintains_finalize settles library changed f r
      exact ih (r :: finalized) _ (r :: rest) finalized'

end Job

/-! ## Calls -/

namespace Call

open Job

variable {α β : Type} {I : Owner → Prop}

theorem maintains_bind {code : Call α} {next : α → Call β} (first : Maintains I code.run)
    (second : ∀ a, Maintains I (next a).run) : Maintains I (code >>= next).run := by
  refine .bind first fun result => ?_
  cases result with
  | error e => exact .pure _
  | ok a => exact second a

theorem maintains_during (action kind name : String) {code : Job (Except InterpreterError α)}
    (keeps : Maintains I code) : Maintains I (during action kind name code).run :=
  .bind keeps fun _ => .pure _

variable (settles : Owner.Settles I) (library : Owner.LibraryMaintains I)
include settles library

theorem maintains_releasing (refs : List Ref) {code : Call α} (keeps : Maintains I code.run) :
    Maintains I (releasing refs code).run := by
  have released := maintains_letGo settles library refs
  exact .bind (.tryCatch keeps fun p => .bind released fun _ => .throw p) fun _ => .bind released fun _ => .pure _

theorem maintains_getAttribute (r : Ref) (name : String) : Maintains I (Job.getAttribute r name) :=
  .get_bind fun o holds => maintains_checked settles (library.getAttribute r name o holds)

theorem maintains_importModule (name : String) : Maintains I (Job.importModule name) :=
  .get_bind fun o holds => maintains_checked settles (library.importModule name o holds)

theorem maintains_withObjects (callable args : Ref) (named : Option Ref) :
    Maintains I (withObjects callable args named) := by
  refine .get_bind fun o holds => ?_
  exact maintains_checkedCall settles (library.call callable (positionals o.interpreter.heap args)
    ((named.map (keywords o.interpreter.heap)).getD []) o holds)

/-- To call an object with positional arguments keeps what the code that is called keeps. -/
theorem maintains_object (callable : Ref) (action kind name : String) (args : List Value) :
    Maintains I (object callable action kind name args none).run := by
  refine maintains_bind (maintains_during _ _ _ (maintains_toArguments settles args)) fun tuple => ?_
  refine maintains_releasing settles library _ (maintains_bind (.pure _) fun named => ?_)
  exact maintains_releasing settles library _
    (maintains_during _ _ _ (maintains_withObjects settles library callable tuple named))

/-- So it is with an attribute of an object. -/
theorem maintains_member (target : Ref) (kind name : String) (args : List Value) :
    Maintains I (member target kind name args none).run := by
  refine maintains_bind ?_ fun function =>
    maintains_releasing settles library _ (maintains_object settles library function _ _ _ args)
  refine maintains_bind (maintains_during _ _ _ (maintains_getAttribute settles library target name))
    fun found => ?_
  refine maintains_bind (.bind .get fun _ => .pure _) fun isCallable => ?_
  split
  · exact .pure _
  · exact maintains_releasing settles library _ (.pure _)

end Call

end InterpreterHost
