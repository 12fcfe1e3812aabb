import InterpreterHost.Proofs.Heap.Release
import InterpreterHost.Proofs.Host.SearchPath
import InterpreterHost.Proofs.State.Writability

/-!
# Loading replaces all or nothing

A state that loads either gets the parameters and the object that were loaded, and gives up the
reference to the object that it had, or it stays as it is.  An attempt that fails before the class is
asked to load changes nothing else either.  One that fails later has done to the interpreter what the
code of the module and of the class did, and calls that come later may find that.

## Main definitions

* `StateObject.Fails` — where restoring fails, and what that does to the host
* `StateObject.Restores` — what restoring does if it does not fail
* `ObjectState.Replaces` — what is known of a state that loads

## Main statements

* `StateObject.of_restore` — restoring fails at one of five points, or gives the object of the class
* `StateObject.serves_load` — loading leaves a host that serves
* `ObjectState.replaces` — loading replaces all or nothing
* `ObjectState.exists_load_changes` — a class that refuses to load may have changed what later calls find
-/

namespace InterpreterHost

open InterpreterHost.Action

/-! ## Calls inside a job -/

namespace Action

variable {h : Host}

/-- Inside a job no directory is added to the search path, since the job would have to wait for another. -/
theorem run_appendSearchPath_inside (ready : h.Ready) (inside : h.insideJob = true) (path : String) :
    (appendSearchPath [path]).run h = (.ok (.error (.broker .reentrant)), h) := by
  have refused : (appendPaths [path]).run h = (.ok (.error .reentrant), h) := by
    unfold appendPaths
    exact run_bind_of_ok (Process.run_execSync_inside _ inside)
  unfold appendSearchPath
  rw [run_bind_of_ok (ensure_of_ready ready)]
  exact run_bind_of_ok refused

end Action

/-! ## Temporary files -/

/-- A key that is bound and unbound again leaves what there was, if it was not bound before. -/
theorem Entries.erase_insert {α : Type} {m : Entries α} {key : String} (missing : m.find? key = none) (value : α) :
    (m.insert key value).erase key = m := by
  have unbound : ∀ e ∈ m, e.1 ≠ key := by
    intro e member same
    subst same
    exact Entries.mem_keys_iff.1 (List.mem_map_of_mem member) missing
  have kept : m.filter (fun e => e.1 ≠ key) = m := List.filter_eq_self.2 fun e member => by simpa using unbound e member
  -- the pair is put somewhere between the others
  obtain ⟨before, after, rfl, insert⟩ : ∃ before after, m = before ++ after ∧
      m.insert key value = before ++ (key, value) :: after := by
    clear kept missing
    induction m with
    | nil => exact ⟨[], [], rfl, rfl⟩
    | cons e m ih =>
      obtain ⟨before, after, rfl, insert⟩ := ih fun e' member => unbound e' (List.mem_cons_of_mem _ member)
      have other : ¬ key = e.1 := fun same => unbound e List.mem_cons_self same.symm
      by_cases less : key < e.1
      · exact ⟨[], e :: (before ++ after), rfl, by rw [Entries.insert, if_pos less]; rfl⟩
      · exact ⟨e :: before, after, rfl, by rw [Entries.insert, if_neg less, if_neg other, insert]; rfl⟩
  rw [insert, Entries.erase, List.filter_append, List.filter_cons_of_neg (by simp), ← List.filter_append, kept]

/-- The path that a temporary file will get, or why there is none. -/
def Host.temporaryPath (h : Host) : Except String String :=
  h.surroundings.temporaryPath (h.config.getD {}).state.tempDir

/-- A temporary file has the path of no file that there is. -/
def Host.TemporaryIsNew (h : Host) : Prop :=
  ∀ path, h.temporaryPath = .ok path → h.owner.interpreter.files.find? path = none

namespace TemporaryFile

variable {h : Host}

theorem run_create_error (ready : h.Ready) {reason : String} (none : h.temporaryPath = .error reason) :
    create.run h = (.ok (.error (.temporaryFile "create" reason)), h) := by
  have configured : Action.config.run h = (.ok (h.config.getD {}), h) := run_bind_of_ok (ensure_of_ready ready)
  unfold Host.temporaryPath at none
  unfold create
  rw [run_bind_of_ok configured, run_get_bind, none]
  rfl

/-- A temporary file is empty at first. -/
theorem run_create_ok (ready : h.Ready) {path : String} (found : h.temporaryPath = .ok path) :
    create.run h = (.ok (.ok path), h.withFiles (·.insert path [])) := by
  have configured : Action.config.run h = (.ok (h.config.getD {}), h) := run_bind_of_ok (ensure_of_ready ready)
  unfold Host.temporaryPath at found
  unfold create
  rw [run_bind_of_ok configured, run_get_bind, found]
  rfl

end TemporaryFile

/-- What ran before code that may fail keeps an invariant if both parts do. -/
theorem Action.keeps_run_bind {ε α β : Type} {I : Host → Prop} {panics : Prop} {code : ExceptT ε Action α}
    {next : α → ExceptT ε Action β} (first : Keeps I panics code.run)
    (second : ∀ a, Keeps I panics (next a).run) : Keeps I panics (code >>= next).run := by
  refine keeps_bind first fun result => ?_
  cases result with
  | error e => exact keeps_pure _
  | ok a => exact second a

namespace StateObject

variable {method : String} {p : StateParams} {args : List Value} {h h' : Host}

/-! ## Making an object -/

/-- Making an object leaves a host that serves, and of the owner what the code of the library keeps. -/
theorem serves_make {I : Owner → Prop} (settles : Owner.Settles I) (library : Owner.LibraryMaintains I)
    (path : Job.Maintains I (Job.appendSearchPath [p.modulePath])) :
    Keeps (Host.Serves I) True (make method p args) := by
  have given : Keeps (Host.Serves I) True (ExceptT.mk (Module.load p.moduleName) >>= fun m : Module =>
      m.handle.dropping (ExceptT.mk (m.getClass p.className) >>= fun c : Instance =>
        c.handle.dropping (ExceptT.mk (c.callDirect method args) >>= fun handle =>
          pure (Instance.ofHandle handle c.origin)))).run := by
    refine keeps_run_bind (serves_runCall settles _ ?_) fun m => serves_dropping settles _ ?_
    · exact Call.maintains_bind (Call.maintains_during _ _ _
        (Call.maintains_importModule settles library _)) fun _ => .pure _
    refine keeps_run_bind (serves_callOn settles _ _ _ fun r => ?_) fun c => serves_dropping settles _ ?_
    · exact Call.maintains_bind (Call.maintains_during _ _ _
        (Call.maintains_getAttribute settles library _ _)) fun _ => .pure _
    refine keeps_run_bind (serves_callOn settles _ _ _ fun r => ?_) fun handle => keeps_pure _
    exact Call.maintains_bind (Call.maintains_member settles library _ _ _ _) fun _ => .pure _
  unfold make
  split
  · exact keeps_run_bind (serves_appendSearchPath settles path) fun _ => given
  · exact given

/-- Inside a job nothing is made, since for that the job would have to wait for itself. -/
theorem make_inside (ready : h.Ready) (inside : h.insideJob = true) :
    (make method p args).run h = (.ok (.error (.broker .reentrant)), h) := by
  unfold make
  split
  · exact run_bind_of_ok (run_appendSearchPath_inside ready inside p.modulePath)
  · exact run_bind_of_ok (run_runCall_inside ready inside p.moduleName _)

/-! ## Restoring -/

variable {source source' : Source} {params : ValueMap}

/-- Restoring hands octets to the class: they follow a header in the source and are all that can be
read, and they are put into a temporary file, which can hold them. -/
structure HandsOver (source : Source) (h : Host) (header : StateParams) (path : String) (payload : Octets) :
    Prop where
  read : Container.read source = (.ok header, ⟨payload, none⟩)
  found : h.temporaryPath = .ok path
  room : h.HasRoom path payload

/-- The host that has put octets into a temporary file. -/
def holding (h : Host) (path : String) (payload : Octets) : Host :=
  h.withFiles fun files => (files.insert path []).insert path payload

/-- The host that has made a temporary file and removed it. -/
def removing (h : Host) (path : String) : Host := h.withFiles fun files => (files.insert path []).erase path

/-- Where restoring fails, what is reported, and what is left of the source and the host.  Only the
last of the five does anything to the host, apart from a file that is gone. -/
inductive Fails (source : Source) (params : ValueMap) (h : Host) : StateError → Source → Host → Prop
  | container {e : StateError} {rest : Source} (refused : Container.read source = (.error e, rest)) :
      Fails source params h e rest h
  | file {header : StateParams} {rest : Source} {reason : String}
      (read : Container.read source = (.ok header, rest)) (none : h.temporaryPath = .error reason) :
      Fails source params h (.temporaryFile "create" reason) rest h
  | stream {header : StateParams} {payload : Octets} {path : String} {e : StreamError}
      (read : Container.read source = (.ok header, ⟨payload, some e⟩)) (found : h.temporaryPath = .ok path)
      (room : h.HasRoom path payload) : Fails source params h (.stream e) ⟨[], some e⟩ (removing h path)
  | full {header : StateParams} {rest : Source} {path : String} {n : Nat}
      (read : Container.read source = (.ok header, rest)) (found : h.temporaryPath = .ok path)
      (short : ¬ h.HasRoom path rest.content) :
      Fails source params h (.stream h.surroundings.temporaryRefusal)
        { rest with content := rest.content.drop n } (removing h path)
  | refused {header : StateParams} {payload : Octets} {path : String} {e : CallError} {h₁ h' : Host}
      (hands : HandsOver source h header path payload)
      (made : (make loadMethod header [.string path, .map params]).run (holding h path payload) =
        (.ok (.error e), h₁))
      (removed : (TemporaryFile.remove path).run h₁ = (.ok (), h')) :
      Fails source params h (.call e) ⟨[], none⟩ h'

/-- What restoring does if it does not fail: the class makes an object. -/
inductive Restores (source : Source) (params : ValueMap) (h : Host) (header : StateParams) (i : Instance) :
    Source → Host → Prop
  | mk {payload : Octets} {path : String} {h₁ h' : Host} (hands : HandsOver source h header path payload)
      (made : (make loadMethod header [.string path, .map params]).run (holding h path payload) =
        (.ok (.ok i), h₁))
      (given : GivenBy (holding h path payload) loadMethod header [.string path, .map params] i)
      (removed : (TemporaryFile.remove path).run h₁ = (.ok (), h')) :
      Restores source params h header i ⟨[], none⟩ h'

/-- A temporary file that was new leaves no trace. -/
theorem removing_of_new {path : String} (new : h.owner.interpreter.files.find? path = none) : removing h path = h := by
  have same : (h.owner.interpreter.files.insert path []).erase path = h.owner.interpreter.files :=
    Entries.erase_insert new []
  simp only [removing, Host.withFiles, same]

/-- What fails before the class is asked to load leaves the host as it was. -/
theorem Fails.eq_of_untried {e : StateError} (fails : Fails source params h e source' h')
    (untried : ∀ reason, e ≠ .call reason) (new : h.TemporaryIsNew) : h' = h := by
  cases fails with
  | container | file => rfl
  | stream _ found | full _ found => exact removing_of_new (new _ found)
  | refused => exact absurd rfl (untried _)

/-- Restoring fails at one of five points, or gives the object that the class makes. -/
theorem of_restore (ready : h.Ready) {restored : Except StateError StateObject}
    (run : (restore source params).run h = (.ok (restored, source'), h')) :
    (∃ e, restored = .error e ∧ Fails source params h e source' h') ∨
      ∃ header i, restored = .ok ⟨header, some i⟩ ∧ Restores source params h header i source' h' := by
  rcases read : Container.read source with ⟨e | header, rest⟩
  · rw [restore, read] at run
    cases run
    exact .inl ⟨e, rfl, .container read⟩
  · cases found : h.temporaryPath with
    | error reason =>
      rw [restore, read] at run
      obtain ⟨⟨made, source₁⟩, h₁, loaded, run⟩ := of_run_bind run
      cases run
      unfold loadPayload at loaded
      rw [run_bind_of_ok (TemporaryFile.run_create_error ready found)] at loaded
      cases loaded
      exact .inl ⟨_, rfl, .file read found⟩
    | ok path =>
      have create := TemporaryFile.run_create_ok ready found
      by_cases room : h.HasRoom path rest.content
      · rcases rest with ⟨payload, - | e⟩
        · have hands : HandsOver source h header path payload := ⟨read, found, room⟩
          rw [restore_of_read read create room] at run
          obtain ⟨answer, h₃, made, run⟩ := of_run_bind run
          obtain ⟨_, h₄, removed, run⟩ := of_run_bind run
          cases run
          cases answer with
          | error e => exact .inl ⟨_, rfl, .refused hands made removed⟩
          | ok i => exact .inr ⟨header, i, rfl, .mk hands made (givenBy_of_make made) removed⟩
        · rw [restore_of_failing read create room] at run
          cases run
          exact .inl ⟨_, rfl, .stream read found room⟩
      · obtain ⟨n, failed⟩ := exists_restore_of_full read create room
        rw [failed] at run
        cases run
        exact .inl ⟨_, rfl, .full read found room⟩

/-! ## What the host keeps -/

section

variable {I : Owner → Prop} {J : Host → Prop} (settles : Owner.Settles I)
include settles

theorem keeps_remove (jobs : ∀ {code : Job Unit}, Job.Maintains I code → Keeps J True (job code)) (path : String) :
    Keeps J True (TemporaryFile.remove path) := by
  refine keeps_bind (keeps_bind keeps_get fun _ => keeps_pure _) fun found => ?_
  cases found with
  | some content => exact jobs (Job.maintains_setFiles settles _)
  | none => exact jobs (Job.maintains_warn settles _ _)

/-- Restoring leaves a host that serves, and of the owner what the code of the library keeps and what
adding the directory of the header does. -/
theorem serves_restore (library : Owner.LibraryMaintains I)
    (path : ∀ header rest, Container.read source = (.ok header, rest) →
      Job.Maintains I (Job.appendSearchPath [header.modulePath])) :
    Keeps (Host.Serves I) True (restore source params) := by
  have files (f : Entries Octets → Entries Octets) : Keeps (Host.Serves I) True (job (Job.setFiles f)) :=
    serves_job (Job.maintains_setFiles settles f)
  unfold restore
  split
  · exact keeps_pure _
  · next header rest read =>
    refine keeps_bind ?_ fun _ => keeps_pure _
    unfold loadPayload
    refine keeps_bind ?_ fun created => ?_
    · intro h serves
      cases found : h.temporaryPath with
      | error reason =>
        rw [TemporaryFile.run_create_error serves.ready found]
        exact ⟨serves, fun _ _ => trivial⟩
      | ok path =>
        rw [TemporaryFile.run_create_ok serves.ready found]
        exact ⟨(files _ h serves).1, fun _ _ => trivial⟩
    · cases created with
      | error e => exact keeps_pure _
      | ok file =>
        refine keeps_bind (keeps_bind keeps_get fun _ => keeps_pure _) fun sink => ?_
        split
        · exact keeps_bind (files _) fun _ => keeps_pure _
        · refine keeps_bind (files _) fun _ => ?_
          refine keeps_bind (serves_make settles library (path header rest read)) fun made => ?_
          exact keeps_bind (keeps_remove settles serves_job file) fun _ => keeps_pure _

/-- Loading leaves a host that serves, too. -/
theorem serves_load (source : Source) (params : ValueMap) (library : Owner.LibraryMaintains I)
    (path : ∀ header rest, Container.read source = (.ok header, rest) →
      Job.Maintains I (Job.appendSearchPath [header.modulePath])) (s : StateObject) :
    Keeps (Host.Serves I) True (s.load source params) := by
  unfold load
  split
  · exact keeps_pure _
  · refine keeps_bind (serves_restore settles library path) fun restored => ?_
    split
    · exact keeps_pure _
    · exact keeps_bind (keeps_bind (serves_release settles _) fun _ => keeps_pure _) fun _ => keeps_pure _

end

theorem serves_restore_true (source : Source) (params : ValueMap) :
    Keeps (Host.Serves fun _ => True) True (restore source params) :=
  serves_restore (fun _ _ _ _ => trivial)
    ⟨fun _ _ _ => trivial, fun _ _ _ _ => trivial, fun _ _ _ _ _ => trivial⟩ fun _ _ _ _ _ => trivial

/-- Restoring gives nothing inside a job. -/
theorem outside_of_restores {header : StateParams} {i : Instance} (ready : h.Ready)
    (restores : Restores source params h header i source' h') : h.insideJob = false := by
  cases restores with
  | @mk payload path h₁ h' hands made given removed =>
    cases inside : h.insideJob with
    | false => rfl
    | true =>
      have ready' : (holding h path payload).Ready := .of_owner h _ ready
      rw [make_inside ready' inside] at made
      cases made

/-- Inside a job restoring fails before the code of the class runs, so that no more is changed than
files. -/
theorem keeps_of_inside {I : Owner → Prop} {J : Host → Prop} {e : StateError} (settles : Owner.Settles I)
    (jobs : ∀ {code : Job Unit}, Job.Maintains I code → Keeps J True (job code)) (ready : h.Ready)
    (inside : h.insideJob = true) (holds : J h) (fails : Fails source params h e source' h') : J h' := by
  have files {h : Host} (f : Entries Octets → Entries Octets) (holds : J h) : J (h.withFiles f) :=
    (jobs (Job.maintains_setFiles settles f) h holds).1
  cases fails with
  | container | file => exact holds
  | stream | full => exact files _ holds
  | @refused header payload path e h₁ h' hands made removed =>
    have ready' : (holding h path payload).Ready := .of_owner h _ ready
    rw [make_inside ready' inside] at made
    cases made
    have kept := (keeps_remove settles jobs path (holding h path payload) (files _ holds)).1
    rwa [removed] at kept

/-- An object is let go of after the tasks in line, and the host goes on. -/
theorem run_release {old : Instance} {answer : Instance × Except BrokerError Unit} (outside : h.insideJob = false)
    (running : h.broker.stage = .running) (run : old.release.run h = (.ok answer, h')) :
    answer.2 = .ok () ∧ (old.handle.place = none → h' = h) ∧
      ∀ r, old.handle.place = some r → (Job.release r).run h.ownerAfterTasks = (.ok (), h'.owner) := by
  obtain ⟨⟨handle, result⟩, h₁, released, run⟩ := of_run_bind run
  cases run
  cases place : old.handle.place with
  | none =>
    rw [Handle.run_release_null place] at released
    cases released
    refine ⟨rfl, fun _ => rfl, ?_⟩
    intro r other
    cases other
  | some r =>
    obtain ⟨h₂, done, owner⟩ := Handle.run_release outside running place
    rw [done] at released
    cases released
    refine ⟨rfl, ?_, ?_⟩
    · intro other
      cases other
    · intro r' same
      cases same
      exact owner

/-! ## Loading -/

variable {s s' : StateObject} {result : Except StateError Unit}

/-- Loading is refused, or fails as restoring does, or puts what was restored in the place of what there
was. -/
theorem of_load (configured : h.config.isSome = true) (running : h.broker.stage = .running)
    (run : (s.load source params).run h = (.ok (s', result, source'), h')) :
    (s.object = none ∧ s' = s ∧ result = .error .alreadyTerminated ∧ source' = source ∧ h' = h) ∨
      (∃ old e, s.object = some old ∧ s' = s ∧ result = .error e ∧ Fails source params h e source' h') ∨
      ∃ old header i h₁, s.object = some old ∧ s' = ⟨header, some i⟩ ∧ result = .ok () ∧
        Restores source params h header i source' h₁ ∧ (old.handle.place = none → h' = h₁) ∧
        ∀ r, old.handle.place = some r → (Job.release r).run h₁.ownerAfterTasks = (.ok (), h'.owner) := by
  have ready : h.Ready := ⟨configured, by simp [running]⟩
  unfold load at run
  cases object : s.object with
  | none =>
    rw [object] at run
    cases run
    exact .inl ⟨rfl, rfl, rfl, rfl, rfl⟩
  | some old =>
    rw [object] at run
    obtain ⟨⟨restored, source₁⟩, h₁, first, run⟩ := of_run_bind run
    rcases of_restore ready first with ⟨e, rfl, fails⟩ | ⟨header, i, rfl, restores⟩
    · cases run
      exact .inr (.inl ⟨old, e, rfl, rfl, rfl, fails⟩)
    · obtain ⟨released, h₂, release, run⟩ := of_run_bind run
      cases run
      have outside := outside_of_restores ready restores
      have stays : h₁.Serves fun _ => True := by
        have keeps := serves_restore_true source params h (.of_running configured running outside)
        rw [first] at keeps
        exact keeps.1
      obtain ⟨done, null, gone⟩ := run_release stays.outside stays.running release
      exact .inr (.inr ⟨old, header, i, h₁, rfl, rfl, by rw [done]; rfl, restores, null, gone⟩)

/-- What does not begin with a header changes nothing. -/
theorem eq_of_read_error {e : StateError} {rest : Source} (refused : Container.read source = (.error e, rest))
    (configured : h.config.isSome = true) (running : h.broker.stage = .running)
    (run : (s.load source params).run h = (.ok (s', result, source'), h')) : h' = h := by
  rcases of_load configured running run with ⟨-, -, -, -, same⟩ | ⟨old, e', -, -, -, fails⟩ |
    ⟨_, _, _, _, -, -, -, restores, -⟩
  · exact same
  · cases fails with
    | container | file => rfl
    | stream read | full read =>
      rw [refused] at read
      cases read
    | refused hands =>
      have read := hands.read
      rw [refused] at read
      cases read
  · cases restores with
    | mk hands =>
      have read := hands.read
      rw [refused] at read
      cases read

/-- Loading leaves the session as it is, and of the owner what the code of the library and the tasks in
line keep. -/
theorem load_keeps {I : Owner → Prop} (settles : Owner.Settles I) (library : Owner.LibraryMaintains I)
    (path : ∀ header rest, Container.read source = (.ok header, rest) →
      Job.Maintains I (Job.appendSearchPath [header.modulePath]))
    (tasks : ∀ t ∈ h.broker.queue, t.Maintains I) (configured : h.config.isSome = true)
    (running : h.broker.stage = .running) (holds : I h.owner)
    (run : (s.load source params).run h = (.ok (s', result, source'), h')) :
    I h'.owner ∧ h'.config.isSome = true ∧ h'.broker.stage = .running := by
  have ready : h.Ready := ⟨configured, by simp [running]⟩
  cases inside : h.insideJob with
  | false =>
    have serves : h.Serves I := ⟨configured, running, inside, holds, tasks⟩
    have kept := (serves_load settles source params library path s h serves).1
    rw [run] at kept
    exact ⟨kept.owner, kept.configured, kept.running⟩
  | true =>
    rcases of_load configured running run with ⟨-, -, -, -, rfl⟩ | ⟨old, e, -, -, -, fails⟩ |
      ⟨old, header, i, h₁, -, -, -, restores, -⟩
    · exact ⟨holds, configured, running⟩
    · refine keeps_of_inside (J := fun h => I h.owner ∧ h.config.isSome = true ∧ h.broker.stage = .running)
        settles ?_ ready inside ⟨holds, configured, running⟩ fails
      intro code maintains h before
      rw [run_job]
      exact ⟨⟨maintains h.owner before.1, before.2⟩, fun _ _ => trivial⟩
    · rw [outside_of_restores ready restores] at inside
      cases inside

end StateObject

namespace ObjectState

open StateObject

variable {o : ObjectState} {source source' : Source} {params : ValueMap} {h h' : Host} {left : SharedState}
  {result : Except StateError Unit}

/-- What is known of a state that loads. -/
structure Replaces (o : ObjectState) (source : Source) (params : ValueMap) (h : Host) (left : SharedState)
    (result : Except StateError Unit) (source' : Source) (h' : Host) : Prop where
  /-- If that fails the state is as it was; either it has ended, and nothing happened, or it could not
  be restored, and no more has happened than then happens without any state. -/
  failed : ∀ e, result = .error e → left = .object o ∧
    (o.object.object = none ∧ e = .alreadyTerminated ∧ source' = source ∧ h' = h ∨
      o.object.object ≠ none ∧ Fails source params h e source' h')
  /-- If it fails before the class is asked to load, nothing has happened, so that all that is done
  with the state later is done as if there had been no attempt. -/
  untried : ∀ e, result = .error e → (∀ reason, e ≠ .call reason) → h.TemporaryIsNew → h' = h
  /-- Otherwise it has the parameters of the header and the object that its class has made.  The object
  that it had has one reference less, and nothing else happens after the tasks in line. -/
  loaded : result = .ok () → ∃ old header i h₁, o.object.object = some old ∧
    Restores source params h header i source' h₁ ∧
    left = .object { o with object := ⟨header, some i⟩ } ∧
    (∀ method args, left.call method args = return (← i.call method args).mapError .call) ∧
    (old.handle.place = none → h' = h₁) ∧
    ∀ r, old.handle.place = some r → (Job.release r).run h₁.ownerAfterTasks = (.ok (), h'.owner) ∧
      (0 < h₁.ownerAfterTasks.interpreter.heap.count r →
        h'.owner.interpreter.heap.count r + 1 = h₁.ownerAfterTasks.interpreter.heap.count r)
  /-- The interpreter goes on. -/
  running : h'.config.isSome = true ∧ h'.broker.stage = .running
  /-- Whatever the code of the library keeps and adding the directory of the header does, loading keeps. -/
  kept : ∀ I : Owner → Prop, Owner.Settles I → Owner.LibraryMaintains I →
    (∀ header rest, Container.read source = (.ok header, rest) →
      Job.Maintains I (Job.appendSearchPath [header.modulePath])) →
    (∀ t ∈ h.broker.queue, t.Maintains I) → I h.owner → I h'.owner
  /-- Code that leaves the search path as it is finds there the directory of the header, at most. -/
  searchPath : h.owner.library.LeavesPath → (∀ t ∈ h.broker.queue, t.LeavesPath) →
    h'.owner.interpreter.searchPath = h.owner.interpreter.searchPath ∨
      ∃ header rest, Container.read source = (.ok header, rest) ∧
        h'.owner.interpreter.searchPath = (h.owner.interpreter.searchPath.append [header.modulePath]).1

theorem run_load_object {loaded : StateObject}
    (run : (o.object.load source params).run h = (.ok (loaded, result, source'), h')) :
    ((SharedState.object o).load source params).run h =
      (.ok (.object { o with object := loaded }, result, source'), h') := run_bind_of_ok run

/-- Loading replaces all of a state or nothing. -/
theorem replaces (configured : h.config.isSome = true) (running : h.broker.stage = .running)
    (run : ((SharedState.object o).load source params).run h = (.ok (left, result, source'), h')) :
    Replaces o source params h left result source' h' := by
  obtain ⟨⟨loaded, answer, source₁⟩, h₁, first, run⟩ := of_run_bind run
  cases run
  have outcome := of_load configured running first
  refine ⟨?_, ?_, ?_, ?_, ?_, ?_⟩
  · rintro e rfl
    rcases outcome with ⟨ended, rfl, same, rfl, rfl⟩ | ⟨old, e', object, rfl, same, fails⟩ |
      ⟨_, _, _, _, -, -, same, -⟩
    · cases same
      exact ⟨rfl, .inl ⟨ended, rfl, rfl, rfl⟩⟩
    · cases same
      exact ⟨rfl, .inr ⟨by rw [object]; exact Option.some_ne_none old, fails⟩⟩
    · cases same
  · rintro e rfl untried new
    rcases outcome with ⟨-, -, -, -, same⟩ | ⟨old, e', -, -, same, fails⟩ | ⟨_, _, _, _, -, -, same, -⟩
    · exact same
    · cases same
      exact fails.eq_of_untried untried new
    · cases same
  · rintro rfl
    rcases outcome with ⟨-, -, same, -⟩ | ⟨_, _, -, -, same, -⟩ |
      ⟨old, header, i, h₂, object, rfl, -, restores, null, gone⟩
    · cases same
    · cases same
    · refine ⟨old, header, i, h₂, object, restores, rfl, fun _ _ => rfl, null, ?_⟩
      intro r place
      have released := gone r place
      have owner : ((Job.release r).run h₂.ownerAfterTasks).2 = h'.owner := by rw [released]
      refine ⟨released, fun held => ?_⟩
      have less : h'.owner.interpreter.heap.count r = h₂.ownerAfterTasks.interpreter.heap.count r - 1 := by
        rw [← owner]
        exact Heap.count_release _ r
      omega
  · have kept := load_keeps (I := fun _ => True) (fun _ _ _ _ => trivial)
      ⟨fun _ _ _ => trivial, fun _ _ _ _ => trivial, fun _ _ _ _ _ => trivial⟩ (fun _ _ _ _ _ => trivial)
      (fun t _ => .of_true t) configured running trivial first
    exact kept.2
  · intro I settles library path tasks holds
    exact (load_keeps settles library path tasks configured running holds first).1
  · intro library tasks
    rcases read : Container.read source with ⟨e | header, rest⟩
    · -- what is no saved state does not get as far as to a directory
      have same := eq_of_read_error read configured running first
      exact .inl (by rw [same])
    · have kept := load_keeps Owner.settles_searches (Owner.libraryMaintains_searches library)
        (fun header' rest' read' => by
          rw [read] at read'
          cases read'
          exact Job.maintains_appendSearchPath) (fun t mem => (tasks t mem).maintains) configured running
        ⟨rfl, .inl rfl⟩ first
      exact kept.1.2.imp_right fun path => ⟨header, rest, rfl, path⟩

/-- A state that was made to be read only loads a container that names a method, and octets that are no
container leave it as it is. -/
theorem replaces_blank :
    ∃ h₁ h₂, ((SharedState.object (blank "" "")).load ⟨Container.written (blankParams "write") [], none⟩ []).run
          (makeBlank "").2 = (.ok (.object (blank "" "write"), .ok (), ⟨[], none⟩), h₁) ∧
      Replaces (blank "" "") ⟨Container.written (blankParams "write") [], none⟩ [] (makeBlank "").2
        (.object (blank "" "write")) (.ok ()) ⟨[], none⟩ h₁ ∧
      ((SharedState.object (blank "" "")).load ⟨[7], none⟩ []).run (makeBlank "").2 =
        (.ok (.object (blank "" ""), .error (.unsupportedVersion 7), ⟨[], none⟩), h₂) ∧
      Replaces (blank "" "") ⟨[7], none⟩ [] (makeBlank "").2 (.object (blank "" ""))
        (.error (.unsupportedVersion 7)) ⟨[], none⟩ h₂ := by
  have configured : (makeBlank "").2.config.isSome = true := by decide +kernel
  have running : (makeBlank "").2.broker.stage = .running := by decide +kernel
  have first : (loadBlank "" "write").1 = .ok ((blank "" "write").object, .ok (), ⟨[], none⟩) := by
    decide +kernel
  have second : (((blank "" "").object.load ⟨[7], none⟩ []).run (makeBlank "").2).1 =
      .ok ((blank "" "").object, .error (.unsupportedVersion 7), ⟨[], none⟩) := by
    decide +kernel
  have loaded := run_load_object (Prod.ext first rfl)
  have refused := run_load_object (Prod.ext second rfl)
  exact ⟨_, _, loaded, replaces configured running loaded, refused, replaces configured running refused⟩

/-! ## A class that refuses to load -/

/-- A module with a function that raises `ValueError`, and tells by the message whether the module is among those
imported.  Its class makes the module itself, and when it is asked to load it takes the module from
among them and refuses. -/
def forgottenLibrary : Library :=
  let create : Routine := .native fun _ _ => do
    match (← get).modules.find? "m" with
    | some r => Computation.retain r
    | none => Computation.newNone
  let load : Routine := .native fun _ _ => do
    if let some r := (← get).modules.find? "m" then
      modify fun i => { i with modules := i.modules.erase "m" }
      Computation.release r
    Computation.valueError "refused"
  let locate : Routine := .native fun _ _ => do
    Computation.valueError (if (← get).modules.contains "m" then "here" else "gone")
  [{ name := "m", content := .ok [("locate", .function locate),
    ("C", .cls none [("create", .described .static create), ("load", .described .static load)])] }]

/-- The class. -/
def forgottenParams : StateParams := { moduleName := "m", className := "C" }

/-- A state of the class. -/
def forgotten : ObjectState := ⟨⟨forgottenParams, some (.ofHandle (.of 9) "m.C")⟩, false⟩

/-- A host makes the state. -/
def makeForgotten : Except Panic (Except StateError ObjectState) × Host :=
  (Creator.createObject (some forgottenParams) []).run { surroundings := { library := forgottenLibrary } }

/-- The state loads. -/
def loadForgotten : Except Panic (StateObject × Except StateError Unit × Source) × Host :=
  (forgotten.object.load ⟨Container.written forgottenParams [], none⟩ []).run makeForgotten.2

/-- What a method of the state answers that raises `ValueError`. -/
def forgottenError (method message : String) : StateError :=
  .call (.context "call" "method" method
    (.interpreter (.exception { main := "ValueError: " ++ message, details := [], trace := "" })))

/-- What the state answers on a host when it is asked for the module. -/
def locateForgotten (h : Host) : Except Panic (Except StateError Value) :=
  (((SharedState.object forgotten).call "locate" []).run h).1

theorem locateForgotten_eq {h : Host} {e : StateError}
    (told : (match locateForgotten h with | .ok (.error e) => some e | _ => none) = some e) :
    locateForgotten h = .ok (.error e) := by
  split at told
  · next answer =>
    cases told
    exact answer
  · cases told

/-- The class refuses, and the state, its parameters and its object are what they were.  A call that
comes later is answered in another way than it would have been before, on a host that runs all the time. -/
theorem exists_load_changes :
    ∃ source' h h₁, makeForgotten = (.ok (.ok forgotten), h) ∧
      h.config.isSome = true ∧ h.broker.stage = .running ∧ h.TemporaryIsNew ∧
      ((SharedState.object forgotten).load ⟨Container.written forgottenParams [], none⟩ []).run h =
        (.ok (.object forgotten, .error (forgottenError "load" "refused"), source'), h₁) ∧
      locateForgotten h = .ok (.error (forgottenError "locate" "here")) ∧
      locateForgotten h₁ = .ok (.error (forgottenError "locate" "gone")) := by
  have made : makeForgotten.1 = .ok (.ok forgotten) := by decide +kernel
  have refused : loadForgotten.1 = .ok (forgotten.object, .error (forgottenError "load" "refused"), ⟨[], none⟩) := by
    decide +kernel
  have new : makeForgotten.2.owner.interpreter.files = [] := by decide +kernel
  refine ⟨_, _, _, Prod.ext made rfl, by decide +kernel, by decide +kernel, ?_,
    run_load_object (Prod.ext refused rfl), locateForgotten_eq (by decide +kernel),
    locateForgotten_eq (by decide +kernel)⟩
  intro path _
  rw [new]
  rfl

end ObjectState

end InterpreterHost
