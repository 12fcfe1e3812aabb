import InterpreterHost.Proofs.Owner.Outcome
import InterpreterHost.Proofs.State.Container
import InterpreterHost.State.Creator

/-!
# Saving a state and reading it back

What a state writes is the container of its parameters and then the octets that its object left in a
file.  Reading takes the container off and hands a file with the same octets to the class that the
parameters name.

## Main definitions

* `Container.written` — the octets of a saved state
* `StateObject.Leaves` — the octets that an object leaves in its file when it saves itself
* `StateObject.GivenBy` — which object a function of the class has made
* `StateObject.handOver` — what is left to do once the octets are in a file again
* `StateObject.PassesOn` — what follows a container gets to the class
* `StateObject.Saves`, `StateObject.ReadsBack` — what is known of saving and of reading

## Main statements

* `StateObject.savePayload_of_leaves`, `StateObject.savePayload_outcome` — an object is saved as a
  whole or not at all
* `StateObject.passesOn_of_read` — what follows a container is handed to the class
* `StateObject.save_restore` — saving and reading as a whole
-/

namespace InterpreterHost

/-! ## The octets of a saved state -/

/-- A sink without a limit takes all octets. -/
theorem Sink.write_of_unlimited {sink : Sink} (unlimited : sink.limit = none) (octets : Octets) :
    sink.write octets = (.ok (), { sink with content := sink.content ++ octets }) := by
  rw [write, unlimited]

namespace Source

variable {source : Source} {sink : Sink}

/-- What a sink can take is read up to the end. -/
theorem copyTo_of_room (room : ∀ limit ∈ sink.limit, (sink.content ++ source.content).length ≤ limit) :
    source.copyTo sink = (source.takeAll.1.map fun _ => (), source.takeAll.2,
      { sink with content := sink.content ++ source.content }) := by
  have taken : sink.write source.content = (.ok (), { sink with content := sink.content ++ source.content }) := by
    unfold Sink.write
    cases limited : sink.limit with
    | none => rfl
    | some limit => exact if_pos (room limit limited)
  rw [copyTo, taken]

/-- What a sink cannot take is not read up to the end. -/
theorem exists_copyTo_of_full {limit : Nat} (limited : sink.limit = some limit)
    (full : limit < (sink.content ++ source.content).length) :
    ∃ n written, source.copyTo sink =
      (.error sink.refusal, { source with content := source.content.drop n }, written) := by
  have refused : sink.write source.content =
      (.error sink.refusal, { sink with content := (sink.content ++ source.content).take limit }) := by
    unfold Sink.write
    rw [limited]
    exact if_neg (Nat.not_le.2 full)
  rw [copyTo, refused]
  exact ⟨_, _, rfl⟩

end Source

namespace Container

/-- The octets of a saved state: the version, the length of the header, the header and what the
object saved. -/
def written (p : StateParams) (payload : Octets) : Octets :=
  1 :: littleEndian 4 (Header.encode p).length ++ Header.encode p ++ payload

theorem start_append {p : StateParams} (room : (Header.encode p).length < 2 ^ 32)
    (payload : Octets) : start p ++ payload = written p payload := by
  simp only [start, written, version, toNat_lengthOf room]

/-- A saved state is read up to what the object saved. -/
theorem read_written {p : StateParams} (room : (Header.encode p).length < 2 ^ 32)
    (payload : Octets) : read ⟨written p payload, none⟩ = (.ok p, ⟨payload, none⟩) := by
  rw [← start_append room]
  exact read_start room payload none

/-- A sink without a limit takes the whole container, and still has no limit. -/
theorem write_of_unlimited {sink : Sink} (unlimited : sink.limit = none) (p : StateParams) :
    ∃ sink', write sink p = (.ok (), sink') ∧ sink'.limit = none ∧
      sink'.content = sink.content ++ start p := by
  have parts (octets : List Octets) (sink : Sink) (unlimited : sink.limit = none) :
      writeParts sink octets = (.ok (), { sink with content := sink.content ++ octets.flatten }) := by
    induction octets generalizing sink with
    | nil => rw [writeParts, List.flatten_nil, List.append_nil]
    | cons part rest ih =>
      rw [writeParts, Sink.write_of_unlimited unlimited]
      dsimp only
      rw [ih { sink with content := sink.content ++ part } unlimited, List.flatten_cons, List.append_assoc]
  rw [write, parts _ sink unlimited]
  refine ⟨_, rfl, unlimited, ?_⟩
  simp [start]

/-- Different states are written differently. -/
theorem written_inj {p q : StateParams} {payload payload' : Octets}
    (room : (Header.encode p).length < 2 ^ 32) (room' : (Header.encode q).length < 2 ^ 32)
    (same : written p payload = written q payload') : p = q ∧ payload = payload' := by
  rw [← start_append room, ← start_append room'] at same
  exact start_append_inj room room' same

end Container

namespace StateObject

/-! ## Saving -/

/-- The object, asked to save itself to a new file, leaves these octets there. -/
def Leaves (i : Instance) (params : ValueMap) (h : Host) (payload : Octets) : Prop :=
  ∃ path h₁ v h₂, TemporaryFile.create.run h = (.ok (.ok path), h₁) ∧
    (i.call saveMethod [.string path, .map params]).run h₁ = (.ok (.ok v), h₂) ∧
    h₂.owner.interpreter.files.find? path = some payload

/-- Nothing is written of an object before all that it left can be. -/
theorem savePayload_outcome {i : Instance} {sink sink' : Sink} {params : ValueMap}
    {result : Except StateError Unit} {h h' : Host}
    (run : (savePayload i sink params).run h = (.ok (result, sink'), h')) :
    (∃ e, result = .error e) ∧ sink' = sink ∨
      ∃ payload, Leaves i params h payload ∧ result = (sink.write payload).1.mapError .stream ∧
        sink' = (sink.write payload).2 := by
  unfold savePayload at run
  obtain ⟨created, h₁, create, run⟩ := of_run_bind run
  cases created with
  | error e =>
    obtain ⟨same, -⟩ := of_run_pure run
    cases same
    exact .inl ⟨⟨e, rfl⟩, rfl⟩
  | ok path =>
    obtain ⟨called, h₂, call, run⟩ := of_run_bind run
    cases called with
    | error e =>
      obtain ⟨-, h₃, -, run⟩ := of_run_bind run
      obtain ⟨same, -⟩ := of_run_pure run
      cases same
      exact .inl ⟨⟨.call e, rfl⟩, rfl⟩
    | ok v =>
      obtain ⟨found, h₃, content, run⟩ := of_run_bind run
      obtain ⟨there, rfl⟩ : h₂.owner.interpreter.files.find? path = found ∧ h₂ = h₃ := by
        cases content
        exact ⟨rfl, rfl⟩
      cases found with
      | none =>
        obtain ⟨same, -⟩ := of_run_pure run
        cases same
        exact .inl ⟨⟨.temporaryFile "open" Config.noSuchFile, rfl⟩, rfl⟩
      | some payload =>
        -- Up to here nothing was written.
        refine .inr ⟨payload, ⟨path, h₁, v, h₂, create, call, there⟩, ?_⟩
        -- The file is removed whether or not the sink took it all.
        rcases writing : sink.write payload with ⟨reason | ⟨⟩, sink₁⟩
        all_goals
          simp only [writing] at run
          obtain ⟨-, h₄, -, run⟩ := of_run_bind run
          obtain ⟨same, -⟩ := of_run_pure run
          cases same
          exact ⟨rfl, rfl⟩

/-- What an object left is written if the sink takes it. -/
theorem savePayload_of_leaves {i : Instance} {sink sink' : Sink} {params : ValueMap}
    {payload : Octets} {h : Host} (leaves : Leaves i params h payload)
    (taken : sink.write payload = (.ok (), sink')) :
    ∃ h', (savePayload i sink params).run h = (.ok (.ok (), sink'), h') := by
  obtain ⟨path, h₁, v, h₂, create, call, there⟩ := leaves
  have found : (TemporaryFile.content? path).run h₂ = (.ok (some payload), h₂) := by
    rw [← there]
    rfl
  -- The file is there, so that it is removed without a warning.
  obtain ⟨h₃, removed⟩ : ∃ h₃, (TemporaryFile.remove path).run h₂ = (.ok (), h₃) := by
    refine ⟨((TemporaryFile.discard path).run h₂).2, ?_⟩
    rw [TemporaryFile.remove, run_bind, found]
    rfl
  refine ⟨h₃, ?_⟩
  simp only [savePayload, run_bind, create, call, found, taken, removed]
  rfl

/-- What is known of saving to a sink that takes all octets. -/
structure Saves (s : StateObject) (sink : Sink) (params : ValueMap) : Prop where
  /-- It succeeds if the object leaves something. -/
  progress : ∀ h i payload, s.object = some i → Leaves i params h payload →
    ∃ sink' h', (s.save sink params).run h = (.ok (.ok (), sink'), h')
  /-- If it succeeds the sink has got the container and all that the object left. -/
  success : ∀ h sink' h', (s.save sink params).run h = (.ok (.ok (), sink'), h') →
    ∃ i payload, s.object = some i ∧ Leaves i params h payload ∧
      sink'.content = sink.content ++ Container.written s.params payload
  /-- If it fails the sink has got nothing of what the object left. -/
  failure : ∀ h e sink' h', (s.save sink params).run h = (.ok (.error e, sink'), h') →
    (s.object = none ∧ e = .alreadyTerminated ∧ sink' = sink) ∨
      (s.object ≠ none ∧ sink'.content = sink.content ++ Container.written s.params [])

theorem saves {s : StateObject} (room : (Header.encode s.params).length < 2 ^ 32) {sink : Sink}
    (unlimited : sink.limit = none) (params : ValueMap) : s.Saves sink params := by
  have header : Container.written s.params [] = Container.start s.params := by
    rw [← Container.start_append room, List.append_nil]
  obtain ⟨sink₁, start, unlimited₁, begun⟩ := Container.write_of_unlimited unlimited s.params
  refine ⟨?_, ?_, ?_⟩
  · intro h i payload object leaves
    obtain ⟨h', run⟩ := savePayload_of_leaves leaves (Sink.write_of_unlimited unlimited₁ payload)
    have same : (s.save sink params).run h = (savePayload i sink₁ params).run h := by
      rw [save, object]
      simp only [start]
    exact ⟨_, h', same.trans run⟩
  · intro h sink' h' run
    unfold save at run
    cases object : s.object with
    | none =>
      rw [object] at run
      cases run
    | some i =>
      rw [object] at run
      simp only [start] at run
      obtain ⟨⟨e, wrong⟩, -⟩ | ⟨payload, leaves, -, rfl⟩ := savePayload_outcome run
      · cases wrong
      · refine ⟨i, payload, rfl, leaves, ?_⟩
        rw [Sink.write_of_unlimited unlimited₁, begun, ← Container.start_append room, List.append_assoc]
  · intro h e sink' h' run
    unfold save at run
    cases object : s.object with
    | none =>
      rw [object] at run
      cases run
      exact .inl ⟨rfl, rfl, rfl⟩
    | some i =>
      rw [object] at run
      simp only [start] at run
      obtain ⟨-, rfl⟩ | ⟨payload, -, wrong, -⟩ := savePayload_outcome run
      · refine .inr ⟨Option.some_ne_none i, ?_⟩
        rw [begun, header]
      · rw [Sink.write_of_unlimited unlimited₁] at wrong
        cases wrong

/-! ## Reading -/

end StateObject

/-- The host with other files within reach. -/
def Host.withFiles (h : Host) (f : Entries Octets → Entries Octets) : Host :=
  { h with owner := { h.owner with
    interpreter := { h.owner.interpreter with files := f h.owner.interpreter.files } } }

/-- What takes the octets that are written to a temporary file. -/
def Host.temporarySink (h : Host) (path : String) : Sink :=
  ⟨[], h.surroundings.temporaryLimit path, h.surroundings.temporaryRefusal⟩

theorem TemporaryFile.run_sink (path : String) (h : Host) :
    (TemporaryFile.sink path).run h = (.ok (h.temporarySink path), h) := rfl

theorem TemporaryFile.run_discard (path : String) (h : Host) :
    (TemporaryFile.discard path).run h = (.ok (), h.withFiles (·.erase path)) := rfl

/-- A temporary file can hold the octets. -/
def Host.HasRoom (h : Host) (path : String) (octets : Octets) : Prop :=
  ∀ limit ∈ h.surroundings.temporaryLimit path, octets.length ≤ limit

namespace Handle

/-- What runs before a handle is let go has run as it would by itself. -/
theorem of_dropping {ε α : Type} {handle : Handle} {code : ExceptT ε Action α} {a : α} {h h' : Host}
    (run : (handle.dropping code).run.run h = (.ok (.ok a), h')) :
    ∃ h₁, code.run.run h = (.ok (.ok a), h₁) := by
  obtain ⟨result, h₁, first, run⟩ := of_run_bind run
  obtain ⟨_, h₂, -, run⟩ := of_run_bind run
  cases run
  rw [run_tryCatch] at first
  rcases ran : code.run.run h with ⟨p | result, h₂⟩
  · rw [ran] at first
    obtain ⟨_, h₃, -, first⟩ := of_run_bind first
    cases first
  · rw [ran] at first
    cases first
    exact ⟨h₁, rfl⟩

end Handle

namespace StateObject

/-- On a host that searches the directory of the parameters, the object is what the function of the class gave that
the parameters name. -/
def GivenBy (h : Host) (method : String) (p : StateParams) (args : List Value) (i : Instance) : Prop :=
  ∃ m c h₁ h₂ h₃ h₄,
    (if p.modulePath = "" then h₁ = h else (Action.appendSearchPath [p.modulePath]).run h = (.ok (.ok ()), h₁)) ∧
    (Module.load p.moduleName).run h₁ = (.ok (.ok m), h₂) ∧
    (m.getClass p.className).run h₂ = (.ok (.ok c), h₃) ∧
    (c.callDirect method args).run h₃ = (.ok (.ok i.handle), h₄) ∧ i.origin = c.origin

/-- An object that is made is what the function of the class gave. -/
theorem givenBy_of_make {method : String} {p : StateParams} {args : List Value} {h h' : Host} {i : Instance}
    (run : (make method p args).run h = (.ok (.ok i), h')) : GivenBy h method p args i := by
  have given {h h' : Host} (run : (ExceptT.mk (Module.load p.moduleName) >>= fun m : Module =>
      m.handle.dropping (ExceptT.mk (m.getClass p.className) >>= fun c : Instance =>
        c.handle.dropping (ExceptT.mk (c.callDirect method args) >>= fun handle =>
          pure (Instance.ofHandle handle c.origin)))).run.run h = (.ok (.ok i), h')) :
      ∃ m c h₂ h₃ h₄, (Module.load p.moduleName).run h = (.ok (.ok m), h₂) ∧
        (m.getClass p.className).run h₂ = (.ok (.ok c), h₃) ∧
        (c.callDirect method args).run h₃ = (.ok (.ok i.handle), h₄) ∧ i.origin = c.origin := by
    obtain ⟨m, h₂, load, run⟩ := of_run_run_bind run
    obtain ⟨h₃, run⟩ := Handle.of_dropping run
    obtain ⟨c, h₄, found, run⟩ := of_run_run_bind run
    obtain ⟨h₅, run⟩ := Handle.of_dropping run
    obtain ⟨handle, h₆, called, run⟩ := of_run_run_bind run
    cases run
    exact ⟨m, c, h₂, h₄, h₅, load, found, called, rfl⟩
  unfold make at run
  split at run
  · next named =>
    obtain ⟨_, h₁, reached, run⟩ := of_run_run_bind run
    obtain ⟨m, c, h₂, h₃, h₄, rest⟩ := given run
    exact ⟨m, c, h₁, h₂, h₃, h₄, by rwa [if_neg named], rest⟩
  · next unnamed =>
    obtain ⟨m, c, h₂, h₃, h₄, rest⟩ := given run
    exact ⟨m, c, h, h₂, h₃, h₄, by rw [if_pos (Decidable.not_not.1 unnamed)], rest⟩

/-- Have the class that the parameters name load the file, which is removed then. -/
def handOver (p : StateParams) (path : String) (params : ValueMap) :
    Action (Except StateError StateObject × Source) := do
  let made ← make loadMethod p [.string path, .map params]
  TemporaryFile.remove path
  return ((made.mapError .call).map fun i => ⟨p, some i⟩, ⟨[], none⟩)

/-- What is read after a container is passed on to the class that the container names. -/
structure PassesOn (source : Source) (p : StateParams) (payload : Octets) : Prop where
  /-- It is put into a new file, if that can hold it, and the class is handed the file. -/
  file : ∀ params h path h₁, TemporaryFile.create.run h = (.ok (.ok path), h₁) → h₁.HasRoom path payload →
    (restore source params).run h = (handOver p path params).run (h₁.withFiles (·.insert path payload))
  /-- A file that cannot hold it is removed, and it is reported why. -/
  full : ∀ params h path h₁, TemporaryFile.create.run h = (.ok (.ok path), h₁) → ¬ h₁.HasRoom path payload →
    ∃ n, (restore source params).run h =
      (.ok (.error (.stream h₁.surroundings.temporaryRefusal), ⟨payload.drop n, none⟩), h₁.withFiles (·.erase path))
  /-- A state that comes of it has the parameters and the object that the class gave when it was handed the file. -/
  given : ∀ params h s source' h', (restore source params).run h = (.ok (.ok s, source'), h') →
    ∃ path h₁ i, TemporaryFile.create.run h = (.ok (.ok path), h₁) ∧ s = ⟨p, some i⟩ ∧
      GivenBy (h₁.withFiles (·.insert path payload)) loadMethod p [.string path, .map params] i

section

variable {source : Source} {p : StateParams} {payload : Octets} {params : ValueMap} {h h₁ : Host} {path : String}

/-- What follows the container is put into a new file, and that is handed to the class. -/
theorem restore_of_read (header : Container.read source = (.ok p, ⟨payload, none⟩))
    (create : TemporaryFile.create.run h = (.ok (.ok path), h₁)) (room : h₁.HasRoom path payload) :
    (restore source params).run h = (handOver p path params).run (h₁.withFiles (·.insert path payload)) := by
  have copied : (⟨payload, none⟩ : Source).copyTo (h₁.temporarySink path) =
      (.ok (), ⟨[], none⟩, { h₁.temporarySink path with content := payload }) := Source.copyTo_of_room room
  have written : (TemporaryFile.write path payload).run h₁ = (.ok (), h₁.withFiles (·.insert path payload)) := rfl
  rw [restore, header]
  simp only [loadPayload, handOver, bind_assoc, pure_bind, run_bind, create, TemporaryFile.run_sink, copied, written]

/-- What fails to be read up to its end is not handed over. -/
theorem restore_of_failing {e : StreamError} (header : Container.read source = (.ok p, ⟨payload, some e⟩))
    (create : TemporaryFile.create.run h = (.ok (.ok path), h₁)) (room : h₁.HasRoom path payload) :
    (restore source params).run h = (.ok (.error (.stream e), ⟨[], some e⟩), h₁.withFiles (·.erase path)) := by
  have copied : (⟨payload, some e⟩ : Source).copyTo (h₁.temporarySink path) =
      (.error e, ⟨[], some e⟩, { h₁.temporarySink path with content := payload }) := Source.copyTo_of_room room
  rw [restore, header]
  simp only [loadPayload, bind_assoc, pure_bind, run_bind, create, TemporaryFile.run_sink, copied,
    TemporaryFile.run_discard]
  rfl

/-- What does not go into a file is not handed over. -/
theorem exists_restore_of_full {rest : Source} (header : Container.read source = (.ok p, rest))
    (create : TemporaryFile.create.run h = (.ok (.ok path), h₁)) (full : ¬ h₁.HasRoom path rest.content) :
    ∃ n, (restore source params).run h =
      (.ok (.error (.stream h₁.surroundings.temporaryRefusal), { rest with content := rest.content.drop n }),
        h₁.withFiles (·.erase path)) := by
  obtain ⟨limit, limited, short⟩ : ∃ limit, h₁.surroundings.temporaryLimit path = some limit ∧
      limit < rest.content.length := by
    obtain ⟨limit, no⟩ := Classical.not_forall.1 full
    obtain ⟨limited, more⟩ := Classical.not_imp.1 no
    exact ⟨limit, limited, Nat.not_le.1 more⟩
  obtain ⟨n, written, copied⟩ : ∃ n written, rest.copyTo (h₁.temporarySink path) =
      (.error h₁.surroundings.temporaryRefusal, { rest with content := rest.content.drop n }, written) :=
    Source.exists_copyTo_of_full limited short
  refine ⟨n, ?_⟩
  rw [restore, header]
  simp only [loadPayload, bind_assoc, pure_bind, run_bind, create, TemporaryFile.run_sink, copied,
    TemporaryFile.run_discard]
  rfl

/-- What follows a container that can be read is passed on to the class. -/
theorem passesOn_of_read (header : Container.read source = (.ok p, ⟨payload, none⟩)) : PassesOn source p payload where
  file _ _ _ _ create room := restore_of_read header create room
  full _ _ _ _ create full := exists_restore_of_full header create full
  given params h s source' h' run := by
    obtain ⟨path, h₁, create⟩ : ∃ path h₁, TemporaryFile.create.run h = (.ok (.ok path), h₁) := by
      rw [restore, header] at run
      obtain ⟨⟨made, source₁⟩, h₂, loaded, run⟩ := of_run_bind run
      obtain ⟨created, h₁, create, loaded⟩ := of_run_bind loaded
      cases created with
      | error e =>
        cases loaded
        cases run
      | ok path => exact ⟨path, h₁, create⟩
    by_cases room : h₁.HasRoom path payload
    · rw [restore_of_read header create room] at run
      obtain ⟨made, h₂, called, run⟩ := of_run_bind run
      obtain ⟨_, h₃, removed, run⟩ := of_run_bind run
      cases made with
      | error e => cases run
      | ok i =>
        cases run
        exact ⟨path, h₁, i, create, rfl, givenBy_of_make called⟩
    · obtain ⟨n, failed⟩ := exists_restore_of_full header create room
      cases failed.symm.trans run

end

/-- What is read back of a state that was saved. -/
structure ReadsBack (p : StateParams) (payload : Octets) : Prop where
  /-- The parameters are those that were written, and the rest is left as it is. -/
  header : Container.read ⟨Container.written p payload, none⟩ = (.ok p, ⟨payload, none⟩)
  /-- The class is handed a file with the octets that the object left. -/
  file : PassesOn ⟨Container.written p payload, none⟩ p payload
  /-- A state that has loaded what was saved has its parameters. -/
  load : ∀ (s s' : StateObject) source params h h',
    (s.load ⟨Container.written p payload, none⟩ params).run h = (.ok (s', .ok (), source), h') →
      s'.params = p
  /-- A state that is created from what was saved has its parameters. -/
  create : ∀ fixed state source params h h',
    ((Creator.object fixed).load ⟨Container.written p payload, none⟩ params).run h =
        (.ok (.ok state, source), h') →
      ∃ o, state = .object (.ofObject o) ∧ o.params = p

/-- A state that is read has the parameters that the source begins with. -/
theorem params_of_restore {source source' rest : Source} {p : StateParams} {s : StateObject}
    {params : ValueMap} {h h' : Host} (header : Container.read source = (.ok p, rest))
    (run : (restore source params).run h = (.ok (.ok s, source'), h')) : s.params = p := by
  rw [restore, header] at run
  obtain ⟨⟨made, source₁⟩, h₁, -, run⟩ := of_run_bind run
  obtain ⟨same, -⟩ := of_run_pure run
  cases made with
  | error e => cases same
  | ok i =>
    cases same
    rfl

/-- A state that has loaded is as it was, if that failed, or the one that was restored. -/
theorem restored_of_load {s s' : StateObject} {source source' : Source} {params : ValueMap} {h h' : Host}
    {result : Except StateError Unit} (run : (s.load source params).run h = (.ok (s', result, source'), h')) :
    (s' = s ∧ ∃ e, result = .error e) ∨
      ∃ source₁ h₁, (restore source params).run h = (.ok (.ok s', source₁), h₁) := by
  unfold load at run
  cases object : s.object with
  | none =>
    rw [object] at run
    cases run
    exact .inl ⟨rfl, _, rfl⟩
  | some old =>
    rw [object] at run
    obtain ⟨⟨restored, source₁⟩, h₁, first, run⟩ := of_run_bind run
    cases restored with
    | error e =>
      cases run
      exact .inl ⟨rfl, e, rfl⟩
    | ok restored =>
      obtain ⟨released, h₂, -, run⟩ := of_run_bind run
      cases run
      exact .inr ⟨_, h₁, first⟩

theorem readsBack {p : StateParams} (room : (Header.encode p).length < 2 ^ 32) (payload : Octets) :
    ReadsBack p payload where
  header := Container.read_written room payload
  file := passesOn_of_read (Container.read_written room payload)
  load s s' source params h h' run := by
    rcases restored_of_load run with ⟨-, e, wrong⟩ | ⟨source₁, h₁, first⟩
    · cases wrong
    · exact params_of_restore (Container.read_written room payload) first
  create fixed state source params h h' run := by
    unfold Creator.load at run
    obtain ⟨⟨restored, source₁⟩, h₁, first, run⟩ := of_run_bind run
    obtain ⟨same, -⟩ := of_run_pure run
    cases restored with
    | error e => cases same
    | ok o =>
      cases same
      exact ⟨o, rfl, params_of_restore (Container.read_written room payload) first⟩

/-! ## Both together -/

/-- Saving a state writes the container of its parameters and what its object left, and of a failure
there is at most the container.  Reading gives the parameters and hands on the rest.  The header tells
its own end, and what was written tells the state. -/
theorem save_restore {p : StateParams} (room : (Header.encode p).length < 2 ^ 32) :
    (∀ (s : StateObject) sink params, s.params = p → sink.limit = none → s.Saves sink params) ∧
      (∀ payload, ReadsBack p payload) ∧
      (∀ rest, Header.decode (Header.encode p ++ rest) = .ok p) ∧
      ∀ q payload payload', (Header.encode q).length < 2 ^ 32 →
        Container.written p payload = Container.written q payload' → p = q ∧ payload = payload' := by
  refine ⟨?_, readsBack room, Header.decode_encode room, ?_⟩
  · intro s sink params named unlimited
    subst named
    exact saves room unlimited params
  · intro q payload payload' room' same
    exact Container.written_inj room room' same

/-- A counter is saved and read back. -/
theorem save_restore_counter :
    let p : StateParams := { moduleName := "counter", className := "Counter" }
    (Header.encode p).length = 46 ∧ (⟨p, some (.ofHandle (.of 3))⟩ : StateObject).Saves {} [] ∧
      ReadsBack p [3, 0, 0, 0] := by
  intro p
  have size : (Header.encode p).length = 46 := by decide
  obtain ⟨saves, readsBack, -, -⟩ := save_restore (p := p) (by omega)
  exact ⟨size, saves _ _ _ rfl rfl, readsBack _⟩

end StateObject

end InterpreterHost
