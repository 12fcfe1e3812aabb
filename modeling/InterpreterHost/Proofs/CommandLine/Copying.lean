import InterpreterHost.CommandLine.Commands
import InterpreterHost.Proofs.Host.Resting
import InterpreterHost.Proofs.Json.Lines
import InterpreterHost.Proofs.Library.Copying
import InterpreterHost.Proofs.Marshal.Documents

/-!
# Documents through the interpreter

The command that has the interpreter copy a document prints that document.  Four recursions have a part in it:
the reader of documents, the making of objects, the reading of objects and the printer.  Whatever the first
accepts the others accept too, and nothing is lost between them.

## Main definitions

* `Library.OffersCopies` — the library has a module with a function that copies the objects of a value

## Main statements

* `CommandLine.run_copyDocument` — a document is copied on a host that rests
* `CommandLine.run_copyDocument_refused` — what is no document is refused before anything is done
* `CommandLine.ofTexts_separated`, `CommandLine.ofTexts_plain` — which texts reach the command
* `CommandLine.outcome_evalJson` — what the command line comes to

## Design notes

The function that copies is not a part of the program.  What is asked of it is said of the objects in the heap:
those that it gives have the types of those that it is given and an equal content, as does every part of them.
Neither the function nor the data has a finalizer.
-/

namespace InterpreterHost

namespace Library

/-- The object at `f` can be called.  For the objects of the value, made after it was found, it gives objects of
the same types and an equal content.  Nothing has a finalizer that goes afterwards with the tuple of the arguments,
the function or the copy. -/
structure Copies (library : Library) (i : Interpreter) (f : Ref) (v : Value) : Prop where
  callable : i.heap.isCallable f = true
  copies : ∀ h t r, i.heap.Extends h → i.heap.AddsNoClass h → h.Owes [] → h.Has t (.tuple [r]) → h.Holds v r →
    ∃ r' i' R, (library.call f [r] []).Yields { i with heap := h } r' i' ∧ h.Twins i'.heap R ∧ R r r' ∧
      i'.heap.Quiet [t, f, r']

/-- The module `copy` can be imported, and its attribute `deepcopy` copies the objects of the value. -/
def OffersCopies (library : Library) (i : Interpreter) (v : Value) : Prop :=
  ∃ m i₁ f i₂, (library.importModule "copy").Yields i m i₁ ∧
    (library.getAttribute m "deepcopy").Yields i₁ f i₂ ∧ library.Copies i₂ f v

end Library

/-! ## The call -/

namespace Call

variable {o : Owner} {m f : Ref} {i : Interpreter} {v : Value}

/-- The objects of a value are handed to the code that copies them, and what it gives are objects of the value
after the arguments were given up. -/
theorem run_object (action kind name : String) (calm : o.pending = none) (dateless : v.Dateless)
    (distinct : v.Distinct) (copies : o.library.Copies o.interpreter f v)
    (singles : o.interpreter.heap.HasSingletons) {refs : List Ref}
    (owes : o.interpreter.heap.Owes refs) :
    ∃ r o', (object f action kind name [v] none).run.run o = (.ok (.ok r), o') ∧ o'.pending = none ∧
      o'.interpreter.heap.Holds v r ∧ o'.interpreter.heap.Owes (r :: refs) ∧ o'.interpreter.heap.Quiet [f, r] := by
  obtain ⟨t, r, h, arguments, tuple, holds, extended, unclassed, owes'⟩ :=
    Job.run_toArguments_singleton dateless distinct singles owes
  obtain ⟨r', i', R, yields, twins, related, quiet⟩ := copies.copies h t r extended unclassed owes'.forget tuple holds
  have called : (withObjects f t none).run (o.withHeap h) =
      (.ok (.ok r'), { o.withHeap h with interpreter := i' }) := by
    unfold withObjects
    rw [Job.run_get_bind]
    refine Job.run_checkedCall calm ?_
    have positional : positionals h t = [r] := by rw [positionals, tuple.object]
    change (o.library.call f (positionals h t) []).run { o.interpreter with heap := h } = _
    rw [positional]
    exact yields.run
  have named : (namedArguments name none).run.run (o.withHeap h) = (.ok (.ok none), o.withHeap h) := rfl
  have copied : (namedArguments name none >>= fun named =>
      releasing named.toList (during action kind name (withObjects f t named))).run.run (o.withHeap h) =
        (.ok (.ok r'), { o.withHeap h with interpreter := i' }) := by
    rw [run_run_bind_of_ok named]
    refine (run_releasing [] (run_during action kind name called)).trans ?_
    rw [Owner.lettingGo_nil]
  have owed : i'.heap.Owes ([t] ++ r' :: refs) := (yields.owes owes').perm (List.Perm.swap t r' refs)
  have left : (i'.heap.releaseAll [t]).Holds v r' := (Heap.Holds.twin twins v r r' related holds).releaseAll owed
  obtain ⟨o', released, same, calm'⟩ : ∃ o', (releasing [t] (namedArguments name none >>= fun named =>
      releasing named.toList (during action kind name (withObjects f t named)))).run.run (o.withHeap h) =
        (.ok (.ok r'), o') ∧ o'.interpreter.heap = i'.heap.releaseAll [t] ∧ o'.pending = none := by
    have gone : ({ o.withHeap h with interpreter := i' } : Owner).lettingGo [t] = Owner.without _ [t] :=
      Owner.lettingGo_of_quiet (Heap.Quiet.of_append quiet)
    exact ⟨_, run_releasing [t] copied, by rw [gone]; rfl, by rw [gone]; exact calm⟩
  refine ⟨r', o', ?_, calm', same ▸ left, same ▸ owed.releaseAll, same ▸ Heap.Quiet.releaseAll quiet⟩
  unfold object
  rw [run_run_bind_of_ok (run_during _ _ _ arguments)]
  exact released

/-- An attribute that copies is called with a value, and the value is what comes back. -/
theorem run_member_toValue {text : String} (read : Value.parseJson text = .ok v) (name : String)
    (calm : o.pending = none) (found : (o.library.getAttribute m name).Yields o.interpreter f i)
    (copies : o.library.Copies i f v) (singles : o.interpreter.heap.HasSingletons) {refs : List Ref}
    (owes : o.interpreter.heap.Owes refs) :
    ∃ o', (member m "function" name [v] none >>= toValue name).run.run o = (.ok (.ok v), o') := by
  obtain ⟨j, -, document⟩ := Value.fromDocument_of_parseJson read
  have dateless := Value.dateless_of_plain document.plain
  obtain ⟨r, o₁, called, calm₁, holds, owes₁, quiet⟩ := run_object (o := { o with interpreter := i }) "call" "function"
    name calm dateless document.ordered.distinct copies (found.singles singles) (found.owes owes)
  -- The result outlives the function.
  have owed : o₁.interpreter.heap.Owes ([f] ++ r :: refs) := owes₁.perm (List.Perm.swap f r refs)
  have holds' := holds.releaseAll owed
  obtain ⟨result, o₂, converted, rfl, -⟩ := (Job.gives_fromObject
    (o := o₁.withHeap (o₁.interpreter.heap.releaseAll [f])) read calm₁ holds').exists_run
  have called' : (member m "function" name [v] none).run.run o =
      (.ok (.ok r), o₁.withHeap (o₁.interpreter.heap.releaseAll [f])) := by
    unfold member
    rw [run_run_bind_of_ok (run_callable name found.run copies.callable)]
    refine (run_releasing [f] called).trans ?_
    rw [Owner.lettingGo_of_quiet (Heap.Quiet.of_append quiet)]
    rfl
  have value : (ExceptT.mk (return (← Job.fromObject r).mapError (·.context "convert result of" "call" name)) :
      Call Value).run.run (o₁.withHeap (o₁.interpreter.heap.releaseAll [f])) = (.ok (.ok v), o₂) :=
    run_mapError_of_ok _ converted
  exact ⟨_, (run_run_bind_of_ok called').trans (run_releasing [r] value)⟩

end Call

/-! ## A library that copies lists -/

namespace Library

theorem copies_copying {i : Interpreter} (start : i.heap = imported.retain 3) (v : Value) : copying.Copies i 3 v where
  callable := by
    rw [start]
    rfl
  copies h t r extended unclassed _ _ holds := by
    have has : h.Has 3 (.function ⟨"copy", "deepcopy"⟩) := extended.has (by rw [start]; rfl)
    obtain ⟨r', i', yields, holds'⟩ := Computation.yields_copyList (i := { i with heap := h }) holds
    refine ⟨r', i', _, ⟨?_, yields.owes, yields.singles⟩, Heap.twins_holds h i'.heap, ⟨v, holds, holds'⟩, ?_⟩
    · exact (run_call_copying has [r] []).trans yields.run
    · have copied := Computation.addsNoClass_copyList r { i with heap := h }
      rw [yields.run] at copied
      have lacking (q : Ref) : i.heap.finalizer? q = none := by
        rw [start]
        exact (Heap.addsNoClass_retain imported 3).finalizer? (finalizer?_imported q)
      exact Heap.quiet_of_forall (fun q => (unclassed.trans copied).finalizer? (lacking q)) _

/-- The library copies the objects of every value, in an interpreter that has just started. -/
theorem offersCopies_copying {i : Interpreter} (start : i.heap = .initial) (empty : i.modules = []) (v : Value) :
    copying.OffersCopies i v :=
  ⟨4, _, 3, _, yields_importModule_copying start empty, yields_getAttribute_copying rfl, copies_copying rfl v⟩

end Library

namespace CommandLine

variable {text : String} {v : Value} {h : Host}

/-! ## The command -/

theorem run_attempt {α : Type} {code : Action (Except CallError α)} {a : α} {h' : Host}
    (run : code.run h = (.ok (.ok a), h')) : (attempt code).run.run h = (.ok (.ok a), h') :=
  run_mapError_of_ok _ run

theorem run_attemptFor {α : Type} (what : String) {code : Action (Except CallError α)} {a : α} {h' : Host}
    (run : code.run h = (.ok (.ok a), h')) : (attemptFor what code).run.run h = (.ok (.ok a), h') :=
  run_mapError_of_ok _ run

theorem run_lift {α : Type} {code : Action α} {a : α} {h' : Host} (run : code.run h = (.ok a, h')) :
    (ExceptT.lift code : Step α).run.run h = (.ok (.ok a), h') := by
  have unfolded : (ExceptT.lift code : Step α).run.run h = (code >>= fun a => pure (.ok a) : Action _).run h := rfl
  rw [unfolded, run_bind, run]
  rfl

theorem run_liftExcept {α : Type} (result : Except Failure α) (h : Host) :
    (liftExcept result : Step α).run.run h = (.ok result, h) := by
  cases result <;> rfl

theorem run_liftM {α : Type} (result : Except Failure α) (h : Host) :
    (liftM result : Step α).run.run h = (.ok result, h) := by
  cases result <;> rfl

/-- A document is copied on a host that rests. -/
theorem run_copyDocument (rests : h.Rests) (calm : h.owner.pending = none)
    (singles : h.owner.interpreter.heap.HasSingletons) (owes : h.owner.interpreter.heap.Owes [])
    (read : Value.parseJson text = .ok v) (offers : h.owner.library.OffersCopies h.owner.interpreter v) :
    ∃ h', (copyDocument text).run.run h = (.ok (.ok v), h') ∧ h'.broker.stage = .running ∧ h'.insideJob = false := by
  obtain ⟨m, i₁, f, i₂, imported, found, copies⟩ := offers
  obtain ⟨h₁, loaded, owner, rests₁⟩ := Module.run_load rests imported.run
  obtain ⟨o₂, called⟩ := Call.run_member_toValue (o := { h.owner with interpreter := i₁ }) read "deepcopy" calm found
    copies (imported.singles singles) (imported.owes owes)
  rw [← owner] at called
  obtain ⟨h₂, copied, -, rests₂⟩ : ∃ h', (Module.call ⟨"copy", .of m⟩ "deepcopy" [v]).run h₁ =
      (.ok (.ok v), h') ∧ h'.owner = o₂ ∧ h'.Rests := Action.run_runCall rests₁ "deepcopy" called
  obtain ⟨h₃, dropped, running, outside, -⟩ := Handle.run_dropping (run_attempt copied) rests₂ m
  refine ⟨h₃, ?_, running, outside⟩
  unfold copyDocument
  rw [read]
  exact ((run_run_bind_of_ok (run_liftM (.ok v) h)).trans (run_run_bind_of_ok (run_attempt loaded))).trans dropped

/-- What is no document is refused, before anything is done. -/
theorem run_copyDocument_refused {e : Json.ReadError} (refused : Value.parseJson text = .error e) (h : Host) :
    (copyDocument text).run.run h = (.ok (.error ⟨"input is not valid JSON", [e.message]⟩), h) := by
  unfold copyDocument
  rw [refused]
  rfl

/-! ## The command line -/

/-- The command without any options. -/
def asked (text : String) : Options := ⟨none, [], 0, .evalJson text⟩

/-- After a separator every text reaches the command, also one that begins with a dash. -/
theorem ofTexts_separated (text : String) : Options.ofTexts ["eval-json", "--", text] = .ok (asked text) := rfl

/-- Without a separator a text does that is plain by its first characters. -/
theorem ofTexts_plain {text : String} (plain : Form.of text = .plain) :
    Options.ofTexts ["eval-json", text] = .ok (asked text) := by
  have before : readTop {} none ["eval-json", text] = .ok ({}, "eval-json", [text]) := rfl
  have after : readLevel .evalJson {} none [text] = .ok { texts := [text] } := by
    simp only [readLevel, plain]
    rfl
  rw [Options.ofTexts, before]
  change (readLevel .evalJson {} none [text] >>= _) = _
  rw [after]
  rfl

/-- What the program leaves behind of what a command gives. -/
def Outcome.ofResult : Except Failure Value → Outcome
  | .ok v => ⟨0, v.jsonText ++ "\n", ""⟩
  | .error f => ⟨1, "", f.text ++ "\n"⟩

section

variable {o : Options} {config : Config} {h' h'' : Host}

/-- A session that has started runs the command and is ended. -/
theorem run_run {result : Except Failure Value}
    (started : (Action.startSession (o.extend config)).run h = (.ok (.ok ()), h'))
    (run : o.command.value.run.run h' = (.ok result, h'')) (running : h''.broker.stage = .running)
    (outside : h''.insideJob = false) : ((o.run (.ok config)).run.run h).1 = .ok result := by
  obtain ⟨h₃, terminated⟩ : ∃ h₃, Action.terminate.run h'' = (.ok (.ok ()), h₃) :=
    ⟨_, Process.run_terminate outside running⟩
  have ended : (do return (← Action.terminate).mapError CallError.broker : Action (Except CallError Unit)).run h'' =
      (.ok (.ok ()), h₃) := run_mapError_of_ok _ terminated
  have whole : (o.run (.ok config)).run.run h = (.ok result, h₃) :=
    ((run_run_bind_of_ok (run_liftM (.ok config) h)).trans
      (run_run_bind_of_ok (run_attemptFor _ started))).trans
      (((run_run_bind_of_ok (run_lift run)).trans (run_run_bind_of_ok (run_attempt ended))).trans
        (run_liftExcept result h₃))
  rw [whole]

theorem outcome_of_run {texts : List String} {environment : Option String} {read : String → Config.FileContent}
    (parsed : Options.ofTexts texts = .ok o) (configured : o.configuration environment read = .ok config)
    {result : Except Failure Value} (run : ((o.run (.ok config)).run.run h).1 = .ok result) :
    outcome texts environment read h = .ofResult result := by
  rw [outcome, parsed]
  dsimp only
  rw [configured, Options.outcome, run]
  cases result <;> rfl

end

/-- The command `eval-json` with a document prints the document on one line, which is read as the same value,
down to the types of its numbers and the code points of its strings, if the library's copies are equal to what
they are copies of.  With any other text it fails, and the command does nothing to the host. -/
theorem outcome_evalJson {texts : List String} {environment : Option String} {read : String → Config.FileContent}
    {o : Options} {text : String} {config : Config} {s : Surroundings} {h : Host} {outside : Ref → Nat}
    (parsed : Options.ofTexts texts = .ok o) (command : o.command = .evalJson text)
    (configured : o.configuration environment read = .ok config)
    (started : (Action.startSession (o.extend config)).run { surroundings := s } = (.ok (.ok ()), h))
    (consistent : s.interpreter.heap.Consistent outside) (singles : s.interpreter.heap.HasSingletons) :
    (∀ v, Value.parseJson text = .ok v → s.library.OffersCopies h.owner.interpreter v →
      outcome texts environment read { surroundings := s } = ⟨0, v.jsonText ++ "\n", ""⟩ ∧
        '\n' ∉ v.jsonText.toList ∧ Value.parseJson v.jsonText = .ok v) ∧
    ∀ e, Value.parseJson text = .error e →
      outcome texts environment read { surroundings := s } =
          ⟨1, "", Failure.text ⟨"input is not valid JSON", [e.message]⟩ ++ "\n"⟩ ∧
        ∀ h', o.command.value.run.run h' = (.ok (.error ⟨"input is not valid JSON", [e.message]⟩), h') := by
  obtain ⟨rests, fresh⟩ := Action.rests_of_startSession started
  refine ⟨fun v document offers => ?_, fun e refused => ?_⟩
  · rw [← fresh.library] at offers
    rw [← fresh.heap] at consistent singles
    obtain ⟨h', copied, running, inside⟩ :=
      run_copyDocument rests fresh.calm singles consistent.owes document offers
    have run : o.command.value.run.run h = (.ok (.ok v), h') := by
      rw [command]
      exact copied
    obtain ⟨j, fits, read⟩ := Value.fromDocument_of_parseJson document
    have again := Value.parseJson_jsonText_of_le read.ordered (read.nesting ▸ fits)
    rw [Value.normalized_of_plain read.plain] at again
    exact ⟨outcome_of_run parsed configured (run_run started run running inside),
      Json.newline_notMem_compact v.toJson, again⟩
  · have nothing (h' : Host) :
        o.command.value.run.run h' = (.ok (.error ⟨"input is not valid JSON", [e.message]⟩), h') := by
      rw [command]
      exact run_copyDocument_refused refused h'
    exact ⟨outcome_of_run parsed configured (run_run started (nothing h) rests.running rests.outside), nothing⟩

/-! ### A list -/

/-- A list with an integer, a float and a text. -/
def sample : Value := .array [.int 1, .float ⟨0x8000000000000000⟩, .string "é\n"]

theorem jsonText_sample : sample.jsonText = "[1,-0.0,\"é\\n\"]" := by decide +kernel

theorem parseJson_sample : Value.parseJson "[1,-0.0,\"é\\n\"]" = .ok sample := by
  have plain : sample.Plain := ⟨trivial, (by decide : Binary64.isFinite _ = true), trivial, trivial⟩
  have read := Value.parseJson_jsonText_of_le (v := sample) ⟨trivial, trivial, trivial, trivial⟩ (by decide)
  rwa [Value.normalized_of_plain plain, jsonText_sample] at read

/-- A process with a library that copies lists. -/
def copyingProcess : Surroundings := { library := .copying }

/-- The process once the session has started with the default configuration. -/
def copyingHost : Host := ((Action.startSession {}).run { surroundings := copyingProcess }).2

/-- The list is printed as it is, and a list that does not end is refused. -/
theorem outcome_evalJson_sample :
    outcome ["eval-json", "[1,-0.0,\"é\\n\"]"] none (fun _ => .error "") { surroundings := copyingProcess } =
        ⟨0, "[1,-0.0,\"é\\n\"]\n", ""⟩ ∧
      outcome ["eval-json", "[1"] none (fun _ => .error "") { surroundings := copyingProcess } =
        ⟨1, "", Failure.text ⟨"input is not valid JSON", ["EOF while parsing a list at line 1 column 2"]⟩ ++ "\n"⟩ := by
  have configured (text : String) : (asked text).configuration none (fun _ => .error "") = .ok {} := rfl
  have started (text : String) : (Action.startSession ((asked text).extend {})).run { surroundings := copyingProcess } =
      (.ok (.ok ()), copyingHost) := by
    have default : (asked text).extend {} = {} := rfl
    rw [default]
    rfl
  have parsed := @ofTexts_plain "[1,-0.0,\"é\\n\"]" (by decide +kernel)
  have parsed' := @ofTexts_plain "[1" (by decide +kernel)
  obtain ⟨accepted, -⟩ :=
    outcome_evalJson parsed rfl (configured _) (started _) Heap.consistent_initial Heap.hasSingletons_initial
  obtain ⟨-, refused⟩ :=
    outcome_evalJson parsed' rfl (configured _) (started _) Heap.consistent_initial Heap.hasSingletons_initial
  obtain ⟨printed, -, -⟩ := accepted sample parseJson_sample (Library.offersCopies_copying rfl rfl sample)
  have words : (⟨.endInList, 1, 2⟩ : Json.ReadError).message = "EOF while parsing a list at line 1 column 2" := by
    decide +kernel
  obtain ⟨failed, -⟩ := refused ⟨.endInList, 1, 2⟩ rfl
  rw [jsonText_sample] at printed
  rw [words] at failed
  exact ⟨printed, failed⟩

end CommandLine

end InterpreterHost
