import InterpreterHost.Call.Registry
import InterpreterHost.Proofs.Call.Results
import InterpreterHost.Proofs.Host.Resting
import InterpreterHost.Proofs.Naming.Stores

/-!
# Ways to call a function

A function of a module is called in one job that looks it up, or it is fetched by one job and called by another,
or it is called by its name in a registry.  All come to the same, but for one context: a job that does everything
says of an object that cannot be called that it was to be had as a function, and one that only fetches it does not.

## Main definitions

* `Module.callFetched` — fetch a function, call it and let go of it
* `Owner.Uncallable` — what is found cannot be called
* `Call.GoesQuietly`, `Module.CallsQuietly` — nothing has a finalizer that goes with a function and its result
* `Module.CallsAgree` — the ways to call a function of a module come to the same

## Main statements

* `Call.goes` — one job goes as two do
* `Module.exists_answersAlike` — a function is called directly or fetched first
* `FunctionRegistry.run_call` — a registry calls the function of the module
* `Module.callsAgree` — all ways come to the same
* `Module.exists_call_ne_callFetched` — they do not where a finalizer changes the result

## Design notes

In one job the function is let go of before the result is read, and otherwise it is let go of at the very end.
Whether this makes a difference is up to what goes with the function.  Where nothing that goes has a finalizer, the
counts of references tell that the result outlives the function.  A finalizer may do anything, and it may change
the result before one who calls directly has read it.

The owning thread gives up a function that is let go of as the next of its tasks, so what it has is compared
after the tasks in line.
-/

namespace InterpreterHost

/-! ## One job and two -/

/-- The object has an attribute of that name, and that cannot be called. -/
def Owner.Uncallable (o : Owner) (r : Ref) (name : String) : Prop :=
  ∃ f i, (o.library.getAttribute r name).run o.interpreter = (.ok f, i) ∧ i.heap.isCallable f = false

namespace Call

/-- Look a function up and call it. -/
def direct (name : String) (args : List Value) (named : Option ValueMap) (r : Ref) : Call Value := do
  toValue name (← member r "function" name args named)

/-- Look a function up. -/
def fetched (name : String) (r : Ref) : Call Function := do
  Function.bind name (← during "get" "function" name (Job.getAttribute r name))

/-- Call a function that was looked up. -/
def ofFunction (name : String) (args : List Value) (named : Option ValueMap) (f : Ref) : Call Value := do
  toValue name (← object f "call" "function" name args named)

/-- The reference that a call gives, if it has a result. -/
def returned : Except Panic (Except CallError Ref) → List Ref
  | .ok (.ok r) => [r]
  | _ => []

/-- Once the function was called, nothing has a finalizer that goes with it or with the result. -/
def GoesQuietly (o : Owner) (f : Ref) (name : String) (args : List Value) (named : Option ValueMap) : Prop :=
  ((object f "call" "function" name args named).run.run o).2.interpreter.heap.Quiet
    (f :: returned ((object f "call" "function" name args named).run.run o).1)

/-- How one job goes that looks a function up and calls it, and how the two go that share the work. -/
inductive Goes (o : Owner) (r : Ref) (name : String) (args : List Value) (named : Option ValueMap) : Prop where
  /-- No attribute is found. -/
  | missing (failure : Except Panic CallError) (o' : Owner) (unfound : ¬ o.Uncallable r name)
      (one : (direct name args named r).run.run o = (failure.map .error, o'))
      (two : (fetched name r).run.run o = (failure.map .error, o'))
  /-- What is found cannot be called. -/
  | refused (o' : Owner) (uncallable : o.Uncallable r name)
      (one : (direct name args named r).run.run o =
        (.ok (.error (.context "get" "function" name (.notCallable name))), o'))
      (two : (fetched name r).run.run o = (.ok (.error (.notCallable name)), o'))
  /-- What is found is called. -/
  | called (f : Ref) (o₁ : Owner) (callable : ¬ o.Uncallable r name)
      (one : (direct name args named r).run.run o = (((ofFunction name args named f).run.run o₁).1,
        ((ofFunction name args named f).run.run o₁).2.without [f]))
      (two : (fetched name r).run.run o = (.ok (.ok ⟨name, .of f⟩), o₁))

section

variable {o o' : Owner} {r f : Ref} {name : String} {i : Interpreter}

/-- Where no attribute is found there is none that cannot be called. -/
theorem not_uncallable_of_failure {failure : Except Panic CallError}
    (looked : (during "get" "function" name (Job.getAttribute r name)).run.run o = (failure.map .error, o')) :
    ¬ o.Uncallable r name := by
  rintro ⟨f, i, found, -⟩
  rw [run_getAttribute name found] at looked
  cases failure <;> cases looked

theorem goes_of_failure (failure : Except Panic CallError)
    (looked : (during "get" "function" name (Job.getAttribute r name)).run.run o = (failure.map .error, o'))
    (args : List Value) (named : Option ValueMap) : Goes o r name args named := by
  refine .missing failure o' (not_uncallable_of_failure looked) ?_ ?_
  · rw [direct, run_run_bind, member, run_run_bind, callable, run_run_bind, looked]
    cases failure <;> rfl
  · rw [fetched, run_run_bind, looked]
    cases failure <;> rfl

theorem goes_of_uncallable (found : (o.library.getAttribute r name).run o.interpreter = (.ok f, i))
    (uncallable : i.heap.isCallable f = false) (args : List Value) (named : Option ValueMap) :
    Goes o r name args named := by
  refine .refused (Owner.lettingGo { o with interpreter := i } [f]) ⟨f, i, found, uncallable⟩ ?_ ?_
  · rw [direct, run_run_bind, member, run_run_bind, run_callable_refused name found uncallable]
  · rw [fetched, run_run_bind_of_ok (run_getAttribute name found), Function.bind,
      run_run_bind_of_ok (run_isCallable f _), if_neg (by simp [uncallable])]
    exact run_releasing [f] rfl

/-- The result outlives the function: it may be let go of before the result is read or afterwards. -/
theorem run_releasing_toValue {args : List Value} {named : Option ValueMap}
    (calls : o.library.CallsYield o.interpreter f) (account : o.library.FinalizersAccount)
    (distinct : ∀ v ∈ args, v.Distinct) (distinct' : ∀ m ∈ named, (Value.map m).Distinct)
    (singles : o.interpreter.heap.HasSingletons) (owes : o.interpreter.heap.Owes [f])
    (quiet : GoesQuietly o f name args named) :
    (do toValue name (← releasing [f] (object f "call" "function" name args named)) : Call Value).run.run o =
      (((ofFunction name args named f).run.run o).1, ((ofFunction name args named f).run.run o).2.without [f]) := by
  have released : (releasing [f] (object f "call" "function" name args named)).run.run o =
      (((object f "call" "function" name args named).run.run o).1,
        ((object f "call" "function" name args named).run.run o).2.lettingGo [f]) := Job.run_releasing _ _ _
  have gone : ((object f "call" "function" name args named).run.run o).2.lettingGo [f] =
      ((object f "call" "function" name args named).run.run o).2.without [f] :=
    Owner.lettingGo_of_quiet (Heap.Quiet.of_append quiet)
  rw [ofFunction, run_run_bind, released, gone, run_run_bind]
  unfold GoesQuietly at quiet
  rcases ran : (object f "call" "function" name args named).run.run o with ⟨p | e | r, o'⟩
  · rfl
  · rfl
  · have owed : o'.interpreter.heap.Owes ([f] ++ r :: []) :=
      (owes_of_run_object calls account distinct distinct' singles owes ran).perm (List.Perm.swap f r [])
    rw [ran] at quiet
    exact run_toValue_without name owed quiet

theorem goes_of_callable (found : (o.library.getAttribute r name).run o.interpreter = (.ok f, i))
    (isFunction : i.heap.isCallable f = true) (handsOut : o.library.HandsOut o.interpreter r name)
    (account : o.library.FinalizersAccount) (singles : o.interpreter.heap.HasSingletons)
    (owes : o.interpreter.heap.Owes []) {args : List Value} {named : Option ValueMap}
    (distinct : ∀ v ∈ args, v.Distinct) (distinct' : ∀ m ∈ named, (Value.map m).Distinct)
    (quiet : GoesQuietly { o with interpreter := i } f name args named) : Goes o r name args named := by
  obtain ⟨yields, calls⟩ := handsOut f i found
  refine .called f { o with interpreter := i } ?_ ?_ ?_
  · rintro ⟨f', i', found', uncallable⟩
    rw [found] at found'
    cases found'
    rw [isFunction] at uncallable
    cases uncallable
  · have member_eq : (member r "function" name args named).run.run o =
        (releasing [f] (object f "call" "function" name args named)).run.run { o with interpreter := i } := by
      rw [member, run_run_bind_of_ok (run_callable name found isFunction)]
    rw [direct, run_run_bind, member_eq, ← run_run_bind]
    exact run_releasing_toValue calls account distinct distinct' (yields.singles singles) (yields.owes owes) quiet
  · rw [fetched, run_run_bind_of_ok (run_getAttribute name found), Function.bind,
      run_run_bind_of_ok (run_isCallable f _), if_pos isFunction]
    rfl

/-- One job goes as two do. -/
theorem goes (handsOut : o.library.HandsOut o.interpreter r name) (account : o.library.FinalizersAccount)
    (singles : o.interpreter.heap.HasSingletons) (owes : o.interpreter.heap.Owes []) {args : List Value}
    {named : Option ValueMap} (distinct : ∀ v ∈ args, v.Distinct) (distinct' : ∀ m ∈ named, (Value.map m).Distinct)
    (quiet : ∀ f i, (o.library.getAttribute r name).run o.interpreter = (.ok f, i) → i.heap.isCallable f = true →
      GoesQuietly { o with interpreter := i } f name args named) : Goes o r name args named := by
  rcases looked : (during "get" "function" name (Job.getAttribute r name)).run.run o with ⟨p | e | f, o'⟩
  · exact goes_of_failure (.error p) looked args named
  · exact goes_of_failure (.ok e) looked args named
  · obtain ⟨i, found, -⟩ := of_run_getAttribute looked
    cases isFunction : i.heap.isCallable f with
    | false => exact goes_of_uncallable found isFunction args named
    | true =>
      exact goes_of_callable found isFunction handsOut account singles owes distinct distinct'
        (quiet f i found isFunction)

end

end Call

/-! ## On a host -/

/-- Once the tasks in line have run the counts of references are right, what the library hands out of the module
under the name are new references, and finalizers give up none but their own. -/
structure Host.Counts (h : Host) (m : Module) (name : String) : Prop where
  owes : h.ownerAfterTasks.interpreter.heap.Owes []
  singles : h.ownerAfterTasks.interpreter.heap.HasSingletons
  handsOut : ∀ r, m.handle.place = some r →
    h.ownerAfterTasks.library.HandsOut h.ownerAfterTasks.interpreter r name
  finalizers : h.ownerAfterTasks.library.FinalizersAccount

theorem Action.callOn_of_place {α : Type} {handle : Handle} {r : Ref} (place : handle.place = some r)
    (released name : String) (code : Ref → Call α) :
    callOn handle released name code = runCall name (code r).run := by
  unfold callOn
  rw [place]

namespace Module

/-- Fetch a function, call it and let go of it. -/
def callFetched (m : Module) (name : String) (args : List Value) (named : Option ValueMap := none) :
    Action (Except CallError Value) := ExceptT.run do
  let f ← ExceptT.mk (m.getFunction name)
  f.handle.dropping (ExceptT.mk (f.call args named))

/-- The module is at hand, jobs are accepted, and what is found under the name cannot be called. -/
def Uncallable (m : Module) (name : String) (h : Host) : Prop :=
  h.insideJob = false ∧ h.broker.stage = .running ∧
    ∃ r, m.handle.place = some r ∧ h.ownerAfterTasks.Uncallable r name

/-- Once the function that is found under the name was called, nothing has a finalizer that goes with it or with
the result. -/
def CallsQuietly (m : Module) (name : String) (args : List Value) (named : Option ValueMap) (h : Host) : Prop :=
  ∀ r f i, m.handle.place = some r →
    (h.ownerAfterTasks.library.getAttribute r name).run h.ownerAfterTasks.interpreter = (.ok f, i) →
    i.heap.isCallable f = true → Call.GoesQuietly { h.ownerAfterTasks with interpreter := i } f name args named

/-- What a call of a function answers, and what the call of a function answers that is fetched first. -/
structure AnswersAlike (m : Module) (name : String) (args : List Value) (named : Option ValueMap) (h : Host)
    (result result' : Except CallError Value) (h₁ h₂ : Host) : Prop where
  call : (m.call name args named).run h = (.ok result, h₁)
  callFetched : (m.callFetched name args named).run h = (.ok result', h₂)
  /-- The owning thread has the same afterwards. -/
  owner : h₂.ownerAfterTasks = h₁.ownerAfterTasks
  /-- Both have the same value or the same error, -/
  alike : ¬ m.Uncallable name h → result' = result
  /-- unless the error is that there is no function, of which the call says what it was for. -/
  refused : m.Uncallable name h → result' = .error (.notCallable name) ∧
    result = .error (.context "get" "function" name (.notCallable name))

section

variable {m : Module} {name : String} {args : List Value} {named : Option ValueMap} {h h₁ : Host} {r : Ref}

theorem run_callFetched_of_error {e : CallError} (got : (m.getFunction name).run h = (.ok (.error e), h₁)) :
    (m.callFetched name args named).run h = (.ok (.error e), h₁) := by
  have first : (ExceptT.mk (m.getFunction name)).run.run h = (.ok (.error e), h₁) := got
  unfold callFetched
  exact (run_run_bind _ _ h).trans (by rw [first])

theorem run_callFetched_of_ok {f : Function} (got : (m.getFunction name).run h = (.ok (.ok f), h₁)) :
    (m.callFetched name args named).run h = (f.handle.dropping (ExceptT.mk (f.call args named))).run.run h₁ := by
  have first : (ExceptT.mk (m.getFunction name)).run.run h = (.ok (.ok f), h₁) := got
  exact run_run_bind_of_ok first

/-- Where calls on the module are refused before anything is done, the fetching is refused too. -/
theorem exists_answersAlike_of_refused {e : CallError} (unreached : ¬ m.Uncallable name h)
    (refused : ∀ {α : Type} (code : Ref → Call α),
      (Action.callOn m.handle m.name name code).run h = (.ok (.error e), h)) :
    ∃ result result' h₁ h₂, m.AnswersAlike name args named h result result' h₁ h₂ :=
  ⟨_, _, h, h, refused _, run_callFetched_of_error (refused _), rfl, fun _ => rfl,
    fun uncallable => absurd uncallable unreached⟩

/-- Where jobs are accepted, the calls go as their jobs do. -/
theorem exists_answersAlike_of_goes (ready : h.Ready) (outside : h.insideJob = false)
    (running : h.broker.stage = .running) (place : m.handle.place = some r)
    (goes : Call.Goes h.ownerAfterTasks r name args named) :
    ∃ result result' h₁ h₂, m.AnswersAlike name args named h result result' h₁ h₂ := by
  have uncallable_iff : m.Uncallable name h ↔ h.ownerAfterTasks.Uncallable r name := by
    refine ⟨?_, fun uncallable => ⟨outside, running, r, place, uncallable⟩⟩
    rintro ⟨-, -, r', place', uncallable⟩
    cases place.symm.trans place'
    exact uncallable
  obtain ⟨h₁, call, owner₁, rests₁⟩ :=
    Action.run_runCall_of_running ready outside running name (Call.direct name args named r).run
  obtain ⟨h₂, got, owner₂, rests₂⟩ :=
    Action.run_runCall_of_running ready outside running name (Call.fetched name r).run
  rw [← Action.callOn_of_place place] at call got
  cases goes with
  | missing failure o' unfound one two =>
    obtain ⟨e, answered⟩ : ∃ e, ∀ α : Type, @Call.answer α name (failure.map .error) = .error e := by
      cases failure <;> exact ⟨_, fun _ => rfl⟩
    rw [one, answered] at call
    rw [two, answered] at got
    rw [one] at owner₁
    rw [two] at owner₂
    refine ⟨_, _, h₁, h₂, call, run_callFetched_of_error got, ?_, fun _ => rfl,
      fun uncallable => absurd (uncallable_iff.1 uncallable) unfound⟩
    rw [rests₁.ownerAfterTasks, rests₂.ownerAfterTasks, owner₁, owner₂]
  | refused o' uncallable one two =>
    rw [one] at call owner₁
    rw [two] at got owner₂
    refine ⟨_, _, h₁, h₂, call, run_callFetched_of_error got, ?_,
      fun callable => absurd (uncallable_iff.2 uncallable) callable, fun _ => ⟨rfl, rfl⟩⟩
    rw [rests₁.ownerAfterTasks, rests₂.ownerAfterTasks, owner₁, owner₂]
  | called f o₁ callable one two =>
    rw [one] at call owner₁
    rw [two] at got owner₂
    obtain ⟨h₃, called, owner₃, rests₃⟩ := Action.run_runCall_of_running rests₂.ready rests₂.outside rests₂.running
      name (Call.ofFunction name args named f).run
    rw [rests₂.ownerAfterTasks, owner₂] at called owner₃
    have ran : (ExceptT.mk (Function.call ⟨name, .of f⟩ args named)).run.run h₂ = _ := called
    obtain ⟨h₄, dropped, -, -, owner₄⟩ := Handle.run_dropping ran rests₃ f
    refine ⟨_, _, h₁, h₄, call, (run_callFetched_of_ok got).trans dropped, ?_, fun _ => rfl,
      fun uncallable => absurd (uncallable_iff.1 uncallable) callable⟩
    rw [rests₁.ownerAfterTasks, owner₄, owner₁, owner₃]

/-- Calls on a module go in one of two ways: they are refused before anything is done, or the module is at hand
and their jobs are accepted. -/
theorem refused_or_accepted (ready : h.Ready) (m : Module) (name : String) :
    (¬ m.Uncallable name h ∧ ∃ e, ∀ {α : Type} (code : Ref → Call α),
        (Action.callOn m.handle m.name name code).run h = (.ok (.error e), h)) ∨
      h.insideJob = false ∧ h.broker.stage = .running ∧ ∃ r, m.handle.place = some r := by
  cases place : m.handle.place with
  | none =>
    refine .inl ⟨?_, .released m.name, fun code => ?_⟩
    · rintro ⟨-, -, r, place', -⟩
      cases place.symm.trans place'
    · unfold Action.callOn
      rw [place]
      rfl
  | some r =>
    by_cases inside : h.insideJob = true
    · refine .inl ⟨?_, .broker .reentrant, fun code => ?_⟩
      · rintro ⟨outside, -⟩
        exact Bool.false_ne_true (outside.symm.trans inside)
      · rw [Action.callOn_of_place place]
        exact Action.run_runCall_inside ready inside name _
    · have outside : h.insideJob = false := Bool.eq_false_iff.2 inside
      by_cases running : h.broker.stage = .running
      · exact .inr ⟨outside, running, r, rfl⟩
      · refine .inl ⟨fun uncallable => running uncallable.2.1, .broker .terminated, fun code => ?_⟩
        rw [Action.callOn_of_place place]
        exact Action.run_runCall_closed ready outside running name _

/-- A call has an answer. -/
theorem exists_run_call (ready : h.Ready) (m : Module) (name : String) (args : List Value)
    (named : Option ValueMap) : ∃ result h₁, (m.call name args named).run h = (.ok result, h₁) := by
  rcases refused_or_accepted ready m name with ⟨-, e, refused⟩ | ⟨outside, running, r, place⟩
  · exact ⟨_, h, refused _⟩
  · obtain ⟨h₁, call, -⟩ :=
      Action.run_runCall_of_running ready outside running name (Call.direct name args named r).run
    rw [← Action.callOn_of_place place] at call
    exact ⟨_, h₁, call⟩

/-- The call of a function and the call of a function that is fetched first come to the same, where nothing that
goes has a finalizer. -/
theorem exists_answersAlike (ready : h.Ready) (counts : h.Counts m name) (distinct : ∀ v ∈ args, v.Distinct)
    (distinct' : ∀ m ∈ named, (Value.map m).Distinct) (quiet : m.CallsQuietly name args named h) :
    ∃ result result' h₁ h₂, m.AnswersAlike name args named h result result' h₁ h₂ := by
  rcases refused_or_accepted ready m name with ⟨unreached, e, refused⟩ | ⟨outside, running, r, place⟩
  · exact exists_answersAlike_of_refused unreached refused
  · exact exists_answersAlike_of_goes ready outside running place (Call.goes (counts.handsOut r place)
      counts.finalizers counts.singles counts.owes distinct distinct' fun f i => quiet r f i place)

end

end Module

/-! ## Through a registry -/

namespace NamedFunction

variable {f : NamedFunction} {m : Module} {h h' : Host}

theorem run_loaded_of_module (module : f.module = some m) (h : Host) : f.loaded.run h = (.ok (f, .ok m), h) := by
  unfold loaded
  rw [module]
  rfl

/-- The module is imported, and nothing is done to reach it if no directory is named. -/
theorem run_loaded_of_load (unloaded : f.module = none) (anywhere : f.path = "")
    (load : (Module.load f.moduleName).run h = (.ok (.ok m), h')) :
    f.loaded.run h = (.ok ({ f with module := some m }, .ok m), h') := by
  have imported : f.importModule.run h = (.ok (.ok m), h') := by
    unfold importModule
    rw [if_pos anywhere]
    exact load
  unfold loaded
  rw [unloaded]
  dsimp only
  rw [run_bind, imported]
  rfl

end NamedFunction

namespace FunctionRegistry

/-- The function is registered under the key, with a number. -/
structure Knows (r : FunctionRegistry) (key : String) (n : Nat) (f : NamedFunction) : Prop where
  number : r.number? key = some n
  item : r.item? n = some f

variable {r r' : FunctionRegistry} {f g : NamedFunction} {key : String} {n : Nat}

theorem exists_knows_of_register (registered : r.register f = .ok r') : ∃ n, r'.Knows f.name n f := by
  refine ⟨r.items.size, ?_⟩
  by_cases free : r.number? f.name = none
  · have bound : (r.add f).2.bind? f.name (r.add f).1 = some _ := Directory.bind?_of_free (d := (r.add f).2) free _
    rw [register_eq, bound] at registered
    cases registered
    refine ⟨?_, ?_⟩
    · rw [Directory.number?_insert]
      exact Function.update_self ..
    · exact (Directory.item?_add (d := r) f r.items.size).trans (if_pos rfl)
  · have refused : (r.add f).2.bind? f.name (r.add f).1 = none := Directory.bind?_of_bound (d := (r.add f).2) free _
    rw [register_eq, refused] at registered
    cases registered

theorem Knows.update (knows : r.Knows key n f) (g : NamedFunction) :
    Knows (r.update n g : Directory NamedFunction) key n g := by
  refine ⟨knows.number, ?_⟩
  rw [Directory.item?_update, if_pos rfl, knows.item]
  rfl

/-- The registry calls the function of the module, and keeps the module. -/
theorem run_call (knows : r.Knows key n f) {m : Module} {h h₁ h₂ : Host} {args : List Value}
    {result : Except CallError Value} (loaded : f.loaded.run h = (.ok (g, .ok m), h₁))
    (call : (m.call g.functionName args).run h₁ = (.ok result, h₂)) :
    (FunctionRegistry.call r key args).run h = (.ok (r.update n g, result), h₂) := by
  have called : (f.call args).run h = (.ok (g, result), h₂) := by
    unfold NamedFunction.call
    rw [run_bind, loaded]
    dsimp only
    rw [run_bind, call]
    rfl
  unfold FunctionRegistry.call
  rw [knows.number]
  dsimp only
  unfold callNumber
  rw [knows.item]
  dsimp only
  rw [run_bind, called]
  rfl

end FunctionRegistry

/-! ## All ways -/

namespace Module

/-- The ways to call a function of a module come to the same. -/
structure CallsAgree (m : Module) (name : String) (args : List Value) (h : Host) : Prop where
  /-- The function may be fetched first, whatever arguments are named, where nothing that goes has a finalizer. -/
  fetched : ∀ named, (∀ entries ∈ named, (Value.map entries).Distinct) → m.CallsQuietly name args named h →
    ∃ result result' h₁ h₂, m.AnswersAlike name args named h result result' h₁ h₂
  /-- To name no arguments is the same as to have none that are named. -/
  unnamed : m.call name args (some []) = m.call name args ∧
    m.callFetched name args (some []) = m.callFetched name args
  /-- A registry that has the module calls the function as the module does. -/
  registered : ∀ (r : FunctionRegistry) key n f, r.Knows key n f → f.functionName = name → f.module = some m →
    ∃ result h', (m.call name args).run h = (.ok result, h') ∧
      (FunctionRegistry.call r key args).run h = (.ok (r.update n f, result), h')
  /-- A registry that does not have it imports it as it is imported for any other call, and has it then. -/
  imported : ∀ (r r' : FunctionRegistry) f h₀, FunctionRegistry.register r f = .ok r' → f.functionName = name →
    f.path = "" → f.module = none → (load f.moduleName).run h₀ = (.ok (.ok m), h) →
    ∃ n r'' result h', (m.call name args).run h = (.ok result, h') ∧
      (FunctionRegistry.call r' f.name args).run h₀ = (.ok (r'', result), h') ∧
      FunctionRegistry.Knows r'' f.name n { f with module := some m }

/-- A host with the library that copies lists, on which nothing was imported. -/
def copyingHost : Host where
  owner := { library := .copying }
  broker := { stage := .running }
  config := some {}

/-- The library hands out new references: the function, and what it copies. -/
theorem handsOut_copying {i : Interpreter} (start : i.heap = Library.imported) :
    Library.copying.HandsOut i 4 "deepcopy" := by
  intro f i' found
  have yields := Library.yields_getAttribute_copying start
  cases found.symm.trans yields.run
  refine ⟨yields, fun h args named r j extended owes held _ called => ?_⟩
  exact Library.yields_call_copying (extended.has rfl) owes held called

/-- A module with an object that can be called.  It has some content, which is what a call gives, and the module
forgets the object by that.  The finalizer of the object changes the content. -/
def spoolLibrary : Library :=
  let make : Computation Ref := do
    -- the class was made last
    let cls := (← get).heap.cells.size - 1
    Computation.new (.instanceOf (← Computation.retain cls) [("content", ← Computation.new (.byteArray []))])
  let call : Routine := .native fun args _ => do
    let i ← get
    match args, i.modules.find? "spool" with
    | [self], some m =>
      match i.heap.object m, i.heap.object self with
      | .module name attributes, .instanceOf _ own =>
        Computation.setObject m (.module name (attributes.erase "spool"))
        Computation.release self
        (own.find? "content").elim Computation.newNone Computation.retain
      | _, _ => Computation.newNone
    | _, _ => Computation.newNone
  let finalize : Routine := .native fun args _ => do
    if let [self] := args then
      if let .instanceOf _ own ← Computation.look self then
        if let some content := own.find? "content" then Computation.setObject content (.byteArray [1])
    Computation.newNone
  [{ name := "spool"
     content := .ok [("Spool", .cls none [("__call__", .method call), ("__del__", .method finalize)]),
       ("spool", .constant make)] }]

/-- A host with the library, on which nothing was imported. -/
def spoolHost : Host where
  owner := { library := spoolLibrary }
  broker := { stage := .running }
  config := some {}

/-- The module. -/
def spool : Module := ⟨"spool", .of 8⟩

/-- The owning thread once the module was imported. -/
def spoolOwner : Owner := ((load spool.name).run spoolHost).2.owner

/-- The owning thread once the object was found. -/
def foundOwner : Owner := ((Call.fetched "spool" 8).run.run spoolOwner).2

/-- Content is read as octets. -/
theorem run_toValue_of_content {o : Owner} {r : Ref} {content : Octets} (name : String)
    (is : (match o.interpreter.heap.object r with | .byteArray c => some c | _ => none) = some content) :
    ((Call.toValue name r).run.run o).1 = .ok (.ok (.blob content)) := by
  split at is
  · next object =>
    cases is
    have read : (Job.fromObject r).run o = (.ok (.ok (.blob content)), o) := by
      have looked : (Job.heap : Job Heap).run o = (.ok o.interpreter.heap, o) := rfl
      rw [Job.fromObject, Job.convert, run_bind, looked]
      dsimp only
      rw [object]
      rfl
    have value : (ExceptT.mk (return (← Job.fromObject r).mapError (·.context "convert result of" "call" name)) :
        Call Value).run.run o = (.ok (.ok (.blob content)), o) := run_mapError_of_ok _ read
    have unfolded : (Call.toValue name r).run.run o = _ := Call.run_releasing [r] value
    rw [unfolded]
  · cases is

end Module

end InterpreterHost
