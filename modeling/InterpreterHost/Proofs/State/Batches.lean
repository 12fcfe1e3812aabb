import Mathlib.Control.Monad.Basic
import Mathlib.Data.List.Basic
import InterpreterHost.Proofs.Host.Ready
import InterpreterHost.State.Model

/-!
# Batches of a model

The rows that are written to a model are handed to its `fit` in batches.  Each row is in one batch,
the batches have the same size and follow one another as the rows do, and what is done to the model
besides writing does not matter to them until the model ends.

## Main definitions

* `Model.block?` — the rows that a write hands to `fit`
* `Model.Use`, `Model.Event` — what is done to a model besides writing, what is done at all
* `Model.Runs` — what may become of a model, while the process does other things too
* `Model.Filling` — the invariant: the rows are those of the batches, and fewer than a batch
* `Model.Batched` — what is known of the batches, and of the next thing that is done

## Main statements

* `Model.of_write`, `Model.of_perform` — what one thing that is done leaves of the model
* `Model.filling` — the invariant holds always
* `Model.batched` — what is known of a model that was made
-/

namespace InterpreterHost

/-! ## Blocks of one size -/

section

variable {α : Type} {size : Nat} {blocks : List (List α)} {last : List α}

theorem length_flatten_of_full (full : ∀ block ∈ blocks, block.length = size) :
    blocks.flatten.length = blocks.length * size := by
  induction blocks with
  | nil => simp
  | cons block blocks ih =>
    rw [List.forall_mem_cons] at full
    rw [List.flatten_cons, List.length_append, full.1, ih full.2, List.length_cons, Nat.succ_mul, Nat.add_comm]

theorem length_div_of_full (full : ∀ block ∈ blocks, block.length = size) (room : last.length < size) :
    (blocks.flatten ++ last).length / size = blocks.length := by
  rw [List.length_append, length_flatten_of_full full, Nat.mul_comm,
    Nat.mul_add_div (Nat.zero_lt_of_lt room), Nat.div_eq_of_lt room, Nat.add_zero]

theorem length_mod_of_full (full : ∀ block ∈ blocks, block.length = size) (room : last.length < size) :
    (blocks.flatten ++ last).length % size = last.length := by
  rw [List.length_append, length_flatten_of_full full, Nat.mul_comm, Nat.mul_add_mod,
    Nat.mod_eq_of_lt room]

/-- Blocks of one size, with fewer elements than that after them, are the consecutive blocks of all the
elements. -/
theorem blocks_eq_of_full (full : ∀ block ∈ blocks, block.length = size) (room : last.length < size) :
    blocks = (List.range ((blocks.flatten ++ last).length / size)).map fun k =>
      ((blocks.flatten ++ last).drop (k * size)).take size := by
  rw [length_div_of_full full room]
  induction blocks with
  | nil => rfl
  | cons block blocks ih =>
    rw [List.forall_mem_cons] at full
    have next (k : Nat) : ((block :: blocks).flatten ++ last).drop ((k + 1) * size) =
        (blocks.flatten ++ last).drop (k * size) := by
      rw [List.flatten_cons, List.append_assoc, Nat.succ_mul, Nat.add_comm, ← List.drop_drop,
        ← full.1, List.drop_left]
    rw [List.length_cons, List.range_succ_eq_map, List.map_cons, List.map_map]
    congr 1
    · rw [Nat.zero_mul, List.drop_zero, List.flatten_cons, List.append_assoc, ← full.1, List.take_left]
    · refine (ih full.2).trans (List.map_congr_left fun k _ => ?_)
      rw [Function.comp_apply, Nat.succ_eq_add_one, next]

end

namespace Model

open InterpreterHost.Action

variable {m m' : Model} {h h' : Host} {row : Value}

/-! ## Writing -/

/-- The rows that a write hands to `fit`: those that are collected and this one, if they make a batch. -/
def block? (m : Model) (row : Value) : Option (List Value) :=
  if m.isTerminated = true ∨ m.rows.length + 1 < m.params.batchSize then none else some (m.rows ++ [row])

/-- Hand rows to `fit`, and forget those that were collected. -/
def handing (m : Model) (rows : List Value) : Action (Model × Except StateError (Option Value)) := do
  match ← m.fit rows with
  | .error e => return ({ m with rows := [] }, .error e)
  | .ok result =>
    m.logProgress result
    return ({ m with rows := [] }, .ok (some result))

theorem write_of_isTerminated (ended : m.isTerminated = true) (row : Value) :
    m.write row = return (m, .error .alreadyTerminated) := by
  simp only [write, ended, if_true]

theorem write_of_lt (alive : m.isTerminated = false) (room : m.rows.length + 1 < m.params.batchSize)
    (row : Value) : m.write row = return ({ m with rows := m.rows ++ [row] }, .ok none) := by
  simp only [write, alive, Bool.false_eq_true, if_false, List.length_append, List.length_singleton, room,
    if_true]

theorem write_of_le (alive : m.isTerminated = false) (full : m.params.batchSize ≤ m.rows.length + 1)
    (row : Value) : m.write row = m.handing (m.rows ++ [row]) := by
  have enough : ¬ (m.rows ++ [row]).length < m.params.batchSize := by
    rw [List.length_append, List.length_singleton]
    exact Nat.not_lt.2 full
  change (if m.isTerminated = true then _ else
    if (m.rows ++ [row]).length < m.params.batchSize then _ else m.handing (m.rows ++ [row])) = _
  rw [if_neg (by simp [alive]), if_neg enough]

/-- Handing rows to `fit` gives what `fit` gives, and forgets the rows that were collected. -/
theorem of_handing {rows : List Value} {answer : Except StateError (Option Value)}
    (run : (m.handing rows).run h = (.ok (m', answer), h')) : m' = { m with rows := [] } := by
  obtain ⟨fitted, h₁, -, run⟩ := of_run_bind run
  cases fitted with
  | error e =>
    cases run
    rfl
  | ok result =>
    obtain ⟨_, h₂, -, run⟩ := of_run_bind run
    cases run
    rfl

/-- What a write leaves of the model, and what it hands to `fit`. -/
theorem of_write {answer : Except StateError (Option Value)}
    (run : (m.write row).run h = (.ok (m', answer), h')) :
    (m.isTerminated = true ∧ m.block? row = none ∧ m' = m) ∨
      (m.isTerminated = false ∧ m.rows.length + 1 < m.params.batchSize ∧ m.block? row = none ∧
        m' = { m with rows := m.rows ++ [row] }) ∨
      (m.isTerminated = false ∧ m.params.batchSize ≤ m.rows.length + 1 ∧
        m.block? row = some (m.rows ++ [row]) ∧ m' = { m with rows := [] }) := by
  cases ended : m.isTerminated with
  | true =>
    rw [write_of_isTerminated ended] at run
    cases run
    exact .inl ⟨rfl, if_pos (.inl ended), rfl⟩
  | false =>
    by_cases room : m.rows.length + 1 < m.params.batchSize
    · rw [write_of_lt ended room] at run
      cases run
      exact .inr (.inl ⟨rfl, room, if_pos (.inr room), rfl⟩)
    · have full := Nat.not_lt.1 room
      rw [write_of_le ended full] at run
      have still : ¬ (m.isTerminated = true ∨ m.rows.length + 1 < m.params.batchSize) := by
        simp [ended, room]
      exact .inr (.inr ⟨rfl, full, if_neg still, of_handing run⟩)

/-! ## Other uses -/

/-- What can be done to a model besides writing. -/
inductive Use where
  | fit (rows : List Value)
  | fitMaps (rows : List ValueMap)
  | predict (v : Value)
  | call (method : String) (args : List Value)
  | save (sink : Sink)
  | load (source : Source)
  | terminate

/-- Do something to the model, for what it leaves of it. -/
def perform (m : Model) : Use → Action Model
  | .fit rows => do
    let _ ← m.fit rows
    return m
  | .fitMaps rows => do
    let _ ← m.fit (rows.map .map)
    return m
  | .predict v => do
    let _ ← m.predict v
    return m
  | .call method args => do
    let _ ← m.call method args
    return m
  | .save sink => do
    let _ ← m.save sink
    return m
  | .load source => do
    let _ ← m.load source
    return m
  | .terminate => return (← m.terminate).1

theorem of_terminate {result : Except StateError Unit}
    (run : m.terminate.run h = (.ok (m', result), h')) : m' = { m with rows := [], object := none } := by
  unfold terminate at run
  cases object : m.object with
  | none =>
    rw [object] at run
    cases run
    rfl
  | some i =>
    rw [object] at run
    obtain ⟨released, h₁, -, run⟩ := of_run_bind run
    cases run
    rfl

/-- Only the end of the model touches the rows that are collected. -/
theorem of_perform {u : Use} (run : (m.perform u).run h = (.ok m', h')) :
    (u ≠ .terminate ∧ m' = m) ∨ (u = .terminate ∧ m' = { m with rows := [], object := none }) := by
  cases u with
  | terminate =>
    obtain ⟨⟨ended, result⟩, h₁, first, run⟩ := of_run_bind run
    cases run
    exact .inr ⟨rfl, of_terminate first⟩
  | fit | fitMaps | predict | call | save | load =>
    obtain ⟨result, h₁, -, run⟩ := of_run_bind run
    cases run
    exact .inl ⟨by simp, rfl⟩

/-! ## What may become of a model -/

/-- What is done to a model. -/
inductive Event where
  /-- A row was written, and these rows were handed to `fit`. -/
  | wrote (row : Value) (handed : Option (List Value))
  | used (u : Use)

/-- The rows that were written before the model was terminated. -/
def written : List Event → List Value
  | [] => []
  | .wrote row _ :: events => row :: written events
  | .used .terminate :: _ => []
  | .used _ :: events => written events

/-- The rows that writes handed to `fit`, block by block. -/
def blocks (events : List Event) : List (List Value) :=
  events.filterMap fun
    | .wrote _ handed => handed
    | .used _ => none

/-- What may become of a model and of the host.  Between two things that are done to the model the
process may do anything, as long as the session goes on. -/
inductive Runs (made : Model) (h₀ : Host) : List Event → Model → Host → Prop
  | start : Runs made h₀ [] made h₀
  | write {events : List Event} {m m' : Model} {h h' : Host} {row : Value}
      {answer : Except StateError (Option Value)} (before : Runs made h₀ events m h)
      (run : (m.write row).run h = (.ok (m', answer), h')) :
      Runs made h₀ (events ++ [.wrote row (m.block? row)]) m' h'
  | use {events : List Event} {m m' : Model} {h h' : Host} {u : Use} (before : Runs made h₀ events m h)
      (run : (m.perform u).run h = (.ok m', h')) : Runs made h₀ (events ++ [.used u]) m' h'
  | elsewhere {events : List Event} {m : Model} {h h' : Host} (before : Runs made h₀ events m h)
      (ready : h'.Ready) : Runs made h₀ events m h'

theorem blocks_append (events : List Event) (row : Value) (handed : Option (List Value)) :
    blocks (events ++ [.wrote row handed]) = blocks events ++ handed.toList := by
  cases handed <;> simp [blocks]

theorem blocks_append_used (events : List Event) (u : Use) : blocks (events ++ [.used u]) = blocks events := by
  simp [blocks]

/-- What is done once the model was terminated does not count. -/
theorem written_append_of_mem {events : List Event} (ended : .used .terminate ∈ events) (more : List Event) :
    written (events ++ more) = written events := by
  induction events with
  | nil => cases ended
  | cons event events ih =>
    cases event with
    | wrote row handed =>
      have later : .used .terminate ∈ events := by simpa using ended
      rw [List.cons_append, written, written, ih later]
    | used u =>
      cases u with
      | terminate => rfl
      | fit | fitMaps | predict | call | save | load =>
        have later : .used .terminate ∈ events := by simpa using ended
        exact ih later

theorem written_append_of_notMem {events : List Event} (alive : .used .terminate ∉ events)
    (more : List Event) : written (events ++ more) = written events ++ written more := by
  induction events with
  | nil => rfl
  | cons event events ih =>
    rw [List.mem_cons, not_or] at alive
    cases event with
    | wrote row handed => rw [List.cons_append, written, written, ih alive.2, List.cons_append]
    | used u =>
      cases u with
      | terminate => exact absurd rfl alive.1
      | fit | fitMaps | predict | call | save | load => exact ih alive.2

theorem written_append_used (events : List Event) (u : Use) : written (events ++ [.used u]) = written events := by
  by_cases ended : Event.used .terminate ∈ events
  · exact written_append_of_mem ended _
  · rw [written_append_of_notMem ended]
    cases u <;> exact List.append_nil _

theorem terminate_mem_append_wrote {events : List Event} {row : Value} {handed : Option (List Value)} :
    Event.used .terminate ∈ events ++ [.wrote row handed] ↔ Event.used .terminate ∈ events := by
  simp

/-! ## The invariant -/

/-- After `events` the rows that were written are those of the blocks and fewer than a block, which are
collected as long as the model goes on. -/
structure Filling (size : Nat) (events : List Event) (m : Model) : Prop where
  batchSize : m.params.batchSize = size
  full : ∀ block ∈ blocks events, block.length = size
  ended : m.isTerminated = true ↔ .used .terminate ∈ events
  rows : ∃ last, written events = (blocks events).flatten ++ last ∧ last.length < size ∧
    m.rows = if m.isTerminated = true then [] else last

variable {size : Nat} {events : List Event}

theorem Filling.notMem (filling : Filling size events m) (alive : m.isTerminated = false) :
    Event.used .terminate ∉ events := by
  rw [← filling.ended, alive]
  exact Bool.false_ne_true

/-- As long as the model goes on what is collected is what the blocks have left. -/
theorem Filling.written_eq (filling : Filling size events m) (alive : m.isTerminated = false) :
    written events = (blocks events).flatten ++ m.rows ∧ m.rows.length < size := by
  obtain ⟨last, whole, room, collected⟩ := filling.rows
  rw [alive, if_neg Bool.false_ne_true] at collected
  rw [collected]
  exact ⟨whole, room⟩

/-- A write keeps the invariant. -/
theorem Filling.write {answer : Except StateError (Option Value)} (filling : Filling size events m)
    (run : (m.write row).run h = (.ok (m', answer), h')) :
    Filling size (events ++ [.wrote row (m.block? row)]) m' := by
  rcases of_write run with ⟨ended, handed, rfl⟩ | ⟨alive, room, handed, rfl⟩ | ⟨alive, le, handed, rfl⟩
  · -- the model has ended: the row is refused, and neither collected nor counted
    have mem := filling.ended.1 ended
    refine ⟨filling.batchSize, ?_, filling.ended.trans terminate_mem_append_wrote.symm, ?_⟩
    · rw [handed, blocks_append, Option.toList_none, List.append_nil]
      exact filling.full
    · rw [handed, blocks_append, Option.toList_none, List.append_nil, written_append_of_mem mem]
      exact filling.rows
  · -- there is room for the row, and it is collected
    obtain ⟨whole, -⟩ := filling.written_eq alive
    have counted : written (events ++ [.wrote row none]) = written events ++ [row] :=
      written_append_of_notMem (filling.notMem alive) _
    refine ⟨filling.batchSize, ?_, filling.ended.trans terminate_mem_append_wrote.symm,
      m.rows ++ [row], ?_, ?_, ?_⟩
    · rw [handed, blocks_append, Option.toList_none, List.append_nil]
      exact filling.full
    · rw [handed, blocks_append, Option.toList_none, List.append_nil, counted, whole, List.append_assoc]
    · rw [List.length_append, List.length_singleton, ← filling.batchSize]
      exact room
    · exact (if_neg (Bool.not_eq_true _ ▸ alive)).symm
  · -- the row makes the block full, which is no longer than that since the rows before were too few
    obtain ⟨whole, short⟩ := filling.written_eq alive
    have counted : written (events ++ [.wrote row (some (m.rows ++ [row]))]) = written events ++ [row] :=
      written_append_of_notMem (filling.notMem alive) _
    have exact : (m.rows ++ [row]).length = size := by
      rw [filling.batchSize] at le
      rw [List.length_append, List.length_singleton]
      omega
    refine ⟨filling.batchSize, ?_, filling.ended.trans terminate_mem_append_wrote.symm, [], ?_,
      Nat.zero_lt_of_lt short, (ite_self _).symm⟩
    · rw [handed, blocks_append, Option.toList_some, List.forall_mem_append, List.forall_mem_singleton]
      exact ⟨filling.full, exact⟩
    · rw [handed, blocks_append, Option.toList_some, counted, whole, List.flatten_append,
        List.flatten_singleton, List.append_assoc, List.append_nil]

/-- Other uses keep the invariant. -/
theorem Filling.use {u : Use} (filling : Filling size events m) (run : (m.perform u).run h = (.ok m', h')) :
    Filling size (events ++ [.used u]) m' := by
  have full : ∀ block ∈ blocks (events ++ [.used u]), block.length = size := by
    rw [blocks_append_used]
    exact filling.full
  obtain ⟨last, whole, room, collected⟩ := filling.rows
  have whole' : written (events ++ [.used u]) = (blocks (events ++ [.used u])).flatten ++ last := by
    rw [written_append_used, blocks_append_used, whole]
  rcases of_perform run with ⟨other, rfl⟩ | ⟨rfl, rfl⟩
  · refine ⟨filling.batchSize, full, ?_, last, whole', room, collected⟩
    simpa [Ne.symm other] using filling.ended
  · exact ⟨filling.batchSize, full, by simp [isTerminated], last, whole', room, by simp [isTerminated]⟩

/-- The invariant holds always. -/
theorem filling {made : Model} {h₀ : Host} (pos : 0 < made.params.batchSize) (fresh : made.rows = [])
    (alive : made.isTerminated = false) (runs : Runs made h₀ events m h) :
    Filling made.params.batchSize events m := by
  induction runs with
  | start =>
    refine ⟨rfl, by simp [blocks], by simp [alive], [], rfl, pos, ?_⟩
    rw [fresh, ite_self]
  | write before run ih => exact ih.write run
  | use before run ih => exact ih.use run
  | elsewhere before ready ih => exact ih

/-! ## Results -/

/-- A call of the object gives a result or an error. -/
theorem keeps_call {panics : Prop} (m : Model) (method : String) (args : List Value) :
    Keeps Host.Ready panics (m.call method args) := by
  unfold call
  split
  · exact keeps_bind (keeps_callOn _ _ _ _) fun _ => keeps_pure _
  · exact keeps_pure _

theorem keeps_logProgress {panics : Prop} (m : Model) (result : Value) :
    Keeps Host.Ready panics (m.logProgress result) := by
  unfold logProgress
  split
  · exact keeps_job Host.Ready.of_owner fun _ _ error => by cases error
  · exact keeps_pure _

theorem keeps_handing {panics : Prop} (m : Model) (rows : List Value) :
    Keeps Host.Ready panics (m.handing rows) := by
  refine keeps_bind (m.keeps_call _ _) fun fitted => ?_
  cases fitted with
  | error e => exact keeps_pure _
  | ok result => exact keeps_bind (m.keeps_logProgress result) fun _ => keeps_pure _

/-- The answer to handing rows to `fit` is what the method of the object answers. -/
theorem run_handing (ready : h.Ready) (alive : m.isTerminated = false) (rows : List Value) :
    ∃ i fitted h₁ h', m.object = some i ∧ (i.call "fit" [.array rows]).run h = (.ok fitted, h₁) ∧
      (m.fit rows).run h = (.ok (fitted.mapError .call), h₁) ∧
      (m.handing rows).run h = (.ok ({ m with rows := [] }, (fitted.mapError .call).map some), h') := by
  obtain ⟨i, live⟩ : ∃ i, m.object = some i := by
    cases object : m.object with
    | none => simp [isTerminated, object] at alive
    | some i => exact ⟨i, rfl⟩
  have keeps : Keeps Host.Ready False (i.call "fit" [.array rows]) := keeps_callOn _ _ _ _
  obtain ⟨fitted, h₁, run, ready₁⟩ := keeps.exists_run ready
  have fit : (m.fit rows).run h = (.ok (fitted.mapError .call), h₁) := by
    unfold Model.fit Model.call
    rw [live]
    exact run_bind_of_ok run
  refine ⟨i, fitted, h₁, ?_⟩
  unfold handing
  rw [run_bind_of_ok fit]
  cases fitted with
  | error e => exact ⟨h₁, live, run, fit, rfl⟩
  | ok result =>
    obtain ⟨_, h₂, logged, -⟩ := (m.keeps_logProgress result).exists_run ready₁
    exact ⟨h₂, live, run, fit, run_bind_of_ok logged⟩

theorem keeps_write {panics : Prop} (m : Model) (row : Value) : Keeps Host.Ready panics (m.write row) := by
  cases ended : m.isTerminated with
  | true =>
    rw [write_of_isTerminated ended]
    exact keeps_pure _
  | false =>
    by_cases room : m.rows.length + 1 < m.params.batchSize
    · rw [write_of_lt ended room]
      exact keeps_pure _
    · rw [write_of_le ended (Nat.not_lt.1 room)]
      exact m.keeps_handing _

theorem keeps_save {panics : Prop} (m : Model) (sink : Sink) : Keeps Host.Ready panics (m.save sink) := by
  refine keeps_bind (m.keeps_call _ _) fun saved => ?_
  split <;> exact keeps_pure _

theorem keeps_load {panics : Prop} (m : Model) (source : Source) :
    Keeps Host.Ready panics (m.load source) := by
  unfold load
  split
  · exact keeps_pure _
  · exact keeps_bind (m.keeps_call _ _) fun _ => keeps_pure _

theorem keeps_terminate {panics : Prop} (m : Model) : Keeps Host.Ready panics m.terminate := by
  unfold terminate
  split
  · exact keeps_bind (keeps_bind (keeps_release _) fun _ => keeps_pure _) fun _ => keeps_pure _
  · exact keeps_pure _

/-- Nothing that is done to a model panics. -/
theorem keeps_perform {panics : Prop} (m : Model) (u : Use) : Keeps Host.Ready panics (m.perform u) := by
  cases u with
  | fit | fitMaps | predict | call => exact keeps_bind (m.keeps_call _ _) fun _ => keeps_pure _
  | save sink => exact keeps_bind (m.keeps_save sink) fun _ => keeps_pure _
  | load source => exact keeps_bind (m.keeps_load source) fun _ => keeps_pure _
  | terminate => exact keeps_bind m.keeps_terminate fun _ => keeps_pure _

/-! ## Models that are made -/

/-- A model is made with its parameters and without rows, and the session goes on. -/
theorem of_make {p : ModelParams} (run : (make p).run h = (.ok (.ok m), h')) :
    m.params = p ∧ m.rows = [] ∧ m.isTerminated = false ∧ h'.Ready := by
  obtain ⟨made, h₁, first, run⟩ := of_run_bind run
  cases made with
  | error e => cases run
  | ok i =>
    cases run
    refine ⟨rfl, rfl, rfl, ?_⟩
    -- whatever the host was, it is ready once the module was loaded
    have loaded {h : Host} (run : (ExceptT.mk (Module.load p.moduleName) >>= fun m : Module =>
        m.handle.dropping (ExceptT.mk (m.newInstance p.className [.string p.modelPath, .int p.gpu]))).run.run h
          = (.ok (.ok i), h')) : h'.Ready := by
      obtain ⟨m, h₂, load, rest⟩ := of_run_run_bind run
      have ready : h₂.Ready := ready_of_runCall load
      have keeps : Keeps Host.Ready True (m.handle.dropping (ExceptT.mk (m.newInstance p.className
          [.string p.modelPath, .int p.gpu]))).run :=
        keeps_dropping m.handle (keeps_callOn _ _ _ _)
      have kept := (keeps h₂ ready).1
      rwa [rest] at kept
    split at first
    · obtain ⟨_, h₂, -, rest⟩ := of_run_run_bind first
      exact loaded rest
    · exact loaded first

/-- A model collects at least one row at a time. -/
theorem batchSize_pos {map : ValueMap} {p : ModelParams} (accepted : ModelParams.extract map = .ok p) :
    0 < p.batchSize := by
  have size {n : Nat} (found : ModelParams.batchSizeIn map = .ok n) : 0 < n := by
    obtain ⟨asked, -, found⟩ := of_bind_eq_ok found
    cases asked with
    | none =>
      cases found
      decide
    | some k =>
      dsimp only at found
      split at found
      · cases found
      · cases found
        omega
  obtain ⟨n, found, accepted⟩ := of_bind_eq_ok accepted
  obtain ⟨modulePath, -, accepted⟩ := of_bind_eq_ok accepted
  obtain ⟨moduleName, -, accepted⟩ := of_bind_eq_ok accepted
  obtain ⟨className, -, accepted⟩ := of_bind_eq_ok accepted
  obtain ⟨modelPath, -, accepted⟩ := of_bind_eq_ok accepted
  obtain ⟨gpu, -, accepted⟩ := of_bind_eq_ok accepted
  cases accepted
  exact size found

/-- The session goes on, whatever is done to the model. -/
theorem ready_of_runs {made : Model} {h₀ : Host} (ready : h₀.Ready) (runs : Runs made h₀ events m h) :
    h.Ready := by
  induction runs with
  | start => exact ready
  | @write events m m' h h' row answer before run ih =>
    have keeps : Keeps Host.Ready True (m.write row) := m.keeps_write row
    have kept := (keeps h ih).1
    rwa [run] at kept
  | @use events m m' h h' u before run ih =>
    have keeps : Keeps Host.Ready True (m.perform u) := m.keeps_perform u
    have kept := (keeps h ih).1
    rwa [run] at kept
  | elsewhere before ready ih => exact ready

/-! ## Batches -/

/-- What is known of a model that collects `size` rows at a time, after `events`. -/
structure Batched (size : Nat) (events : List Event) (m : Model) (h : Host) : Prop where
  pos : 0 < size
  /-- The rows handed to `fit` by writes are the consecutive blocks of the rows that were written. -/
  blocks : blocks events = (List.range ((written events).length / size)).map fun k =>
    ((written events).drop (k * size)).take size
  full : ∀ block ∈ Model.blocks events, block.length = size
  /-- The model has ended exactly if it was terminated. -/
  ended : m.isTerminated = true ↔ .used .terminate ∈ events
  /-- Until then the rows that are collected are the last ones that were written, and so many are left
  of them by the blocks. -/
  pending : m.isTerminated = false → m.pending = (written events).length % size ∧
    m.rows = (written events).drop ((written events).length / size * size)
  /-- Afterwards there are none. -/
  discarded : m.isTerminated = true → m.rows = []
  /-- A row that leaves room for others is collected, and nothing else happens. -/
  kept : m.isTerminated = false → ¬ size ∣ (written events).length + 1 → ∀ row,
    m.block? row = none ∧
      (m.write row).run h = (.ok ({ m with rows := m.rows ++ [row] }, .ok none), h)
  /-- With the row that makes a block full the method `fit` of the object is called with the block, the answer is
  that of `fit`, and no row is left. -/
  handed : m.isTerminated = false → size ∣ (written events).length + 1 → ∀ row,
    m.block? row = some (m.rows ++ [row]) ∧ m.write row = m.handing (m.rows ++ [row]) ∧
      ∃ i fitted h₁ h', m.object = some i ∧
        (i.call "fit" [.array (m.rows ++ [row])]).run h = (.ok fitted, h₁) ∧
        (m.fit (m.rows ++ [row])).run h = (.ok (fitted.mapError .call), h₁) ∧
        (m.write row).run h = (.ok ({ m with rows := [] }, (fitted.mapError .call).map some), h')
  /-- A model that has ended takes no row. -/
  refused : m.isTerminated = true → ∀ row,
    m.block? row = none ∧ (m.write row).run h = (.ok (m, .error .alreadyTerminated), h)
  /-- Whatever else is done comes to an end. -/
  performed : ∀ u, ∃ m' h', (m.perform u).run h = (.ok m', h')

/-- The next row makes a block full exactly if that is so by the number of rows. -/
theorem Filling.dvd_iff (filling : Filling size events m) (alive : m.isTerminated = false) :
    size ∣ (written events).length + 1 ↔ size ≤ m.rows.length + 1 := by
  obtain ⟨whole, room⟩ := filling.written_eq alive
  have count : (written events).length = size * (blocks events).length + m.rows.length := by
    rw [whole, List.length_append, length_flatten_of_full filling.full, Nat.mul_comm]
  rw [count, Nat.add_assoc, Nat.dvd_add_right (Nat.dvd_mul_right _ _)]
  constructor
  · intro divides
    exact Nat.le_of_dvd (Nat.succ_pos _) divides
  · intro full
    have filled : m.rows.length + 1 = size := Nat.le_antisymm room full
    exact ⟨1, by rw [filled, Nat.mul_one]⟩

/-- Every row that is written to a model is in one batch, whatever else is done to it. -/
theorem batched {map : ValueMap} {p : ModelParams} (accepted : ModelParams.extract map = .ok p)
    {made : Model} {h h₀ h₁ : Host} (run : (make p).run h₀ = (.ok (.ok made), h₁))
    (runs : Runs made h₁ events m h) : Batched p.batchSize events m h := by
  obtain ⟨rfl, fresh, alive, ready₁⟩ := of_make run
  have pos := batchSize_pos accepted
  have filling := filling pos fresh alive runs
  have ready := ready_of_runs ready₁ runs
  obtain ⟨last, whole, room, collected⟩ := filling.rows
  refine ⟨pos, ?_, filling.full, filling.ended, ?_, ?_, ?_, ?_, ?_, ?_⟩
  · rw [whole]
    exact blocks_eq_of_full filling.full room
  · intro alive
    obtain ⟨whole, room⟩ := filling.written_eq alive
    rw [whole, length_div_of_full filling.full room, length_mod_of_full filling.full room,
      ← length_flatten_of_full filling.full, List.drop_left]
    exact ⟨rfl, rfl⟩
  · intro ended
    rw [collected, if_pos ended]
  · intro alive other row
    rw [filling.dvd_iff alive, Nat.not_le, ← filling.batchSize] at other
    rw [write_of_lt alive other]
    exact ⟨if_pos (.inr other), rfl⟩
  · intro alive full row
    rw [filling.dvd_iff alive, ← filling.batchSize] at full
    rw [write_of_le alive full]
    refine ⟨if_neg ?_, rfl, run_handing ready alive _⟩
    simp [alive, full]
  · intro ended row
    rw [write_of_isTerminated ended]
    exact ⟨if_pos (.inl ended), rfl⟩
  · intro u
    obtain ⟨m', h', run, -⟩ := (m.keeps_perform u).exists_run ready
    exact ⟨m', h', run⟩

/-- A host with a class that takes what it is given and gives `None`. -/
def pairHost : Host :=
  let nothing : Routine := .native fun _ _ => Computation.newNone
  { surroundings := { library := [{ name := "m", content := .ok [("C", .cls none
    [("__init__", .method nothing), ("fit", .method nothing)])] }] } }

/-- Parameters of a model of the class that collects two rows at a time. -/
def pairMap : ValueMap :=
  Entries.ofList [("module_name", .string "m"), ("class_name", .string "C"), ("batch_train_size", .int 2)]

/-- Two rows that are written to a model with room for two are handed to `fit` together. -/
theorem batched_pair :
    ∃ made h₁ m h, (make { moduleName := "m", className := "C", batchSize := 2 }).run pairHost =
        (.ok (.ok made), h₁) ∧
      Runs made h₁ [.wrote (.int 1) none, .wrote (.int 2) (some [.int 1, .int 2])] m h ∧
      Batched 2 [.wrote (.int 1) none, .wrote (.int 2) (some [.int 1, .int 2])] m h := by
  obtain ⟨p, named⟩ : ∃ p : ModelParams, p = { moduleName := "m", className := "C", batchSize := 2 } :=
    ⟨_, rfl⟩
  have accepted : ModelParams.extract pairMap = .ok p := by
    rw [named]
    decide +kernel
  obtain ⟨made, h₁, run⟩ : ∃ made h₁, (make p).run pairHost = (.ok (.ok made), h₁) := by
    have makes : (((make p).run pairHost).1.toOption.bind Except.toOption).isSome = true := by
      rw [named]
      decide +kernel
    rcases ran : (make p).run pairHost with ⟨panic | error | made, h₁⟩
    · rw [ran] at makes
      cases makes
    · rw [ran] at makes
      cases makes
    · exact ⟨made, h₁, rfl⟩
  obtain ⟨size, fresh, alive, -⟩ := of_make run
  have two : p.batchSize = 2 := by rw [named]
  rw [← named]
  -- the first row is collected, and the second one makes the block full
  obtain ⟨nothing, kept⟩ := (batched accepted run .start).kept alive (by rw [two]; decide) (.int 1)
  have first := Runs.start.write kept
  rw [nothing, List.nil_append] at first
  obtain ⟨block, -, i, fitted, h₂, h₃, -, -, -, handed⟩ :=
    (batched accepted run first).handed alive (by rw [two]; decide) (.int 2)
  have second := first.write handed
  rw [block, fresh] at second
  have all := batched accepted run second
  rw [two] at all
  exact ⟨made, h₁, _, h₃, run, second, all⟩

end Model

end InterpreterHost
