import InterpreterHost.Proofs.Handle.Refusal
import InterpreterHost.Proofs.Handle.Waiting

/-!
# What becomes of jobs that use functions and states

A job that has the locks of what it uses is told at once that it may not wait for another job.  But it takes the
locks first, and a thread that holds one of them while its own job is in line never lets go of it.

## Main definitions

* `Usage.Returning` — what becomes of a job that runs
* `Usage.Operation.Excludes` — with the locks of one operation held, the other cannot be begun
* `Usage.Operation.MayHang` — a job that has begun the operation may wait for ever

## Main statements

* `Usage.returning` — a job comes back exactly if it is not stuck
* `Usage.Operation.Excludes.exists_stuck`, `Usage.exists_stuck_shared` — jobs that are stuck
* `Usage.Operation.mayHang` — whatever a job uses, it may wait for ever
-/

namespace InterpreterHost.Usage

variable {V : Type} {u u' : Usage V} {t : Ticket}

/-! ## What becomes of a job -/

/-- What becomes of a job that runs, whatever it uses. -/
structure Returning (u : Usage V) (t : Ticket) : Prop where
  /-- Unless it is stuck it can come to the end of its operation, -/
  returns : ¬ Stuck u .job → ∃ u', Steps u u' ∧ u'.process.turn = .running t ∧ (u'.point .job).todo = []
  /-- and if it is stuck it never does, and no other job runs again. -/
  stays : Stuck u .job → ∀ u', Steps u u' → u'.process.turn = .running t ∧ (u'.point .job).todo ≠ []
  /-- It is stuck only where someone waits for the owning thread under a lock, -/
  holder : Stuck u .job → ∃ i x, Behind u.process (.thread i) ∧ x ∈ (u.point (.thread i)).held
  /-- and with its locks it is told that it may not wait for another job. -/
  told : ∀ h, Process.Busy u.process h → h.Ready → h.Refuses

theorem returning (reached : Steps {} u) (running : u.process.turn = .running t) : Returning u t := by
  have sound := sound_of_steps reached
  refine ⟨steps_return sound running, fun stuck u' steps => ?_, fun stuck => ?_, fun h busy ready => ?_⟩
  · obtain ⟨running', stuck'⟩ := stuck.steps sound running steps
    exact ⟨running', stuck'.uses (sound.steps steps)⟩
  · exact (stuck.exists_behind sound).resolve_left sound.not_behind
  · exact Host.refuses ready busy.inside

/-! ## Jobs that are stuck -/

/-- With the locks of the one operation a caller hands over jobs, and the other needs one of them. -/
structure Operation.Excludes (op other : Operation) : Prop where
  works : ∃ rest, (climbed [] op.program).todo = .work :: rest
  clash : ∃ x ∈ needs other.program, ∃ y ∈ (climbed [] op.program).held, x.Conflicts y

/-- Steps of the process are steps, where callers are at the points for them. -/
theorem steps_lift {p p' : Process V} {es : List (Happening V)} {point : Caller → Point}
    (steps : Process.Steps p es p') (allowed : ∀ e ∈ es, Allows (⟨p, point⟩ : Usage V) e) :
    Steps (⟨p, point⟩ : Usage V) ⟨p', point⟩ := by
  induction steps with
  | nil => exact .refl
  | cons next rest ih =>
    rw [List.forall_mem_cons] at allowed
    exact .head (.proceed next allowed.1) (ih allowed.2)

/-- A job runs, and nobody does anything else. -/
theorem exists_running : ∃ u : Usage V, Steps {} u ∧ u.process.turn = .running ⟨0, none⟩ ∧
    u.process.broker.stage = .running ∧ ∀ c, u.process.phase c = .free ∧ u.point c = {} := by
  have handed := @Process.steps_handOver V {} (.thread 1) false rfl trivial rfl fun left => nomatch left
  refine ⟨_, (steps_lift handed ?_).tail (.proceed (.take rfl rfl) trivial), rfl, rfl, fun c => ⟨?_, rfl⟩⟩
  · intro e mem
    simp only [List.mem_cons, List.not_mem_nil, or_false] at mem
    rcases mem with rfl | rfl | rfl
    · exact .inl rfl
    · trivial
    · trivial
  · exact congrFun (Process.update_free rfl) c

/-- While a job runs a thread has taken the locks of an operation and waits for a job of its own. -/
theorem exists_behind (op : Operation) (works : ∃ rest, (climbed [] op.program).todo = .work :: rest) :
    ∃ u : Usage V, Steps {} u ∧ u.process.turn = .running ⟨0, none⟩ ∧ Behind u.process (.thread 0) ∧
      u.point (.thread 0) = climbed [] op.program ∧
      ∀ c, c ≠ .thread 0 → u.process.phase c = .free ∧ u.point c = {} := by
  obtain ⟨u, start, running, stage, idle⟩ := exists_running (V := V)
  have begins := start.tail (.move (.begin op (idle (.thread 0)).2 ⟨(idle _).1, fun job => nomatch job⟩))
  have gets : (u.moved (.thread 0) ⟨op.program, []⟩).Gets (.thread 0) (climbed [] op.program) := by
    refine gets_climbed (u := u.moved _ _) (idle (.thread 0)).1 (climbs_program op) (point_moved_self ..)
      fun x _ d other blocks => ?_
    -- nobody else uses anything
    refine blocks.uses (sound_of_steps begins) ?_
    rw [point_moved_of_ne u _ other, (idle d).2]
  obtain ⟨u₁, taken, apart, point, free⟩ := gets
  have reached := begins.trans taken
  obtain ⟨past, run⟩ := (sound_of_steps reached).ran
  have noMail := mail_of_run run
  have handed := @Process.steps_handOver V u₁.process (.thread 0) true free trivial (apart.stage.trans stage)
    (by simp [apart.turn.trans running])
  have waits : Steps u₁ ⟨_, u₁.point⟩ := steps_lift handed <| by
    intro e mem
    simp only [List.mem_cons, List.not_mem_nil, or_false] at mem
    rcases mem with rfl | rfl | rfl
    · exact .inr (point.symm ▸ works)
    · trivial
    · trivial
  refine ⟨_, reached.trans waits, apart.turn.trans running, .waiting ?_ noMail, point, fun c other => ⟨?_, ?_⟩⟩
  · exact Process.update_same u₁.process.phase (.thread 0) (.waiting _)
  · exact (Function.update_of_ne other ..).trans ((apart.phase c other).trans (idle c).1)
  · exact (apart.point c other).trans ((point_moved_of_ne u _ other).trans (idle c).2)

/-- A job that uses what a thread works with under a lock is stuck. -/
theorem Operation.Excludes.exists_stuck {op other : Operation} (excludes : op.Excludes other) :
    ∃ u : Usage V, Steps {} u ∧ u.process.turn = .running ⟨0, none⟩ ∧ u.point .job = ⟨other.program, []⟩ ∧
      Stuck u .job := by
  obtain ⟨u, steps, running, behind, point, idle⟩ := exists_behind (V := V) op excludes.works
  obtain ⟨x, need, y, held, conflicts⟩ := excludes.clash
  obtain ⟨phase, none⟩ := idle .job (by decide)
  refine ⟨_, steps.tail (.move (.begin other none ⟨phase, fun _ => ⟨_, running⟩⟩)), running, point_moved_self .., ?_⟩
  refine .blocked (d := .thread 0) (x := x) ?_ (.inl ⟨y, ?_, conflicts⟩) (.behind behind)
  · rwa [point_moved_self]
  · rwa [point_moved_of_ne u _ (by decide), point]

/-- Every operation is excluded by one on the same thing. -/
theorem exists_excludes (op : Operation) : ∃ other : Operation, other.Excludes op := by
  cases op with
  | function f => exact ⟨.function f, ⟨_, rfl⟩, _, List.mem_cons_self, _, List.mem_cons_self, rfl, .inr rfl⟩
  | use s => exact ⟨.replace s, ⟨_, rfl⟩, _, List.mem_cons_self, _, List.mem_cons_self, rfl, .inr rfl⟩
  | replace s => exact ⟨.replace s, ⟨_, rfl⟩, _, List.mem_cons_self, _, List.mem_cons_self, rfl, .inr rfl⟩
  | useModel m => exact ⟨.endModel m, ⟨_, rfl⟩, _, List.mem_cons_self, _, List.mem_cons_self, rfl, .inr rfl⟩
  | writeRow m full =>
    exact ⟨.writeRow m true, ⟨_, rfl⟩, _, List.mem_cons_self, _, List.mem_cons_of_mem _ List.mem_cons_self, rfl, .inr rfl⟩
  | countRows m =>
    exact ⟨.writeRow m true, ⟨_, rfl⟩, _, List.mem_cons_self, _, List.mem_cons_of_mem _ List.mem_cons_self, rfl, .inr rfl⟩
  | endModel m =>
    exact ⟨.writeRow m true, ⟨_, rfl⟩, _, List.mem_cons_self, _, List.mem_cons_of_mem _ List.mem_cons_self, rfl, .inr rfl⟩

/-- A job that would share a lock with the thread that holds it is stuck where someone else asks for the lock. -/
theorem exists_stuck_shared (s : Nat) : ∃ u : Usage V, Steps {} u ∧ u.process.turn = .running ⟨0, none⟩ ∧
    u.point .job = ⟨(Operation.use s).program, []⟩ ∧ u.point (.thread 0) = climbed [] (Operation.use s).program ∧
    Stuck u .job := by
  obtain ⟨u, steps, running, behind, point, idle⟩ := exists_behind (V := V) (.use s) ⟨_, rfl⟩
  obtain ⟨phase, none⟩ := idle (.thread 1) (by decide)
  obtain ⟨phase', none'⟩ := idle .job (by decide)
  -- the second thread begins and asks, and then the job begins
  have begins := steps.tail (.move (.begin (.replace s) none ⟨phase, fun job => nomatch job⟩))
  have asks := begins.tail (.move (.ask (point_moved_self ..)))
  have uses := asks.tail (.move (c := .job) (.begin (.use s) ?_ ⟨phase', fun _ => ⟨_, running⟩⟩))
  · refine ⟨_, uses, running, point_moved_self .., ?_, ?_⟩
    · iterate 3 rw [point_moved_of_ne _ _ (by decide)]
      exact point
    · refine .blocked (d := .thread 1) (x := ⟨.state s, .shared⟩) ?_ (.inr ⟨rfl, [.work, .unlock (.state s)], ?_⟩)
        (.blocked (d := .thread 0) (x := ⟨.state s, .alone⟩) ?_ (.inl ⟨⟨.state s, .shared⟩, ?_, rfl, .inl rfl⟩)
          (.behind behind))
      · rw [point_moved_self]
        exact List.mem_cons_self
      · rw [point_moved_of_ne _ _ (by decide), point_moved_self]
        rfl
      · rw [point_moved_of_ne _ _ (by decide), point_moved_self]
        exact List.mem_cons_self
      · iterate 3 rw [point_moved_of_ne _ _ (by decide)]
        rw [point]
        exact List.mem_cons_self
  · rw [point_moved_of_ne _ _ (by decide), point_moved_of_ne _ _ (by decide), none']

/-- A job that has begun the operation may wait for a lock for ever, while the owning thread waits with it. -/
def Operation.MayHang (op : Operation) : Prop :=
  ∃ u : Usage Nat, Steps {} u ∧ u.process.turn = .running ⟨0, none⟩ ∧ u.point .job = ⟨op.program, []⟩ ∧
    ∀ u', Steps u u' → u'.process.turn = .running ⟨0, none⟩ ∧ (u'.point .job).todo ≠ []

/-- No operation is safe for a job. -/
theorem Operation.mayHang (op : Operation) : op.MayHang := by
  obtain ⟨other, excludes⟩ := exists_excludes op
  obtain ⟨u, steps, running, point, stuck⟩ := excludes.exists_stuck (V := Nat)
  refine ⟨u, steps, running, point, fun u' more => ?_⟩
  obtain ⟨running', stuck'⟩ := stuck.steps (sound_of_steps steps) running more
  exact ⟨running', stuck'.uses (sound_of_steps (steps.trans more))⟩

/-- Neither is a function, nor a state, nor a model. -/
theorem mayHang_first : (Operation.function 0).MayHang ∧ (Operation.use 0).MayHang ∧ (Operation.replace 0).MayHang ∧
    (Operation.writeRow 0 true).MayHang :=
  ⟨Operation.mayHang _, Operation.mayHang _, Operation.mayHang _, Operation.mayHang _⟩

/-- A job that uses a function alone, and one that uses a function which a thread has called. -/
theorem returning_function :
    (∃ u : Usage Nat, Steps {} u ∧ u.process.turn = .running ⟨0, none⟩ ∧
      u.point .job = ⟨(Operation.function 0).program, []⟩ ∧ ¬ Stuck u .job ∧ Returning u ⟨0, none⟩) ∧
    ∃ u : Usage Nat, Steps {} u ∧ u.process.turn = .running ⟨0, none⟩ ∧
      u.point .job = ⟨(Operation.function 0).program, []⟩ ∧ Stuck u .job ∧ Returning u ⟨0, none⟩ := by
  constructor
  · obtain ⟨u, steps, running, -, idle⟩ := exists_running (V := Nat)
    have uses := steps.tail (.move (.begin (.function 0) (idle .job).2 ⟨(idle .job).1, fun _ => ⟨_, running⟩⟩))
    refine ⟨_, uses, running, point_moved_self .., fun stuck => ?_, returning uses running⟩
    obtain ⟨i, -, behind, -⟩ := (returning uses running).holder stuck
    exact behind.ne_free (idle (.thread i)).1
  · obtain ⟨other, excludes⟩ := exists_excludes (.function 0)
    obtain ⟨u, steps, running, point, stuck⟩ := excludes.exists_stuck (V := Nat)
    exact ⟨u, steps, running, point, stuck, returning steps running⟩

end InterpreterHost.Usage
