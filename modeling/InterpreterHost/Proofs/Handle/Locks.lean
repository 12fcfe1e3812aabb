import Mathlib.Logic.Relation
import InterpreterHost.Proofs.Broker.Interleaving

/-!
# The locks of functions and states

A function that is called by name, a state and a model stand behind locks.  Whoever uses one takes its locks first
and holds them while it waits for the jobs that it hands over.  A job may use one as well, and takes the same locks
before it is told that it may not wait.

## Main definitions

* `Usage.Latch`, `Usage.Claim` — the locks, and how one is taken
* `Usage.Operation` — what functions and states are used for, as the locks that it takes and the jobs in between
* `Usage` — a process, and how far each caller has come with an operation
* `Usage.Step`, `Usage.Steps` — one step of one of them, and any steps
* `Usage.Sound` — what holds after any steps

## Main statements

* `Usage.sound_of_steps` — locks are taken in order, and nobody is in the middle of handing over a job who is about
  to take one

## Design notes

Who finds a lock taken that it wants alone waits where others know of it, and those who would share the lock wait
behind it from then on: the locks are fair to writers.

Whether a row makes a batch full, and whether the model is still there, is settled when the row begins to be written,
since the rows are locked up to the end.  The lock of a registry is left out because no job is waited for under it.
The session has started.
-/

namespace InterpreterHost

namespace Usage

/-! ## Locks and operations -/

/-- The locks, by the number of what they belong to. -/
inductive Latch where
  /-- Of the module of a function. -/
  | module (f : Nat)
  /-- Of a state that is an object. -/
  | state (s : Nat)
  /-- Of the rows that are collected for a model. -/
  | rows (m : Nat)
  /-- Of the object of a model. -/
  | model (m : Nat)
deriving DecidableEq, Repr

/-- Who takes the rows of a model and its object takes the rows first. -/
def Latch.rank : Latch → Nat
  | rows _ => 0
  | _ => 1

/-- How a lock is taken. -/
inductive Mode where
  | shared
  | alone
deriving DecidableEq, Repr

/-- A lock as it is taken. -/
structure Claim where
  latch : Latch
  mode : Mode
deriving DecidableEq, Repr

/-- One of them wants the lock alone that the other has, too. -/
def Claim.Conflicts (x y : Claim) : Prop := x.latch = y.latch ∧ (x.mode = .alone ∨ y.mode = .alone)

inductive Instruction where
  /-- Take the lock and hold it.  Others know that it is waited for once that was `asked`. -/
  | lock (x : Claim) (asked : Bool)
  /-- Share the lock and let go of it at once. -/
  | glance (l : Latch)
  /-- Hand over any number of jobs and wait for them. -/
  | work
  | unlock (l : Latch)
deriving DecidableEq, Repr

/-- What functions and states are used for. -/
inductive Operation where
  /-- Import the module of a function, and call the function. -/
  | function (f : Nat)
  /-- Call a state, write to it, save it, or ask for its parameters. -/
  | use (s : Nat)
  /-- Load a state, or terminate it. -/
  | replace (s : Nat)
  /-- Call a model, fit it, have it predict, save it or load it. -/
  | useModel (m : Nat)
  /-- Write a row to a model, which is fitted if the row makes a batch full. -/
  | writeRow (m : Nat) (full : Bool)
  /-- Count the rows that are collected. -/
  | countRows (m : Nat)
  /-- Terminate a model. -/
  | endModel (m : Nat)
deriving DecidableEq, Repr

/-- Hold a lock while something is done. -/
def guarded (l : Latch) (mode : Mode) (within : List Instruction) : List Instruction :=
  .lock ⟨l, mode⟩ false :: (within ++ [.unlock l])

/-- What is done one after the other. -/
def Operation.program : Operation → List Instruction
  | function f => guarded (.module f) .alone [.work]
  | use s => guarded (.state s) .shared [.work]
  | replace s => guarded (.state s) .alone [.work]
  | useModel m => guarded (.model m) .shared [.work]
  | writeRow m full => guarded (.rows m) .alone
    (.glance (.model m) :: if full then guarded (.model m) .shared [.work] else [])
  | countRows m => guarded (.rows m) .alone []
  | endModel m => guarded (.rows m) .alone (guarded (.model m) .alone [.work])

/-- How far a caller has come: what is left to be done, and the locks that it holds. -/
structure Point where
  todo : List Instruction := []
  held : List Claim := []
deriving DecidableEq, Repr

end Usage

/-- A process, and how far each caller has come with an operation. -/
structure Usage (V : Type) where
  process : Process V := {}
  point : Caller → Usage.Point := fun _ => {}

namespace Usage

variable {V : Type} {u u' : Usage V} {c : Caller} {x : Claim}

/-! ## Steps -/

/-- Others know that the caller waits for a lock that it wants alone. -/
def Awaits (u : Usage V) (c : Caller) (l : Latch) : Prop :=
  ∃ rest, (u.point c).todo = .lock ⟨l, .alone⟩ true :: rest

/-- The caller keeps others from taking a lock: it holds it, or it waits for it before those who would share it. -/
def Blocks (u : Usage V) (x : Claim) (c : Caller) : Prop :=
  (∃ y ∈ (u.point c).held, x.Conflicts y) ∨ x.mode = .shared ∧ u.Awaits c x.latch

/-- The lock can be taken. -/
def Grants (u : Usage V) (x : Claim) : Prop := ∀ c, ¬ u.Blocks x c

/-- The caller does not use anything, or has the locks and hands over jobs. -/
def MaySend (u : Usage V) (c : Caller) : Prop :=
  (u.point c).todo = [] ∨ ∃ rest, (u.point c).todo = .work :: rest

/-- Jobs are handed over at the points for it, and nothing else is done in the middle of an operation. -/
def Allows (u : Usage V) : Happening V → Prop
  | .enter c _ => u.MaySend c
  | .refuse c _ _ => u.MaySend c
  | .reentrant _ => u.MaySend .job
  | .finish _ _ => (u.point .job).todo = []
  | .close i => (u.point (.thread i)).todo = []
  | .closeAgain i => (u.point (.thread i)).todo = []
  | _ => True

/-- The caller is free to go on: it waits for no job, and if it is a job it runs. -/
structure Free (u : Usage V) (c : Caller) : Prop where
  phase : u.process.phase c = .free
  running : c = .job → ∃ t, u.process.turn = .running t

/-- Where a caller can get to by itself. -/
inductive Moves (u : Usage V) (c : Caller) : Point → Prop
  | begin (op : Operation) (idle : u.point c = {}) (free : u.Free c) : Moves u c ⟨op.program, []⟩
  | ask {l rest held asked} (point : u.point c = ⟨.lock ⟨l, .alone⟩ asked :: rest, held⟩) :
      Moves u c ⟨.lock ⟨l, .alone⟩ true :: rest, held⟩
  | lock {x asked rest held} (point : u.point c = ⟨.lock x asked :: rest, held⟩) (grants : u.Grants x) :
      Moves u c ⟨rest, x :: held⟩
  | glance {l rest held} (point : u.point c = ⟨.glance l :: rest, held⟩) (grants : u.Grants ⟨l, .shared⟩) :
      Moves u c ⟨rest, held⟩
  | worked {rest held} (point : u.point c = ⟨.work :: rest, held⟩) (free : u.Free c) : Moves u c ⟨rest, held⟩
  | unlock {l rest held} (point : u.point c = ⟨.unlock l :: rest, held⟩) :
      Moves u c ⟨rest, held.filter (·.latch ≠ l)⟩

/-- The caller has come to a point. -/
def moved (u : Usage V) (c : Caller) (p : Point) : Usage V := { u with point := Function.update u.point c p }

@[simp] theorem process_moved (u : Usage V) (c : Caller) (p : Point) : (u.moved c p).process = u.process := rfl

@[simp] theorem point_moved_self (u : Usage V) (c : Caller) (p : Point) : (u.moved c p).point c = p :=
  Function.update_self ..

theorem point_moved_of_ne {c' : Caller} (u : Usage V) (p : Point) (other : c' ≠ c) :
    (u.moved c p).point c' = u.point c' := Function.update_of_ne other ..

/-- One step of a caller or of the owning thread. -/
inductive Step (u : Usage V) : Usage V → Prop
  | proceed {e : Happening V} {p : Process V} (next : Process.Step u.process e p) (allowed : u.Allows e) :
      Step u { u with process := p }
  | move {c : Caller} {p : Point} (next : u.Moves c p) : Step u (u.moved c p)

/-- Any steps. -/
abbrev Steps : Usage V → Usage V → Prop := Relation.ReflTransGen Step

/-! ## Locks are taken in order -/

/-- The locks that have to be taken before anything else is done. -/
def needs : List Instruction → List Claim
  | .lock x _ :: rest => x :: needs rest
  | .glance l :: rest => ⟨l, .shared⟩ :: needs rest
  | _ => []

/-- Once jobs are handed over or a lock is let go of no more are taken, and in the end none is held. -/
def Winds : List Claim → List Instruction → Prop
  | held, [] => held = []
  | held, .work :: rest => Winds held rest
  | held, .unlock l :: rest => Winds (held.filter (·.latch ≠ l)) rest
  | _, _ => False

/-- Before that, each lock comes after those that are held. -/
def Climbs : List Claim → List Instruction → Prop
  | held, .lock x _ :: rest => (∀ y ∈ held, y.latch.rank < x.latch.rank) ∧ Climbs (x :: held) rest
  | held, .glance l :: rest => (∀ y ∈ held, y.latch.rank < l.rank) ∧ (∀ x ∈ needs rest, l.rank ≤ x.latch.rank) ∧
    Climbs held rest
  | held, rest => Winds held rest

variable {held : List Claim} {todo : List Instruction}

theorem Winds.climbs (winds : Winds held todo) : Climbs held todo := by
  match todo with
  | [] | .work :: _ | .unlock _ :: _ => exact winds
  | .lock _ _ :: _ | .glance _ :: _ => exact winds.elim

/-- Where a caller is that has taken its locks. -/
def climbed : List Claim → List Instruction → Point
  | held, .lock x _ :: rest => climbed (x :: held) rest
  | held, .glance _ :: rest => climbed held rest
  | held, rest => ⟨rest, held⟩

theorem Climbs.winds (climbs : Climbs held todo) : Winds (climbed held todo).held (climbed held todo).todo := by
  induction todo generalizing held with
  | nil => exact climbs
  | cons i rest ih =>
    cases i with
    | lock => exact ih climbs.2
    | glance => exact ih climbs.2.2
    | work | unlock => exact climbs

theorem climbs_program (op : Operation) : Climbs [] op.program := by
  cases op with
  | writeRow m full => cases full <;> simp [Operation.program, guarded, Climbs, Winds, needs, Latch.rank]
  | function | use | replace | useModel | countRows | endModel =>
    simp [Operation.program, guarded, Climbs, Winds, Latch.rank]

/-- A caller that goes on keeps the order. -/
theorem Moves.climbs {p : Point} (next : u.Moves c p) (climbs : Climbs (u.point c).held (u.point c).todo) :
    Climbs p.held p.todo := by
  cases next with
  | begin op => exact climbs_program op
  | ask point =>
    rw [point] at climbs
    exact climbs
  | lock point =>
    rw [point] at climbs
    exact climbs.2
  | glance point =>
    rw [point] at climbs
    exact climbs.2.2
  | worked point | unlock point =>
    rw [point] at climbs
    exact Winds.climbs climbs

/-- What is still to be taken comes after what is held. -/
theorem Climbs.rank_lt (climbs : Climbs held todo) {y : Claim} (mem : y ∈ held) {x : Claim} (need : x ∈ needs todo) :
    y.latch.rank < x.latch.rank := by
  induction todo generalizing held with
  | nil => cases need
  | cons i rest ih =>
    cases i with
    | lock z asked =>
      rcases List.mem_cons.1 need with rfl | later
      · exact climbs.1 y mem
      · exact ih climbs.2 (List.mem_cons_of_mem z mem) later
    | glance l =>
      rcases List.mem_cons.1 need with rfl | later
      · exact climbs.1 y mem
      · exact ih climbs.2.2 mem later
    | work | unlock => cases need

/-- Who wants a lock alone waits above those who would share it. -/
def Mode.weight : Mode → Nat
  | shared => 0
  | alone => 1

theorem Mode.weight_le_one (mode : Mode) : mode.weight ≤ 1 := by cases mode <;> decide

theorem Latch.rank_le_one (l : Latch) : l.rank ≤ 1 := by cases l <;> simp [Latch.rank]

/-- How far up the order a caller waits. -/
def height : List Instruction → Nat
  | .lock x _ :: _ => 2 * x.latch.rank + x.mode.weight
  | .glance l :: _ => 2 * l.rank
  | _ => 4

/-- Nobody waits above a lock that is still to be taken. -/
theorem Climbs.height_le (climbs : Climbs held todo) (need : x ∈ needs todo) :
    height todo ≤ 2 * x.latch.rank + x.mode.weight := by
  match todo with
  | .lock y asked :: rest =>
    rcases List.mem_cons.1 need with rfl | later
    · exact Nat.le_refl _
    · have below := climbs.2.rank_lt List.mem_cons_self later
      have least := y.mode.weight_le_one
      simp only [height]
      omega
  | .glance l :: rest =>
    rcases List.mem_cons.1 need with rfl | later
    · exact Nat.le_add_right _ _
    · have below := climbs.2.1 x later
      simp only [height]
      omega
  | [] | .work :: _ | .unlock _ :: _ => cases need

/-- Who holds a lock waits above it. -/
theorem Climbs.lt_height (climbs : Climbs held todo) (mem : x ∈ held) : 2 * x.latch.rank + 1 < height todo := by
  match todo with
  | .lock y asked :: rest =>
    have below := climbs.1 x mem
    simp only [height]
    omega
  | .glance l :: rest =>
    have below := climbs.1 x mem
    simp only [height]
    omega
  | [] | .work :: _ | .unlock _ :: _ =>
    have few := x.latch.rank_le_one
    simp only [height]
    omega

/-! ## After any steps -/

/-- What holds after any steps. -/
structure Sound (u : Usage V) : Prop where
  ran : ∃ past, Process.Run past u.process
  climbs : ∀ c, Climbs (u.point c).held (u.point c).todo
  /-- Who takes locks or lets go of them is not in the middle of handing over a job. -/
  sends : ∀ c, u.process.phase c ≠ .free → u.MaySend c
  /-- Nobody ends the process in the middle of an operation. -/
  closes : ∀ c, u.process.phase c = .closing ∨ u.process.phase c = .joining → (u.point c).todo = []
  /-- Only so many callers use anything. -/
  few : ∃ callers : List Caller, ∀ c, (u.point c).todo ≠ [] → c ∈ callers

theorem sound_start : Sound ({} : Usage V) where
  ran := ⟨[], .start⟩
  climbs _ := rfl
  sends _ busy := absurd rfl busy
  closes _ _ := rfl
  few := ⟨[], fun _ busy => absurd rfl busy⟩

/-- A caller that goes on was not in the middle of handing over a job. -/
theorem Moves.free {p : Point} (next : u.Moves c p) (sound : Sound u) : u.process.phase c = .free := by
  by_contra busy
  have first := sound.sends c busy
  cases next with
  | begin op idle free => exact busy free.phase
  | worked point free => exact busy free.phase
  | ask point | lock point | glance point | unlock point =>
    rw [MaySend, point] at first
    rcases first with none | ⟨rest, other⟩
    · cases none
    · cases other

theorem Sound.move {p : Point} (sound : Sound u) (next : u.Moves c p) : Sound (u.moved c p) := by
  have free := next.free sound
  obtain ⟨callers, few⟩ := sound.few
  refine ⟨sound.ran, fun d => ?_, fun d busy => ?_, fun d ends => ?_, c :: callers, fun d uses => ?_⟩
  all_goals by_cases same : d = c
  · rw [same, point_moved_self]
    exact next.climbs (sound.climbs c)
  · rw [point_moved_of_ne u p same]
    exact sound.climbs d
  · exact absurd (same ▸ free) busy
  · rw [MaySend, point_moved_of_ne u p same]
    exact sound.sends d busy
  · rw [same, process_moved, free] at ends
    simp at ends
  · rw [point_moved_of_ne u p same]
    exact sound.closes d ends
  · exact same ▸ List.mem_cons_self
  · rw [point_moved_of_ne u p same] at uses
    exact List.mem_cons_of_mem c (few d uses)

/-- What is known of callers in the middle of something is not changed by one that may get to where it gets. -/
theorem Sound.update (sound : Sound u) {q : Phase} (sends : q ≠ .free → u.MaySend c)
    (closes : q = .closing ∨ q = .joining → (u.point c).todo = []) (d : Caller) :
    (Function.update u.process.phase c q d ≠ .free → u.MaySend d) ∧
      (Function.update u.process.phase c q d = .closing ∨ Function.update u.process.phase c q d = .joining →
        (u.point d).todo = []) := by
  by_cases same : d = c
  · rw [same, Function.update_self]
    exact ⟨sends, closes⟩
  · rw [Function.update_of_ne same]
    exact ⟨sound.sends d, sound.closes d⟩

theorem Sound.proceed {e : Happening V} {p : Process V} (sound : Sound u) (next : Process.Step u.process e p)
    (allowed : u.Allows e) : Sound { u with process := p } := by
  obtain ⟨past, run⟩ := sound.ran
  have all : ∀ d, (p.phase d ≠ .free → u.MaySend d) ∧
      (p.phase d = .closing ∨ p.phase d = .joining → (u.point d).todo = []) := by
    cases next with
    | enter => exact sound.update (fun _ => allowed) (by simp)
    | count entered => exact sound.update (fun _ => sound.sends _ (by simp [entered])) (by simp)
    | @accept c waits counted =>
      exact sound.update (fun _ => sound.sends _ (by simp [counted])) (by cases waits <;> simp)
    | lose | answer | forsake | join => exact sound.update (absurd rfl) (by simp)
    | close => exact sound.update (fun _ => .inl allowed) fun _ => allowed
    | @disconnect i closing =>
      have idle := sound.closes (.thread i) (.inl closing)
      exact sound.update (fun _ => .inl idle) fun _ => idle
    | refuse | reentrant | take | finish | reply | complete | closeAgain | leave =>
      exact fun d => ⟨sound.sends d, sound.closes d⟩
  exact ⟨⟨_, run.step next⟩, sound.climbs, fun d => (all d).1, fun d => (all d).2, sound.few⟩

theorem Sound.step (sound : Sound u) (next : Step u u') : Sound u' := by
  cases next with
  | proceed next allowed => exact sound.proceed next allowed
  | move next => exact sound.move next

theorem Sound.steps (sound : Sound u) (steps : Steps u u') : Sound u' := by
  induction steps with
  | refl => exact sound
  | tail _ next ih => exact ih.step next

theorem sound_of_steps (steps : Steps {} u) : Sound u := sound_start.steps steps

end Usage

end InterpreterHost
