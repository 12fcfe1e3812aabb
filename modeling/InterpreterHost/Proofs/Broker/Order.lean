import InterpreterHost.Proofs.Broker.Actions

/-!
# The order of jobs

What the steps of any number of threads come to, from the moment that the owning thread has started.

## Main definitions

* `Process.InOrder` — jobs run in the order in which they were accepted, each once, one after the other
* `Process.Closing` — who hands over a job after the sender was taken is refused, and nobody else is
* `Process.Answering` — who waits for a job gets what became of it
* `Process.Nesting` — what a job may do while it runs
* `Process.Tallied` — the counters

## Main statements

* `Process.recorded_of_run` — the lists of a process are what has happened
* `Process.steps_serve_all` — the owning thread alone comes to an end with all that was accepted
* `Process.orderly` — all of this after any steps
-/

namespace InterpreterHost

/-! ## What has happened -/

namespace Happening

variable {V : Type}

/-- The job that is accepted. -/
def accepted : Happening V → Option Ticket
  | accept _ t => some t
  | _ => none

/-- The job that the owning thread takes. -/
def taken : Happening V → Option Ticket
  | take t => some t
  | _ => none

/-- The job that ends, and what becomes of it. -/
def finished : Happening V → Option (Ticket × Except Panic V)
  | finish t outcome => some (t, outcome)
  | _ => none

/-- The job that the owning thread is done with. -/
def completed : Happening V → Option Ticket
  | complete t => some t
  | _ => none

/-- Whether the sender is taken. -/
def closes : Happening V → Bool
  | close _ => true
  | _ => false

/-- Whether the owning thread comes further with a job. -/
def proceeds : Happening V → Bool
  | take _ => true
  | finish _ _ => true
  | reply _ => true
  | complete _ => true
  | _ => false

/-- The owning thread, or the job that runs on it, does this, and what becomes of jobs is as told. -/
def OfOwner (outcome : Ticket → Except Panic V) : Happening V → Prop
  | take _ => True
  | finish t result => result = outcome t
  | reply _ => True
  | complete _ => True
  | leave => True
  | count c => c = .job
  | accept c _ => c = .job
  | _ => False

end Happening

/-- How many steps the owning thread has taken with the job that it holds. -/
def Turn.steps {V : Type} : Turn V → Nat
  | receiving => 0
  | running _ => 1
  | ended _ _ => 2
  | replied _ => 3
  | left => 0

namespace Process

variable {V : Type} {s s' : Process V} {past : List (Happening V)}

/-! ## The lists of a process -/

/-- What has happened is what the lists hold, and the owning thread has taken at most four steps with
each job. -/
structure Recorded (past : List (Happening V)) (s : Process V) : Prop where
  accepted : past.filterMap Happening.accepted = s.accepted
  taken : past.filterMap Happening.taken = s.taken
  finished : past.filterMap Happening.finished = s.finished
  completed : past.filterMap Happening.completed = s.completed
  closes : past.countP Happening.closes = if s.broker.stage = .terminated then 1 else 0
  proceeds : past.countP Happening.proceeds ≤ 4 * s.completed.length + s.turn.steps

theorem Step.lists {e : Happening V} (next : Step s e s') :
    s'.accepted = s.accepted ++ e.accepted.toList ∧ s'.taken = s.taken ++ e.taken.toList ∧
      s'.finished = s.finished ++ e.finished.toList ∧ s'.completed = s.completed ++ e.completed.toList := by
  cases next <;> simp [Happening.accepted, Happening.taken, Happening.finished, Happening.completed]

/-- The sender is taken once. -/
theorem Step.closes {e : Happening V} (next : Step s e s') :
    (if s'.broker.stage = .terminated then 1 else 0) =
      (if s.broker.stage = .terminated then 1 else 0) + if e.closes then 1 else 0 := by
  cases next with
  | close free running unlocked => simp [Happening.closes, Broker.close, running]
  | enter | refuse | count | accept | lose | reentrant | take | finish | reply | complete | answer
  | forsake | closeAgain | disconnect | leave | join => simp [Happening.closes]

/-- The owning thread takes at most four steps with a job. -/
theorem Step.proceeds {e : Happening V} (next : Step s e s') :
    4 * s.completed.length + s.turn.steps + (if e.proceeds then 1 else 0) ≤
      4 * s'.completed.length + s'.turn.steps := by
  cases next with
  | take receiving line => simp [Happening.proceeds, Turn.steps, receiving]
  | finish running free outcome => simp [Happening.proceeds, Turn.steps, running]
  | reply ended waiter => simp [Happening.proceeds, Turn.steps, ended]
  | complete done =>
    rcases done with replied | ⟨outcome, ended, -⟩
    · simp [Happening.proceeds, Turn.steps, replied]
      omega
    · simp [Happening.proceeds, Turn.steps, ended]
      omega
  | leave receiving => simp [Happening.proceeds, Turn.steps, receiving]
  | enter | refuse | count | accept | lose | reentrant | answer | forsake | close | closeAgain
  | disconnect | join => simp [Happening.proceeds]

theorem Recorded.step {e : Happening V} (recorded : Recorded past s) (next : Step s e s') :
    Recorded (past ++ [e]) s' := by
  have filterMap_concat {β : Type} (f : Happening V → Option β) :
      (past ++ [e]).filterMap f = past.filterMap f ++ (f e).toList := by
    rw [List.filterMap_append, List.filterMap_cons]
    cases f e <;> rfl
  have countP_concat (p : Happening V → Bool) :
      (past ++ [e]).countP p = past.countP p + if p e then 1 else 0 := by
    rw [List.countP_append, List.countP_singleton]
  obtain ⟨accepted, taken, finished, completed⟩ := next.lists
  refine ⟨?_, ?_, ?_, ?_, ?_, ?_⟩
  · rw [filterMap_concat, recorded.accepted, accepted]
  · rw [filterMap_concat, recorded.taken, taken]
  · rw [filterMap_concat, recorded.finished, finished]
  · rw [filterMap_concat, recorded.completed, completed]
  · rw [countP_concat, recorded.closes, next.closes]
  · rw [countP_concat]
    exact Nat.le_trans (Nat.add_le_add_right recorded.proceeds _) next.proceeds

theorem recorded_of_run (run : Run past s) : Recorded past s := by
  induction run with
  | start => exact ⟨rfl, rfl, rfl, rfl, rfl, Nat.le_refl 0⟩
  | step before next ih => exact ih.step next

/-! ## The owning thread comes to an end -/

/-- How many steps the owning thread is from having nothing more to do. -/
def work (s : Process V) : Nat :=
  4 * s.line.length +
    (match s.turn with
      | .receiving => 0
      | .running _ => 3
      | .ended _ _ => 2
      | .replied _ => 1
      | .left => 0) +
    match s.phase .job with
      | .entered _ => 6
      | .counted _ => 5
      | _ => 0

/-- The owning thread can always do something about the jobs that were accepted, whatever the threads
of the process are about. -/
theorem exists_step_of_owner (locked : Locked s) (outcome : Ticket → Except Panic V) (heard : s.turn ≠ .left)
    (busy : s.turn.hand ++ s.line ≠ []) :
    ∃ e s', Step s e s' ∧ e.OfOwner outcome ∧ s'.work < s.work ∧ s'.turn ≠ .left ∧
      s'.connected = s.connected := by
  -- what it does next is told by how far it is with the job in hand, and by what that job is about
  cases turn : s.turn with
  | receiving =>
    have free := locked.job_free fun t running => by cases turn.symm.trans running
    rcases line : s.line with _ | ⟨t, rest⟩
    · rw [turn, line] at busy
      exact absurd rfl busy
    · refine ⟨_, _, .take turn line, trivial, ?_, fun left => (nomatch left), rfl⟩
      simp only [work, turn, line, free, List.length_cons]
      omega
  | running t =>
    rcases locked.job with free | ⟨entered | counted, -⟩
    · refine ⟨_, _, .finish turn free (outcome t), rfl, ?_, fun left => (nomatch left), rfl⟩
      simp only [work, turn, free]
      omega
    · refine ⟨_, _, .count entered, rfl, ?_, heard, rfl⟩
      simp only [work, turn, entered, update_same]
      omega
    · refine ⟨_, _, .accept counted heard, rfl, ?_, heard, rfl⟩
      simp only [work, turn, counted, update_same, List.length_append, List.length_singleton]
      change 4 * (s.line.length + 1) + 3 + 0 < 4 * s.line.length + 3 + 5
      omega
  | ended t result =>
    have free := locked.job_free fun t running => by cases turn.symm.trans running
    cases waiter : t.waiter with
    | none =>
      refine ⟨_, _, .complete (.inr ⟨result, turn, waiter⟩), trivial, ?_, fun left => (nomatch left), rfl⟩
      simp only [work, turn, free]
      omega
    | some i =>
      refine ⟨_, _, .reply turn waiter, trivial, ?_, fun left => (nomatch left), rfl⟩
      simp only [work, turn, free]
      omega
  | replied t =>
    have free := locked.job_free fun t running => by cases turn.symm.trans running
    refine ⟨_, _, .complete (.inl turn), trivial, ?_, fun left => (nomatch left), rfl⟩
    simp only [work, turn, free]
    omega
  | left => exact absurd turn heard

/-- The owning thread alone comes to an end with all that was accepted. -/
theorem steps_serve_all (run : Run past s) (outcome : Ticket → Except Panic V) (heard : s.turn ≠ .left) :
    ∃ es s', Steps s es s' ∧ (∀ e ∈ es, e.OfOwner outcome) ∧ s'.line = [] ∧ s'.turn = .receiving ∧
      s'.connected = s.connected := by
  -- each of its steps leaves less work, even one with which the job hands over another
  induction size : s.work using Nat.strongRecOn generalizing past s with
  | ind n ih =>
    by_cases idle : s.turn.hand ++ s.line = []
    · obtain ⟨hand, line⟩ := List.append_eq_nil_iff.1 idle
      refine ⟨[], s, .nil, fun _ mem => (nomatch mem), line, ?_, rfl⟩
      cases turn : s.turn with
      | receiving => rfl
      | left => exact absurd turn heard
      | running | ended | replied => rw [turn] at hand; cases hand
    · obtain ⟨e, s₁, next, own, less, heard₁, connected₁⟩ :=
        exists_step_of_owner (locked_of_run run) outcome heard idle
      obtain ⟨es, s₂, steps, owns, line, turn, connected₂⟩ := ih s₁.work (size ▸ less) (run.step next) heard₁ rfl
      refine ⟨e :: es, s₂, .cons next steps, ?_, line, turn, connected₂.trans connected₁⟩
      intro e' mem
      rcases List.mem_cons.1 mem with rfl | later
      · exact own
      · exact owns e' later

/-! ## Jobs are told apart by their numbers -/

/-- No two jobs that were accepted have one number. -/
theorem Queued.distinct (queued : Queued s) : (s.accepted.map Ticket.number).Nodup := by
  rw [queued.numbers]
  exact List.nodup_range

theorem Queued.eq_of_number (queued : Queued s) {t t' : Ticket} (mem : t ∈ s.accepted) (mem' : t' ∈ s.accepted)
    (same : t.number = t'.number) : t = t' :=
  List.inj_on_of_nodup_map queued.distinct mem mem' same

/-- The jobs that have ended are among those that were accepted, in their order. -/
theorem Queued.finished_sublist (queued : Queued s) : (s.finished.map Prod.fst).Sublist s.accepted := by
  have within : s.turn.ran.Sublist s.turn.hand := by
    cases s.turn <;> simp [Turn.ran, Turn.hand]
  rw [queued.line, queued.hand, queued.ran]
  exact (within.append_left s.completed).trans (List.sublist_append_left _ s.line)

theorem Queued.mem_accepted (queued : Queued s) {t : Ticket} {outcome : Except Panic V}
    (mem : (t, outcome) ∈ s.finished) : t ∈ s.accepted :=
  queued.finished_sublist.subset (List.mem_map_of_mem mem)

/-- A job ends once. -/
theorem Queued.outcome_unique (queued : Queued s) {t : Ticket} {outcome outcome' : Except Panic V}
    (mem : (t, outcome) ∈ s.finished) (mem' : (t, outcome') ∈ s.finished) : outcome = outcome' := by
  have once : (s.finished.map Prod.fst).Nodup := (queued.distinct.of_map _).sublist queued.finished_sublist
  exact congrArg Prod.snd (List.inj_on_of_nodup_map once mem mem' rfl)

/-! ## After any steps -/

/-- Jobs run in the order in which they were accepted, each once and one after the other. -/
structure InOrder (past : List (Happening V)) (s : Process V) : Prop where
  distinct : ((past.filterMap Happening.accepted).map Ticket.number).Nodup
  /-- Those that were accepted are those that were taken and those that wait in line. -/
  line : past.filterMap Happening.accepted = past.filterMap Happening.taken ++ s.line
  /-- Those that were taken are done with, all but the one in hand. -/
  hand : past.filterMap Happening.taken = past.filterMap Happening.completed ++ s.turn.hand
  /-- Those that are done with have run, each once. -/
  ran : (past.filterMap Happening.finished).map Prod.fst =
    past.filterMap Happening.completed ++ s.turn.ran
  /-- Unless it has ended, the owning thread alone can come to an end with all that was accepted, whatever
  becomes of the jobs, and then it ends if the sender is gone. -/
  served : s.turn ≠ .left → ∀ outcome : Ticket → Except Panic V, ∃ es s', Steps s es s' ∧
    (∀ e ∈ es, e.OfOwner outcome) ∧
    (past ++ es).filterMap Happening.completed = (past ++ es).filterMap Happening.accepted ∧
    (s.connected = false → ∃ s'', Step s' .leave s'')
  /-- The owning thread needs no more than four steps for a job. -/
  pace : past.countP Happening.proceeds < 4 * ((past.filterMap Happening.completed).length + 1)
  /-- When the owning thread has ended it is done with all that was accepted, and no job is about to be. -/
  left : s.turn = .left →
    past.filterMap Happening.completed = past.filterMap Happening.accepted ∧ s.readers = []

/-- Who hands over a job after the sender was taken is refused, and nobody else is. -/
structure Closing (past : List (Happening V)) (s : Process V) : Prop where
  once : past.countP Happening.closes ≤ 1
  enters : ∀ c waits, s.phase c = .free → s.MayEnter c waits →
    ((∃ s', Step s (.enter c waits) s') ↔ ∀ i, .close i ∉ past)
  refuses : ∀ c waits, s.phase c = .free → s.MayEnter c waits →
    ∀ e, (∃ s', Step s (.refuse c waits e) s') ↔ e = .terminated ∧ ∃ i, .close i ∈ past
  /-- Who is refused changes nothing. -/
  refused : ∀ c waits e s', Step s (.refuse c waits e) s' → s' = s
  /-- Who has found the sender can go on, and its job is accepted. -/
  counts : ∀ c waits, s.phase c = .entered waits → ∃ s', Step s (.count c) s'
  accepts : ∀ c waits, s.phase c = .counted waits → ∃ t s', Step s (.accept c t) s'
  keeps : ∀ c s', ¬ Step s (.lose c) s'

/-- Who waits for a job gets what became of it. -/
structure Answering (past : List (Happening V)) (s : Process V) : Prop where
  waits : ∀ i n, s.phase (.thread i) = .waiting n → ⟨n, some i⟩ ∈ past.filterMap Happening.accepted
  /-- The answer is the value or the panic of the job that the thread waits for and of no other. -/
  own : ∀ i n result s', Step s (.answer i n result) s' → ∃ outcome,
    (⟨n, some i⟩, outcome) ∈ past.filterMap Happening.finished ∧
    (∀ t other, (t, other) ∈ past.filterMap Happening.finished → t.number = n →
      t = ⟨n, some i⟩ ∧ other = outcome) ∧
    (∀ v, outcome = .ok v → result = .ok v) ∧
    ∀ p, outcome = .error p → result = .error (.jobPanicked p.message)
  /-- Once the job is done with there is an answer. -/
  ready : ∀ i n, s.phase (.thread i) = .waiting n → ⟨n, some i⟩ ∈ past.filterMap Happening.completed →
    ∃ result s', Step s (.answer i n result) s'
  keeps : ∀ i n s', ¬ Step s (.forsake i n) s'

/-- What a job may do while it runs. -/
structure Nesting (past : List (Happening V)) (s : Process V) : Prop where
  /-- It is about nothing, or about to hand over a job that it does not wait for. -/
  free : s.phase .job = .free ∨ s.phase .job = .entered false ∨ s.phase .job = .counted false
  /-- When it asks to wait or to end the process it is told at once that it may not, -/
  told : ∀ t, s.turn = .running t → s.phase .job = .free → ∃ s', Step s (.reentrant .reentrant) s'
  /-- which changes nothing. -/
  unchanged : ∀ e s', Step s (.reentrant e) s' → e = .reentrant ∧ s' = s
  /-- What it hands over comes after all that was accepted. -/
  behind : ∀ t s', Step s (.accept .job t) s' →
    s'.line = s.line ++ [t] ∧ s'.accepted = past.filterMap Happening.accepted ++ [t]

/-- The counters tell how many jobs were accepted or are about to be, how many are done with, and how
many of those that have ended did so in a panic. -/
structure Tallied (past : List (Happening V)) (s : Process V) : Prop where
  submitted : s.broker.submitted = (past.filterMap Happening.accepted).length + s.sending.length
  sending : Lists s.sending s.phase Phase.sends
  completed : s.broker.completed = (past.filterMap Happening.completed).length
  panicked : s.broker.panicked = (past.filterMap Happening.finished).countP fun f => Turn.isPanic f.2
  /-- When all is done and nobody is about to hand over a job, as many are done with as were accepted. -/
  quiet : s.line = [] → s.turn.hand = [] → s.readers = [] →
    s.broker.submitted = (past.filterMap Happening.accepted).length ∧
    s.broker.completed = (past.filterMap Happening.accepted).length ∧
    (past.filterMap Happening.finished).map Prod.fst = past.filterMap Happening.accepted

/-- What holds of a process after any steps. -/
structure Orderly [Inhabited V] (past : List (Happening V)) (s : Process V) : Prop where
  inOrder : InOrder past s
  closing : Closing past s
  answering : Answering past s
  nesting : Nesting past s
  tallied : Tallied past s
  carries : ∀ h, Rests s h → Carries s h
  carriesInside : ∀ h, Busy s h → CarriesInside s h

theorem inOrder_of_run (run : Run past s) : InOrder past s := by
  have queued := queued_of_run run
  have recorded := recorded_of_run run
  have locked := locked_of_run run
  refine ⟨?_, ?_, ?_, ?_, ?_, ?_, ?_⟩
  · rw [recorded.accepted]
    exact queued.distinct
  · rw [recorded.accepted, recorded.taken]
    exact queued.line
  · rw [recorded.taken, recorded.completed]
    exact queued.hand
  · rw [recorded.finished, recorded.completed]
    exact queued.ran
  · intro heard outcome
    obtain ⟨es, s', steps, own, line, receiving, connected⟩ := steps_serve_all run outcome heard
    have queued' := queued_of_run (run.append steps)
    have recorded' := recorded_of_run (run.append steps)
    refine ⟨es, s', steps, own, ?_, fun silent => ⟨_, .leave receiving line (connected.trans silent)⟩⟩
    rw [recorded'.completed, recorded'.accepted, queued'.line, queued'.hand, line, receiving, Turn.hand,
      List.append_nil, List.append_nil]
  · have few : s.turn.steps ≤ 3 := by cases s.turn <;> simp [Turn.steps]
    have taken := recorded.proceeds
    rw [recorded.completed]
    omega
  · intro left
    obtain ⟨silent, line⟩ := locked.left left
    refine ⟨?_, locked.unlocked (locked.silent silent)⟩
    rw [recorded.completed, recorded.accepted, queued.line, queued.hand, line, left, Turn.hand,
      List.append_nil, List.append_nil]

/-- The sender is gone if someone took it. -/
theorem Recorded.terminated_iff (recorded : Recorded past s) :
    s.broker.stage = .terminated ↔ ∃ i, .close i ∈ past := by
  have counted : 0 < past.countP Happening.closes ↔ ∃ i, .close i ∈ past := by
    rw [List.countP_pos_iff]
    constructor
    · rintro ⟨e, mem, closes⟩
      cases e with
      | close i => exact ⟨i, mem⟩
      | _ => cases closes
    · rintro ⟨i, mem⟩
      exact ⟨.close i, mem, rfl⟩
  rw [← counted, recorded.closes]
  split
  · next closed => simp [closed]
  · next running => simp [running]

theorem closing_of_run (run : Run past s) : Closing past s := by
  have recorded := recorded_of_run run
  have locked := locked_of_run run
  have running_iff : s.broker.stage = .running ↔ ∀ i, .close i ∉ past := by
    rw [← not_exists, ← recorded.terminated_iff]
    have started := locked.started
    cases stage : s.broker.stage with
    | idle => exact absurd stage started
    | running => simp
    | terminated => simp
  refine ⟨?_, ?_, ?_, ?_, ?_, ?_, ?_⟩
  · rw [recorded.closes]
    split <;> decide
  · intro c waits free may
    rw [← running_iff]
    constructor
    · rintro ⟨s', next⟩
      cases next with
      | enter free may running => exact running
    · intro running
      exact ⟨_, .enter free may running⟩
  · intro c waits free may e
    rw [← recorded.terminated_iff]
    constructor
    · rintro ⟨s', next⟩
      cases next with
      | refuse free may closed =>
        have gone : s.broker.stage ≠ .running := by
          intro running
          rw [accept_of_running running] at closed
          cases closed
        rw [accept_of_not_running gone] at closed
        cases closed
        cases stage : s.broker.stage with
        | idle => exact absurd stage locked.started
        | running => exact absurd stage gone
        | terminated => exact ⟨rfl, rfl⟩
    · rintro ⟨rfl, closed⟩
      exact ⟨_, .refuse free may (accept_of_not_running (by simp [closed]))⟩
  · intro c waits e s' next
    cases next with
    | refuse => rfl
  · intro c waits entered
    exact ⟨_, .count entered⟩
  · intro c waits counted
    exact ⟨_, _, .accept counted (locked.turn_ne_left (by rw [counted]; rfl))⟩
  · intro c s' next
    cases next with
    | lose counted gone => exact locked.turn_ne_left (by rw [counted]; rfl) gone

theorem answering_of_run (run : Run past s) : Answering past s := by
  have queued := queued_of_run run
  have recorded := recorded_of_run run
  have answered := answered_of_run run
  refine ⟨?_, ?_, ?_, ?_⟩
  · intro i n waiting
    rw [recorded.accepted]
    exact answered.waiting i n waiting
  · intro i n result s' next
    cases next with
    | answer waiting mail =>
      obtain ⟨t, outcome, number, mem, rfl⟩ := answered.mail n result mail
      have own : t = ⟨n, some i⟩ :=
        queued.eq_of_number (queued.mem_accepted mem) (answered.waiting i n waiting) number
      subst own
      rw [recorded.finished]
      refine ⟨outcome, mem, ?_, ?_, ?_⟩
      · intro t other mem' number'
        have same : t = ⟨n, some i⟩ :=
          queued.eq_of_number (queued.mem_accepted mem') (answered.waiting i n waiting) number'
        subst same
        exact ⟨rfl, queued.outcome_unique mem' mem⟩
      · rintro v rfl
        rfl
      · rintro p rfl
        rfl
  · intro i n waiting done
    rw [recorded.completed] at done
    obtain ⟨result, mail⟩ := answered.replied _ i rfl (.inl done)
    exact ⟨result, _, .answer waiting mail⟩
  · intro i n s' next
    cases next with
    | forsake waiting noMail gone =>
      -- the job was accepted, so that it is in line, in hand or done with
      have mem := answered.waiting i n waiting
      rw [queued.line, queued.hand, List.append_assoc, List.mem_append] at mem
      rcases mem with done | busy
      · obtain ⟨result, mail⟩ := answered.replied _ i rfl (.inl done)
        rw [noMail] at mail
        cases mail
      · exact gone _ busy rfl

theorem nesting_of_run (run : Run past s) : Nesting past s := by
  have recorded := recorded_of_run run
  refine ⟨(locked_of_run run).job.imp_right And.left, ?_, ?_, ?_⟩
  · intro t running free
    exact ⟨s, .reentrant running free⟩
  · intro e s' next
    cases next with
    | reentrant => exact ⟨rfl, rfl⟩
  · intro t s' next
    rw [recorded.accepted]
    cases next with
    | accept => exact ⟨rfl, rfl⟩

theorem tallied_of_run (run : Run past s) : Tallied past s := by
  have queued := queued_of_run run
  have recorded := recorded_of_run run
  have locked := locked_of_run run
  have counted := counted_of_run run
  refine ⟨?_, locked.sending, ?_, ?_, ?_⟩
  · rw [recorded.accepted]
    exact counted.submitted
  · rw [recorded.completed]
    exact counted.completed
  · rw [recorded.finished]
    exact counted.panicked
  · intro line hand readers
    have nobody : s.sending = [] := by
      rw [List.eq_nil_iff_forall_not_mem]
      intro c mem
      have sends := (locked.sending.mem_iff c).1 mem
      have within := (locked.readers.mem_iff c).2 (Phase.holds_of_sends sends)
      rw [readers] at within
      cases within
    have all : s.accepted = s.completed := by
      rw [queued.line, queued.hand, line, hand, List.append_nil, List.append_nil]
    have ran : s.turn.ran = [] := by
      cases turn : s.turn <;> simp_all [Turn.ran, Turn.hand]
    rw [recorded.accepted, recorded.finished, counted.submitted, counted.completed, nobody, queued.ran, ran, all]
    exact ⟨rfl, rfl, List.append_nil _⟩

/-- After any steps of any number of threads, of the jobs that they hand over and of the owning thread,
jobs run in the order in which they were accepted, who comes after the sender was taken is refused, who
waits gets what became of its own job, jobs neither wait nor end the process, and the counters tell what
has happened.  What a host does from there are steps of the process. -/
theorem orderly [Inhabited V] (run : Run past s) : Orderly past s where
  inOrder := inOrder_of_run run
  closing := closing_of_run run
  answering := answering_of_run run
  nesting := nesting_of_run run
  tallied := tallied_of_run run
  carries _ rests := carries run rests
  carriesInside _ busy := carriesInside run busy

/-! ## A conversation -/

theorem Steps.exists_cons {e : Happening V} {es : List (Happening V)} {P : Process V → Prop} (next : Step s e s')
    (rest : ∃ s'', Steps s' es s'' ∧ P s'') : ∃ s'', Steps s (e :: es) s'' ∧ P s'' := by
  obtain ⟨s'', steps, holds⟩ := rest
  exact ⟨s'', .cons next steps, holds⟩

/-- A thread queues a job that queues another, a second thread waits for a job that panics, and a third
ends the process before that job has run. -/
def conversation : List (Happening Nat) :=
  [.enter (.thread 0) false, .count (.thread 0), .accept (.thread 0) ⟨0, none⟩,
    .enter (.thread 1) true, .take ⟨0, none⟩, .count (.thread 1), .enter .job false,
    .accept (.thread 1) ⟨1, some 1⟩, .count .job, .accept .job ⟨2, none⟩, .close 2,
    .refuse (.thread 0) false .terminated, .finish ⟨0, none⟩ (.ok 0), .complete ⟨0, none⟩,
    .disconnect 2, .take ⟨1, some 1⟩, .finish ⟨1, some 1⟩ (.error ⟨"boom"⟩), .reply ⟨1, some 1⟩,
    .complete ⟨1, some 1⟩, .take ⟨2, none⟩, .answer 1 1 (.error (.jobPanicked "boom")),
    .finish ⟨2, none⟩ (.ok 2), .complete ⟨2, none⟩, .leave, .join 2]

theorem steps_conversation : ∃ s : Process Nat, Steps {} conversation s ∧ s.turn = .left ∧
    s.broker = { stage := .terminated, submitted := 3, completed := 3, panicked := 1 } := by
  refine Steps.exists_cons (.enter rfl trivial rfl) ?_
  refine Steps.exists_cons (.count rfl) ?_
  refine Steps.exists_cons (@Step.accept _ _ _ false rfl (fun left => nomatch left)) ?_
  refine Steps.exists_cons (.enter rfl trivial rfl) ?_
  refine Steps.exists_cons (.take rfl rfl) ?_
  refine Steps.exists_cons (.count rfl) ?_
  refine Steps.exists_cons (.enter rfl ⟨rfl, _, rfl⟩ rfl) ?_
  refine Steps.exists_cons (@Step.accept _ _ _ true rfl (fun left => nomatch left)) ?_
  refine Steps.exists_cons (.count rfl) ?_
  refine Steps.exists_cons (@Step.accept _ _ _ false rfl (fun left => nomatch left)) ?_
  refine Steps.exists_cons (.close rfl rfl rfl) ?_
  refine Steps.exists_cons (.refuse rfl trivial rfl) ?_
  refine Steps.exists_cons (.finish rfl rfl _) ?_
  refine Steps.exists_cons (.complete (.inr ⟨_, rfl, rfl⟩)) ?_
  refine Steps.exists_cons (.disconnect rfl) ?_
  refine Steps.exists_cons (.take rfl rfl) ?_
  refine Steps.exists_cons (.finish rfl rfl _) ?_
  refine Steps.exists_cons (.reply rfl rfl) ?_
  refine Steps.exists_cons (.complete (.inl rfl)) ?_
  refine Steps.exists_cons (.take rfl rfl) ?_
  refine Steps.exists_cons (.answer rfl rfl) ?_
  refine Steps.exists_cons (.finish rfl rfl _) ?_
  refine Steps.exists_cons (.complete (.inr ⟨_, rfl, rfl⟩)) ?_
  refine Steps.exists_cons (.leave rfl rfl rfl) ?_
  refine Steps.exists_cons (.join rfl rfl) ?_
  exact ⟨_, .nil, rfl, rfl⟩

/-- A job that runs and a host on which it does. -/
theorem steps_busy : ∃ s : Process Nat,
    Steps {} [.enter (.thread 0) false, .count (.thread 0), .accept (.thread 0) ⟨0, none⟩, .take ⟨0, none⟩] s ∧
      Busy s { broker := { stage := .running, submitted := 1 }, insideJob := true } := by
  refine Steps.exists_cons (.enter rfl trivial rfl) ?_
  refine Steps.exists_cons (.count rfl) ?_
  refine Steps.exists_cons (@Step.accept _ _ _ false rfl (fun left => nomatch left)) ?_
  refine Steps.exists_cons (.take rfl rfl) ?_
  exact ⟨_, .nil, ⟨rfl, rfl, fun t mem => (nomatch mem), rfl⟩, ⟨_, rfl⟩, rfl⟩

theorem orderly_conversation :
    (∃ s : Process Nat, Run conversation s ∧ s.turn = .left ∧
      s.broker = { stage := .terminated, submitted := 3, completed := 3, panicked := 1 } ∧
      Orderly conversation s) ∧
    (∃ h, Rests ({} : Process Nat) h ∧ Carries ({} : Process Nat) h) ∧
    ∃ past, ∃ s : Process Nat, ∃ h, Run past s ∧ Busy s h ∧ CarriesInside s h := by
  refine ⟨?_, ?_, ?_⟩
  · obtain ⟨s, steps, left, broker⟩ := steps_conversation
    have run : Run conversation s := Run.start.append steps
    exact ⟨s, run, left, broker, orderly run⟩
  · have rests : Rests ({} : Process Nat) { broker := { stage := .running } } := rests_start rfl rfl
    exact ⟨_, rests, (orderly .start).carries _ rests⟩
  · obtain ⟨s, steps, busy⟩ := steps_busy
    have run := Run.start.append steps
    exact ⟨_, s, _, run, busy, (orderly run).carriesInside _ busy⟩

end Process

end InterpreterHost
