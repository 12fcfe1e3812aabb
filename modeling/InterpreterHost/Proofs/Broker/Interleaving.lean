import Mathlib.Data.List.Nodup
import Mathlib.Logic.Function.Basic
import InterpreterHost.Broker

/-!
# The broker among threads

Any number of threads hand jobs to the owning thread at once, jobs hand on jobs while they run, and one
of the threads may end it all at any moment.  This file says what each of them does in one step, and
what holds after any steps of all of them.

## Main definitions

* `Caller`, `Phase` — who hands over jobs, and how far it has come with one
* `Turn` — how far the owning thread has come
* `Process` — the broker, the jobs that wait in line, and where everyone is
* `Process.Step` — one step of one of them
* `Process.Run` — any steps, from the moment that the owning thread has started

## Main statements

* `Process.queued_of_run` — jobs are taken in the order in which they were accepted
* `Process.locked_of_run` — nobody hands over a job while the sender is taken
* `Process.answered_of_run` — who waits gets what became of its own job
* `Process.counted_of_run` — the counters tell what has happened

## Design notes

Each access to what the threads share is a step: entering the lock of the sender, counting, sending,
taking a job, counting its panic, answering, counting its end, taking the sender, letting go of it.  To
leave the lock is part of the last step within it, for the others see no more of it than that they may
enter.  Steps are taken one after the other, as on a machine whose memory all threads see alike.

What becomes of a job is not told from its code.  A job may hand on any jobs while it runs and may end
in any result or panic.  The lists `accepted`, `taken`, `finished`, `completed` and `sending` are the
history, which no step looks at except to number the jobs.
-/

namespace InterpreterHost

/-! ## Callers and jobs -/

/-- Who hands over jobs: a thread of the process, or the job that runs. -/
inductive Caller where
  | thread (i : Nat)
  | job
deriving DecidableEq, Repr

/-- A job that was accepted: its number, and the thread that waits for it if there is one. -/
structure Ticket where
  number : Nat
  waiter : Option Nat
deriving DecidableEq, Repr

/-- How far a caller has come. -/
inductive Phase where
  | free
  /-- It has found the sender, and holds its lock. -/
  | entered (waits : Bool)
  /-- Its job is counted. -/
  | counted (waits : Bool)
  /-- It waits for the job with the number. -/
  | waiting (n : Nat)
  /-- It has taken the sender. -/
  | closing
  /-- It waits for the owning thread to end. -/
  | joining
deriving DecidableEq, Repr

namespace Phase

/-- Whether the caller holds the lock. -/
def holds : Phase → Bool
  | entered _ => true
  | counted _ => true
  | _ => false

/-- Whether its job is counted and not yet accepted. -/
def sends : Phase → Bool
  | counted _ => true
  | _ => false

/-- A job is counted and sent within the lock. -/
theorem holds_of_sends {p : Phase} (sends : p.sends = true) : p.holds = true := by
  cases p with
  | counted waits => rfl
  | free | entered | waiting | closing | joining => cases sends

end Phase

/-- How far the owning thread has come; `V` are the results of jobs. -/
inductive Turn (V : Type) where
  | receiving
  | running (t : Ticket)
  /-- The job has ended; its panic is counted. -/
  | ended (t : Ticket) (outcome : Except Panic V)
  /-- Who waits for the job has the answer. -/
  | replied (t : Ticket)
  /-- The thread has ended. -/
  | left

namespace Turn

variable {V : Type}

/-- The job that was taken and is not done with. -/
def hand : Turn V → List Ticket
  | receiving => []
  | running t => [t]
  | ended t _ => [t]
  | replied t => [t]
  | left => []

/-- That job, if it has ended. -/
def ran : Turn V → List Ticket
  | receiving => []
  | running _ => []
  | ended t _ => [t]
  | replied t => [t]
  | left => []

end Turn

/-- What happens in a process. -/
inductive Happening (V : Type) where
  | enter (c : Caller) (waits : Bool)
  /-- The caller is told that the sender is gone. -/
  | refuse (c : Caller) (waits : Bool) (e : BrokerError)
  | count (c : Caller)
  | accept (c : Caller) (t : Ticket)
  /-- The caller is told so though its job was counted. -/
  | lose (c : Caller)
  /-- A job is told that it may not wait. -/
  | reentrant (e : BrokerError)
  | take (t : Ticket)
  | finish (t : Ticket) (outcome : Except Panic V)
  | reply (t : Ticket)
  | complete (t : Ticket)
  /-- A thread gets the answer to its job. -/
  | answer (i n : Nat) (result : Except BrokerError V)
  /-- A thread is told that there will be none. -/
  | forsake (i n : Nat)
  | close (i : Nat)
  | closeAgain (i : Nat)
  | disconnect (i : Nat)
  | leave
  | join (i : Nat)

/-! ## The process -/

/-- The broker with those who use it. -/
structure Process (V : Type) where
  broker : Broker := { stage := .running }
  /-- The jobs that wait in the channel. -/
  line : List Ticket := []
  /-- Whether the channel has a sender. -/
  connected : Bool := true
  turn : Turn V := .receiving
  /-- Who holds the lock of the sender. -/
  readers : List Caller := []
  phase : Caller → Phase := fun _ => .free
  /-- The answers that lie ready, by the numbers of the jobs. -/
  mail : Nat → Option (Except BrokerError V) := fun _ => none
  accepted : List Ticket := []
  taken : List Ticket := []
  finished : List (Ticket × Except Panic V) := []
  completed : List Ticket := []
  /-- Whose job is counted and not yet accepted. -/
  sending : List Caller := []

/-- The thread that will wait for the job that a caller hands over. -/
def Caller.waiter : Caller → Bool → Option Nat
  | thread i, true => some i
  | _, _ => none

/-- The answer to a job. -/
def Turn.answer {V : Type} (outcome : Except Panic V) : Except BrokerError V :=
  outcome.mapError fun p => .jobPanicked p.message

/-- Whether a job ended in a panic. -/
def Turn.isPanic {V : Type} : Except Panic V → Bool
  | .ok _ => false
  | .error _ => true

namespace Process

variable {V : Type}

/-- A caller may hand over a job: a thread any, and the job that runs one that it does not wait for. -/
def MayEnter (s : Process V) : Caller → Bool → Prop
  | .thread _, _ => True
  | .job, waits => waits = false ∧ ∃ t, s.turn = .running t

/-- One step of a caller or of the owning thread. -/
inductive Step (s : Process V) : Happening V → Process V → Prop
  /-- A caller finds the sender. -/
  | enter {c waits} (free : s.phase c = .free) (may : s.MayEnter c waits)
      (running : s.broker.stage = .running) :
      Step s (.enter c waits) { s with
        phase := Function.update s.phase c (.entered waits)
        readers := c :: s.readers }
  /-- A caller finds that the sender is gone. -/
  | refuse {c waits e} (free : s.phase c = .free) (may : s.MayEnter c waits)
      (closed : s.broker.accept = .error e) : Step s (.refuse c waits e) s
  | count {c waits} (entered : s.phase c = .entered waits) :
      Step s (.count c) { s with
        phase := Function.update s.phase c (.counted waits)
        broker := { s.broker with submitted := s.broker.submitted + 1 }
        sending := c :: s.sending }
  /-- The job goes into the channel, and the caller waits or is free again. -/
  | accept {c waits} (counted : s.phase c = .counted waits) (heard : s.turn ≠ .left) :
      Step s (.accept c ⟨s.accepted.length, c.waiter waits⟩)
        { s with
          phase := Function.update s.phase c (if waits then .waiting s.accepted.length else .free)
          line := s.line ++ [⟨s.accepted.length, c.waiter waits⟩]
          readers := s.readers.erase c
          accepted := s.accepted ++ [⟨s.accepted.length, c.waiter waits⟩]
          sending := s.sending.erase c }
  /-- The channel has nobody who would take the job. -/
  | lose {c waits} (counted : s.phase c = .counted waits) (gone : s.turn = .left) :
      Step s (.lose c) { s with
        phase := Function.update s.phase c .free
        readers := s.readers.erase c
        sending := s.sending.erase c }
  /-- A job asks to wait, or to end the process. -/
  | reentrant {t} (running : s.turn = .running t) (free : s.phase .job = .free) :
      Step s (.reentrant .reentrant) s
  | take {t rest} (receiving : s.turn = .receiving) (line : s.line = t :: rest) :
      Step s (.take t) { s with line := rest, turn := .running t, taken := s.taken ++ [t] }
  | finish {t} (running : s.turn = .running t) (free : s.phase .job = .free)
      (outcome : Except Panic V) :
      Step s (.finish t outcome) { s with
        turn := .ended t outcome
        broker := { s.broker with panicked := s.broker.panicked + if Turn.isPanic outcome then 1 else 0 }
        finished := s.finished ++ [(t, outcome)] }
  | reply {t i outcome} (ended : s.turn = .ended t outcome) (waiter : t.waiter = some i) :
      Step s (.reply t) { s with
        turn := .replied t
        mail := Function.update s.mail t.number (some (Turn.answer outcome)) }
  | complete {t} (done : s.turn = .replied t ∨ ∃ outcome, s.turn = .ended t outcome ∧ t.waiter = none) :
      Step s (.complete t) { s with
        turn := .receiving
        broker := { s.broker with completed := s.broker.completed + 1 }
        completed := s.completed ++ [t] }
  | answer {i n result} (waiting : s.phase (.thread i) = .waiting n) (mail : s.mail n = some result) :
      Step s (.answer i n result) { s with phase := Function.update s.phase (.thread i) .free }
  /-- There is no answer, and nobody is left who would give one: the job is neither in the channel nor
  in the hands of the owning thread. -/
  | forsake {i n} (waiting : s.phase (.thread i) = .waiting n) (noMail : s.mail n = none)
      (gone : ∀ t ∈ s.turn.hand ++ s.line, t.number ≠ n) :
      Step s (.forsake i n) { s with phase := Function.update s.phase (.thread i) .free }
  /-- A thread takes the sender, for which nobody may hold the lock. -/
  | close {i} (free : s.phase (.thread i) = .free) (running : s.broker.stage = .running)
      (unlocked : s.readers = []) :
      Step s (.close i) { s with
        phase := Function.update s.phase (.thread i) .closing
        broker := s.broker.close }
  /-- A thread finds that the sender was taken. -/
  | closeAgain {i} (free : s.phase (.thread i) = .free) (closed : s.broker.stage = .terminated) :
      Step s (.closeAgain i) s
  | disconnect {i} (closing : s.phase (.thread i) = .closing) :
      Step s (.disconnect i) { s with
        phase := Function.update s.phase (.thread i) .joining
        connected := false }
  /-- The owning thread ends when the channel is empty and no more can come. -/
  | leave (receiving : s.turn = .receiving) (empty : s.line = []) (silent : s.connected = false) :
      Step s .leave { s with turn := .left }
  | join {i} (joining : s.phase (.thread i) = .joining) (left : s.turn = .left) :
      Step s (.join i) { s with phase := Function.update s.phase (.thread i) .free }

/-- Steps from the moment that the owning thread has started, and what has become of the process. -/
inductive Run : List (Happening V) → Process V → Prop
  | start : Run [] {}
  | step {past s e s'} (before : Run past s) (next : Step s e s') : Run (past ++ [e]) s'

/-- Steps from one state of the process to another. -/
inductive Steps : Process V → List (Happening V) → Process V → Prop
  | nil {s} : Steps s [] s
  | cons {s e s' es s''} (next : Step s e s') (rest : Steps s' es s'') : Steps s (e :: es) s''

theorem Steps.append {s s' s'' : Process V} {es es' : List (Happening V)} (first : Steps s es s')
    (second : Steps s' es' s'') : Steps s (es ++ es') s'' := by
  induction first with
  | nil => exact second
  | cons next rest ih => exact .cons next (ih second)

theorem Run.append {past es : List (Happening V)} {s s' : Process V} (run : Run past s)
    (steps : Steps s es s') : Run (past ++ es) s' := by
  induction steps generalizing past with
  | nil => rwa [List.append_nil]
  | cons next rest ih =>
    rw [← List.singleton_append, ← List.append_assoc]
    exact ih (run.step next)

/-! ## Jobs are taken in order -/

/-- The jobs that were accepted are, in this order, those that are done with, the one in hand and those
in line. -/
structure Queued (s : Process V) : Prop where
  numbers : s.accepted.map Ticket.number = List.range s.accepted.length
  line : s.accepted = s.taken ++ s.line
  hand : s.taken = s.completed ++ s.turn.hand
  ran : s.finished.map Prod.fst = s.completed ++ s.turn.ran
  ended : ∀ t outcome, s.turn = .ended t outcome → (t, outcome) ∈ s.finished

theorem Queued.step {s s' : Process V} {e : Happening V} (queued : Queued s) (next : Step s e s') :
    Queued s' := by
  cases next with
  -- neither the channel nor the owning thread has anything to do with these
  | enter | refuse | count | lose | reentrant | answer | forsake | close | closeAgain | disconnect
  | join => exact { queued with }
  | @accept c waits counted heard =>
    refine { queued with numbers := ?_, line := ?_ }
    · change (s.accepted ++ [_]).map Ticket.number = List.range (s.accepted ++ [_]).length
      rw [List.map_append, queued.numbers, List.length_append, List.length_singleton, List.range_succ]
      rfl
    · change s.accepted ++ [_] = s.taken ++ (s.line ++ [_])
      rw [← List.append_assoc, ← queued.line]
  | @take t rest receiving line =>
    have hand := queued.hand
    have ran := queued.ran
    rw [receiving] at hand ran
    refine { queued with line := ?_, hand := ?_, ran, ended := nofun }
    · change s.accepted = s.taken ++ [t] ++ rest
      rw [List.append_assoc, List.singleton_append, ← line]
      exact queued.line
    · change s.taken ++ [t] = s.completed ++ [t]
      rw [hand, Turn.hand, List.append_nil]
  | @finish t running free outcome =>
    have hand := queued.hand
    have ran := queued.ran
    rw [running] at hand ran
    refine { queued with hand, ran := ?_, ended := ?_ }
    · change (s.finished ++ [(t, outcome)]).map Prod.fst = s.completed ++ [t]
      rw [List.map_append, ran, Turn.ran, List.append_nil]
      rfl
    · rintro _ _ ⟨⟩
      exact List.mem_append_right _ (List.mem_singleton_self _)
  | @reply t i outcome ended waiter =>
    have hand := queued.hand
    have ran := queued.ran
    rw [ended] at hand ran
    exact { queued with hand, ran, ended := nofun }
  | @complete t done =>
    -- the job in hand has ended, whether or not there was someone to answer
    have hand : s.turn.hand = [t] := by
      rcases done with replied | ⟨outcome, ended, -⟩
      · rw [replied, Turn.hand]
      · rw [ended, Turn.hand]
    have ran : s.turn.ran = [t] := by
      rcases done with replied | ⟨outcome, ended, -⟩
      · rw [replied, Turn.ran]
      · rw [ended, Turn.ran]
    refine { queued with hand := ?_, ran := ?_, ended := nofun }
    · change s.taken = s.completed ++ [t] ++ []
      rw [List.append_nil, ← hand]
      exact queued.hand
    · change s.finished.map Prod.fst = s.completed ++ [t] ++ []
      rw [List.append_nil, ← ran]
      exact queued.ran
  | leave receiving =>
    have hand := queued.hand
    have ran := queued.ran
    rw [receiving] at hand ran
    exact { queued with hand, ran, ended := nofun }

theorem queued_of_run {past : List (Happening V)} {s : Process V} (run : Run past s) : Queued s := by
  induction run with
  | start => exact ⟨rfl, rfl, rfl, rfl, fun _ _ ended => by cases ended⟩
  | step before next ih => exact ih.step next

/-! ## Lists of callers -/

/-- The list holds those callers, each once, whose phase has the property. -/
structure Lists (callers : List Caller) (phase : Caller → Phase) (property : Phase → Bool) : Prop where
  nodup : callers.Nodup
  mem_iff : ∀ c, c ∈ callers ↔ property (phase c) = true

theorem update_same (phase : Caller → Phase) (c : Caller) (p : Phase) : Function.update phase c p c = p :=
  Function.update_self c p phase

namespace Lists

variable {callers : List Caller} {phase : Caller → Phase} {property : Phase → Bool} {c : Caller} {p : Phase}

theorem keep (lists : Lists callers phase property) (same : property p = property (phase c)) :
    Lists callers (Function.update phase c p) property := by
  refine ⟨lists.nodup, fun d => ?_⟩
  rw [lists.mem_iff, Function.update_apply]
  split
  · next equal => rw [equal, same]
  · rfl

theorem cons (lists : Lists callers phase property) (before : property (phase c) = false)
    (after : property p = true) : Lists (c :: callers) (Function.update phase c p) property := by
  have new : c ∉ callers := by
    rw [lists.mem_iff, before]
    exact Bool.false_ne_true
  refine ⟨List.nodup_cons.2 ⟨new, lists.nodup⟩, fun d => ?_⟩
  rw [List.mem_cons, lists.mem_iff, Function.update_apply]
  split
  · next equal => simp [equal, after]
  · next other => simp [other]

theorem erase (lists : Lists callers phase property) (after : property p = false) :
    Lists (callers.erase c) (Function.update phase c p) property := by
  refine ⟨lists.nodup.erase c, fun d => ?_⟩
  rw [lists.nodup.mem_erase_iff, lists.mem_iff, Function.update_apply]
  split
  · next equal => simp [equal, after]
  · next other => simp [other]

end Lists

/-! ## Nobody is within the lock when the sender is taken -/

/-- The lock is held by those who hand over a job and by nobody else, and by nobody once the sender was
taken. -/
structure Locked (s : Process V) : Prop where
  readers : Lists s.readers s.phase Phase.holds
  sending : Lists s.sending s.phase Phase.sends
  started : s.broker.stage ≠ .idle
  unlocked : s.broker.stage = .terminated → s.readers = []
  closing : ∀ i, s.phase (.thread i) = .closing → s.broker.stage = .terminated
  silent : s.connected = false → s.broker.stage = .terminated
  left : s.turn = .left → s.connected = false ∧ s.line = []
  /-- A job hands over jobs only while it runs, and never waits. -/
  job : s.phase .job = .free ∨
    (s.phase .job = .entered false ∨ s.phase .job = .counted false) ∧ ∃ t, s.turn = .running t

/-- No job hands over jobs that does not run. -/
theorem Locked.job_free {s : Process V} (locked : Locked s) (idle : ∀ t, s.turn ≠ .running t) :
    s.phase .job = .free :=
  locked.job.resolve_right fun ⟨_, t, running⟩ => idle t running

/-- The lists of callers do not change for one that neither held the lock nor takes hold of it. -/
theorem Locked.keep {s : Process V} (locked : Locked s) {c : Caller} {p : Phase}
    (before : (s.phase c).holds = false) (after : p.holds = false) :
    Lists s.readers (Function.update s.phase c p) Phase.holds ∧
      Lists s.sending (Function.update s.phase c p) Phase.sends := by
  have silent {q : Phase} (outside : q.holds = false) : q.sends = false := by
    rw [Bool.eq_false_iff] at outside ⊢
    exact fun sends => outside (Phase.holds_of_sends sends)
  refine ⟨locked.readers.keep ?_, locked.sending.keep ?_⟩
  · rw [before, after]
  · rw [silent before, silent after]

/-- What is known of threads that close is not changed by a caller that goes on to something else. -/
theorem Locked.closing_update {s : Process V} (locked : Locked s) {c : Caller} {p : Phase}
    (other : p ≠ .closing) (i : Nat) (closing : Function.update s.phase c p (.thread i) = .closing) :
    s.broker.stage = .terminated := by
  rw [Function.update_apply] at closing
  split at closing
  · exact absurd closing other
  · exact locked.closing i closing

theorem Locked.step {s s' : Process V} {e : Happening V} (locked : Locked s) (next : Step s e s') :
    Locked s' := by
  cases next with
  | refuse | closeAgain | reentrant => exact locked
  | @enter c waits free may running =>
    have outside : (s.phase c).holds = false := by rw [free]; rfl
    have silent : (s.phase c).sends = false := by rw [free]; rfl
    refine { locked with
      readers := locked.readers.cons outside rfl
      sending := locked.sending.keep silent.symm
      unlocked := ?_
      closing := locked.closing_update (by simp)
      job := ?_ }
    · -- who enters has found the sender, so that nobody has taken it
      intro ended
      have clash : Stage.running = .terminated := running.symm.trans ended
      cases clash
    · cases c with
      | thread i => exact locked.job
      | job =>
        obtain ⟨rfl, t, runs⟩ := may
        exact .inr ⟨.inl (update_same s.phase .job (.entered false)), t, runs⟩
  | @count c waits entered =>
    have inside : (s.phase c).holds = true := by rw [entered]; rfl
    have silent : (s.phase c).sends = false := by rw [entered]; rfl
    refine { locked with
      readers := locked.readers.keep inside.symm
      sending := locked.sending.cons silent rfl
      closing := locked.closing_update (by simp)
      job := ?_ }
    cases c with
    | thread i => exact locked.job
    | job =>
      rcases locked.job with free | ⟨now | now, runs⟩
      · cases entered.symm.trans free
      · cases entered.symm.trans now
        exact .inr ⟨.inr (update_same s.phase .job (.counted false)), runs⟩
      · cases entered.symm.trans now
  | @accept c waits counted heard =>
    refine { locked with
      readers := locked.readers.erase (by cases waits <;> rfl)
      sending := locked.sending.erase (by cases waits <;> rfl)
      unlocked ended := congrArg (·.erase c) (locked.unlocked ended)
      closing := locked.closing_update (by cases waits <;> simp)
      left left := absurd left heard
      job := ?_ }
    cases c with
    | thread i => exact locked.job
    | job =>
      rcases locked.job with free | ⟨now | now, -⟩
      · cases counted.symm.trans free
      · cases counted.symm.trans now
      · cases counted.symm.trans now
        exact .inl (update_same s.phase .job .free)
  | @lose c waits counted gone =>
    refine { locked with
      readers := locked.readers.erase rfl
      sending := locked.sending.erase rfl
      unlocked ended := congrArg (·.erase c) (locked.unlocked ended)
      closing := locked.closing_update (by simp)
      job := ?_ }
    cases c with
    | thread i => exact locked.job
    | job => exact .inl (update_same s.phase .job .free)
  | take receiving line =>
    have free := locked.job_free fun t running => by cases receiving.symm.trans running
    exact { locked with left := nofun, job := .inl free }
  | finish running free outcome =>
    exact { locked with left := nofun, job := .inl free }
  | reply ended waiter =>
    have free := locked.job_free fun t running => by cases ended.symm.trans running
    exact { locked with left := nofun, job := .inl free }
  | complete done =>
    have free := locked.job_free fun t running => by
      rcases done with replied | ⟨outcome, ended, -⟩
      · cases replied.symm.trans running
      · cases ended.symm.trans running
    exact { locked with left := nofun, job := .inl free }
  | @answer i n result waiting mail =>
    obtain ⟨readers, sending⟩ := locked.keep (p := .free) (c := .thread i) (by rw [waiting]; rfl) rfl
    exact { locked with readers, sending, closing := locked.closing_update (by simp) }
  | @forsake i n waiting noMail gone =>
    obtain ⟨readers, sending⟩ := locked.keep (p := .free) (c := .thread i) (by rw [waiting]; rfl) rfl
    exact { locked with readers, sending, closing := locked.closing_update (by simp) }
  | @close i free running unlocked =>
    obtain ⟨readers, sending⟩ := locked.keep (p := .closing) (c := .thread i) (by rw [free]; rfl) rfl
    exact { locked with
      readers, sending
      started := nofun
      unlocked _ := unlocked
      closing _ _ := rfl
      silent _ := rfl }
  | @disconnect i closing =>
    obtain ⟨readers, sending⟩ := locked.keep (p := .joining) (c := .thread i) (by rw [closing]; rfl) rfl
    exact { locked with
      readers, sending
      closing := locked.closing_update (by simp)
      silent _ := locked.closing i closing
      left left := ⟨rfl, (locked.left left).2⟩ }
  | leave receiving empty silent =>
    have free := locked.job_free fun t running => by cases receiving.symm.trans running
    exact { locked with left _ := ⟨silent, empty⟩, job := .inl free }
  | @join i joining left =>
    obtain ⟨readers, sending⟩ := locked.keep (p := .free) (c := .thread i) (by rw [joining]; rfl) rfl
    exact { locked with readers, sending, closing := locked.closing_update (by simp) }

theorem locked_of_run {past : List (Happening V)} {s : Process V} (run : Run past s) : Locked s := by
  induction run with
  | start =>
    have nobody (property : Phase → Bool) (free : property .free = false) :
        Lists [] (fun _ => .free) property :=
      ⟨List.nodup_nil, fun c => by simp [free]⟩
    exact ⟨nobody _ rfl, nobody _ rfl, fun idle => (nomatch idle), fun _ => rfl, fun _ closing => (nomatch closing),
      fun silent => (nomatch silent), fun left => (nomatch left), .inl rfl⟩
  | step before next ih => exact ih.step next

/-- While someone holds the lock the owning thread goes on. -/
theorem Locked.turn_ne_left {s : Process V} (locked : Locked s) {c : Caller} (holds : (s.phase c).holds = true) :
    s.turn ≠ .left := by
  intro left
  have closed := locked.silent (locked.left left).1
  have inside := (locked.readers.mem_iff c).2 holds
  rw [locked.unlocked closed] at inside
  cases inside

/-! ## Answers -/

/-- Who waits has handed over the job that it waits for.  An answer that lies ready is what became of
the job, and no job with someone waiting is done with before its answer lies ready. -/
structure Answered (s : Process V) : Prop where
  waiting : ∀ i n, s.phase (.thread i) = .waiting n → ⟨n, some i⟩ ∈ s.accepted
  mail : ∀ n result, s.mail n = some result →
    ∃ t outcome, t.number = n ∧ (t, outcome) ∈ s.finished ∧ result = Turn.answer outcome
  replied : ∀ t i, t.waiter = some i → t ∈ s.completed ∨ s.turn = .replied t →
    ∃ result, s.mail t.number = some result

/-- A thread that waits does so after anyone has gone on to something else. -/
theorem Answered.waiting_update {s : Process V} (answered : Answered s) {c : Caller} {p : Phase}
    (other : ∀ n, p ≠ .waiting n) (i n : Nat)
    (waiting : Function.update s.phase c p (.thread i) = .waiting n) : ⟨n, some i⟩ ∈ s.accepted := by
  rw [Function.update_apply] at waiting
  split at waiting
  · exact absurd waiting (other n)
  · exact answered.waiting i n waiting

theorem Answered.step {s s' : Process V} {e : Happening V} (answered : Answered s) (queued : Queued s)
    (next : Step s e s') : Answered s' := by
  cases next with
  | refuse | closeAgain | reentrant => exact answered
  | enter | count | lose | answer | forsake | close | disconnect | join =>
    exact { answered with waiting := answered.waiting_update (by simp) }
  | @accept c waits counted heard =>
    refine { answered with waiting := fun i n waiting => ?_ }
    change Function.update s.phase c _ (.thread i) = .waiting n at waiting
    rw [Function.update_apply] at waiting
    split at waiting
    · next equal =>
      -- it is the caller itself that waits now, for the job that it has just handed over
      subst equal
      cases waits with
      | false => cases waiting
      | true =>
        cases waiting
        exact List.mem_append_right _ (List.mem_singleton_self _)
    · exact List.mem_append_left _ (answered.waiting i n waiting)
  | take receiving line =>
    refine { answered with replied := fun t i waiter done => ?_ }
    exact answered.replied t i waiter (done.imp_right fun replied => (nomatch replied))
  | finish running free outcome =>
    refine { answered with mail := fun n result ready => ?_, replied := fun t i waiter done => ?_ }
    · obtain ⟨t, outcome, number, mem, same⟩ := answered.mail n result ready
      exact ⟨t, outcome, number, List.mem_append_left _ mem, same⟩
    · exact answered.replied t i waiter (done.imp_right fun replied => (nomatch replied))
  | @reply t i outcome ended waiter =>
    refine { answered with mail := fun n result ready => ?_, replied := fun t' i' waiter' done => ?_ }
    · change Function.update s.mail t.number _ n = some result at ready
      rw [Function.update_apply] at ready
      split at ready
      · next equal =>
        cases ready
        exact ⟨t, outcome, equal.symm, queued.ended t outcome ended, rfl⟩
      · exact answered.mail n result ready
    · change ∃ result, Function.update s.mail t.number _ t'.number = some result
      rw [Function.update_apply]
      split
      · exact ⟨_, rfl⟩
      · next other =>
        refine answered.replied t' i' waiter' (.inl (done.resolve_right fun replied => ?_))
        cases replied
        exact other rfl
  | @complete t done =>
    refine { answered with replied := fun t' i' waiter' done' => ?_ }
    have mem : t' ∈ s.completed ++ [t] := done'.resolve_right fun replied => (nomatch replied)
    rw [List.mem_append, List.mem_singleton] at mem
    rcases mem with before | rfl
    · exact answered.replied t' i' waiter' (.inl before)
    · -- a job is done with after its answer lies ready, or because nobody waits for it
      rcases done with replied | ⟨outcome, -, nobody⟩
      · exact answered.replied t' i' waiter' (.inr replied)
      · rw [nobody] at waiter'
        cases waiter'
  | leave receiving empty silent =>
    refine { answered with replied := fun t i waiter done => ?_ }
    exact answered.replied t i waiter (done.imp_right fun replied => (nomatch replied))

theorem answered_of_run {past : List (Happening V)} {s : Process V} (run : Run past s) : Answered s := by
  induction run with
  | start =>
    refine ⟨fun _ _ waiting => (nomatch waiting), fun _ _ ready => (nomatch ready), fun t i _ done => ?_⟩
    rcases done with mem | replied
    · cases mem
    · cases replied
  | step before next ih => exact ih.step (queued_of_run before) next

/-! ## Counters -/

/-- The counters tell how many jobs were accepted, besides those that are about to be, how many are done
with, and how many of those that have ended did so in a panic. -/
structure Counted (s : Process V) : Prop where
  submitted : s.broker.submitted = s.accepted.length + s.sending.length
  completed : s.broker.completed = s.completed.length
  panicked : s.broker.panicked = s.finished.countP fun f => Turn.isPanic f.2

theorem Counted.step {s s' : Process V} {e : Happening V} (tallied : Counted s) (locked : Locked s)
    (next : Step s e s') : Counted s' := by
  cases next with
  | enter | refuse | reentrant | take | reply | answer | forsake | close | closeAgain | disconnect
  | leave | join => exact { tallied with }
  | @count c waits entered =>
    refine { tallied with submitted := ?_ }
    change s.broker.submitted + 1 = s.accepted.length + (c :: s.sending).length
    rw [tallied.submitted, List.length_cons, Nat.add_assoc]
  | @accept c waits counted heard =>
    refine { tallied with submitted := ?_ }
    have mem : c ∈ s.sending := (locked.sending.mem_iff c).2 (by rw [counted]; rfl)
    have some' := List.length_pos_of_mem mem
    change s.broker.submitted = (s.accepted ++ [_]).length + (s.sending.erase c).length
    rw [tallied.submitted, List.length_append, List.length_singleton, List.length_erase_of_mem mem]
    omega
  -- no job is lost after it was counted: the owning thread is there as long as someone holds the lock
  | @lose c waits counted gone => exact absurd gone (locked.turn_ne_left (by rw [counted]; rfl))
  | @finish t running free outcome =>
    refine { tallied with panicked := ?_ }
    change s.broker.panicked + _ = (s.finished ++ [(t, outcome)]).countP _
    rw [tallied.panicked, List.countP_append, List.countP_singleton]
  | @complete t done =>
    refine { tallied with completed := ?_ }
    change s.broker.completed + 1 = (s.completed ++ [t]).length
    rw [tallied.completed, List.length_append, List.length_singleton]

theorem counted_of_run {past : List (Happening V)} {s : Process V} (run : Run past s) : Counted s := by
  induction run with
  | start => exact ⟨rfl, rfl, rfl⟩
  | step before next ih => exact ih.step (locked_of_run before) next

end Process

end InterpreterHost
