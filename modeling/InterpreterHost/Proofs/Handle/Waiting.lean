import InterpreterHost.Proofs.Broker.Order
import InterpreterHost.Proofs.Handle.Locks

/-!
# Jobs that wait for locks

A job that runs may find a lock taken.  It gets the lock in the end unless it waits, through whoever keeps it from
taking locks, for a thread that waits for a job of its own: that job comes after the one that runs.

## Main definitions

* `Usage.Behind` — a caller waits for a job that has not ended
* `Usage.Stuck` — a caller waits, through locks, for one who does
* `Usage.Apart`, `Usage.Gets` — where a caller gets by itself

## Main statements

* `Usage.Stuck.steps` — a job that is stuck stays so for ever
* `Usage.Stuck.exists_behind` — someone waits for the owning thread under a lock then
* `Usage.gets_end` — a caller that nobody keeps from taking its locks gets to the end of its operation
* `Usage.steps_return` — a job that is not stuck can come to the end of what it uses

## Design notes

`Stuck` follows who keeps whom from taking a lock up to someone behind the job that runs, so that a circle of callers
is not stuck.  There is none, because locks are taken in order.
-/

namespace InterpreterHost.Usage

variable {V : Type} {u u' : Usage V} {c c' : Caller} {x : Claim} {t : Ticket}

/-! ## Behind the job that runs -/

/-- The caller waits for a job, or is about to, and the job has not ended. -/
inductive Behind (p : Process V) (c : Caller) : Prop
  | entered (phase : p.phase c = .entered true)
  | counted (phase : p.phase c = .counted true)
  | waiting {n : Nat} (phase : p.phase c = .waiting n) (noMail : p.mail n = none)

/-- The owning thread stays with the job that it runs until the job ends. -/
theorem turn_of_step {p p' : Process V} {e : Happening V} (next : Process.Step p e p') (running : p.turn = .running t)
    (goes : ∀ outcome, e ≠ .finish t outcome) : p'.turn = .running t := by
  cases next with
  | take receiving => cases running.symm.trans receiving
  | @finish t' ran free outcome =>
    cases running.symm.trans ran
    exact absurd rfl (goes outcome)
  | reply ended => cases running.symm.trans ended
  | complete done =>
    rcases done with replied | ⟨outcome, ended, -⟩
    · cases running.symm.trans replied
    · cases running.symm.trans ended
  | leave receiving => cases running.symm.trans receiving
  | enter | refuse | count | accept | lose | reentrant | answer | forsake | close | closeAgain | disconnect
  | join => exact running

theorem Behind.ne_free {p : Process V} (behind : Behind p c) : p.phase c ≠ .free := by
  cases behind with
  | entered phase | counted phase | waiting phase => simp [phase]

theorem Behind.congr {p p' : Process V} (behind : Behind p c) (phase : p'.phase c = p.phase c)
    (mail : p'.mail = p.mail) : Behind p' c := by
  cases behind with
  | entered entered => exact .entered (phase.trans entered)
  | counted counted => exact .counted (phase.trans counted)
  | waiting waiting noMail => exact .waiting (phase.trans waiting) (by rw [mail, noMail])

/-- No answer lies ready for a job that was not accepted. -/
theorem mail_of_run {past : List (Happening V)} {p : Process V} (run : Process.Run past p) :
    p.mail p.accepted.length = none := by
  by_contra some
  obtain ⟨result, mail⟩ := Option.ne_none_iff_exists'.1 some
  obtain ⟨t, outcome, number, mem, -⟩ := (Process.answered_of_run run).mail _ _ mail
  have queued := Process.queued_of_run run
  have listed : t.number ∈ p.accepted.map Ticket.number := List.mem_map_of_mem (queued.mem_accepted mem)
  rw [queued.numbers, List.mem_range, number] at listed
  exact Nat.lt_irrefl _ listed

/-- While the job runs who is behind it stays there. -/
theorem Behind.step {past : List (Happening V)} {p p' : Process V} {e : Happening V} (run : Process.Run past p)
    (behind : Behind p c) (next : Process.Step p e p') (running : p'.turn = .running t) : Behind p' c := by
  have other {d : Caller} {q : Phase} (here : p'.phase = Function.update p.phase d q) (mail : p'.mail = p.mail)
      (same : c = d → Behind p' c) : Behind p' c := by
    by_cases own : c = d
    · exact same own
    · exact behind.congr (by rw [here, Function.update_of_ne own]) mail
  cases next with
  | refuse | reentrant | closeAgain => exact behind
  | take => exact behind.congr rfl rfl
  | finish | reply | complete | leave => cases running
  | enter free | close free => exact other rfl rfl fun own => absurd (own ▸ free) behind.ne_free
  | @count d waits entered =>
    refine other rfl rfl fun own => ?_
    subst own
    cases behind with
    | entered phase =>
      cases phase.symm.trans entered
      exact .counted (Function.update_self ..)
    | counted phase => cases phase.symm.trans entered
    | waiting phase => cases phase.symm.trans entered
  | @accept d waits counted heard =>
    refine other rfl rfl fun own => ?_
    subst own
    cases behind with
    | entered phase => cases phase.symm.trans counted
    | counted phase =>
      cases phase.symm.trans counted
      exact .waiting (Function.update_self ..) (mail_of_run run)
    | waiting phase => cases phase.symm.trans counted
  | lose counted gone => cases gone.symm.trans running
  | @answer i n result waiting mail =>
    refine other rfl rfl fun own => ?_
    subst own
    cases behind with
    | entered phase => cases phase.symm.trans waiting
    | counted phase => cases phase.symm.trans waiting
    | waiting phase noMail =>
      cases phase.symm.trans waiting
      cases noMail.symm.trans mail
  | @forsake i n waiting noMail gone =>
    exact absurd (.forsake waiting noMail gone) ((Process.answering_of_run run).keeps i n _)
  | @disconnect i closing =>
    refine other rfl rfl fun own => ?_
    subst own
    cases behind with
    | entered phase | counted phase | waiting phase => cases phase.symm.trans closing
  | @join i joining left => cases left.symm.trans running

/-! ## Stuck -/

/-- The caller is behind the job that runs, or cannot take a lock because of another who is. -/
inductive Stuck (u : Usage V) : Caller → Prop
  | behind {c : Caller} (behind : Behind u.process c) : Stuck u c
  | blocked {c d : Caller} {x : Claim} (need : x ∈ needs (u.point c).todo) (blocks : u.Blocks x d)
      (stuck : Stuck u d) : Stuck u c

/-- A job is never behind itself. -/
theorem Sound.not_behind (sound : Sound u) : ¬ Behind u.process .job := by
  intro behind
  obtain ⟨past, run⟩ := sound.ran
  rcases (Process.nesting_of_run run).free with free | entered | counted
  · exact behind.ne_free free
  · cases behind with
    | entered phase | counted phase | waiting phase => cases phase.symm.trans entered
  · cases behind with
    | entered phase | counted phase | waiting phase => cases phase.symm.trans counted

/-- A job that is stuck is not done with what it uses. -/
theorem Stuck.uses (sound : Sound u) (stuck : Stuck u .job) : (u.point .job).todo ≠ [] := by
  intro done
  cases stuck with
  | behind behind => exact sound.not_behind behind
  | blocked need =>
    rw [done] at need
    cases need

/-- A stuck caller keeps the locks that it has. -/
theorem Stuck.held_subset (sound : Sound u) (stuck : Stuck u c) {p : Point} (next : u.Moves c p) {y : Claim}
    (mem : y ∈ (u.point c).held) : y ∈ p.held := by
  have free := next.free sound
  cases next with
  | begin op idle =>
    rw [idle] at mem
    cases mem
  | ask point | glance point | worked point =>
    rw [point] at mem
    exact mem
  | lock point =>
    rw [point] at mem
    exact List.mem_cons_of_mem _ mem
  | unlock point =>
    cases stuck with
    | behind behind => exact absurd free behind.ne_free
    | blocked need =>
      rw [point] at need
      cases need

/-- A caller does not get past a lock that someone blocks. -/
theorem Blocks.needs_moves (blocks : u.Blocks x c') (need : x ∈ needs (u.point c).todo) {p : Point}
    (next : u.Moves c p) : x ∈ needs p.todo := by
  cases next with
  | begin op idle =>
    rw [idle] at need
    cases need
  | ask point =>
    rw [point] at need
    exact need
  | lock point grants =>
    rw [point] at need
    rcases List.mem_cons.1 need with rfl | later
    · exact absurd blocks (grants c')
    · exact later
  | glance point grants =>
    rw [point] at need
    rcases List.mem_cons.1 need with rfl | later
    · exact absurd blocks (grants c')
    · exact later
  | worked point | unlock point =>
    rw [point] at need
    cases need

/-- A stuck caller goes on blocking what it blocks: if it gets the lock that it waits for it holds it. -/
theorem Blocks.moved (sound : Sound u) (blocks : u.Blocks x c) (stuck : Stuck u c) {p : Point}
    (next : u.Moves c p) : (u.moved c p).Blocks x c := by
  rcases blocks with ⟨y, mem, conflicts⟩ | ⟨shared, rest, first⟩
  · refine .inl ⟨y, ?_, conflicts⟩
    rw [point_moved_self]
    exact stuck.held_subset sound next mem
  · unfold Blocks Awaits
    rw [point_moved_self]
    cases next with
    | begin op idle => simp [idle] at first
    | ask point =>
      rw [point] at first
      cases first
      exact .inr ⟨shared, _, rfl⟩
    | lock point =>
      rw [point] at first
      cases first
      exact .inl ⟨⟨x.latch, .alone⟩, List.mem_cons_self, rfl, .inr rfl⟩
    | glance point | worked point | unlock point =>
      rw [point] at first
      cases first

/-- What a caller blocks depends on where it is. -/
theorem Blocks.congr (blocks : u.Blocks x c) (same : u'.point c = u.point c) : u'.Blocks x c := by
  unfold Blocks Awaits
  rw [same]
  exact blocks

theorem Stuck.move (sound : Sound u) (stuck : Stuck u c) {d : Caller} {p : Point} (next : u.Moves d p) :
    Stuck (u.moved d p) c := by
  induction stuck with
  | behind behind => exact .behind behind
  | @blocked c c' x need blocks stuck ih =>
    refine .blocked (x := x) ?_ ?_ ih
    · by_cases same : c = d
      · subst same
        rw [point_moved_self]
        exact blocks.needs_moves need next
      · rwa [point_moved_of_ne u p same]
    · by_cases same : c' = d
      · subst same
        exact blocks.moved sound stuck next
      · exact blocks.congr (point_moved_of_ne u p same)

theorem Stuck.proceed {past : List (Happening V)} {e : Happening V} {p : Process V}
    (run : Process.Run past u.process) (stuck : Stuck u c) (next : Process.Step u.process e p)
    (running : p.turn = .running t) : Stuck { u with process := p } c := by
  induction stuck with
  | behind behind => exact .behind (behind.step run next running)
  | blocked need blocks _ ih => exact .blocked need blocks ih

/-- No step of anyone helps a job that is stuck. -/
theorem Stuck.step (sound : Sound u) (running : u.process.turn = .running t) (stuck : Stuck u .job)
    (next : Step u u') : u'.process.turn = .running t ∧ Stuck u' .job := by
  cases next with
  | @proceed e p next allowed =>
    have goes : p.turn = .running t := by
      refine turn_of_step next running ?_
      rintro outcome rfl
      exact stuck.uses sound allowed
    obtain ⟨past, run⟩ := sound.ran
    exact ⟨goes, stuck.proceed run next goes⟩
  | move next => exact ⟨running, stuck.move sound next⟩

theorem Stuck.steps (sound : Sound u) (running : u.process.turn = .running t) (stuck : Stuck u .job)
    (steps : Steps u u') : u'.process.turn = .running t ∧ Stuck u' .job := by
  induction steps with
  | refl => exact ⟨running, stuck⟩
  | tail before next ih => exact ih.2.step (sound.steps before) ih.1 next

/-- Whoever is stuck and not behind waits under a lock for one who is behind and holds a lock. -/
theorem Stuck.exists_behind (sound : Sound u) (stuck : Stuck u c) : Behind u.process c ∨
    ∃ i x, Behind u.process (.thread i) ∧ x ∈ (u.point (.thread i)).held := by
  induction stuck with
  | behind behind => exact .inl behind
  | @blocked c c' x need blocks stuck ih =>
    refine .inr (ih.elim (fun behind => ?_) id)
    have first := sound.sends c' behind.ne_free
    rcases blocks with ⟨y, mem, -⟩ | ⟨-, rest, awaits⟩
    · cases c' with
      | thread i => exact ⟨i, y, behind, mem⟩
      | job => exact absurd behind sound.not_behind
    · -- who waits for a lock is not in the middle of handing over a job
      rw [MaySend, awaits] at first
      rcases first with none | ⟨rest', other⟩
      · cases none
      · cases other

/-! ## Coming to the end of an operation -/

/-- Nothing has changed but for one caller. -/
structure Apart (c : Caller) (u u' : Usage V) : Prop where
  stage : u'.process.broker.stage = u.process.broker.stage
  turn : u'.process.turn = u.process.turn
  mail : u'.process.mail = u.process.mail
  phase : ∀ d, d ≠ c → u'.process.phase d = u.process.phase d
  point : ∀ d, d ≠ c → u'.point d = u.point d

theorem Apart.refl (c : Caller) (u : Usage V) : Apart c u u := ⟨rfl, rfl, rfl, fun _ _ => rfl, fun _ _ => rfl⟩

theorem Apart.trans {u'' : Usage V} (first : Apart c u u') (second : Apart c u' u'') : Apart c u u'' where
  stage := second.stage.trans first.stage
  turn := second.turn.trans first.turn
  mail := second.mail.trans first.mail
  phase d other := (second.phase d other).trans (first.phase d other)
  point d other := (second.point d other).trans (first.point d other)

theorem apart_moved (u : Usage V) (c : Caller) (p : Point) : Apart c u (u.moved c p) :=
  ⟨rfl, rfl, rfl, fun _ _ => rfl, fun _ other => point_moved_of_ne u p other⟩

/-- The caller gets to a point by itself, and is free there. -/
def Gets (u : Usage V) (c : Caller) (p : Point) : Prop :=
  ∃ u', Steps u u' ∧ Apart c u u' ∧ u'.point c = p ∧ u'.process.phase c = .free

theorem Gets.of_apart {p : Point} (first : Steps u u') (apart : Apart c u u') (gets : u'.Gets c p) : u.Gets c p := by
  obtain ⟨u'', steps, apart', point, free⟩ := gets
  exact ⟨u'', first.trans steps, apart.trans apart', point, free⟩

/-- A job that nobody waits for is accepted as soon as it is counted. -/
theorem gets_counted (heard : u.process.turn ≠ .left) (counted : u.process.phase c = .counted false) :
    u.Gets c (u.point c) := by
  refine ⟨{ u with process := _ }, .single (.proceed (.accept counted heard) trivial),
    ⟨rfl, rfl, rfl, fun d other => ?_, fun _ _ => rfl⟩, rfl, ?_⟩
  · simp [Function.update_of_ne other]
  · simp

/-- A caller that is not behind ends what it has begun with the owning thread. -/
theorem gets_free (sound : Sound u) (running : u.process.turn = .running t) (uses : (u.point c).todo ≠ [])
    (ahead : ¬ Behind u.process c) : u.Gets c (u.point c) := by
  have heard : u.process.turn ≠ .left := by simp [running]
  cases phase : u.process.phase c with
  | free => exact ⟨u, .refl, .refl c u, rfl, phase⟩
  | entered waits =>
    cases waits with
    | true => exact absurd (.entered phase) ahead
    | false =>
      refine .of_apart (.single (.proceed (.count phase) trivial))
        ⟨rfl, rfl, rfl, fun d other => Function.update_of_ne other .., fun _ _ => rfl⟩ ?_
      exact gets_counted heard (Function.update_self ..)
  | counted waits =>
    cases waits with
    | true => exact absurd (.counted phase) ahead
    | false => exact gets_counted heard phase
  | waiting n =>
    cases mail : u.process.mail n with
    | none => exact absurd (.waiting phase mail) ahead
    | some result =>
      cases c with
      | job =>
        obtain ⟨past, run⟩ := sound.ran
        rcases (Process.nesting_of_run run).free with other | other | other <;> cases phase.symm.trans other
      | thread i =>
        refine ⟨{ u with process := _ }, .single (.proceed (.answer phase mail) trivial),
          ⟨rfl, rfl, rfl, fun d other => ?_, fun _ _ => rfl⟩, rfl, ?_⟩
        · simp [Function.update_of_ne other]
        · simp
  | closing => exact absurd (sound.closes c (.inl phase)) uses
  | joining => exact absurd (sound.closes c (.inr phase)) uses

/-- A lock that others leave to a caller is granted: the caller holds none that it has still to take. -/
theorem Climbs.grants {held : List Claim} {todo : List Instruction} (climbs : Climbs held todo)
    (point : u.point c = ⟨todo, held⟩) (need : x ∈ needs todo) (first : x.mode = .shared → ¬ u.Awaits c x.latch)
    (clear : ∀ d, d ≠ c → ¬ u.Blocks x d) : u.Grants x := by
  intro d blocks
  by_cases own : d = c
  · subst own
    rcases blocks with ⟨y, mem, same, -⟩ | ⟨shared, awaits⟩
    · rw [point] at mem
      have below := climbs.rank_lt mem need
      rw [same] at below
      exact Nat.lt_irrefl _ below
    · exact first shared awaits
  · exact clear d own blocks

/-- A caller that nobody keeps from taking its locks gets them. -/
theorem gets_climbed (free : u.process.phase c = .free) {held : List Claim} {todo : List Instruction}
    (climbs : Climbs held todo) (point : u.point c = ⟨todo, held⟩)
    (clear : ∀ x ∈ needs todo, ∀ d, d ≠ c → ¬ u.Blocks x d) : u.Gets c (climbed held todo) := by
  induction todo generalizing u held with
  | nil => exact ⟨u, .refl, .refl c u, point, free⟩
  | cons i rest ih =>
    -- once a lock is taken, others block no more than before
    have goes {held' : List Claim} (next : u.Moves c ⟨rest, held'⟩) (climbs' : Climbs held' rest)
        (fewer : ∀ x ∈ needs rest, x ∈ needs (i :: rest)) : u.Gets c (climbed held' rest) := by
      refine .of_apart (.single (.move next)) (apart_moved u c _)
        (ih (u := u.moved c ⟨rest, held'⟩) free climbs' (point_moved_self ..) ?_)
      intro x need d other blocks
      exact clear x (fewer x need) d other (blocks.congr (point_moved_of_ne u _ other).symm)
    cases i with
    | lock x asked =>
      have grants : u.Grants x := by
        refine climbs.grants point List.mem_cons_self (fun shared awaits => ?_) (clear x List.mem_cons_self)
        obtain ⟨rest', first⟩ := awaits
        rw [point] at first
        cases x with
        | mk latch mode =>
          cases first
          cases shared
      exact goes (.lock point grants) climbs.2 fun _ need => List.mem_cons_of_mem _ need
    | glance l =>
      have grants : u.Grants ⟨l, .shared⟩ := by
        refine climbs.grants point List.mem_cons_self (fun _ awaits => ?_) (clear _ List.mem_cons_self)
        obtain ⟨rest', first⟩ := awaits
        rw [point] at first
        cases first
      exact goes (.glance point grants) climbs.2.2 fun _ need => List.mem_cons_of_mem _ need
    | work | unlock => exact ⟨u, .refl, .refl c u, point, free⟩

/-- With its locks it gets to the end. -/
theorem gets_wound (running : u.process.turn = .running t) (free : u.process.phase c = .free) {held : List Claim}
    {todo : List Instruction} (winds : Winds held todo) (point : u.point c = ⟨todo, held⟩) : u.Gets c {} := by
  induction todo generalizing u held with
  | nil =>
    have none : held = [] := winds
    exact ⟨u, .refl, .refl c u, by rw [point, none], free⟩
  | cons i rest ih =>
    have goes {held' : List Claim} (next : u.Moves c ⟨rest, held'⟩) (winds' : Winds held' rest) : u.Gets c {} :=
      .of_apart (.single (.move next)) (apart_moved u c _) (ih running free winds' (point_moved_self u c _))
    cases i with
    | work => exact goes (.worked point ⟨free, fun _ => ⟨t, running⟩⟩) winds
    | unlock => exact goes (.unlock point) winds
    | lock | glance => exact winds.elim

/-- A caller that is not behind, and that nobody keeps from taking its locks, gets to the end of its operation. -/
theorem gets_end (sound : Sound u) (running : u.process.turn = .running t) (uses : (u.point c).todo ≠ [])
    (ahead : ¬ Behind u.process c) (clear : ∀ x ∈ needs (u.point c).todo, ∀ d, ¬ u.Blocks x d) : u.Gets c {} := by
  obtain ⟨u₁, first, apart, point, free⟩ := gets_free sound running uses ahead
  refine .of_apart first apart ?_
  have climbs := sound.climbs c
  obtain ⟨u₂, second, apart₂, point₂, free₂⟩ := gets_climbed free climbs point fun x need d other blocks =>
    clear x need d (blocks.congr (apart.point d other).symm)
  have running₂ := (apart.trans apart₂).turn.trans running
  exact .of_apart second apart₂ (gets_wound running₂ free₂ climbs.winds point₂)

/-! ## Coming back -/

/-- Where a caller is done with everything it keeps nobody back. -/
theorem Stuck.of_apart (apart : Apart c u u') (point : u'.point c = {}) (free : u'.process.phase c = .free)
    {d : Caller} (stuck : Stuck u' d) : Stuck u d := by
  induction stuck with
  | @behind d behind =>
    have other : d ≠ c := by
      rintro rfl
      exact behind.ne_free free
    exact .behind (behind.congr (apart.phase d other).symm apart.mail.symm)
  | @blocked d d' x need blocks _ ih =>
    have other : d ≠ c := by
      rintro rfl
      rw [point] at need
      cases need
    have other' : d' ≠ c := by
      rintro rfl
      rcases blocks with ⟨y, mem, -⟩ | ⟨-, rest, first⟩
      · rw [point] at mem
        cases mem
      · rw [point] at first
        cases first
    exact .blocked (apart.point d other ▸ need) (blocks.congr (apart.point d' other').symm) ih

/-- Who blocks a lock waits above those who wait for it. -/
theorem Blocks.height_lt (sound : Sound u) (blocks : u.Blocks x c') (need : x ∈ needs (u.point c).todo) :
    height (u.point c).todo < height (u.point c').todo := by
  have below := (sound.climbs c).height_le need
  rcases blocks with ⟨y, mem, same, -⟩ | ⟨shared, rest, first⟩
  · have above := (sound.climbs c').lt_height mem
    have least := x.mode.weight_le_one
    rw [← same] at above
    omega
  · rw [shared] at below
    rw [first]
    simp only [height, Mode.weight] at below ⊢
    omega

theorem Blocks.uses (sound : Sound u) (blocks : u.Blocks x c) : (u.point c).todo ≠ [] := by
  intro done
  rcases blocks with ⟨y, mem, -⟩ | ⟨-, rest, first⟩
  · have climbs := sound.climbs c
    rw [done] at climbs
    have none : (u.point c).held = [] := climbs
    rw [none] at mem
    cases mem
  · rw [done] at first
    cases first

/-- Whoever is not stuck waits, through others, for one whom nobody keeps from taking its locks. -/
theorem exists_clear (sound : Sound u) {c : Caller} (uses : (u.point c).todo ≠ []) (goes : ¬ Stuck u c) :
    ∃ d, (u.point d).todo ≠ [] ∧ ¬ Stuck u d ∧ ∀ x ∈ needs (u.point d).todo, ∀ d', ¬ u.Blocks x d' := by
  by_cases clear : ∀ x ∈ needs (u.point c).todo, ∀ d', ¬ u.Blocks x d'
  · exact ⟨c, uses, goes, clear⟩
  · push Not at clear
    obtain ⟨x, need, d, blocks⟩ := clear
    have higher := blocks.height_lt sound need
    exact exists_clear sound (blocks.uses sound) fun stuck => goes (.blocked need blocks stuck)
termination_by 4 - height (u.point c).todo
decreasing_by
  have low := (sound.climbs c).height_le need
  have few := x.latch.rank_le_one
  have least := x.mode.weight_le_one
  omega

/-- A job that is not stuck can come to the end of what it uses, while it runs. -/
theorem steps_return (sound : Sound u) (running : u.process.turn = .running t) (goes : ¬ Stuck u .job) :
    ∃ u', Steps u u' ∧ u'.process.turn = .running t ∧ (u'.point .job).todo = [] := by
  obtain ⟨callers, few⟩ := sound.few
  -- the callers that use something are fewer each time that one of them is done
  induction size : callers.length using Nat.strongRecOn generalizing u callers with
  | _ n ih =>
    by_cases done : (u.point .job).todo = []
    · exact ⟨u, .refl, running, done⟩
    · obtain ⟨d, uses, ahead, clear⟩ := exists_clear sound done goes
      obtain ⟨u₁, steps, apart, point, free⟩ :=
        gets_end sound running uses (fun behind => ahead (.behind behind)) clear
      have fewer (c : Caller) (busy : (u₁.point c).todo ≠ []) : c ∈ callers.filter (· ≠ d) := by
        have other : c ≠ d := by
          rintro rfl
          exact busy (by rw [point])
        rw [apart.point c other] at busy
        exact List.mem_filter.2 ⟨few c busy, by simpa using other⟩
      have less : (callers.filter (· ≠ d)).length < n := by
        rw [← size]
        exact List.length_filter_lt_length_iff_exists.2 ⟨d, few d uses, by simp⟩
      obtain ⟨u₂, more, running₂, done₂⟩ := ih _ less (sound.steps steps) (apart.turn.trans running)
        (fun stuck => goes (stuck.of_apart apart point free)) _ fewer rfl
      exact ⟨u₂, steps.trans more, running₂, done₂⟩

end InterpreterHost.Usage
