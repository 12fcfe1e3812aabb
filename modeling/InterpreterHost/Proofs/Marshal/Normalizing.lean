import InterpreterHost.Proofs.Calendar.DayNumbers
import InterpreterHost.Proofs.Calendar.Spans
import InterpreterHost.Proofs.Marshal.Acceptance
import InterpreterHost.Proofs.Marshal.RoundTrip
import InterpreterHost.Proofs.Owner.Records

/-!
# Dates brought to universal time

A date with a time zone is read as the instant that its clock shows, less what the clock is ahead.
The instant is exact to the microsecond, over the ends of days, months and years and out of the
calendar; where the offset cannot be had the clock counts as universal time, and the log says so once.

## Main definitions

* `DateTime.Shows` — the instant that a clock shows in universal time, by the count of days
* `DateTime.Normalized` — the instant of a date and time that is ahead by a duration
* `Reply`, `Owner.reply` — what asking for an offset comes to

## Main statements

* `Job.ends_offsetOf_reply` — what the reader makes of a reply
* `DateTime.Normalized.lt_iff` — of two dates, the one before has the instant before
* `Job.ends_convert_aware` — reading a date with a time zone
-/

namespace InterpreterHost

/-! ## Clocks -/

/-- An instant is before another, or within the same second before it. -/
def Timestamp.lt (s t : Timestamp) : Prop := s.seconds < t.seconds ∨ s.seconds = t.seconds ∧ s.nanos < t.nanos

namespace DateTime

/-- A clock in universal time that shows the date and time does so `m` microseconds after the epoch:
the date exists and has the number of that day, and the time of day is what is left. -/
def Shows (t : DateTime) (m : Int) : Prop :=
  t.hour < 24 ∧ t.minute < 60 ∧ t.second < 60 ∧ t.micros < 1000000 ∧ ∃ n, t.date.DayNumber n ∧
    m = n * dayMicros + ((t.hour * 3600 + t.minute * 60 + t.second : Nat) : Int) * 1000000 + t.micros

theorem shows_iff {t : DateTime} {m : Int} : t.Shows m ↔ t.isValid ∧ t.wallMicros = m := by
  rw [isValid_iff]
  constructor
  · rintro ⟨hour, minute, second, micros, n, counted, rfl⟩
    obtain ⟨valid, rfl⟩ := Date.dayNumber_iff.1 counted
    exact ⟨⟨valid, hour, minute, second, micros⟩, rfl⟩
  · rintro ⟨⟨valid, hour, minute, second, micros⟩, rfl⟩
    exact ⟨hour, minute, second, micros, _, Date.dayNumber_iff.2 ⟨valid, rfl⟩, rfl⟩

/-- The instant of a date and time that is ahead of universal time by a duration. -/
structure Normalized (t : DateTime) (ahead : Duration) (ts : Timestamp) : Prop where
  /-- The arithmetic does not fail. -/
  arithmetic : t.universal? ahead = some ts
  /-- The clock is ahead of the instant by the duration. -/
  exact : t.Shows (ts.toMicros + ahead.total)
  /-- The fields of the instant are those of a clock in universal time. -/
  fields : (ofTimestamp ts).Shows ts.toMicros
  /-- The instant may be in the year before the calendar or in the one after it. -/
  year : 0 ≤ ts.date.year ∧ ts.date.year ≤ 10000
  /-- There are no leap seconds and no parts of microseconds. -/
  whole : ts.nanos < 1000000000 ∧ ts.nanos % 1000 = 0

end DateTime

namespace Timestamp

theorem toMicros_ofMicros (m : Int) : (ofMicros m).toMicros = m := by
  simp only [ofMicros, toMicros, micros]
  omega

theorem whole_ofMicros (m : Int) : (ofMicros m).nanos < 1000000000 ∧ (ofMicros m).nanos % 1000 = 0 := by
  simp only [ofMicros]
  omega

/-- Instants of whole microseconds are in the order of their microseconds. -/
theorem lt_iff_toMicros {s t : Timestamp} (s_whole : s.nanos < 1000000000 ∧ s.nanos % 1000 = 0)
    (t_whole : t.nanos < 1000000000 ∧ t.nanos % 1000 = 0) : s.lt t ↔ s.toMicros < t.toMicros := by
  simp only [lt, toMicros, micros]
  omega

theorem eq_iff_toMicros {s t : Timestamp} (s_whole : s.nanos < 1000000000 ∧ s.nanos % 1000 = 0)
    (t_whole : t.nanos < 1000000000 ∧ t.nanos % 1000 = 0) : s = t ↔ s.toMicros = t.toMicros := by
  obtain ⟨seconds, nanos⟩ := s
  obtain ⟨seconds', nanos'⟩ := t
  simp only [Timestamp.mk.injEq, toMicros, micros] at *
  omega

end Timestamp

namespace DateTime

/-- Every date and time of the calendar that is ahead by an offset has an instant. -/
theorem normalized_ofMicros {t : DateTime} (valid : t.isValid) (year : hasYear t.date.year) {d : Duration}
    (offset : isOffset d.total) : t.Normalized d (.ofMicros (t.wallMicros - d.total)) where
  arithmetic := universal?_eq valid year offset
  exact := by
    rw [Timestamp.toMicros_ofMicros, Int.sub_add_cancel]
    exact shows_iff.2 ⟨valid, rfl⟩
  fields := by
    have fields := isValid_ofTimestamp (.ofMicros (t.wallMicros - d.total))
    refine shows_iff.2 ⟨fields, ?_⟩
    rw [← toMicros_wallClock fields, wallClock_ofTimestamp, Timestamp.toMicros, Timestamp.micros_truncate]
    rfl
  year := year_ofMicros valid year offset
  whole := Timestamp.whole_ofMicros _

/-- Of two dates and times, wherever their clocks are, the instants are the same exactly if the
timestamps are, and the earlier one has the earlier timestamp. -/
theorem Normalized.lt_iff {t t' : DateTime} {d d' : Duration} {ts ts' : Timestamp} (normal : t.Normalized d ts)
    (normal' : t'.Normalized d' ts') {m m' : Int} (shows : t.Shows (m + d.total))
    (shows' : t'.Shows (m' + d'.total)) : (m = m' ↔ ts = ts') ∧ (m < m' ↔ ts.lt ts') := by
  have at_m : ts.toMicros = m := by
    have clock := (shows_iff.1 normal.exact).2.symm.trans (shows_iff.1 shows).2
    omega
  have at_m' : ts'.toMicros = m' := by
    have clock := (shows_iff.1 normal'.exact).2.symm.trans (shows_iff.1 shows').2
    omega
  rw [Timestamp.eq_iff_toMicros normal.whole normal'.whole, Timestamp.lt_iff_toMicros normal.whole normal'.whole,
    at_m, at_m']
  exact ⟨Iff.rfl, Iff.rfl⟩

end DateTime

/-! ## Replies -/

/-- What asking for the offset of a date and time comes to. -/
inductive Reply where
  /-- A plain duration. -/
  | duration (d : Duration)
  /-- There is no offset. -/
  | none
  /-- An exception, or an object of another type. -/
  | unreadable

/-- What a time zone replies. -/
def Zone.reply : Zone → Reply
  | fixed micros => .duration (.ofMicros micros)
  | offset micros => if DateTime.isOffset micros then .duration (.ofMicros micros) else .unreadable
  | absent => .none
  | derived _ | raises _ => .unreadable

/-- What a time zone replies to the owner.  While an exception is pending every call fails. -/
def Owner.reply (o : Owner) (zone : Zone) : Reply := if o.pending.isNone then zone.reply else .unreadable

/-- What the reader makes of the answer of a time zone, if no exception is pending: an offset, no
offset that it could use, or an exception. -/
def Zone.reading (zone : Zone) : Except Raised (Option Int) :=
  match zone, zone.answer with
  | derived _, .ok _ => .ok none
  | _, .ok none => .ok (some 0)
  | _, answer => answer

theorem Zone.reading_eq (zone : Zone) :
    match zone.reply with
    | .duration d => zone.reading = .ok (some d.total)
    | .none => zone.reading = .ok (some 0)
    | .unreadable => zone.reading = .ok none ∨ ∃ e, zone.reading = .error e := by
  cases zone with
  | fixed micros => exact congrArg (fun m => Except.ok (some m)) (Duration.total_ofMicros micros).symm
  | offset micros =>
    by_cases within : DateTime.isOffset micros
    · simp only [reply, reading, answer, within, if_true]
      rw [Duration.total_ofMicros]
    · simp only [reply, reading, answer, within]
      exact .inr ⟨_, rfl⟩
  | derived micros =>
    by_cases within : DateTime.isOffset micros
    · refine .inl ?_
      simp only [reading, answer, within, if_true]
    · simp only [reply, reading, answer, within]
      exact .inr ⟨_, rfl⟩
  | absent => rfl
  | raises e => exact .inr ⟨e, rfl⟩

theorem LogRecord.OfReport.ne_offsetWarning {r : LogRecord} (said : r.OfReport) :
    r ≠ .warning Job.offsetWarning none := by
  cases said with
  | failed => decide
  | unavailable why =>
    intro same
    have texts : "traceback formatter unavailable: " ++ why = Job.offsetWarning := (LogRecord.warning.inj same).1
    have first := congrArg (fun message : String => message.toList.head?) texts
    simp [Job.offsetWarning] at first

namespace Job

open Owner (Steady Logged)

variable {o : Owner} {E : Panic → Prop}

/-- The end of asking for an offset: the reading is used, unless it is an exception or one is pending, which
is then taken away. -/
def useReading (reading : Except Raised (Option Int)) : Job (Option Int) := do
  match reading, (← get).pending with
  | .ok offset, none => return offset
  | .ok _, some e =>
    let _ ← failWith (resultWithException e)
    return none
  | .error e, _ =>
    let _ ← failWith e
    return none

theorem offsetOf_eq (zone : Zone) : offsetOf zone = useReading zone.reading := rfl

/-- What the reader makes of a reply: an offset, or none after an exception that it takes away. -/
theorem ends_offsetOf_reply (warns : o.Warns E) (zone : Zone) :
    match o.reply zone with
    | .duration d => (offsetOf zone).run o = (.ok (some d.total), o)
    | .none => (offsetOf zone).run o = (.ok (some 0), o)
    | .unreadable => Ends (offsetOf zone) o
        (fun offset o' => offset = none ∧ Steady o o' ∧ o'.Logged LogRecord.OfReport o.log) E := by
  have failed (e : Raised) : Ends (do let _ ← failWith e; return (none : Option Int)) o
      (fun offset o' => offset = none ∧ Steady o o' ∧ o'.Logged LogRecord.OfReport o.log) E := by
    rw [ends_bind]
    refine ((ends_failWith warns e).maintains (logged_failWith o.log e) Owner.logged_self).imp ?_
    rintro error o' ⟨⟨-, steady, -⟩, logged⟩
    exact ⟨rfl, steady, logged⟩
  rw [offsetOf_eq, useReading, Ends, Owner.reply, run_get_bind]
  cases pending : o.pending with
  | some e =>
    -- Whatever the zone says, the call fails.
    cases zone.reading with
    | ok _ => exact failed _
    | error e' => exact failed e'
  | none =>
    have reading := zone.reading_eq
    simp only [Option.isNone_none, if_true]
    cases reply : zone.reply with
    | duration d =>
      rw [reply] at reading
      rw [reading]
      rfl
    | none =>
      rw [reply] at reading
      rw [reading]
      rfl
    | unreadable =>
      rw [reply] at reading
      rcases reading with other | ⟨e, raised⟩
      · rw [other]
        exact ⟨rfl, .refl o, Owner.logged_self⟩
      · rw [raised]
        exact failed e

/-- A date is read as the instant of its clock where the host can read dates at all. -/
theorem run_convert_datetime {levels : Nat} {r : Ref} {t : DateTime} {Q : Except CallError Value → Owner → Prop}
    (dates : o.hasDates) (object : o.interpreter.heap.object r = .datetime t)
    (read : ∀ o₁, Steady o o₁ → o₁.pending = o.pending → o₁.log = o.log →
      Ends (instantOf t) o₁ (fun result o' => Q (leaf .timestamp result) o') E) :
    Ends (convert (levels + 1) r) o Q E := by
  have shape : o.interpreter.heap.shape r = .clock t := by simp [Heap.shape, object]
  rw [Ends, run_convert_succ, shape, ← Ends, readShape, ends_bind]
  refine (ends_prepareDates.maintains (logged_prepareDates o.log) rfl).imp ?_
  rintro ready o₁ ⟨⟨found, steady, -, pending⟩, log⟩
  obtain rfl := found.2 dates
  have same : o₁.pending = o.pending := pending.resolve_right fun gone => gone.2 dates
  rw [ends_bind]
  exact read o₁ steady same log

/-- A date that exists and has a time zone has the instant of its clock, less the offset if one is
found. -/
theorem ends_instantOf_aware {t : DateTime} {zone : Zone} {Q : Except InterpreterError Timestamp → Owner → Prop}
    (valid : t.isValid) (aware : t.zone = some zone)
    (asked : Ends (offsetOf zone) o (fun offset o₁ => match offset with
      | some m => Q (.ok (.ofMicros (t.wallMicros - m))) o₁
      | none => Ends (warn offsetWarning) o₁ (fun _ o' => Q (.ok t.wallClock) o') E) E) :
    Ends (instantOf t) o Q E := by
  unfold instantOf
  rw [if_neg (not_not_intro valid), aware]
  dsimp only
  rw [ends_bind]
  refine asked.imp ?_
  intro offset o₁ found
  cases offset with
  | some m =>
    rw [DateTime.toMicros_wallClock valid]
    exact found
  | none =>
    rw [ends_bind]
    exact found

/-- A date of the calendar with a time zone is read without fail.  If the zone replies by a plain
duration, the instant is that of the clock less the duration, exactly, and any two such instants are
in the order of what they denote; if it replies that there is no offset, the instant is that of the
clock; and if its reply cannot be used, that is logged, once and last, and the instant is that of the
clock too.  Only a warning can panic. -/
theorem ends_convert_aware (levels : Nat) {r : Ref} {t : DateTime} {zone : Zone} (dates : o.hasDates)
    (object : o.interpreter.heap.object r = .datetime t) (valid : t.isValid)
    (year : DateTime.hasYear t.date.year) (aware : t.zone = some zone) :
    t.Shows t.wallClock.toMicros ∧
    match o.reply zone with
    | .duration d => DateTime.isOffset d.total → ∃ ts, t.Normalized d ts ∧
        Ends (convert (levels + 1) r) o
          (fun result o' => result = .ok (.timestamp ts) ∧ o'.log = o.log ∧ o'.pending = none) (fun _ => False) ∧
        ∀ (t' : DateTime) (d' : Duration) (ts' : Timestamp), t'.Normalized d' ts' →
          ∀ m m', t.Shows (m + d.total) → t'.Shows (m' + d'.total) →
            (m = m' ↔ ts = ts') ∧ (m < m' ↔ ts.lt ts')
    | .none => Ends (convert (levels + 1) r) o
        (fun result o' => result = .ok (.timestamp t.wallClock) ∧ o'.log = o.log ∧ o'.pending = none)
        (fun _ => False)
    | .unreadable => Ends (convert (levels + 1) r) o
        (fun result o' => result = .ok (.timestamp t.wallClock) ∧
          ∃ others, o'.log = o.log ++ others ++ [.warning offsetWarning none] ∧
            .warning offsetWarning none ∉ others)
        o.Panics := by
  have clock : t.Shows t.wallClock.toMicros :=
    DateTime.shows_iff.2 ⟨valid, (DateTime.toMicros_wallClock valid).symm⟩
  refine ⟨clock, ?_⟩
  -- A reply can be used only while no exception is pending.
  have calm : o.reply zone ≠ .unreadable → o.pending = none := by
    intro readable
    by_contra pending
    exact readable (by simp [Owner.reply, Option.isNone_iff_eq_none, pending])
  have sameReply {o₁ : Owner} (same : o₁.pending = o.pending) : o₁.reply zone = o.reply zone := by
    rw [Owner.reply, same, Owner.reply]
  cases reply : o.reply zone with
  | duration d =>
    intro offset
    have normal := DateTime.normalized_ofMicros valid year offset
    have quiet : o.pending = none := calm (by simp [reply])
    refine ⟨_, normal, run_convert_datetime dates object fun o₁ _ same log => ?_, fun _ _ _ => normal.lt_iff⟩
    have answered := ends_offsetOf_reply (o := o₁) (E := fun _ => True) (fun _ _ => trivial) zone
    rw [sameReply same, reply] at answered
    refine ends_instantOf_aware valid aware ?_
    rw [Ends, answered]
    exact ⟨rfl, log, same.trans quiet⟩
  | none =>
    have quiet : o.pending = none := calm (by simp [reply])
    refine run_convert_datetime dates object fun o₁ _ same log => ?_
    have answered := ends_offsetOf_reply (o := o₁) (E := fun _ => True) (fun _ _ => trivial) zone
    rw [sameReply same, reply] at answered
    refine ends_instantOf_aware valid aware ?_
    rw [Ends, answered]
    refine ⟨?_, log, same.trans quiet⟩
    rw [Int.sub_zero, ← DateTime.wallClock_eq_ofMicros valid]
    rfl
  | unreadable =>
    refine run_convert_datetime dates object fun o₁ steady same log => ?_
    have warns : o₁.Warns o.Panics := steady.warns o.warns_panics
    have answered := ends_offsetOf_reply warns zone
    rw [sameReply same, reply] at answered
    refine ends_instantOf_aware valid aware (answered.imp ?_)
    rintro offset o₂ ⟨rfl, steady', others, logged, said⟩
    refine ends_warn (steady'.warns warns) fun _ => ⟨rfl, others, ?_, ?_⟩
    · rw [← log, ← logged]
    · exact fun member => (said _ member).ne_offsetWarning rfl

/-- The first date and time of the calendar, on a clock that is an hour and a microsecond ahead, is an
instant of the last day of the year 0. -/
theorem ends_convert_aware_yearZero :
    let t : DateTime := ⟨⟨1, 1, 1⟩, 0, 0, 0, 0, some (.fixed 3600000001), false⟩
    let o := holding [.datetime t]
    let ts : Timestamp := ⟨-62135600401, 999999000⟩
    (o.hasDates ∧ o.interpreter.heap.object 3 = .datetime t ∧ t.isValid ∧ DateTime.hasYear t.date.year ∧
      o.reply (.fixed 3600000001) = .duration (.ofMicros 3600000001) ∧
        DateTime.isOffset (Duration.ofMicros 3600000001).total) ∧
      Ends (convert 1 3) o (fun result o' => result = .ok (.timestamp ts) ∧ o'.log = o.log ∧ o'.pending = none)
        (fun _ => False) ∧
      ts.date = ⟨0, 12, 31⟩ := by
  intro t o ts
  have offset : DateTime.isOffset (Duration.ofMicros 3600000001).total := by decide
  refine ⟨⟨by decide, rfl, by decide, by decide, rfl, offset⟩, ?_, by decide⟩
  have aware : t.zone = some (.fixed 3600000001) := rfl
  obtain ⟨ts', normal, read, -⟩ :=
    (ends_convert_aware (o := o) 0 (r := 3) (t := t) (by decide) rfl (by decide) (by decide) aware).2 offset
  have arithmetic : t.universal? (.ofMicros 3600000001) = some ts := by decide
  obtain rfl : ts' = ts := Option.some.inj (normal.arithmetic.symm.trans arithmetic)
  exact read

end Job

end InterpreterHost
