import ECompass.Proofs.Chronicle
import ECompass.Proofs.MonitorHistory
import Mathlib.Data.List.DropRight

/-!
# The counters as a ledger

Every counter of the driver can be told from the events of the session (`stats_are_ledger`). An
event posts to the counters what it brings about (`Event.post`), and nothing else does.

Two of the counters are not as plain as the rest. The samples of a channel are counted anew after
each reset that completes, and a reset that fails does not begin the count anew. The extreme samples
are counted by the monitor, and copied when a record is made; the copy is never behind
(`Rig.Posted`), since an extreme sample switches the log on and so gives a record.
-/

namespace ECompass

open Program Operation

/-! ### What events bring about -/

/-- Whether a sample of a channel is counted as extreme: only the accelerometer is watched. -/
def Sample.isExtremeOn (c : Channel) (s : Sample) : Bool := c = .accel && s.isExtreme

namespace Event

/-- The outcome of a measurement that does not fail. -/
def outcome? : Event → Option (Channel × Measurement)
  | .reset _ => none
  | .measurement c polled =>
    match measure c polled with
    | .ok outcome _ => some (c, outcome)
    | .error _ _ => none

/-- Whether a channel gave a sample. -/
def samples (c : Channel) (event : Event) : Bool := event.outcome? = some (c, .sampled)

/-- Whether a measurement found no data. -/
def defers (event : Event) : Bool := event.outcome?.any fun outcome => outcome.2 = .notReady

/-- Whether a measurement of a channel found another control value than it expected. -/
def mismatches (c : Channel) : Event → Bool
  | .reset _ => false
  | .measurement d polled => d = c ∧ (recovery? d polled).isSome

/-- Whether the accelerometer gave an extreme sample. -/
def extreme : Event → Bool
  | .reset _ => false
  | .measurement c polled => (sample? c polled).any (Sample.isExtremeOn c)

/-- Whether a reset was completed. -/
def completes : Event → Bool
  | .reset start => succeeds ECompass.reset start
  | .measurement _ _ => false

/-- What an event posts to the counters. -/
def post (stats : Stats) : Event → Stats
  | .reset start =>
    { stats with reads := if (reset start).completes then .both 0 else stats.reads }
  | .measurement c polled =>
    let event := measurement c polled
    { reads := if event.samples c then stats.reads.modify c (· + 1) else stats.reads
      recoveries := if event.mismatches c then stats.recoveries.modify c (· + 1)
        else stats.recoveries
      reschedules := if event.defers then stats.reschedules + 1 else stats.reschedules
      extremes := if event.extreme then min (stats.extremes + 1) Monitor.maxCount
        else stats.extremes }

end Event

/-! ### Samples and the monitor -/

/-- The count of extreme samples is that of the monitor. -/
def Driver.InTouch (d : Driver) : Prop := d.stats.extremes = d.monitor.extremes

/-- The counters after a sample was shown to the monitor: an extreme one is counted. -/
theorem Driver.stats_observed {d : Driver} (inTouch : d.InTouch) (s : Sample) :
    (d.observed s).InTouch ∧ (d.observed s).stats = { d.stats with
      extremes := if s.isExtreme then min (d.stats.extremes + 1) Monitor.maxCount
        else d.stats.extremes } := by
  have counted := d.monitor.extremes_observe s s.timestamp
  rw [← inTouch] at counted
  unfold observed
  dsimp only
  split
  · exact ⟨rfl, by rw [counted]⟩
  · rename_i unrecorded
    have sane : ¬ s.isExtreme := fun extreme =>
      unrecorded (d.monitor.observe_isSome_of_extreme extreme s.timestamp)
    rw [if_neg sane] at counted ⊢
    exact ⟨counted.symm, rfl⟩

/-- The counters after a sample was committed. -/
theorem Rig.stats_committed {rig : Rig} (inTouch : rig.driver.InTouch) (c : Channel)
    (raw : Axes Int16) : (rig.committed c raw).driver.InTouch ∧
      (rig.committed c raw).driver.stats = { rig.driver.stats with
        reads := rig.driver.stats.reads.modify c (· + 1)
        extremes := if (rig.sample c raw).isExtremeOn c then
            min (rig.driver.stats.extremes + 1) Monitor.maxCount
          else rig.driver.stats.extremes } := by
  cases c with
  | accel =>
    have kept : (rig.keep .accel raw).driver.InTouch := inTouch
    exact Driver.stats_observed kept (rig.sample .accel raw)
  | mag => exact ⟨inTouch, rfl⟩

/-! ### Sessions -/

/-- The counters have been posted the events. -/
def Rig.Posted (rig : Rig) (events : List Event) (next : Rig) : Prop :=
  rig.driver.InTouch → next.driver.InTouch ∧
    next.driver.stats = events.foldl Event.post rig.driver.stats

theorem Rig.Idle.posted {rig next : Rig} (h : rig.Idle next) : rig.Posted [] next := by
  intro inTouch
  rw [Driver.InTouch, h.stats, h.extremes]
  exact ⟨inTouch, rfl⟩

/-- A reset that completes starts to count samples from zero, and one that fails counts nothing. -/
theorem reset_posted (rig : Rig) : Ends reset rig
    (fun _ next => rig.Posted [.reset rig] next) fun _ next => rig.Posted [.reset rig] next := by
  refine .intro (fun _ next ok inTouch => ?_) fun _ next failed inTouch => ?_
  · have completed : Event.completes (.reset rig) := by
      simp only [Event.completes, Program.succeeds, ok]
    have idle := (reset_idle rig).of_ok ok
    rw [Driver.InTouch, idle.stats, idle.extremes, List.foldl_cons, Event.post, if_pos completed]
    exact ⟨inTouch, rfl⟩
  · have interrupted : ¬ Event.completes (.reset rig) := by
      simp [Event.completes, Program.succeeds, failed]
    have idle := (reset_idle rig).of_error failed
    rw [Driver.InTouch, idle.stats, idle.extremes, List.foldl_cons, Event.post, if_neg interrupted]
    exact ⟨inTouch, rfl⟩

section Measurement

variable {c : Channel} {rig : Rig}

theorem Event.outcome?_of_ok {outcome : Measurement} {next : Rig}
    (h : measure c rig = .ok outcome next) :
    Event.outcome? (.measurement c rig) = some (c, outcome) := by
  simp only [outcome?, h]

theorem Event.outcome?_of_error {e : Error} {next : Rig} (h : measure c rig = .error e next) :
    Event.outcome? (.measurement c rig) = none := by
  simp only [outcome?, h]

/-- A measurement in whose place a reset begins either fails or reports the recovery. -/
theorem Event.outcome?_of_recovery? {start : Rig} (recovers : recovery? c rig = some start) :
    Event.outcome? (.measurement c rig) = none ∨
      Event.outcome? (.measurement c rig) = some (c, .recovered) := by
  have goesOn := measure_of_recovery? recovers
  rw [bind_apply] at goesOn
  cases configured : ECompass.reset start with
  | ok _ next =>
    rw [configured] at goesOn
    exact .inr (Event.outcome?_of_ok goesOn)
  | error e next =>
    rw [configured] at goesOn
    exact .inl (Event.outcome?_of_error goesOn)

end Measurement

/-- The counters are posted the events, and nothing else. -/
theorem chronicle_posted : Chronicle (fun event => [event]) Command.events Rig.Posted where
  trans h h' inTouch := by
    obtain ⟨inTouch, stats⟩ := h inTouch
    obtain ⟨inTouch, stats'⟩ := h' inTouch
    exact ⟨inTouch, by rw [stats', stats, List.foldl_append]⟩
  requeued := by
    rintro rig _ ⟨_, rfl⟩
    exact Rig.Idle.posted ⟨rfl, rfl, rfl⟩
  stimulus s rig := fun inTouch => ⟨inTouch, rfl⟩
  reset := reset_posted
  putOff unrecovered unsampled ends inTouch := by
    have outcome := Event.outcome?_of_ok ends
    refine ⟨inTouch, ?_⟩
    simp [Event.post, Event.samples, Event.mismatches, Event.defers, Event.extreme, outcome,
      unsampled, unrecovered, Rig.deferred, Driver.countReschedule]
  lost unrecovered unsampled ends inTouch := by
    have outcome := Event.outcome?_of_error ends
    refine ⟨inTouch, ?_⟩
    simp [Event.post, Event.samples, Event.mismatches, Event.defers, Event.extreme, outcome,
      unsampled, unrecovered]
  sampled {c rig bus raw} unrecovered sample ends inTouch := by
    have outcome := Event.outcome?_of_ok ends
    have kept : (rig.withBus bus).driver.InTouch := inTouch
    obtain ⟨inTouch', stats⟩ := Rig.stats_committed kept c raw
    refine ⟨inTouch', stats.trans ?_⟩
    simp [Event.post, Event.samples, Event.mismatches, Event.defers, Event.extreme, outcome,
      sample, unrecovered]
    rfl
  recovery unsampled recovers inTouch := by
    refine ⟨inTouch, ?_⟩
    rcases Event.outcome?_of_recovery? recovers with outcome | outcome
    all_goals simp [Event.post, Event.samples, Event.mismatches, Event.defers, Event.extreme,
      outcome, unsampled, recovers, Rig.alarmed, Driver.countRecovery]
  acquires command rig _ := (List.flatMap_singleton' _).symm
  other command rig h := by
    rw [Command.events_of_not_acquires h]
    exact (Command.runOn_within (Command.run_idle h)).posted

/-! ### Reading the ledger -/

namespace Event

variable (stats : Stats) (event : Event)

/-- A measurement gives samples of its own channel only. -/
theorem samples_measurement (c d : Channel) (polled : Rig) :
    (measurement d polled).samples c = (decide (c = d) && (measurement d polled).samples d) := by
  by_cases same : c = d
  · simp [same]
  · cases measured : ECompass.measure d polled <;>
      simp [samples, outcome?, measured, same, Ne.symm same]

/-- A measurement finds a mismatch of its own channel only. -/
theorem mismatches_measurement (c d : Channel) (polled : Rig) :
    (measurement d polled).mismatches c =
      (decide (c = d) && (measurement d polled).mismatches d) := by
  by_cases same : c = d
  · simp [same]
  · simp [mismatches, same, Ne.symm same]

/-- A counter of its channel that goes up by one, as read for any channel. -/
theorem get_counted (counters : PerChannel UInt32) (c d : Channel) (p : Bool) :
    (if p then counters.modify d (· + 1) else counters).get c =
      if decide (c = d) && p then counters.get c + 1 else counters.get c := by
  cases p with
  | true =>
    simp only [if_true, PerChannel.get_modify, Bool.and_true, decide_eq_true_eq]
  | false => simp only [Bool.and_false, Bool.false_eq_true, if_false]

theorem reads_post (c : Channel) : (post stats event).reads.get c =
    if event.completes then 0
    else if event.samples c then stats.reads.get c + 1 else stats.reads.get c := by
  cases event with
  | reset start =>
    simp only [post, samples, outcome?, reduceCtorEq, decide_false, Bool.false_eq_true, if_false]
    split
    · exact PerChannel.get_both 0 c
    · rfl
  | measurement d polled =>
    rw [samples_measurement c d]
    exact get_counted stats.reads c d _

theorem recoveries_post (c : Channel) : (post stats event).recoveries.get c =
    if event.mismatches c then stats.recoveries.get c + 1 else stats.recoveries.get c := by
  cases event with
  | reset start => rfl
  | measurement d polled =>
    rw [mismatches_measurement c d]
    exact get_counted stats.recoveries c d _

theorem reschedules_post : (post stats event).reschedules =
    if event.defers then stats.reschedules + 1 else stats.reschedules := by
  cases event <;> rfl

theorem extremes_post : (post stats event).extremes =
    if event.extreme then min (stats.extremes + 1) Monitor.maxCount else stats.extremes := by
  cases event <;> rfl

end Event

/-- A counter that goes up with some events holds their number, but for the wraps around. -/
theorem tally (counter : Stats → UInt32) {p : Event → Bool} (initial : counter {} = 0)
    (step : ∀ stats event, counter (Event.post stats event) =
      if p event then counter stats + 1 else counter stats) (events : List Event) :
    counter (events.foldl Event.post {}) = .ofNat (events.countP p) := by
  induction events using List.reverseRecOn with
  | nil => exact initial
  | append_singleton events event ih =>
    rw [List.foldl_concat, step, ih, List.countP_append, List.countP_singleton]
    split
    · rw [UInt32.ofNat_add]
      rfl
    · rfl

/-- The samples of a channel are counted from the last reset that was completed. -/
theorem tally_reads (c : Channel) (events : List Event) :
    (events.foldl Event.post {}).reads.get c =
      .ofNat ((events.rtakeWhile fun event => !event.completes).countP (Event.samples c)) := by
  induction events using List.reverseRecOn with
  | nil => exact PerChannel.get_both 0 c
  | append_singleton events event ih =>
    rw [List.foldl_concat, Event.reads_post, ih, List.rtakeWhile_concat]
    cases event.completes with
    | true => rfl
    | false =>
      simp only [Bool.false_eq_true, if_false, Bool.not_false, if_true, List.countP_append,
        List.countP_singleton]
      split
      · rw [UInt32.ofNat_add]
        rfl
      · rfl

/-- The extreme samples are counted as far as can be counted. -/
theorem tally_extremes (events : List Event) : (events.foldl Event.post {}).extremes =
    min (events.countP Event.extreme) Monitor.maxCount := by
  induction events using List.reverseRecOn with
  | nil => rfl
  | append_singleton events event ih =>
    rw [List.foldl_concat, Event.extremes_post, ih, List.countP_append, List.countP_singleton]
    split
    · omega
    · rfl

/-- The counters are an exact ledger of every session, whatever fails in it.

The samples of a channel are counted modulo `2 ^ 32`, from the last reset on that was completed, be
it called for or in place of a measurement. The measurements of a channel that found another control
value than expected are counted modulo `2 ^ 32`, whatever became of the reset that followed, and so
are the measurements that found no data. The extreme samples are counted up to `2 ^ 32 - 1`, whether
the log is on or not, and resets do not touch their count. -/
theorem stats_are_ledger {bench : Bench} {start : Rig} {steps : List Step}
    (connected : connect { bench } = .ok () start) :
    let driver := (runSession start steps).2.driver
    let past := events start steps
    let sinceReset := past.rtakeWhile fun event => !event.completes
    (∀ c, (driver.stats.reads.get c).toNat = sinceReset.countP (Event.samples c) % UInt32.size) ∧
      (∀ c, (driver.stats.recoveries.get c).toNat =
        past.countP (Event.mismatches c) % UInt32.size) ∧
      driver.stats.reschedules.toNat = past.countP Event.defers % UInt32.size ∧
      driver.stats.extremes = driver.monitor.extremes ∧
      driver.monitor.extremes = min (UInt32.size - 1) (past.countP Event.extreme) := by
  intro driver past sinceReset
  obtain ⟨bus, rfl⟩ := connect_onBus.of_ok connected
  obtain ⟨inTouch, posted⟩ := chronicle_posted.session { bench := { bench with bus } } steps rfl
  rw [← events_eq_along] at posted
  have stats : driver.stats = past.foldl Event.post {} := posted
  refine ⟨fun c => ?_, fun c => ?_, ?_, inTouch, ?_⟩
  · rw [stats, tally_reads, UInt32.toNat_ofNat']
  · rw [stats, tally (fun stats => stats.recoveries.get c) (PerChannel.get_both 0 c)
      (fun stats event => Event.recoveries_post stats event c), UInt32.toNat_ofNat']
  · rw [stats, tally Stats.reschedules rfl Event.reschedules_post,
      UInt32.toNat_ofNat']
  · rw [← inTouch, stats, tally_extremes, Nat.min_comm]
    rfl

/-- A recovery fails, and the next one is completed; then there are two extreme samples, the second
after the log was switched off, and one measurement finds no data. -/
theorem stats_are_ledger_recovered :
    let steps : List Step := [.command .reset, .command (.measure .accel), .stimulus .brownout,
      .stimulus (.writeFault 3), .command (.measure .accel), .command (.measure .accel),
      .stimulus (.outputs .accel ⟨32000, 32000, 32000⟩), .command (.measure .accel),
      .command .toggleLogging, .command (.measure .accel), .stimulus (.dataReady .low),
      .command (.measure .accel)]
    let stats := (runSession (.fresh .spi) steps).2.driver.stats
    connect { bench := .fresh .spi } = .ok () (.fresh .spi) ∧
      (stats.reads.get .accel).toNat = 2 ∧ (stats.recoveries.get .accel).toNat = 2 ∧
      stats.reschedules.toNat = 1 ∧ stats.extremes = 2 := by
  intro steps stats
  have connected := connect_fresh .spi
  let past := events (.fresh .spi) steps
  have counted : (past.rtakeWhile fun event => !event.completes).countP (Event.samples .accel) = 2 ∧
      past.countP (Event.mismatches .accel) = 2 ∧ past.countP Event.defers = 1 ∧
      past.countP Event.extreme = 2 := by decide +kernel
  obtain ⟨committed, mismatched, deferred, extreme⟩ := counted
  obtain ⟨reads, recoveries, reschedules, copied, extremes⟩ :=
    @stats_are_ledger _ _ steps connected
  refine ⟨connected, ?_, ?_, ?_, ?_⟩
  · rw [reads, committed]
    rfl
  · rw [recoveries, mismatched]
    rfl
  · rw [reschedules, deferred]
    rfl
  · rw [copied, extremes, extreme]
    rfl

end ECompass
