import ECompass.Proofs.Agreement
import ECompass.Proofs.Effects
import ECompass.Proofs.HealthCheck

/-!
# Recovery

A measurement that finds the control register of its channel changed configures the chip anew
instead of reading a burst. If no transfer fails, it succeeds, whatever the registers of the chip
have come to hold: the chip then holds the configuration of the driver, both channels pass the
health check, and the next measurement gives a sample.

All that the driver loses by it is the line of the accelerometer filter. The design of the filter
stays, because a filter in use is always one that was designed as a whole (`AxisFilter.Designed`).
-/

namespace ECompass

open Program Operation

/-! ### The design of the filter -/

/-- A filter of the same design with an empty line. -/
def LowPass.emptied {α : Type} [Scalar α] (f : LowPass α) : LowPass α :=
  { f with last := 0, previous := 0, settled := false }

/-- Filtering an input changes the line of a filter only. -/
theorem LowPass.emptied_apply {α : Type} [Scalar α] (f : LowPass α) (input : α) :
    (f.apply input).2.emptied = f.emptied := by
  unfold apply
  split
  · rfl
  · split <;> rfl

namespace AxisFilter

/-- Filters of the same design with empty lines. -/
def emptied (f : AxisFilter) : AxisFilter := f.map LowPass.emptied

/-- The filters of all three axes were designed for the sample rate and the cutoff. -/
def Designed (f : AxisFilter) : Prop := f.emptied = .design f.sampleRate f.cutoff

theorem designed_design (sampleRate cutoff : Float32) : (design sampleRate cutoff).Designed := rfl

theorem emptied_apply (f : AxisFilter) (reading : Axes Float32) :
    (AxisFilter.apply f reading).2.emptied = f.emptied := by
  have x := f.x.emptied_apply reading.x
  have y := f.y.emptied_apply reading.y
  have z := f.z.emptied_apply reading.z
  show Axes.mk (f.x.apply reading.x).2.emptied (f.y.apply reading.y).2.emptied
    (f.z.apply reading.z).2.emptied = f.map LowPass.emptied
  rw [x, y, z]
  rfl

theorem Designed.apply {f : AxisFilter} (h : f.Designed) (reading : Axes Float32) :
    (AxisFilter.apply f reading).2.Designed := by
  have same := emptied_apply f reading
  show (AxisFilter.apply f reading).2.emptied = .design
    (AxisFilter.apply f reading).2.emptied.sampleRate (AxisFilter.apply f reading).2.emptied.cutoff
  rw [same]
  exact h

end AxisFilter

/-- The filter of the driver is one that was designed as a whole. -/
def Rig.FilterDesigned (rig : Rig) : Prop := rig.driver.filter.Designed

theorem setPollRate_filterDesigned (c : Channel) (rate : PollRate) :
    Within (Kept Rig.FilterDesigned) (setPollRate c rate) := by
  intro rig
  rw [Ends, setPollRate_apply]
  cases rig.driver.scheduler.setPollRate c rate with
  | none => exact refl_of (Kept Rig.FilterDesigned) rig
  | some accepted =>
    intro designed
    obtain ⟨outcome, calls, scheduler⟩ := accepted
    have filter := rig.driver.filter_adopt c outcome scheduler
    split at filter
    · rw [Rig.FilterDesigned, filter]
      exact AxisFilter.designed_design _ _
    · rw [Rig.FilterDesigned, filter]
      exact designed

theorem drives_filterDesigned : Drives (Kept Rig.FilterDesigned) where
  steady h designed := by
    rw [Rig.FilterDesigned, h.filter]
    exact designed
  design _ _ _ _ := AxisFilter.designed_design _ _
  keep _ c _ designed := by
    cases c with
    | accel => exact designed.apply _
    | mag => exact designed
  queue _ _ designed := designed
  putOff c rig := by
    rw [Ends, putOff_apply]
    exact fun designed => designed
  start _ designed := designed
  stop _ designed := designed
  setPollRate := setPollRate_filterDesigned

/-- The filter of every driver that a session reaches was designed as a whole. -/
theorem filterDesigned_of_connect {bench : Bench} {start : Rig}
    (connected : connect { bench } = .ok () start) (steps : List Step) :
    (runSession start steps).2.FilterDesigned := by
  have begun : start.FilterDesigned := by
    rw [Rig.FilterDesigned, (connect_steady.of_ok connected).filter]
    exact AxisFilter.designed_design _ _
  exact drives_filterDesigned.session (fun _ _ _ designed => designed) start begun

/-! ### Measurements in which no transfer fails -/

/-- No transfer fails while a command is carried out. -/
def Command.Unfailed (command : Command) (rig : Rig) : Prop :=
  (command.runOn rig).2.failures = rig.failures

instance (command : Command) (rig : Rig) : Decidable (command.Unfailed rig) :=
  inferInstanceAs (Decidable (_ = _))

/-- A measurement that can fail only by a transfer succeeds if none fails. -/
theorem exists_ok_of_unfailed {c : Channel} {rig : Rig} {Q : Measurement → Rig → Prop}
    (ends : Ends (measure c) rig Q fun _ next => rig.failures < next.failures)
    (unfailed : (Command.measure c).Unfailed rig) :
    ∃ outcome next, measure c rig = .ok outcome next ∧ Q outcome next := by
  cases run : measure c rig with
  | ok outcome next => exact ⟨outcome, next, rfl, ends.of_ok run⟩
  | error e next =>
    have command : (Command.measure c).run rig =
        (do return Reply.measured (← measure c)) rig := rfl
    rw [Command.Unfailed, Command.runOn, command, bind_apply, run] at unfailed
    exact absurd unfailed (Nat.ne_of_gt (ends.of_error run))

/-- The health check fails by a transfer only. -/
theorem isHealthy_failures (c : Channel) (rig : Rig) : Ends (isHealthy c) rig
    (fun _ next => rig.failures ≤ next.failures) fun _ next => rig.failures < next.failures := by
  refine Ends.bind (Q := fun _ next => rig.failures ≤ next.failures) ?_ fun _ _ h => h
  refine onBus_ends <| (Bus.readRegister_ends c.control rig.bench.bus).mono
    (fun _ _ h => Nat.le_of_eq h.2.2.1.symm) fun _ bus failed => ?_
  show rig.failures < bus.failures
  rw [failed.failures]
  exact Nat.lt_succ_self _

/-- A burst fails by a transfer only. -/
theorem readBurst_failures (c : Channel) (rig : Rig) : Ends (readBurst c) rig
    (fun _ next => rig.failures ≤ next.failures) fun _ next => rig.failures < next.failures := by
  refine Ends.bind (Q := fun _ next => rig.failures ≤ next.failures) ?_ fun _ _ h => h
  refine onBus_ends (Ends.intro (fun _ _ ok => ?_) fun _ bus error => ?_)
  · exact ((Bus.readBurst_reads c).of_ok ok).failures
  · rw [Bus.readBurst_apply] at error
    split at error
    · cases error
      show rig.failures < (Bus.noted ..).failures
      rw [Bus.failures_noted]
      exact Nat.lt_succ_self _
    · cases error

/-- A channel that has data and is as expected gives a sample, unless a transfer fails. -/
theorem measure_of_matched {c : Channel} {rig : Rig} (ready : rig.Ready c)
    (matched : ¬ rig.Mismatched c) : Ends (measure c) rig (fun outcome _ => outcome = .sampled)
      fun _ next => rig.failures < next.failures := by
  cases check : isHealthy c rig with
  | error e next =>
    rw [Ends, measure_of_isHealthy_error ready check]
    exact (isHealthy_failures c rig).of_error check
  | ok healthy checked =>
    have looked := (isHealthy_failures c rig).of_ok check
    have passed : healthy = true := ((isHealthy_ends c rig).of_ok check).1.2 matched
    cases read : readBurst c checked with
    | error e next =>
      have lost := (readBurst_failures c checked).of_error read
      rw [Ends, measure_of_isHealthy ready check, if_pos passed, acquire, bind_apply, read]
      exact Nat.lt_of_le_of_lt looked lost
    | ok burst mid =>
      obtain ⟨next, sampled⟩ := exists_sampled_of_burst ready matched check read
      rw [Ends, sampled]

/-- A channel that has data and is not as expected is configured anew, unless a transfer fails. -/
theorem measure_of_mismatched {c : Channel} {rig : Rig} (ready : rig.Ready c)
    (mismatched : rig.Mismatched c) : Ends (measure c) rig
      (fun outcome next => outcome = .recovered ∧ next.Agrees ∧ Rig.Programmed { rig with
        driver := (rig.driver.countRecovery c).clearFilter.restartReads } next)
      fun _ next => rig.failures < next.failures := by
  cases check : isHealthy c rig with
  | error e next =>
    rw [Ends, measure_of_isHealthy_error ready check]
    exact (isHealthy_failures c rig).of_error check
  | ok healthy checked =>
    have looked := (isHealthy_failures c rig).of_ok check
    have same : checked.driver = rig.driver := ((isHealthy_ends c rig).of_ok check).2.1
    rw [Ends, measure_of_recovery? (recovery?_of_mismatched ready mismatched check)]
    let begun : Rig := { checked with driver := checked.driver.countRecovery c }
    refine Ends.bind (((reset_ends begun).and (reset_programs begun)).mono (fun _ next done => ?_)
      fun _ next failed => Nat.lt_of_le_of_lt looked failed.1) fun _ _ h => h
    obtain ⟨expected, bus, single, rfl⟩ := (isHealthy_programs c).of_ok check
    obtain ⟨expected', bus', single', rfl⟩ := done.2
    have kept : expected = rig.driver.expected := congrArg Driver.expected same
    subst kept
    exact ⟨rfl, done.1.1, expected', bus', trans_of Bus.Singly single single', rfl⟩

/-! ### One cycle -/

/-- The driver after a recovery that a channel's control register caused: the recovery is counted,
samples count from zero, the line of the filter is empty, and the control values of the
configuration are expected. -/
def Driver.recovered (d : Driver) (c : Channel) : Driver :=
  { d with
    filter := d.filter.emptied
    expected := .ofFn d.control
    stats := { d.stats with
      reads := .both 0
      recoveries := d.stats.recoveries.modify c (· + 1) } }

/-- Recovery takes one cycle. Let a driver be reached by any session, and let the chip hold anything
at all. If a channel has data, its control register is not as expected, and no transfer fails, then
a measurement of the channel recovers: every transfer moves a single byte, and no call is made on
the timer and no notice given. But for the count of the recovery, the counts of samples and the line
of the filter the driver is as before, and the chip holds its configuration.

From there, as long as neither control register is written from outside, the next measurement of
either channel gives a sample, if it has data and no transfer fails. -/
theorem recovers_in_one_cycle {bench : Bench} {start rig : Rig} {before : List Step} {c : Channel}
    (connected : connect { bench } = .ok () start)
    (reached : rig.driver = (runSession start before).2.driver)
    (mismatched : rig.Mismatched c) (ready : rig.Ready c)
    (unfailed : (Command.measure c).Unfailed rig) :
    ∃ bus next, measure c rig = .ok .recovered next ∧
      rig.bench.bus.Singly bus ∧ next.bench = { rig.bench with bus } ∧
      next.driver = rig.driver.recovered c ∧ next.Configured ∧
      ∀ later d, (∀ step ∈ later, ∀ e : Channel, e.control.addr ∉ step.outside) →
        let polled := (runSession next later).2
        polled.Ready d → (Command.measure d).Unfailed polled →
          ∃ final, measure d polled = .ok .sampled final := by
  obtain ⟨_, next, run, rfl, agrees, programmed⟩ :=
    exists_ok_of_unfailed (measure_of_mismatched ready mismatched) unfailed
  have designed : rig.driver.filter.Designed := by
    rw [reached]
    exact filterDesigned_of_connect connected before
  have configured := agrees.configured
  refine ⟨next.bench.bus, next, run, ?_, ?_, ?_, configured, ?_⟩
  · obtain ⟨expected, bus, single, rfl⟩ := programmed
    exact single
  · obtain ⟨expected, bus, single, rfl⟩ := programmed
    rfl
  · obtain ⟨expected, bus, single, rfl⟩ := programmed
    have expects : expected = .ofFn rig.driver.control := configured.expected
    have empties : AxisFilter.design rig.driver.filter.sampleRate rig.driver.filter.cutoff =
        rig.driver.filter.emptied := designed.symm
    subst expects
    rw [Driver.recovered, ← empties]
    rfl
  · intro later d untouched polled ready' unfailed'
    have matched : ¬ polled.Mismatched d :=
      ((operates_staysMatched d).session (stimuliWithin_staysMatched fun step hs =>
        untouched step hs d) (agrees.not_mismatched d)).1
    obtain ⟨_, final, sampled, rfl⟩ :=
      exists_ok_of_unfailed (measure_of_matched ready' matched) unfailed'
    exact ⟨final, sampled⟩

/-- A loss of power of a configured chip, noticed by the magnetometer. -/
theorem recovers_in_one_cycle_brownout :
    let rig := (runSession (.fresh .spi) [.command .reset,
      .command (.requestSetting .accelRange 3), .stimulus .brownout]).2
    connect { bench := .fresh .spi } = .ok () (.fresh .spi) ∧ rig.Mismatched .mag ∧
      rig.Ready .mag ∧ (Command.measure .mag).Unfailed rig ∧
        ∃ next, measure .mag rig = .ok .recovered next ∧
          next.driver = rig.driver.recovered .mag ∧ next.Configured := by
  have connected := connect_fresh .spi
  have mismatched : (runSession (.fresh .spi) [.command .reset,
      .command (.requestSetting .accelRange 3), .stimulus .brownout]).2.Mismatched .mag := by
    decide +kernel
  have ready : (runSession (.fresh .spi) [.command .reset,
      .command (.requestSetting .accelRange 3), .stimulus .brownout]).2.Ready .mag := by
    decide +kernel
  have unfailed : (Command.measure .mag).Unfailed (runSession (.fresh .spi) [.command .reset,
      .command (.requestSetting .accelRange 3), .stimulus .brownout]).2 := by
    decide +kernel
  obtain ⟨_, next, recovered, -, -, driver, configured, -⟩ :=
    recovers_in_one_cycle connected rfl mismatched ready unfailed
  exact ⟨connected, mismatched, ready, unfailed, next, recovered, driver, configured⟩

end ECompass
