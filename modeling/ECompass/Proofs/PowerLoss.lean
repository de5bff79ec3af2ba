import ECompass.Proofs.Effects
import ECompass.Proofs.InterruptedReset

/-!
# Losses of power are not masked

A request for a setting reads a control register, changes a field of it, and lets the expected value
follow. On a chip that has lost power it may so rewrite a watched register, and change what the
health check compares it with in the same step. The check notices all the same, because it compares
bits that no request reaches: those that make a channel run (`Channel.running`). Every driver
expects them to be set (`ExpectsRunning`), and only a reset sets them.
-/

namespace ECompass

open Program Operation

/-! ### Commands that start no reset -/

/-- A measurement that starts no reset moves the rig as its other parts do. -/
theorem measure_within_of_recovery?_eq_none {R : Rig → Rig → Prop} [IsPreorder Rig R] {c : Channel}
    {rig : Rig} (check : Within R (isHealthy c)) (acquisition : Within R (acquire c))
    (delay : Within R (putOff c)) (h : recovery? c rig = none) :
    Ends (measure c) rig (fun _ next => R rig next) fun _ next => R rig next := by
  by_cases ready : rig.Ready c
  · cases looked : isHealthy c rig with
    | error e next =>
      rw [Ends, measure_of_isHealthy_error ready looked]
      exact check.of_error looked
    | ok healthy checked =>
      have passed : R rig checked := check.of_ok looked
      rw [Ends, measure_of_isHealthy ready looked]
      cases healthy with
      | false =>
        rw [recovery?_eq_some_iff.2 ⟨ready, checked, looked, rfl⟩] at h
        cases h
      | true =>
        exact (acquisition checked).mono (fun _ _ moved => trans_of R passed moved)
          fun _ _ moved => trans_of R passed moved
  · rw [Ends, measure_of_not_ready ready]
    exact (delay.bind fun _ => .pure _ : Within R _) rig

/-- A measurement that starts no reset only reads. -/
theorem measure_calm_of_recovery?_eq_none {c : Channel} {rig : Rig} (h : recovery? c rig = none) :
    Ends (measure c) rig (fun _ next => rig.Calm next) fun _ next => rig.Calm next :=
  measure_within_of_recovery?_eq_none (isHealthy_calm c) (acquire_calm c) (putOff_calm c) h

namespace Command

variable {command : Command} {rig : Rig}

/-- A command that takes no measurement and does not begin with a reset only reads, unless it
requests a setting. -/
theorem run_calm_of_measurement?_eq_none (configures : command.configures = false)
    (unmeasured : command.measurement? rig = none)
    (request : ∀ field n, command ≠ .requestSetting field n) :
    Ends command.run rig (fun _ next => rig.Calm next) fun _ next => rig.Calm next := by
  cases writes : command.mayWrite with
  | false => exact run_calm writes rig
  | true =>
    cases command with
    | bringUp => cases configures
    | reset => cases configures
    | measure c => cases unmeasured
    | onTimer c =>
      have inactive : ¬ rig.driver.scheduler.isActive c := by
        intro active
        rw [measurement?, if_pos active] at unmeasured
        cases unmeasured
      refine Ends.bind (Q := fun _ next => rig.Calm next) ?_ fun _ _ calm => calm
      rw [Ends, onTimer_of_not_active inactive]
      exact refl_of Rig.Calm rig
    | readSamples c room =>
      refine Ends.bind (Q := fun _ next => rig.Calm next) ?_ fun _ _ calm => calm
      by_cases none : room = 0
      · rw [Ends, readSamples_eq, sampling, if_pos none]
        exact refl_of Rig.Calm rig
      · by_cases active : rig.driver.scheduler.isActive c
        · rw [Ends, readSamples_of_active none active]
          exact drain_calm c room rig
        · rw [measurement?, if_neg (not_or.2 ⟨none, active⟩)] at unmeasured
          cases unmeasured
    | requestSetting field n => exact absurd rfl (request field n)
    | _ => cases writes

/-- A command that starts no reset only reads, unless it requests a setting. -/
theorem runOn_of_no_reset (quiet : ∀ start, .reset start ∉ command.events rig) :
    rig.Calm (command.runOn rig).2 ∨ ∃ field n, command = .requestSetting field n := by
  by_cases request : ∃ field n, command = .requestSetting field n
  · exact .inr request
  · refine .inl (runOn_of_ends ?_)
    have configures : command.configures = false := Bool.eq_false_iff.2 fun configures =>
      quiet rig (mem_events_reset.2 (.inl ⟨configures, rfl⟩))
    cases hm : command.measurement? rig with
    | none =>
      exact run_calm_of_measurement?_eq_none configures hm fun field n eq => request ⟨field, n, eq⟩
    | some taken =>
      obtain ⟨c, polled⟩ := taken
      have unrecovered : recovery? c polled = none := Option.eq_none_iff_forall_ne_some.2
        fun start recovers => quiet start (mem_events_reset.2 (.inr ⟨c, polled, hm, recovers⟩))
      have begun : rig.Calm polled := by
        rcases measurement?_cases hm with ⟨rfl, -, -⟩ | ⟨-, rfl⟩ | ⟨-, -, rfl⟩ | ⟨_, -, -, rfl⟩
        · cases configures
        · exact refl_of Rig.Calm _
        · exact refl_of Rig.Calm _
        · exact (flushQueue_calm c).of_ok rfl
      obtain ⟨rest, requeues, run⟩ := run_of_measurement? hm
      have measured : Ends (ECompass.measure c >>= rest) polled
          (fun _ next => rig.Calm next) fun _ next => rig.Calm next :=
        ((measure_calm_of_recovery?_eq_none unrecovered).mono
          (fun _ _ moved => trans_of Rig.Calm begun moved)
          fun _ _ moved => trans_of Rig.Calm begun moved).bind fun outcome _ moved =>
            (requeues outcome _).mono (fun _ _ taken => trans_of Rig.Calm moved taken.calm)
              fun _ _ taken => trans_of Rig.Calm moved taken.calm
      rwa [Ends, ← run] at measured

end Command

/-- An invariant that nothing ends but a reset or a request holds along a session in which no reset
starts, if the requests and the stimuli of the session keep it. -/
theorem kept_of_no_reset {I : Rig → Prop} {rig : Rig} {steps : List Step}
    (calm : ∀ {rig next : Rig}, rig.Calm next → I rig → I next)
    (requests : ∀ field n, .command (.requestSetting field n) ∈ steps →
      Within (Kept I) (requestSetting field n))
    (stimuli : StimuliWithin (Kept I) steps) (quiet : ∀ start, .reset start ∉ events rig steps) :
    Kept I rig (runSession rig steps).2 := by
  induction steps generalizing rig with
  | nil => exact fun holds => holds
  | cons step rest ih =>
    intro holds
    -- a session starts no reset if neither its first step nor the rest of it does
    refine ih (fun field n hr => requests field n (List.mem_cons_of_mem _ hr)) stimuli.tail
      (fun start hr => quiet start (List.mem_append_right _ hr)) ?_
    cases step with
    | command command =>
      rcases command.runOn_of_no_reset fun start hr => quiet start (List.mem_append_left _ hr)
        with read | ⟨field, n, rfl⟩
      · exact calm read holds
      · have within : Within (Kept I) (Command.requestSetting field n).run :=
          (requests field n List.mem_cons_self).bind fun _ => .pure _
        exact Command.runOn_within within holds
    | stimulus s => exact stimuli s List.mem_cons_self rig holds

/-! ### Channels that do not run -/

/-- The chip does not run a channel. -/
def Rig.Stopped (rig : Rig) (c : Channel) : Prop := ¬ rig.chip.Holds c.running

theorem Channel.running_mem_fixedFields (c : Channel) : c.running ∈ fixedFields := by
  cases c <;> decide

/-- The bits that make a channel run are in its control register. -/
theorem Channel.register_running (c : Channel) : c.running.register = c.control := by
  cases c <;> rfl

theorem Rig.Stopped.of_read_eq {rig next : Rig} {c : Channel} (h : rig.Stopped c)
    (same : next.chip.read c.control.addr = rig.chip.read c.control.addr) : next.Stopped c := by
  rw [Stopped, RegisterFile.Holds, c.register_running, same, ← c.register_running]
  exact h

theorem Rig.Calm.stopped {rig next : Rig} {c : Channel} (calm : rig.Calm next)
    (h : rig.Stopped c) : next.Stopped c :=
  h.of_read_eq (calm.bus.chip _ fun d => control_not_mem_outputs c d)

/-- A request makes no channel run, at whichever transfer it fails. -/
theorem requestSetting_stopped (c : Channel) (field : Field) (n : Nat) :
    Within (Kept fun rig => rig.Stopped c) (requestSetting field n) := by
  refine fun rig => driver_bind_ends ?_
  split
  · exact refl_of (Kept fun rig => rig.Stopped c) rig
  · rename_i config _
    let ahead : Rig := { rig with driver := { rig.driver with config } }
    refine (applyUpdate_ends (config.update field) ahead).mono (fun _ next updated stopped => ?_)
      fun _ next failed stopped => ?_
    · have apart := config.apart_fixed field _ c.running_mem_fixedFields
      have same := Rig.Updated.chip_holds_iff updated (config.fits_update field) apart
      exact fun holds => stopped (same.1 holds)
    · exact stopped.of_read_eq (congrArg (RegisterFile.read · _) failed.bus.chip)

/-- Nothing makes a channel run but a reset: not the commands of a session, and not its stimuli as
long as nothing but a loss of power writes the control register from outside. -/
theorem stopped_of_no_reset {c : Channel} {rig : Rig} {steps : List Step} (stopped : rig.Stopped c)
    (untouched : ∀ step ∈ steps, c.control.addr ∈ step.outside → step = .stimulus .brownout)
    (quiet : ∀ start, .reset start ∉ events rig steps) : (runSession rig steps).2.Stopped c := by
  refine kept_of_no_reset (I := fun rig => rig.Stopped c) (fun calm => calm.stopped)
    (fun field n _ => requestSetting_stopped c field n) (fun s hs rig stopped => ?_) quiet stopped
  by_cases outside : c.control.addr ∈ s.outside
  · cases untouched _ hs outside
    exact (RegisterFile.powerLost_brownout _).not_running c
  · exact stopped.of_read_eq (s.read_act rig.bench outside)

/-! ### The next measurement -/

/-- A measurement that starts a reset gives no sample: if it succeeds it reports the recovery, and
however it ends, no queue has changed and the sink was told nothing. -/
theorem measure_ends_of_recovery? {c : Channel} {rig start : Rig}
    (h : recovery? c rig = some start) : Ends (measure c) rig
      (fun outcome next => outcome = .recovered ∧ SameQueues rig next ∧
        next.bench.notices = rig.bench.notices)
      fun _ next => SameQueues rig next ∧ next.bench.notices = rig.bench.notices := by
  obtain ⟨-, checked, check, eq⟩ := recovery?_eq_some_iff.1 h
  have begun : SameQueues rig start ∧ start.bench.notices = rig.bench.notices := by
    obtain ⟨expected, bus, -, rfl⟩ := (isHealthy_programs c).of_ok check
    rw [eq]
    exact ⟨rfl, rfl⟩
  rw [Ends, measure_of_recovery? h]
  refine ((reset_programs start).mono (fun _ next programmed => ?_)
    fun _ next programmed => ?_).bind fun _ _ same => ⟨rfl, same⟩
  · obtain ⟨expected, bus, -, rfl⟩ := programmed
    exact begun
  · rcases programmed with ⟨expected, bus, -, rfl⟩ | ⟨expected, bus, -, rfl⟩ <;> exact begun

/-- Every driver that a session reaches expects both channels to run. -/
theorem expectsRunning_of_session {bench : Bench} {new : Rig}
    (connected : connect { bench } = .ok () new) (steps : List Step) :
    (runSession new steps).2.ExpectsRunning := by
  have stimuli : StimuliWithin (Kept Rig.ExpectsRunning) steps :=
    fun _ _ _ running => running.of_eq rfl
  exact operates_expectsRunning.session stimuli (expectsRunning_of_connect connected)

/-- A loss of power is not masked by what is requested afterwards.

Every driver that a session reaches expects the enables of the accelerometer and the continuous mode
of the magnetometer. If power was lost, and whatever the driver does from then on, with whichever
transfers failing, starts no reset, then both control registers still differ from what is expected.
So the next measurement of a channel that has data, and whose control register can be read, starts a
reset, and gives no sample. -/
theorem power_loss_not_masked {bench : Bench} {new : Rig} {before : List Step}
    (connected : connect { bench } = .ok () new) :
    let lost := (runSession new before).2
    lost.driver.expected.get .accel &&& 0x0F = 0x0F ∧ lost.driver.expected.get .mag = 0 ∧
      (lost.chip.PowerLost → ∀ after : List Step,
        (∀ step ∈ after, ∀ c : Channel, c.control.addr ∈ step.outside →
          step = .stimulus .brownout) →
        (∀ start, .reset start ∉ events lost after) →
        let rig := (runSession lost after).2
        (∀ c, rig.Mismatched c) ∧
          ∀ (command : Command) c polled, command.measurement? rig = some (c, polled) →
            command.configures = false → polled.Ready c →
              ∀ healthy checked, isHealthy c polled = .ok healthy checked →
                (∃ again, recovery? c polled = some again ∧
                  measure c polled = (do reset; return Measurement.recovered) again) ∧
                Ends (measure c) polled
                  (fun outcome next => outcome = .recovered ∧ SameQueues polled next ∧
                    next.bench.notices = polled.bench.notices)
                  fun _ next => SameQueues polled next ∧
                    next.bench.notices = polled.bench.notices) := by
  intro lost
  have lost_running : lost.ExpectsRunning := expectsRunning_of_session connected before
  refine ⟨lost_running.accel, lost_running.mag, fun power after untouched quiet => ?_⟩
  intro rig
  have running : rig.ExpectsRunning := by
    have moved := expectsRunning_of_session connected (before ++ after)
    rw [runSession_append] at moved
    exact moved
  have mismatched (c : Channel) : rig.Mismatched c := by
    -- what is expected may have changed on the way, but not in the bits that make a channel run
    have stopped : rig.Stopped c := stopped_of_no_reset (power.not_running c)
      (fun step hs => untouched step hs c) quiet
    exact running.mismatched stopped
  refine ⟨mismatched, fun command c polled hm configures ready healthy checked check => ?_⟩
  have polled_mismatched : polled.Mismatched c := by
    rcases command.measurement?_cases hm with ⟨rfl, -, -⟩ | ⟨-, rfl⟩ | ⟨-, -, rfl⟩ | ⟨_, -, -, rfl⟩
    · cases configures
    · exact mismatched c
    · exact mismatched c
    · exact mismatched c
  have again := recovery?_of_mismatched ready polled_mismatched check
  exact ⟨⟨_, again, measure_of_recovery? again⟩, measure_ends_of_recovery? again⟩

/-- A driver that was never told to configure the chip: one request fills the rate field that power
left empty, and a second one fails between its two transfers. -/
theorem power_loss_not_masked_unconfigured :
    let after : List Step := [.command (.requestSetting .accelRate 100),
      .stimulus (.writeFault 0), .command (.requestSetting .accelRange 4)]
    let rig := (runSession (.fresh .spi) after).2
    connect { bench := .fresh .spi } = .ok () (.fresh .spi) ∧ (Rig.fresh .spi).chip.PowerLost ∧
      (runSession (.fresh .spi) after).1 =
        [.reply .done, .silence, .failure (.bus .communication)] ∧
        rig.chip.read Register.ctrl1.addr = 0x67 ∧ rig.driver.expected.get .accel = 0x6F ∧
          ∃ again, recovery? .accel rig = some again := by
  have connected := connect_fresh .spi
  have power : (Rig.fresh .spi).chip.PowerLost := by decide +kernel
  have untouched : ∀ step ∈ [Step.command (.requestSetting .accelRate 100),
      .stimulus (.writeFault 0), .command (.requestSetting .accelRange 4)],
      ∀ c : Channel, c.control.addr ∈ step.outside → step = .stimulus .brownout := by
    intro step hs c
    revert step
    cases c <;> decide
  have quiet : events (.fresh .spi) [.command (.requestSetting .accelRate 100),
      .stimulus (.writeFault 0), .command (.requestSetting .accelRange 4)] = [] := rfl
  have readable : succeeds (isHealthy .accel) (runSession (.fresh .spi)
      [.command (.requestSetting .accelRate 100), .stimulus (.writeFault 0),
        .command (.requestSetting .accelRange 4)]).2 := by decide +kernel
  obtain ⟨healthy, checked, check⟩ := exists_ok_of_succeeds readable
  obtain ⟨-, -, shows⟩ := @power_loss_not_masked _ _ [] connected
  obtain ⟨-, next⟩ := shows power _ untouched fun start hr =>
    List.not_mem_nil (quiet ▸ (hr : _ ∈ events (.fresh .spi) _))
  obtain ⟨⟨again, recovers, -⟩, -⟩ :=
    next (.measure .accel) .accel _ rfl rfl (fun _ => by decide +kernel) healthy checked check
  exact ⟨connected, power, by decide +kernel, by decide +kernel, by decide +kernel, again, recovers⟩

end ECompass
