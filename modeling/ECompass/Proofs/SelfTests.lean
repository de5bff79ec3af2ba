import ECompass.Proofs.Dumps
import ECompass.Proofs.Ledger

/-!
# Self-tests

A self-test asks whether the channel has brought samples, and it asks the counter for that. The
counter starts from zero with every reset that is completed and holds the samples since then in 32
bits, so it is zero again after `2 ^ 32` of them: a self-test is passed exactly if the calibration
is one and the number of samples is no multiple of that (`self_test_of_session`).

So many samples can come in. A polled channel gives one whenever its trigger fires, for as long as
no transfer fails and its control register is left alone (`Rig.InOrder`), and nothing else happens
to the counter meanwhile. After the right number of firings the self-test of a channel that works
is failed (`self_test_forgets`).
-/

namespace ECompass

open Program Operation

/-! ### What a self-test looks at -/

/-- Whether the calibration of a channel is one that a self-test passes. -/
def Driver.calibrated (d : Driver) (c : Channel) : Bool :=
  let cal := d.config.calibration.get c
  cal.offset.all offsetCalibrated && (c = .mag || cal.scale.all scaleCalibrated)

/-- The number of samples of a channel since the last reset that was completed. -/
def samplesSinceReset (c : Channel) (rig : Rig) (steps : List Step) : Nat :=
  ((events rig steps).rtakeWhile fun event => !event.completes).countP (Event.samples c)

theorem Command.runOn_selfTest (c : Channel) (rig : Rig) :
    (selfTest c).runOn rig = (.reply (.tested (rig.driver.selfTest c)), rig) := rfl

theorem Driver.selfTest_eq (d : Driver) (c : Channel) :
    d.selfTest c = (d.stats.reads.get c != 0 && d.calibrated c) := Bool.and_assoc ..

/-- The counter holds the number of samples, but for the wraps around. -/
theorem reads_of_session {bench : Bench} {start : Rig} {steps : List Step}
    (connected : connect { bench } = .ok () start) (c : Channel) :
    (runSession start steps).2.driver.stats.reads.get c =
      .ofNat (samplesSinceReset c start steps) := by
  obtain ⟨bus, rfl⟩ := connect_onBus.of_ok connected
  obtain ⟨-, posted⟩ := chronicle_posted.session { bench := { bench with bus } } steps rfl
  rw [← events_eq_along] at posted
  rw [posted]
  exact tally_reads c _

/-- A counter shows nothing if it is at a multiple of what it can hold. -/
theorem ofNat_bne_zero (n : Nat) : (UInt32.ofNat n != 0) = !decide (UInt32.size ∣ n) := by
  have zero : UInt32.ofNat n = 0 ↔ UInt32.size ∣ n := by
    rw [← UInt32.toNat_inj, UInt32.toNat_ofNat']
    exact (Nat.dvd_iff_mod_eq_zero ..).symm
  rw [bne, beq_eq_decide]
  simp only [zero]

/-- The self-test of every session is passed exactly if the calibration is one that passes and the
number of samples since the last reset that was completed is no multiple of `2 ^ 32`. It leaves
everything as it is.

So it is failed if there was no sample since then, and told by the calibration alone if there were
some, but less than `2 ^ 32`. -/
theorem self_test_of_session {bench : Bench} {start : Rig} {steps : List Step} {c : Channel}
    (connected : connect { bench } = .ok () start) :
    let rig := (runSession start steps).2
    let samples := samplesSinceReset c start steps
    (Command.selfTest c).runOn rig = (.reply (.tested
      (!decide (UInt32.size ∣ samples) && rig.driver.calibrated c)), rig) ∧
    (samples = 0 → ((Command.selfTest c).runOn rig).1 = .reply (.tested false)) ∧
    (0 < samples → samples < 2 ^ 32 →
      ((Command.selfTest c).runOn rig).1 = .reply (.tested (rig.driver.calibrated c))) := by
  intro rig samples
  have answer : (Command.selfTest c).runOn rig = (.reply (.tested
      (!decide (UInt32.size ∣ samples) && rig.driver.calibrated c)), rig) := by
    rw [Command.runOn_selfTest, Driver.selfTest_eq, reads_of_session connected, ofNat_bne_zero]
  refine ⟨answer, fun none => ?_, fun some few => ?_⟩
  · rw [answer, none]
    simp
  · have uneven : ¬UInt32.size ∣ samples := Nat.not_dvd_of_pos_of_lt some few
    rw [answer, decide_eq_false uneven]
    rfl

/-- The self-test is passed after two samples, and failed again after the reset that follows. -/
theorem self_test_of_session_reset :
    let steps : List Step := [.command .reset,
      .command (.setCalibration .mag ⟨⟨0.1, 0.1, 0.1⟩, ⟨1, 1, 1⟩⟩), .command (.measure .mag),
      .command (.measure .mag)]
    let sampled := (runSession (.fresh .spi) steps).2
    let restarted := (runSession (.fresh .spi) (steps ++ [.command .reset])).2
    connect { bench := .fresh .spi } = .ok () (.fresh .spi) ∧
      ((Command.selfTest .mag).runOn sampled).1 = .reply (.tested true) ∧
      ((Command.selfTest .mag).runOn restarted).1 = .reply (.tested false) := by
  intro steps sampled restarted
  have connected := connect_fresh .spi
  have two : samplesSinceReset .mag (.fresh .spi) steps = 2 := by decide +kernel
  have none : samplesSinceReset .mag (.fresh .spi) (steps ++ [.command .reset]) = 0 := by
    decide +kernel
  have calibrated : sampled.driver.calibrated .mag = true := by decide +kernel
  obtain ⟨-, -, some⟩ := @self_test_of_session _ _ steps .mag connected
  obtain ⟨-, untold, -⟩ := @self_test_of_session _ _ (steps ++ [.command .reset]) .mag connected
  rw [two] at some
  refine ⟨connected, ?_, untold none⟩
  exact (some (by decide) (by decide)).trans (by rw [calibrated])

/-! ### Polling in good order -/

/-- A channel is polled, has data, is as the driver expects, and no read is to fail. -/
structure Rig.InOrder (rig : Rig) (c : Channel) : Prop where
  /-- Measurements are taken when the trigger fires. -/
  polled : rig.driver.scheduler.isActive c
  /-- There is data. -/
  ready : rig.Ready c
  /-- The control register holds the expected value. -/
  matched : ¬rig.Mismatched c
  /-- All reads succeed. -/
  sound : rig.bench.bus.readFault = none

section InOrder

variable {rig : Rig} {c : Channel}

/-- If no read is to fail, the health check succeeds, and no read is to fail after it. -/
theorem isHealthy_of_sound (sound : rig.bench.bus.readFault = none) : Ends (isHealthy c) rig
    (fun _ next => next.bench.bus.readFault = none) fun _ _ => False := by
  refine Ends.bind (Q := fun _ next => next.bench.bus.readFault = none) (onBus_ends ?_)
    fun _ next (sound : next.bench.bus.readFault = none) => sound
  rw [Ends, Bus.readRegister_eq_ok (by simp [sound])]
  show (rig.bench.bus.readFault.map _) = none
  rw [sound, Option.map_none]

/-- So does a burst. -/
theorem readBurst_of_sound (sound : rig.bench.bus.readFault = none) : Ends (readBurst c) rig
    (fun _ next => next.bench.bus.readFault = none) fun _ _ => False := by
  refine Ends.bind (Q := fun _ next => next.bench.bus.readFault = none) (onBus_ends ?_)
    fun _ next (sound : next.bench.bus.readFault = none) => sound
  have lasts : rig.bench.bus.fails .read = false := by simp [Bus.fails, Bus.countdown, sound]
  have filled : (rig.bench.bus.refill c.status.addr).readFault = none := by
    obtain none | ⟨_, raw, rest, some⟩ := Bus.refill_cases rig.bench.bus.waiting c.status.addr
    · rwa [none _ rfl]
    · rw [some _ rfl]
      exact sound
  rw [Ends, Bus.readBurst_apply, lasts]
  simp [Bus.noted, Bus.counted, Bus.record, Bus.countdown, filled]

theorem readFault_committed (sound : rig.bench.bus.readFault = none) (raw : Axes Int16) :
    (rig.committed c raw).bench.bus.readFault = none := by
  have dump (rig : Rig) (s : Sample) (sound : rig.bench.bus.readFault = none) :
      (rig.dump s).2.readFault = none := by
    unfold Rig.dump
    rw [RegisterDump.capture_eq_ok (by simp [sound])]
    split
    · show rig.bench.bus.readFault.map _ = none
      rw [sound, Option.map_none]
    · exact sound
  cases c with
  | accel => exact dump _ _ sound
  | mag => exact sound

/-- A measurement in good order gives a sample, and leaves all in good order. -/
theorem Rig.InOrder.measure (h : rig.InOrder c) :
    ∃ next, ECompass.measure c rig = .ok .sampled next ∧ next.InOrder c ∧
      next.driver.config = rig.driver.config := by
  cases check : isHealthy c rig with
  | error e next => exact ((isHealthy_of_sound h.sound).of_error check).elim
  | ok healthy checked =>
    have sound := (isHealthy_of_sound h.sound).of_ok check
    have healthy := ((isHealthy_ends c rig).of_ok check).1.2 h.matched
    cases read : readBurst c checked with
    | error e next => exact ((readBurst_of_sound sound).of_error read).elim
    | ok burst mid =>
      have ends : ECompass.measure c rig = .ok .sampled (mid.committed c burst.raw) := by
        rw [measure_of_isHealthy h.ready check, if_pos healthy, acquire_eq_ok read]
      have calm := ((measure_of_not_mismatched h.matched).of_ok ends).1
      obtain ⟨bus, rfl⟩ := (isHealthy_onBus c).of_ok check
      have sound := (readBurst_of_sound sound).of_ok read
      obtain ⟨bus', rfl⟩ := (readBurst_onBus c).of_ok read
      let mid : Rig := { rig with bench.bus := bus' }
      obtain ⟨scheduler, config⟩ := driver_committed mid c burst.raw
      obtain ⟨_, _, bench, -⟩ := bench_committed mid c burst.raw
      refine ⟨_, ends, ⟨?_, ?_, ?_, readFault_committed sound _⟩, config⟩
      · rw [scheduler]
        exact h.polled
      · unfold Rig.Ready
        rw [bench]
        exact h.ready
      · rw [calm.mismatched_iff]
        exact h.matched

/-- One firing of the trigger gives one sample, and nothing else happens. -/
theorem Rig.InOrder.onTimer (h : rig.InOrder c) :
    let next := ((Command.onTimer c).runOn rig).2
    next.InOrder c ∧ next.driver.config = rig.driver.config ∧
      ∃ event, (Command.onTimer c).events rig = [event] ∧ event.samples c ∧ ¬event.completes := by
  obtain ⟨next, ends, orderly, config⟩ := h.measure
  have runs : (Command.onTimer c).runOn rig = (.reply (.measured .sampled), next) := by
    have run : (Command.onTimer c).run rig =
        (ECompass.onTimer c >>= fun outcome => pure (Reply.measured outcome)) rig := rfl
    rw [Command.runOn, run, bind_apply, onTimer_of_active h.polled, ends]
    rfl
  have unrecovered : recovery? c rig = none := by
    rw [Option.eq_none_iff_forall_ne_some]
    intro start recovers
    obtain ⟨-, _, check, -⟩ := recovery?_eq_some_iff.1 recovers
    exact Bool.false_ne_true (((isHealthy_ends c rig).of_ok check).1.2 h.matched)
  refine ⟨by rwa [runs], by rwa [runs], .measurement c rig, ?_, ?_, Bool.false_ne_true⟩
  · have measured : (Command.onTimer c).measurement? rig = some (c, rig) := if_pos h.polled
    simp [Command.events, Command.configures, measured, unrecovered]
  · exact decide_eq_true (Event.outcome?_of_ok ends)

/-- As many firings give as many samples. -/
theorem Rig.InOrder.cycles (h : rig.InOrder c) (n microseconds : Nat) :
    let steps := ECompass.cycles c n microseconds
    let next := (runSession rig steps).2
    next.driver.config = rig.driver.config ∧ (events rig steps).countP (Event.samples c) = n ∧
      ∀ event ∈ events rig steps, ¬event.completes := by
  induction n generalizing rig with
  | zero => exact ⟨rfl, rfl, fun _ none => absurd none List.not_mem_nil⟩
  | succ n ih =>
    let later : Rig := { rig with bench := (Stimulus.advance microseconds).act rig.bench }
    have kept : later.InOrder c := ⟨h.polled, h.ready, h.matched, h.sound⟩
    obtain ⟨orderly, config, event, events, sampled, incomplete⟩ := kept.onTimer
    obtain ⟨config', count, incomplete'⟩ := ih orderly
    intro steps next
    have split : ECompass.events rig steps = event :: ECompass.events
        ((Command.onTimer c).runOn later).2 (ECompass.cycles c n microseconds) :=
      congrArg (· ++ ECompass.events _ _) events
    refine ⟨config'.trans config, ?_, ?_⟩
    · rw [split, List.countP_cons_of_pos sampled, count]
    · rw [split]
      simpa [incomplete] using incomplete'

end InOrder

/-! ### Long runs -/

/-- The events of a session in two parts are those of the parts. -/
theorem events_append (rig : Rig) (first second : List Step) :
    events rig (first ++ second) = events rig first ++ events (runSession rig first).2 second := by
  induction first generalizing rig with
  | nil => rfl
  | cons step rest ih =>
    show step.events rig ++ events _ (rest ++ second) = _
    rw [ih, ← List.append_assoc]
    rfl

/-- Firings of a channel in good order add their number to the number of samples. -/
theorem samplesSinceReset_cycles {rig : Rig} {c : Channel} {first : List Step}
    (orderly : (runSession rig first).2.InOrder c) (n microseconds : Nat) :
    samplesSinceReset c rig (first ++ cycles c n microseconds) =
      samplesSinceReset c rig first + n := by
  obtain ⟨-, count, incomplete⟩ := orderly.cycles n microseconds
  unfold samplesSinceReset
  rw [events_append, List.rtakeWhile, List.reverse_append,
    List.takeWhile_append_of_pos (by simpa using incomplete), List.reverse_append,
    List.reverse_reverse, List.countP_append, count]
  rfl

/-- Firings of a channel in good order leave the calibration as it is and count as samples. -/
theorem selfTest_cycles {bench : Bench} {start : Rig} {c : Channel} {first : List Step}
    (connected : connect { bench } = .ok () start)
    (orderly : (runSession start first).2.InOrder c) (n microseconds : Nat) :
    let before := (runSession start first).2.driver
    let after := (runSession start (first ++ cycles c n microseconds)).2.driver
    after.calibrated c = before.calibrated c ∧ after.selfTest c =
      (!decide (UInt32.size ∣ samplesSinceReset c start first + n) && before.calibrated c) := by
  intro before after
  have config : after.config = before.config := by
    show (runSession _ (first ++ _)).2.driver.config = _
    rw [runSession_append]
    exact (orderly.cycles _ _).1
  have calibrated : after.calibrated c = before.calibrated c := by
    rw [Driver.calibrated, config]
    rfl
  refine ⟨calibrated, ?_⟩
  rw [Driver.selfTest_eq, calibrated, reads_of_session connected,
    samplesSinceReset_cycles orderly, ofNat_bne_zero]

/-- The magnetometer is calibrated, and begins to be polled. -/
def pollMagnetometer : List Step :=
  [.command .reset, .command (.setCalibration .mag ⟨⟨0.1, 0.1, 0.1⟩, ⟨1, 1, 1⟩⟩),
    .command (.setPollRate .mag .max)]

/-- After that its trigger fires a number of times. -/
def polledMagnetometer (n : Nat) : List Step := pollMagnetometer ++ cycles .mag n 10000

/-- The magnetometer gives a sample for each firing, and passes the self-test unless their number
is a multiple of `2 ^ 32`. -/
theorem selfTest_of_polled (n : Nat) :
    let rig := (runSession (.fresh .spi) (polledMagnetometer n)).2
    connect { bench := .fresh .spi } = .ok () (.fresh .spi) ∧
      samplesSinceReset .mag (.fresh .spi) (polledMagnetometer n) = n ∧
      rig.driver.calibrated .mag ∧
      ((Command.selfTest .mag).runOn rig).1 = .reply (.tested !decide (UInt32.size ∣ n)) := by
  intro rig
  let begun := (runSession (.fresh .spi) pollMagnetometer).2
  have connected := connect_fresh .spi
  have orderly : begun.InOrder .mag :=
    ⟨by decide +kernel, by decide +kernel, by decide +kernel, by decide +kernel⟩
  have calibrated : begun.driver.calibrated .mag := by decide +kernel
  have none : samplesSinceReset .mag (.fresh .spi) pollMagnetometer = 0 := by decide +kernel
  have count := samplesSinceReset_cycles orderly n 10000
  obtain ⟨kept, tested⟩ := selfTest_cycles connected orderly n 10000
  rw [none, Nat.zero_add] at count tested
  refine ⟨connected, count, kept.trans calibrated, ?_⟩
  rw [Command.runOn_selfTest]
  exact congrArg (Answer.reply ∘ Reply.tested) (tested.trans (by rw [calibrated, Bool.and_true]))

/-- After `2 ^ 32` firings there are samples and the calibration is one that passes, but the
self-test is failed. -/
theorem self_test_forgets :
    let rig := (runSession (.fresh .spi) (polledMagnetometer (2 ^ 32))).2
    connect { bench := .fresh .spi } = .ok () (.fresh .spi) ∧
      samplesSinceReset .mag (.fresh .spi) (polledMagnetometer (2 ^ 32)) = 2 ^ 32 ∧
      rig.driver.calibrated .mag ∧
      ((Command.selfTest .mag).runOn rig).1 = .reply (.tested false) := by
  have full : (!decide (UInt32.size ∣ 2 ^ 32)) = false := by decide
  have polled := selfTest_of_polled (2 ^ 32)
  rw [full] at polled
  exact polled

end ECompass
