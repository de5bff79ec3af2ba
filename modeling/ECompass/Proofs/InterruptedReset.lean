import ECompass.Proofs.Agreement
import ECompass.Proofs.HealthCheck

/-!
# Resets that fail

A reset that fails is not taken up again by itself: the driver keeps no record of it, and only the
health check of a channel can start the next one. The check looks at the control register of the
channel alone, which a reset writes long before it ends. So it depends on where the reset stopped
whether the check will notice.

* If the control register differed from what was expected when the reset began, and it has not been
  written since, then it still differs (`StaysMismatched`), even after a loss of power. The channel
  gives no sample, and its next measurement starts a reset again.
* If the reset had written it, or it did not differ to begin with, then it is as expected after the
  failure (`mismatched_iff_of_failed_reset`), and the channel goes on with samples.
-/

namespace ECompass

open Program Operation

/-- How many transfers have written the control register of a channel. -/
abbrev Rig.controlWrites (rig : Rig) (c : Channel) : Nat := rig.bench.bus.writes c.control.addr

/-! ### Control registers that are not written -/

/-- Unless the control register of a channel was written, it is as it was, and the same is expected
of it. -/
structure Spares (c : Channel) (rig next : Rig) : Prop where
  /-- The register may have been written some more times. -/
  writes : rig.controlWrites c ≤ next.controlWrites c
  /-- If it was not, nothing of it has changed. -/
  kept : next.controlWrites c = rig.controlWrites c →
    next.chip.read c.control.addr = rig.chip.read c.control.addr ∧
      next.driver.expected.get c = rig.driver.expected.get c

instance (c : Channel) : IsPreorder Rig (Spares c) where
  refl _ := ⟨Nat.le_refl _, fun _ => ⟨rfl, rfl⟩⟩
  trans _ _ _ h h' := by
    refine ⟨Nat.le_trans h.writes h'.writes, fun same => ?_⟩
    have le := h.writes
    have le' := h'.writes
    obtain ⟨chip, expected⟩ := h.kept (by omega)
    obtain ⟨chip', expected'⟩ := h'.kept (by omega)
    exact ⟨chip'.trans chip, expected'.trans expected⟩

/-- Unless the control register was written, the health check sees the same. -/
theorem Spares.mismatched_iff {c : Channel} {rig next : Rig} (h : Spares c rig next)
    (same : next.controlWrites c = rig.controlWrites c) : next.Mismatched c ↔ rig.Mismatched c := by
  obtain ⟨chip, expected⟩ := h.kept same
  rw [Rig.Mismatched, Rig.Mismatched, chip, expected]

theorem Rig.Wrote.spares {rig next : Rig} {r : Register} {value : UInt8} {driver : Driver}
    {c : Channel} (h : rig.Wrote r value driver next)
    (other : c.control ≠ r → driver.expected.get c = rig.driver.expected.get c) :
    Spares c rig next := by
  have count : next.controlWrites c =
      rig.controlWrites c + if r.addr = c.control.addr then 1 else 0 := h.bus.writes _
  refine ⟨count ▸ Nat.le_add_right _ _, fun same => ?_⟩
  have apart : r.addr ≠ c.control.addr := by
    intro e
    rw [if_pos e] at count
    omega
  rw [Rig.chip, h.bus.chip, RegisterFile.read_write_of_ne _ _ apart.symm, h.driver]
  exact ⟨rfl, other fun e => apart (e ▸ rfl)⟩

theorem programs_spares (c : Channel) : Programs (Spares c) where
  calm h := ⟨Nat.le_of_eq (congrFun h.bus.writes _).symm, fun _ =>
    ⟨h.bus.chip _ fun d => control_not_mem_outputs c d, by rw [h.driver.expected]⟩⟩
  failed h := ⟨Nat.le_of_eq (congrFun h.bus.writes _).symm, fun _ =>
    ⟨by rw [Rig.chip, h.bus.chip], by rw [h.driver]⟩⟩
  control h := h.spares fun ne => PerChannel.get_set_of_ne _ _ fun e => ne (e ▸ rfl)
  write _ h := h.spares fun _ => rfl
  rate h := h.spares fun ne => by
    rw [Driver.track, Expected.get_track, if_neg fun e => ne e.symm]

theorem operates_spares (c : Channel) : Operates (Spares c) :=
  (programs_spares c).operates (fun _ _ => ⟨Nat.le_refl _, fun _ => ⟨rfl, rfl⟩⟩)
    fun _ _ => ⟨Nat.le_refl _, fun _ => ⟨rfl, rfl⟩⟩

/-! ### Losses of power -/

/-- The channels are expected to run: the accelerometer with its enables, at whichever rate, and the
magnetometer continuously. -/
structure Rig.ExpectsRunning (rig : Rig) : Prop where
  /-- The accelerometer's enables are expected. -/
  accel : rig.driver.expected.get .accel &&& ~~~Setting.mask AccelRate = accelEnables
  /-- The magnetometer's mode is expected. -/
  mag : rig.driver.expected.get .mag = magContinuous

theorem Rig.ExpectsRunning.of_eq {rig next : Rig} (h : rig.ExpectsRunning)
    (same : next.driver.expected = rig.driver.expected) : next.ExpectsRunning :=
  ⟨by rw [same, h.accel], by rw [same, h.mag]⟩

theorem programs_expectsRunning : Programs (Kept Rig.ExpectsRunning) where
  calm h running := running.of_eq h.driver.expected
  failed h running := running.of_eq (congrArg Driver.expected h.driver)
  control {rig next c} h running := by
    cases c with
    | accel =>
      constructor
      · rw [h.driver]
        exact rig.driver.control_accel_and
      · rw [h.driver]
        exact running.mag
    | mag =>
      constructor
      · rw [h.driver]
        exact running.accel
      · rw [h.driver]
        rfl
  write _ h running := running.of_eq (congrArg Driver.expected h.driver)
  rate {rig next s} h running := by
    have disjoint : Setting.mask AccelRate &&& ~~~Setting.mask AccelRate = 0 := by decide
    refine ⟨?_, by rw [h.driver]; exact running.mag⟩
    rw [h.driver]
    exact (RegisterUpdate.apply_and_of_disjoint (RegisterUpdate.fits_program s) disjoint _).trans
      running.accel

theorem operates_expectsRunning : Operates (Kept Rig.ExpectsRunning) :=
  programs_expectsRunning.operates (fun _ _ running => running.of_eq rfl)
    fun _ _ running => running.of_eq rfl

/-- What the control register of a channel holds while the channel runs, at whichever rate. -/
def Channel.running : Channel → RegisterUpdate
  | .accel => ⟨.ctrl1, ~~~Setting.mask AccelRate, accelEnables⟩
  | .mag => ⟨.ctrl7, 0b11111111, magContinuous⟩

/-- A channel that does not run shows it, whatever rate is expected. -/
theorem Rig.ExpectsRunning.mismatched {rig : Rig} (h : rig.ExpectsRunning) {c : Channel}
    (stopped : ¬ rig.chip.Holds c.running) : rig.Mismatched c := by
  intro same
  refine stopped ?_
  cases c with
  | accel =>
    show rig.chip.read Channel.accel.control.addr &&& ~~~Setting.mask AccelRate = accelEnables
    rw [same, h.accel]
  | mag =>
    show rig.chip.read Channel.mag.control.addr &&& 0b11111111 = magContinuous
    rw [same, h.mag]
    decide

/-- The watched control registers hold what power leaves in them when it comes on. -/
structure RegisterFile.PowerLost (f : RegisterFile) : Prop where
  /-- The accelerometer has its axes enabled, but no rate and no block data update. -/
  ctrl1 : f.read Register.ctrl1.addr = 0x07
  /-- The magnetometer is powered down. -/
  ctrl7 : f.read Register.ctrl7.addr = 0x02

instance (f : RegisterFile) : Decidable f.PowerLost :=
  decidable_of_iff (f.read Register.ctrl1.addr = 0x07 ∧ f.read Register.ctrl7.addr = 0x02)
    ⟨fun h => ⟨h.1, h.2⟩, fun h => ⟨h.ctrl1, h.ctrl7⟩⟩

theorem RegisterFile.powerLost_brownout (f : RegisterFile) :
    (f.writeEach powerOnControl).PowerLost where
  ctrl1 := by
    show ((f.write Register.ctrl1.addr 0x07).write Register.ctrl7.addr 0x02).read _ = 0x07
    rw [read_write_of_ne _ _ (by decide), read_write_self]
  ctrl7 := read_write_self _ _ _

/-- No channel runs after a loss of power. -/
theorem RegisterFile.PowerLost.not_running {f : RegisterFile} (h : f.PowerLost) (c : Channel) :
    ¬ f.Holds c.running := by
  cases c with
  | accel =>
    show ¬ f.read Register.ctrl1.addr &&& ~~~Setting.mask AccelRate = accelEnables
    rw [h.ctrl1]
    decide
  | mag =>
    show ¬ f.read Register.ctrl7.addr &&& 0b11111111 = magContinuous
    rw [h.ctrl7]
    decide

/-- A loss of power shows on both channels, whatever rate is expected. -/
theorem mismatched_brownout {rig : Rig} (h : rig.ExpectsRunning) (c : Channel) :
    Rig.Mismatched { rig with bench := Stimulus.brownout.act rig.bench } c := by
  have running : Rig.ExpectsRunning { rig with bench := Stimulus.brownout.act rig.bench } :=
    h.of_eq rfl
  exact running.mismatched ((RegisterFile.powerLost_brownout _).not_running c)

/-! ### Mismatches that stay -/

/-- A mismatch stays until the control register of the channel is written. -/
structure KeepsMismatch (c : Channel) (rig next : Rig) : Prop where
  /-- The channels are still expected to run. -/
  running : next.ExpectsRunning
  /-- The register may have been written some more times. -/
  writes : rig.controlWrites c ≤ next.controlWrites c
  /-- If it was not, it still differs from what is expected. -/
  mismatched : next.controlWrites c = rig.controlWrites c → rig.Mismatched c → next.Mismatched c

/-- If the channels are expected to run, a mismatch stays until the control register is written. -/
def StaysMismatched (c : Channel) (rig next : Rig) : Prop :=
  rig.ExpectsRunning → KeepsMismatch c rig next

instance (c : Channel) : IsPreorder Rig (StaysMismatched c) where
  refl _ running := ⟨running, Nat.le_refl _, fun _ h => h⟩
  trans _ _ _ h h' running := by
    have first := h running
    have second := h' first.running
    refine ⟨second.running, Nat.le_trans first.writes second.writes, fun same mismatched => ?_⟩
    have le := first.writes
    have le' := second.writes
    exact second.mismatched (by omega) (first.mismatched (by omega) mismatched)

theorem operates_staysMismatched (c : Channel) : Operates (StaysMismatched c) :=
  (operates_spares c).both operates_expectsRunning fun _ _ spares running expects =>
    ⟨running expects, spares.writes, fun same => (spares.mismatched_iff same).2⟩

/-- A mismatch stays if the control register is not written from outside, except by a loss of
power. -/
theorem stimuliWithin_staysMismatched {c : Channel} {steps : List Step}
    (untouched : ∀ step ∈ steps, c.control.addr ∈ step.outside → step = .stimulus .brownout) :
    StimuliWithin (StaysMismatched c) steps := by
  intro s hs rig running
  have count : (s.act rig.bench).bus.writes = rig.bench.bus.writes := by
    funext a
    rw [Bus.writes, Bus.writes, s.transfers_act]
  refine ⟨running.of_eq rfl, Nat.le_of_eq (congrFun count _).symm, fun _ mismatched => ?_⟩
  by_cases outside : c.control.addr ∈ s.outside
  · cases untouched _ hs outside
    exact mismatched_brownout running c
  · rw [Rig.Mismatched, s.read_act rig.bench outside]
    exact mismatched

/-! ### Where a reset stopped -/

/-- The control register of a channel was not written, and the health check sees the same. -/
structure Unwritten (c : Channel) (rig next : Rig) : Prop where
  /-- No transfer has written the register. -/
  writes : next.controlWrites c = rig.controlWrites c
  /-- It differs from what is expected as it did. -/
  mismatched_iff : next.Mismatched c ↔ rig.Mismatched c

/-- The control register of a channel was written, and is as expected. -/
structure Renewed (c : Channel) (rig next : Rig) : Prop where
  /-- A transfer has written the register. -/
  writes : rig.controlWrites c < next.controlWrites c
  /-- It holds what is expected. -/
  matched : ¬ next.Mismatched c

instance (c : Channel) : IsPreorder Rig (Unwritten c) where
  refl _ := ⟨rfl, Iff.rfl⟩
  trans _ _ _ h h' := ⟨h'.writes.trans h.writes, h'.mismatched_iff.trans h.mismatched_iff⟩

theorem Rig.Failed.unwritten {rig next : Rig} (h : rig.Failed next) (c : Channel) :
    Unwritten c rig next :=
  ⟨congrFun h.bus.writes _, h.mismatched_iff c⟩

theorem Rig.Wrote.unwritten {rig next : Rig} {r : Register} {value : UInt8} {driver : Driver}
    {c : Channel} (h : rig.Wrote r value driver next) (apart : c.control ≠ r)
    (expected : driver.expected.get c = rig.driver.expected.get c) : Unwritten c rig next := by
  constructor
  · have elsewhere : r.addr ≠ c.control.addr := fun e => apart (Register.addr_injective e).symm
    exact (h.bus.writes _).trans (congrArg _ (if_neg elsewhere))
  · rw [h.mismatched_iff, if_neg apart, expected, Rig.Mismatched]

/-- What is programmed once the register was written neither hides that nor undoes it. -/
theorem within_renewed {c : Channel} {begun : Rig} {α : Type} {program : Operation α}
    (spares : Within (Spares c) program) (matched : Within (StaysMatched c) program) :
    Within (Kept (Renewed c begun)) program :=
  spares.both matched fun _ _ spared stays renewed =>
    ⟨Nat.lt_of_lt_of_le renewed.writes spared.writes, (stays renewed.matched).1⟩

theorem programControl_renews {c : Channel} {begun mid : Rig} (h : Unwritten c begun mid) :
    Ends (programControl c) mid (fun _ next => Renewed c begun next)
      (fun _ next => Unwritten c begun next) := by
  refine (programControl_ends c mid).mono (fun _ next wrote => ⟨?_, ?_⟩)
    fun _ _ failed => trans_of (Unwritten c) h (failed.unwritten c)
  · have count : next.controlWrites c = mid.controlWrites c + 1 :=
      (wrote.bus.writes _).trans (congrArg _ (if_pos rfl))
    rw [count, h.writes]
    exact Nat.lt_succ_self _
  · rw [wrote.mismatched_iff, if_pos rfl, Driver.expect, PerChannel.get_set_self]
    exact not_not_intro rfl

/-- A reset that stops has not come to the control register of a channel yet, or has made it as
expected. -/
theorem reset_unwritten_or_renewed (c : Channel) (begun : Rig) : Ends reset begun
    (fun _ next => Renewed c begun next)
    (fun _ next => Unwritten c begun next ∨ Renewed c begun next) := by
  have interface : Within (Unwritten c) (onBus (interfaceUpdates.forM Bus.update)) :=
    interfaceUpdates_within (fun failed => failed.unwritten c)
      fun unwatched wrote => wrote.unwritten (unwatched c).symm rfl
  have later {α : Type} {program : Operation α} (spares : Within (Spares c) program)
      (matched : Within (StaysMatched c) program) {mid : Rig} (h : Renewed c begun mid) :
      Ends program mid (fun _ next => Renewed c begun next)
        (fun _ next => Unwritten c begun next ∨ Renewed c begun next) :=
    (within_renewed spares matched mid).mono (fun _ _ kept => kept h) fun _ _ kept => .inr (kept h)
  have spares := programs_spares c
  have matched := programs_staysMatched c
  rw [reset_eq]
  refine ((interface begun).mono (fun _ _ h => h) fun _ _ h => .inl h).bind
    fun _ mid unwritten => ?_
  cases c with
  | accel =>
    refine ((programControl_renews unwritten).mono (fun _ _ h => h) fun _ _ h => .inl h).bind
      fun _ mid renewed => ?_
    exact later ((spares.programControl .mag).bind fun _ => spares.finishReset)
      ((matched.programControl .mag).bind fun _ => matched.finishReset) renewed
  | mag =>
    refine Ends.bind (Q := fun _ next => Unwritten .mag begun next) ?_ fun _ mid unwritten => ?_
    · exact (programControl_ends .accel mid).mono
        (fun _ _ wrote => trans_of (Unwritten .mag) unwritten (wrote.unwritten (by decide) rfl))
        fun _ _ failed => .inl (trans_of (Unwritten .mag) unwritten (failed.unwritten .mag))
    · refine ((programControl_renews unwritten).mono (fun _ _ h => h) fun _ _ h => .inl h).bind
        fun _ mid renewed => ?_
      exact later spares.finishReset matched.finishReset renewed

/-- A reset that fails leaves a control register differing from what is expected exactly if it
differed before, and the reset stopped before it wrote the register. -/
theorem mismatched_iff_of_failed_reset {begun failed : Rig} {e : Error}
    (fails : reset begun = .error e failed) (c : Channel) : failed.Mismatched c ↔
      begun.Mismatched c ∧ failed.controlWrites c = begun.controlWrites c := by
  rcases (reset_unwritten_or_renewed c begun).of_error fails with unwritten | renewed
  · rw [unwritten.mismatched_iff]
    exact ⟨fun h => ⟨h, unwritten.writes⟩, fun h => h.1⟩
  · constructor
    · intro h
      exact absurd h renewed.matched
    · rintro ⟨-, same⟩
      exact absurd same (Nat.ne_of_gt renewed.writes)

/-! ### What becomes of a reset that failed -/

/-- The channels of a new driver are expected to run. -/
theorem expectsRunning_of_connect {bench : Bench} {rig : Rig}
    (new : connect { bench } = .ok () rig) : rig.ExpectsRunning := by
  have enables : accelEnables &&& ~~~Setting.mask AccelRate = accelEnables := by decide
  have initial : Rig.ExpectsRunning { bench } := ⟨enables, rfl⟩
  exact initial.of_eq (connect_calm.of_ok new).driver.expected

/-- What becomes of a reset that failed, in whichever command of a session with a new driver, and
whatever fails afterwards.

The command ends with the error, and the control register of a channel then differs from what is
expected exactly if it differed before and was not reached. In that case the channel gives no sample
until its control register is written again, and its next measurement starts a reset, even after a
loss of power. In the other case the channel gives samples, and none of its measurements starts a
reset. -/
theorem failed_reset_outcome {bench : Bench} {new begun failed : Rig} {e : Error} {c : Channel}
    {before after : List Step} {command : Command} (connected : connect { bench } = .ok () new)
    (starts : .reset begun ∈ command.events (runSession new before).2)
    (fails : reset begun = .error e failed)
    (untouched : ∀ step ∈ after, c.control.addr ∈ step.outside → step = .stimulus .brownout) :
    command.runOn (runSession new before).2 = (.failure e, failed) ∧
      (failed.Mismatched c ↔
        begun.Mismatched c ∧ failed.controlWrites c = begun.controlWrites c) ∧
      (∀ polled, begun.Mismatched c → .measurement c polled ∈ events failed after →
        polled.controlWrites c = begun.controlWrites c →
          (∀ next, measure c polled ≠ .ok .sampled next) ∧
          (polled.Ready c → ∀ healthy checked, isHealthy c polled = .ok healthy checked →
            ∃ again, recovery? c polled = some again ∧
              measure c polled = (do reset; return Measurement.recovered) again)) ∧
      (¬ failed.Mismatched c → (failed.Ready c → ∀ healthy checked burst mid,
          isHealthy c failed = .ok healthy checked → readBurst c checked = .ok burst mid →
            ∃ next, measure c failed = .ok .sampled next) ∧
        ((∀ step ∈ after, step ≠ .stimulus .brownout) → ∀ polled,
          .measurement c polled ∈ events failed after → recovery? c polled = none ∧
            ∀ next, measure c polled ≠ .ok .recovered next)) := by
  have stimuli := stimuliWithin_staysMismatched untouched
  have iff := mismatched_iff_of_failed_reset fails c
  have stimuli_running : StimuliWithin (Kept Rig.ExpectsRunning) before :=
    fun _ _ _ running => running.of_eq rfl
  have before_running : (runSession new before).2.ExpectsRunning :=
    operates_expectsRunning.session stimuli_running (expectsRunning_of_connect connected)
  have begun_running : begun.ExpectsRunning :=
    operates_expectsRunning.start_of_reset (fun _ _ running => running.of_eq rfl) starts
      before_running
  have failed_kept : KeepsMismatch c begun failed :=
    (operates_staysMismatched c).reset.of_error fails begun_running
  refine ⟨Command.runOn_of_reset_error starts fails, iff, ?_, ?_⟩
  · intro polled mismatched hm unwritten
    have moved := ((operates_staysMismatched c).measurement stimuli hm).1 failed_kept.running
    have polled_mismatched : polled.Mismatched c := by
      have le := failed_kept.writes
      have le' := moved.writes
      exact moved.mismatched (by omega) (failed_kept.mismatched (by omega) mismatched)
    refine ⟨fun next sampled => (exists_burst_of_sampled sampled).1 polled_mismatched, ?_⟩
    intro ready healthy checked check
    have unhealthy : healthy = false :=
      Bool.eq_false_iff.2 fun h => ((isHealthy_ends c polled).of_ok check).1.1 h polled_mismatched
    have again := recovery?_eq_some_iff.2 ⟨ready, checked, unhealthy ▸ check, rfl⟩
    exact ⟨_, again, measure_of_recovery? again⟩
  · intro matched
    refine ⟨fun ready _ _ _ _ check read => exists_sampled_of_burst ready matched check read, ?_⟩
    intro undisturbed polled hm
    have polled_matched : ¬ polled.Mismatched c :=
      matched_of_measurement matched (fun step hs outside =>
        undisturbed step hs (untouched step hs outside)) hm
    exact ⟨recovery?_eq_none polled_matched, measure_ne_recovered polled_matched⟩

/-- A reset that has written the accelerometer's control register and then fails is not noticed: the
next measurement gives a sample. -/
theorem sampled_after_failed_reset :
    connect { bench := .fresh .direct } = .ok () (.fresh .direct) ∧
      (runSession (.fresh .direct)
        [.stimulus (.writeFault 5), .command .reset, .command (.measure .accel)]).1 =
      [.silence, .failure (.bus .communication), .reply (.measured .sampled)] :=
  ⟨connect_fresh .direct, by decide +kernel⟩

/-- The magnetometer notices the same reset, which has not come to its control register. -/
theorem failed_reset_outcome_mag :
    let begun := (runSession (.fresh .direct) [.stimulus (.writeFault 5)]).2
    let failed := (Command.reset.runOn begun).2
    reset begun = .error (.bus .communication) failed ∧
      ∀ next, measure .mag failed ≠ .ok .sampled next := by
  have fails : reset (runSession (.fresh .direct) [.stimulus (.writeFault 5)]).2 =
      .error (.bus .communication)
        (Command.reset.runOn (runSession (.fresh .direct) [.stimulus (.writeFault 5)]).2).2 :=
    reset_of_failure (by decide +kernel)
  have starts : .reset (runSession (.fresh .direct) [.stimulus (.writeFault 5)]).2 ∈
      Command.reset.events (runSession (.fresh .direct) [.stimulus (.writeFault 5)]).2 :=
    List.mem_singleton_self _
  have untouched : ∀ step ∈ [Step.command (.measure .mag)],
      Channel.mag.control.addr ∈ step.outside → step = .stimulus .brownout := by decide
  have mismatched :
      (runSession (.fresh .direct) [.stimulus (.writeFault 5)]).2.Mismatched .mag := by
    decide +kernel
  have unwritten : (Command.reset.runOn
      (runSession (.fresh .direct) [.stimulus (.writeFault 5)]).2).2.controlWrites .mag =
      (runSession (.fresh .direct) [.stimulus (.writeFault 5)]).2.controlWrites .mag := by
    decide +kernel
  obtain ⟨-, -, noticed, -⟩ := failed_reset_outcome (connect_fresh .direct) starts fails untouched
  refine ⟨fails, (noticed _ mismatched ?_ unwritten).1⟩
  exact List.mem_append_left _ (Command.mem_events_measurement.2 rfl)

end ECompass
