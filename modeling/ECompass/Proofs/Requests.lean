import ECompass.Proofs.PowerLoss
import ECompass.Proofs.Queues

/-!
# Requests that are not carried out

A command fails for one of two reasons. Either it is rejected, because of what it asks for in the
state that the driver is in (`Command.rejection?`): then nothing at all has happened. Or a transfer
failed, and everything that happened before it stays.

For a request for a setting the second reason is the troublesome one. The configuration is changed
before the chip is, and is not changed back when a transfer fails, so the driver goes on with a
setting that the chip does not have (`failed_request_outcome`). The health check cannot tell, and
samples are scaled for a range that the chip never received, until a reset or another request for
the same setting.
-/

namespace ECompass

open Program Operation

/-! ### Failures of transfers -/

/-- The error is that of a transfer. -/
def Error.IsBus (e : Error) : Prop := ∃ cause, e = .bus cause

/-- The operation fails only if a transfer does. -/
abbrev FailsByBus {α : Type} (operation : Operation α) : Prop := FailsWith Error.IsBus operation

section Parts

variable {α : Type}

theorem onBus_failsByBus (program : BusM α) : FailsByBus (onBus program) := fun _ =>
  onBus_ends (Ends.trivial.mono (fun _ _ _ => True.intro) fun cause _ _ => ⟨cause, rfl⟩)

theorem driver_failsByBus : FailsByBus driver := fun _ => True.intro

theorem onDriver_failsByBus (f : Driver → Driver) : FailsByBus (onDriver f) := fun _ => True.intro

theorem programControl_failsByBus (c : Channel) : FailsByBus (programControl c) :=
  driver_failsByBus.bind fun _ => (onBus_failsByBus _).bind fun _ => onDriver_failsByBus _

theorem applyUpdate_failsByBus (u : RegisterUpdate) : FailsByBus (applyUpdate u) :=
  (onBus_failsByBus _).bind fun _ => onDriver_failsByBus _

theorem programSettings_failsByBus (c : Channel) : FailsByBus (programSettings c) :=
  driver_failsByBus.bind fun _ => FailsWith.forM applyUpdate_failsByBus _

theorem reset_failsByBus : FailsByBus reset :=
  (onBus_failsByBus _).bind fun _ => (programControl_failsByBus .accel).bind fun _ =>
    (programControl_failsByBus .mag).bind fun _ => (onBus_failsByBus _).bind fun _ =>
    (onBus_failsByBus _).bind fun _ => (onBus_failsByBus _).bind fun _ =>
    (programSettings_failsByBus .accel).bind fun _ => (onDriver_failsByBus _).bind fun _ =>
    (programSettings_failsByBus .mag).bind fun _ => onDriver_failsByBus _

theorem isHealthy_failsByBus (c : Channel) : FailsByBus (isHealthy c) :=
  (onBus_failsByBus _).bind fun _ => driver_failsByBus.bind fun _ => .pure _

theorem readBurst_failsByBus (c : Channel) : FailsByBus (readBurst c) :=
  (onBus_failsByBus _).bind fun _ => .pure _

/-- A sample that was read is committed without fail. -/
theorem commit_failsByBus (c : Channel) (raw : Axes Int16) : FailsByBus (commit c raw) := by
  intro rig
  rw [Ends, commit_apply]
  exact (announce_total c _ _).failsWith _

theorem putOff_failsByBus (c : Channel) : FailsByBus (putOff c) := by
  intro rig
  rw [Ends, putOff_apply]
  exact True.intro

theorem measure_failsByBus (c : Channel) : FailsByBus (measure c) := by
  have recovery : FailsByBus (do recover c; return Measurement.recovered) :=
    ((onDriver_failsByBus _).bind fun _ => reset_failsByBus).bind fun _ => .pure _
  have acquisition : FailsByBus (acquire c) :=
    (readBurst_failsByBus c).bind fun _ => (commit_failsByBus c _).bind fun _ => .pure _
  intro rig
  by_cases ready : rig.Ready c
  · cases check : isHealthy c rig with
    | error e next =>
      rw [Ends, measure_of_isHealthy_error ready check]
      exact (isHealthy_failsByBus c rig).of_error check
    | ok healthy checked =>
      rw [Ends, measure_of_isHealthy ready check]
      cases healthy
      · exact recovery checked
      · exact acquisition checked
  · rw [Ends, measure_of_not_ready ready]
    exact (putOff_failsByBus c rig).bind fun _ _ _ => True.intro

theorem onTimer_failsByBus (c : Channel) : FailsByBus (onTimer c) := by
  refine driver_failsByBus.bind fun d => ?_
  split
  · exact measure_failsByBus c
  · exact .pure _

theorem bringUp_failsByBus : FailsByBus bringUp :=
  reset_failsByBus.bind fun _ => (measure_failsByBus .accel).bind fun _ => .pure _

theorem measureAndTake_failsByBus (c : Channel) : FailsByBus (measureAndTake c) := by
  intro rig
  rw [Ends, measureAndTake_apply]
  refine (measure_failsByBus c _).bind fun outcome next _ => ?_
  cases outcome <;> exact True.intro

theorem dumpRegisters_failsByBus : FailsByBus dumpRegisters :=
  driver_failsByBus.bind fun _ => FailsWith.bind (fun _ => True.intro) fun _ => onBus_failsByBus _

end Parts

/-! ### Rejections -/

/-- The error for an answer that is missing. -/
def refuse {α : Type} (e : Error) (answer : Option α) : Option Error :=
  if answer.isNone then some e else none

/-- The error with which a command is rejected, if it is: a reader for want of room or of samples,
and a request that some part of the driver does not answer. -/
def Command.rejection? (command : Command) (rig : Rig) : Option Error :=
  match command with
  | .readSamples c room =>
    if room = 0 then some .bufferTooSmall
    else if rig.driver.scheduler.isActive c ∧ (rig.queue c).samples = [] then some .wouldBlock
    else none
  | .setPollRate c rate => refuse .invalidConfig (rig.driver.scheduler.setPollRate c rate)
  | .setQueueDepth c depth => refuse .invalidConfig ((rig.queue c).resize depth)
  | .requestSetting field n => refuse .outOfRange (rig.driver.config.request field n)
  | .setLowPass c _ => if c = .mag then some .invalidConfig else none
  | .lowPass c => if c = .mag then some .invalidConfig else none
  | .setCalibration c cal => refuse .invalidConfig (rig.driver.config.calibrate c cal)
  | _ => none

/-- The errors of rejections. -/
def Error.rejections : List Error := [.outOfRange, .invalidConfig, .bufferTooSmall, .wouldBlock]

theorem mem_rejections_of_refuse {α : Type} {e e' : Error} {answer : Option α}
    (listed : e ∈ Error.rejections) (h : refuse e answer = some e') : e' ∈ Error.rejections := by
  unfold refuse at h
  split at h
  · cases h
    exact listed
  · cases h

theorem Command.mem_rejections {command : Command} {rig : Rig} {e : Error}
    (h : command.rejection? rig = some e) : e ∈ Error.rejections := by
  cases command with
  | readSamples c room =>
    simp only [rejection?] at h
    split at h
    · cases h
      decide
    · split at h
      · cases h
        decide
      · cases h
  | setPollRate c rate => exact mem_rejections_of_refuse (by decide) h
  | setQueueDepth c depth => exact mem_rejections_of_refuse (by decide) h
  | requestSetting field n => exact mem_rejections_of_refuse (by decide) h
  | setCalibration c cal => exact mem_rejections_of_refuse (by decide) h
  | setLowPass c cutoff =>
    cases c
    · cases h
    · cases h
      decide
  | lowPass c =>
    cases c
    · cases h
    · cases h
      decide
  | _ => cases h

/-- The end of an operation that either is rejected, and has changed nothing, or fails only if a
transfer does. -/
def Rejects {α : Type} (operation : Operation α) (rig : Rig) (rejection : Option Error) : Prop :=
  Ends operation rig (fun _ _ => rejection = none)
    fun e next => rejection = some e ∧ next = rig ∨ rejection = none ∧ e.IsBus

section Rejects

variable {α β : Type} {operation : Operation α} {rig : Rig}

theorem FailsByBus.rejects (h : FailsByBus operation) : Rejects operation rig none :=
  (h rig).mono (fun _ _ _ => rfl) fun _ _ bus => .inr ⟨rfl, bus⟩

/-- What is replied does not matter. -/
theorem Rejects.reply {rejection : Option Error} (h : Rejects operation rig rejection)
    (reply : α → β) : Rejects (do return reply (← operation)) rig rejection :=
  Ends.bind (Q := fun _ _ => rejection = none) h fun _ _ passed => passed

theorem readSamples_rejects (c : Channel) (room : Nat) :
    Rejects (readSamples c room) rig ((Command.readSamples c room).rejection? rig) := by
  unfold Rejects
  by_cases none : room = 0
  · rw [Ends, readSamples_eq, sampling, if_pos none, Command.rejection?, if_pos none]
    exact .inl ⟨rfl, rfl⟩
  · rw [Command.rejection?, if_neg none]
    by_cases active : rig.driver.scheduler.isActive c
    · rw [Ends, readSamples_of_active none active, drain_apply]
      have taken : (rig.queue c).samples.take room = [] ↔ (rig.queue c).samples = [] := by
        rw [List.take_eq_nil_iff, or_iff_right none]
      by_cases empty : (rig.queue c).samples = []
      · rw [if_pos (taken.2 empty), if_pos ⟨active, empty⟩]
        exact .inl ⟨rfl, rfl⟩
      · rw [if_neg (mt taken.1 empty), if_neg fun h => empty h.2]
    · rw [if_neg fun h => active h.1]
      have reads : readSamples c room rig = measureAndTake c rig := by
        rw [readSamples_of_not_active none active, measureAndTake_apply]
      rw [Ends, reads]
      exact (measureAndTake_failsByBus c).rejects

theorem requestSetting_rejects (field : Field) (n : Nat) :
    Rejects (requestSetting field n) rig
      (refuse .outOfRange (rig.driver.config.request field n)) := by
  refine driver_bind_ends ?_
  cases rig.driver.config.request field n with
  | none => exact .inl ⟨rfl, rfl⟩
  | some config =>
    have programs : FailsByBus (do
        onDriver fun d => { d with config }
        applyUpdate (config.update field)) :=
      (onDriver_failsByBus _).bind fun _ => applyUpdate_failsByBus _
    exact programs.rejects

theorem setPollRate_rejects (c : Channel) (rate : PollRate) :
    Rejects (setPollRate c rate) rig
      (refuse .invalidConfig (rig.driver.scheduler.setPollRate c rate)) := by
  rw [Rejects, Ends, setPollRate_apply]
  cases rig.driver.scheduler.setPollRate c rate with
  | none => exact .inl ⟨rfl, rfl⟩
  | some accepted => exact rfl

theorem setQueueDepth_rejects (c : Channel) (depth : Nat) :
    Rejects (setQueueDepth c depth) rig (refuse .invalidConfig ((rig.queue c).resize depth)) := by
  rw [Rejects, Ends, setQueueDepth_apply]
  cases (rig.queue c).resize depth with
  | none => exact .inl ⟨rfl, rfl⟩
  | some queue => exact rfl

theorem setCalibration_rejects (c : Channel) (cal : Calibration) :
    Rejects (setCalibration c cal) rig
      (refuse .invalidConfig (rig.driver.config.calibrate c cal)) := by
  refine driver_bind_ends ?_
  cases rig.driver.config.calibrate c cal with
  | none => exact .inl ⟨rfl, rfl⟩
  | some config => exact rfl

theorem setLowPass_rejects (c : Channel) (cutoff : Float32) :
    Rejects (setLowPass c cutoff) rig (if c = .mag then some .invalidConfig else none) := by
  cases c
  · exact rfl
  · exact .inl ⟨rfl, rfl⟩

theorem lowPass_rejects (c : Channel) :
    Rejects (lowPass c) rig (if c = .mag then some .invalidConfig else none) := by
  cases c
  · exact rfl
  · exact .inl ⟨rfl, rfl⟩

/-- A command is rejected, and has changed nothing, or it fails only if a transfer does. -/
theorem Command.run_rejects (command : Command) (rig : Rig) :
    Rejects command.run rig (command.rejection? rig) := by
  cases command with
  | bringUp => exact bringUp_failsByBus.rejects.reply _
  | reset => exact reset_failsByBus.rejects.reply _
  | whoAmI => exact (onBus_failsByBus _).rejects.reply _
  | onTimer c => exact (onTimer_failsByBus c).rejects.reply _
  | measure c => exact (measure_failsByBus c).rejects.reply _
  | readSamples c room => exact (readSamples_rejects c room).reply _
  | popQueue c => exact rfl
  | flushQueue c => exact rfl
  | start => exact rfl
  | stop => exact rfl
  | setPollRate c rate => exact (setPollRate_rejects c rate).reply _
  | setQueueDepth c depth => exact (setQueueDepth_rejects c depth).reply _
  | setPublishing c enable => exact rfl
  | requestSetting field n => exact (requestSetting_rejects field n).reply _
  | setLowPass c cutoff => exact (setLowPass_rejects c cutoff).reply _
  | lowPass c => exact (lowPass_rejects c).reply _
  | setCalibration c cal => exact (setCalibration_rejects c cal).reply _
  | selfTest c => exact rfl
  | dumpRegisters => exact dumpRegisters_failsByBus.rejects.reply _
  | toggleLogging => exact rfl

end Rejects

/-! ### What a rejection changes -/

/-- A reader that fails has put nothing into the slots that it was lent. -/
theorem readInto_of_failure {c : Channel} {rig next : Rig} {slots : List Sample} {e : Error}
    (fails : (Command.readSamples c slots.length).run rig = .error e next) :
    Reader.readInto c ⟨rig, slots⟩ = .error e ⟨next, slots⟩ := by
  rw [Reader.readInto_eq_readSamples, bind_pure_eq_error_iff.1 fails]
  rfl

/-- A rejected command changes nothing: if a command fails other than by a transfer, it was
rejected, with one of four errors; driver, chip, timer and sink are as before, all that was ever
transferred, called or told included, and so are the slots that a reader was lent. -/
theorem rejected_changes_nothing {command : Command} {rig next : Rig} {e : Error}
    (fails : command.runOn rig = (.failure e, next)) : e.IsBus ∨
      e ∈ [Error.outOfRange, .invalidConfig, .bufferTooSmall, .wouldBlock] ∧
        command.rejection? rig = some e ∧ next = rig ∧
          ∀ c slots, command = .readSamples c slots.length →
            Reader.readInto c ⟨rig, slots⟩ = .error e ⟨rig, slots⟩ := by
  have run : command.run rig = .error e next := by
    have run := command.run_of_failure (congrArg Prod.fst fails)
    rwa [fails] at run
  rcases (command.run_rejects rig).of_error run with ⟨rejected, same⟩ | ⟨-, bus⟩
  · subst same
    refine .inr ⟨Command.mem_rejections rejected, rejected, rfl, ?_⟩
    rintro c slots rfl
    exact readInto_of_failure run
  · exact .inl bus

/-- A polled channel that has no sample yet. -/
theorem rejected_changes_nothing_would_block :
    let rig := (runSession (.fresh .direct) [.command (.setPollRate .accel .default)]).2
    let slots := List.replicate 4 Sample.blank
    (Command.readSamples .accel 4).runOn rig = (.failure .wouldBlock, rig) ∧
      Reader.readInto .accel ⟨rig, slots⟩ = .error .wouldBlock ⟨rig, slots⟩ := by
  have fails : (Command.readSamples .accel 4).runOn
      (runSession (.fresh .direct) [.command (.setPollRate .accel .default)]).2 =
      (.failure .wouldBlock, ((Command.readSamples .accel 4).runOn
        (runSession (.fresh .direct) [.command (.setPollRate .accel .default)]).2).2) :=
    Prod.ext (by decide +kernel) rfl
  rcases rejected_changes_nothing fails with ⟨cause, bus⟩ | ⟨-, -, same, kept⟩
  · cases bus
  · exact ⟨fails.trans (Prod.ext rfl same), kept .accel _ rfl⟩

/-! ### Requests that fail at a transfer -/

/-- The range of a channel is told by its full scale. -/
theorem Config.update_of_fullScale {config other : Config} {c : Channel}
    (h : config.fullScale c = other.fullScale c) :
    config.update c.rangeField = other.update c.rangeField := by
  have accel : ∀ a b : AccelRange, a.fullScale = b.fullScale → a = b := by
    intro a b
    cases a <;> cases b <;> decide +kernel
  have mag : ∀ a b : MagRange, a.fullScale = b.fullScale → a = b := by
    intro a b
    cases a <;> cases b <;> decide +kernel
  cases c
  · exact congrArg RegisterUpdate.program (accel _ _ h)
  · exact congrArg RegisterUpdate.program (mag _ _ h)

/-- A sample is scaled for the range that the chip holds only if that is the range in force. -/
theorem Rig.holds_of_scaledFor_sample {rig : Rig} {c : Channel} {raw : Axes Int16}
    {chip : RegisterFile} (h : (rig.sample c raw).ScaledFor c chip) :
    chip.Holds (rig.driver.config.update c.rangeField) := by
  obtain ⟨config, holds, -, fullScale⟩ := h
  have same : rig.driver.config.fullScale c = config.fullScale c := by
    rw [← fullScale]
    cases c <;> rfl
  rwa [Config.update_of_fullScale same]

/-- A bit pattern of a setting belongs to that setting only. -/
theorem RegisterUpdate.program_injective {σ : Type} [Setting σ] [LawfulSetting σ] {s t : σ}
    (h : program s = program t) : s = t :=
  LawfulSetting.bits_injective s t (congrArg RegisterUpdate.set h)

/-- A request that is accepted changes one setting, so it changes nothing if the setting is
programmed as before. -/
theorem Config.eq_of_update {config next : Config} {field : Field} {n : Nat}
    (accepted : config.request field n = some next)
    (same : next.update field = config.update field) : next = config := by
  cases field with
  | accelRange =>
    obtain ⟨s, -, rfl⟩ := Option.map_eq_some_iff.1 accepted
    exact congrArg (fun s => { config with accelRange := s })
      (RegisterUpdate.program_injective same)
  | accelRate =>
    obtain ⟨s, -, rfl⟩ := Option.map_eq_some_iff.1 accepted
    exact congrArg (fun s => { config with accelRate := s }) (RegisterUpdate.program_injective same)
  | antiAlias =>
    obtain ⟨s, -, rfl⟩ := Option.map_eq_some_iff.1 accepted
    exact congrArg (fun s => { config with antiAlias := s }) (RegisterUpdate.program_injective same)
  | magRange =>
    obtain ⟨s, -, rfl⟩ := Option.map_eq_some_iff.1 accepted
    exact congrArg (fun s => { config with magRange := s }) (RegisterUpdate.program_injective same)
  | magRate =>
    obtain ⟨s, -, rfl⟩ := Option.map_eq_some_iff.1 accepted
    exact congrArg (fun s => { config with magRate := s }) (RegisterUpdate.program_injective same)

/-- The chip holds one value in the field of a setting. -/
theorem Config.update_eq_of_holds {config other : Config} {field : Field} {chip : RegisterFile}
    (h : chip.Holds (config.update field)) (h' : chip.Holds (other.update field)) :
    config.update field = other.update field := by
  cases field <;> exact congrArg (RegisterUpdate.mk _ _) (h.symm.trans h')

/-- A request that fails at a transfer has changed the configuration, and neither the chip nor
anything else of the driver. -/
theorem exists_config_of_failed_request {rig next : Rig} {field : Field} {n : Nat}
    {cause : BusError} (fails : requestSetting field n rig = .error (.bus cause) next) :
    ∃ config bus, rig.driver.config.request field n = some config ∧ bus.chip = rig.chip ∧
      next = { driver := { rig.driver with config }, bench := { rig.bench with bus } } := by
  have ends : Ends (requestSetting field n) rig (fun _ _ => True) fun e next => e.IsBus →
      ∃ config bus, rig.driver.config.request field n = some config ∧ bus.chip = rig.chip ∧
        next = { driver := { rig.driver with config }, bench := { rig.bench with bus } } := by
    refine driver_bind_ends ?_
    split
    · rintro ⟨cause, ⟨⟩⟩
    · rename_i config request
      -- the configuration is ahead of the chip when the transfers begin
      let ahead : Rig := { rig with driver := { rig.driver with config } }
      refine ((applyUpdate_ends _ ahead).and (applyUpdate_programs _ ahead)).mono
        (fun _ _ _ => True.intro) fun e next stopped _ => ?_
      obtain ⟨failed, expected, bus, -, rfl⟩ := stopped
      have kept : expected = rig.driver.expected := congrArg Driver.expected failed.driver
      subst kept
      exact ⟨config, bus, request, failed.bus.chip, rfl⟩
  exact ends.of_error fails ⟨cause, rfl⟩

/-! ### Settings that the chip does not hold -/

/-- The chip does not hold a setting in force. -/
def Rig.Ahead (rig : Rig) (field : Field) : Prop :=
  ¬ rig.chip.Holds (rig.driver.config.update field)

theorem Rig.Ahead.of_eq {rig next : Rig} {field : Field} (h : rig.Ahead field)
    (config : next.driver.config.update field = rig.driver.config.update field)
    (chip : next.chip.Holds (rig.driver.config.update field) ↔
      rig.chip.Holds (rig.driver.config.update field)) : next.Ahead field := by
  rw [Ahead, config, chip]
  exact h

theorem Rig.Calm.ahead {rig next : Rig} {field : Field} (calm : rig.Calm next)
    (h : rig.Ahead field) : next.Ahead field := by
  have control := rig.driver.config.update_mem_controls field
  refine h.of_eq (calm.update_eq field) ?_
  rw [RegisterFile.Holds, calm.bus.chip _ (controls_not_mem_outputs _ control), RegisterFile.Holds]

/-- A request for another setting does not mend it, at whichever transfer it fails. -/
theorem requestSetting_ahead {field other : Field} (ne : field ≠ other) (n : Nat) :
    Within (Kept fun rig => rig.Ahead field) (requestSetting other n) := by
  refine fun rig => driver_bind_ends ?_
  split
  · exact refl_of (Kept fun rig => rig.Ahead field) rig
  · rename_i config request
    have same : config.update field = rig.driver.config.update field :=
      Config.update_of_request request ne
    let begun : Rig := { rig with driver := { rig.driver with config } }
    refine (applyUpdate_ends (config.update other) begun).mono (fun _ next updated ahead => ?_)
      fun _ next failed ahead => ?_
    · have apart : (config.update other).Apart (rig.driver.config.update field) :=
        same ▸ config.apart_update ne.symm
      have kept := Rig.Updated.chip_holds_iff updated (config.fits_update other) apart
      refine ahead.of_eq ?_ kept
      rw [updated.driver]
      exact same
    · refine ahead.of_eq ?_ ?_
      · rw [failed.driver]
        exact same
      · rw [Rig.chip, failed.bus.chip]

/-- Only a reset or a request for the same setting makes the chip hold it, unless its register is
written from outside. -/
theorem ahead_of_no_reset {field : Field} {rig : Rig} {steps : List Step} (ahead : rig.Ahead field)
    (untouched : ∀ step ∈ steps, (rig.driver.config.update field).register.addr ∉ step.outside)
    (unrequested : ∀ n, .command (.requestSetting field n) ∉ steps)
    (quiet : ∀ start, .reset start ∉ events rig steps) :
    (runSession rig steps).2.Ahead field := by
  refine kept_of_no_reset (I := fun rig => rig.Ahead field) (fun calm => calm.ahead)
    (fun other n hr => requestSetting_ahead ?_ n) (fun s hs mid ahead => ?_) quiet ahead
  · rintro rfl
    exact unrequested n hr
  · refine ahead.of_eq rfl ?_
    have register : (mid.driver.config.update field).register.addr ∉ s.outside := by
      have same : (mid.driver.config.update field).register =
          (rig.driver.config.update field).register := by
        cases field <;> rfl
      rw [same]
      exact untouched _ hs
    rw [RegisterFile.Holds, s.read_act mid.bench register, RegisterFile.Holds]

/-- What becomes of a request for a setting that fails at a transfer, if the chip held the setting
before.

The configuration is the requested one, and it stays so; the chip and everything else of the driver
are as before. So the chip holds the setting in force only if the one that was requested was in
force already. Otherwise it does not hold it for any session in which no reset starts, the setting
is not requested again, and its register is not written from outside; and if the setting is the
range of a channel, no sample of the channel is scaled for the range that the chip holds. -/
theorem failed_request_outcome {rig next : Rig} {field : Field} {n : Nat} {cause : BusError}
    (held : rig.chip.Holds (rig.driver.config.update field))
    (fails : requestSetting field n rig = .error (.bus cause) next) :
    ∃ config bus, rig.driver.config.request field n = some config ∧ bus.chip = rig.chip ∧
      next = { driver := { rig.driver with config }, bench := { rig.bench with bus } } ∧
      (next.chip.Holds (next.driver.config.update field) ↔ config = rig.driver.config) ∧
      (config ≠ rig.driver.config → ∀ later : List Step,
        (∀ step ∈ later, (config.update field).register.addr ∉ step.outside) →
        (∀ m, .command (.requestSetting field m) ∉ later) →
        (∀ start, .reset start ∉ events next later) →
        let reached := (runSession next later).2
        ¬ reached.chip.Holds (reached.driver.config.update field) ∧
          ∀ c final, c.rangeField = field → measure c reached = .ok .sampled final →
            ∃ s, final.driver.queue.get c = ((reached.driver.queue.get c).push s).2 ∧
              ¬ s.ScaledFor c reached.chip) := by
  obtain ⟨config, bus, request, chip, rfl⟩ := exists_config_of_failed_request fails
  have iff : bus.chip.Holds (config.update field) ↔ config = rig.driver.config := by
    rw [chip]
    constructor
    · intro holds
      exact Config.eq_of_update request (Config.update_eq_of_holds holds held)
    · rintro rfl
      exact held
  refine ⟨config, bus, request, chip, rfl, iff, fun changed later untouched unrequested quiet => ?_⟩
  intro reached
  have ahead : reached.Ahead field :=
    ahead_of_no_reset (fun holds => changed (iff.1 holds)) untouched unrequested quiet
  refine ⟨ahead, fun c final range sampled => ?_⟩
  obtain ⟨-, checked, mid, burst, -, -, -, same, queue⟩ := exists_burst_of_sampled sampled
  refine ⟨_, queue, fun scaled => ahead ?_⟩
  rw [← range, ← same]
  exact Rig.holds_of_scaledFor_sample scaled

/-- A configured driver before a write that will fail: the chip holds the range in force. -/
theorem holds_before_write_fault :
    let rig := (runSession (.fresh .direct) [.command .reset, .stimulus (.writeFault 0)]).2
    rig.chip.Holds (rig.driver.config.update .accelRange) := by
  unfold RegisterFile.Holds
  decide +kernel

/-- The write of a request for another range fails. -/
theorem requestSetting_write_fault :
    let rig := (runSession (.fresh .direct) [.command .reset, .stimulus (.writeFault 0)]).2
    requestSetting .accelRange 2 rig =
      .error (.bus .communication) ((Command.requestSetting .accelRange 2).runOn rig).2 :=
  error_of_failure rfl (by decide +kernel)

/-- A request for another range whose write fails: the chip is as before, but the driver goes on
with the range that was requested, and its next sample is for that range. -/
theorem range_changed_by_failed_request :
    let rig := (runSession (.fresh .direct) [.command .reset, .stimulus (.writeFault 0)]).2
    let next := ((Command.requestSetting .accelRange 2).runOn rig).2
    connect { bench := .fresh .direct } = .ok () (.fresh .direct) ∧
      rig.chip.Holds (rig.driver.config.update .accelRange) ∧
      requestSetting .accelRange 2 rig = .error (.bus .communication) next ∧
      next.chip = rig.chip ∧ rig.driver.config.value .accelRange = 8 ∧
      next.driver.config.value .accelRange = 2 ∧
      (sample? .accel rig).map Sample.fullScale = some (AccelRange.fullScale .g8) ∧
      (sample? .accel next).map Sample.fullScale = some (AccelRange.fullScale .g2) := by
  obtain ⟨_, _, -, chip, eq⟩ := exists_config_of_failed_request requestSetting_write_fault
  exact ⟨connect_fresh .direct, holds_before_write_fault, requestSetting_write_fault,
    (congrArg Rig.chip eq).trans chip, by decide +kernel, by decide +kernel, by decide +kernel,
    by decide +kernel⟩

/-- A later request for another setting does not mend it, and the next sample is for a range that
the chip does not hold. -/
theorem failed_request_outcome_range :
    let rig := (runSession (.fresh .direct) [.command .reset, .stimulus (.writeFault 0)]).2
    let next := ((Command.requestSetting .accelRange 2).runOn rig).2
    let reached := (runSession next [.command (.requestSetting .antiAlias 194)]).2
    rig.chip.Holds (rig.driver.config.update .accelRange) ∧
      requestSetting .accelRange 2 rig = .error (.bus .communication) next ∧
      ∃ final s, measure .accel reached = .ok .sampled final ∧
        final.driver.queue.get .accel = ((reached.driver.queue.get .accel).push s).2 ∧
          ¬ s.ScaledFor .accel reached.chip := by
  have answered : ((Command.measure .accel).runOn (runSession ((Command.requestSetting .accelRange
      2).runOn (runSession (.fresh .direct) [.command .reset, .stimulus (.writeFault 0)]).2).2
      [.command (.requestSetting .antiAlias 194)]).2).1 = .reply (.measured .sampled) := by
    decide +kernel
  have other : (runSession (.fresh .direct) [.command .reset,
      .stimulus (.writeFault 0)]).2.driver.config.request .accelRange 2 ≠
      some (runSession (.fresh .direct) [.command .reset,
        .stimulus (.writeFault 0)]).2.driver.config := by
    decide +kernel
  obtain ⟨final, run⟩ := Command.run_of_reply answered
  obtain ⟨_, _, sampled, ⟨⟩⟩ := bind_eq_ok_iff.1 run
  obtain ⟨config, _, request, -, -, -, lasts⟩ :=
    failed_request_outcome holds_before_write_fault requestSetting_write_fault
  have changed : config ≠ (runSession (.fresh .direct) [.command .reset,
      .stimulus (.writeFault 0)]).2.driver.config := by
    intro same
    rw [same] at request
    exact other request
  have quiet : events ((Command.requestSetting .accelRange 2).runOn (runSession (.fresh .direct)
      [.command .reset, .stimulus (.writeFault 0)]).2).2
      [.command (.requestSetting .antiAlias 194)] = [] := rfl
  obtain ⟨-, samples⟩ := lasts changed
    [.command (.requestSetting .antiAlias 194)]
    (fun step hs => by
      rw [List.mem_singleton.1 hs]
      exact List.not_mem_nil)
    (fun m hm => by cases List.mem_singleton.1 hm)
    fun start hr => by
      rw [quiet] at hr
      exact List.not_mem_nil hr
  obtain ⟨s, queued, unscaled⟩ := samples .accel final rfl sampled
  exact ⟨holds_before_write_fault, requestSetting_write_fault, final, s, sampled, queued, unscaled⟩

end ECompass
