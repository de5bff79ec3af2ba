import ECompass.Command
import ECompass.Proofs.Reading

/-!
# Operations that program the chip

A reset and an accepted request are the only operations that write to the chip. Both are built from
four kinds of steps: calm ones, the control register of a channel written and expected at once, some
other register written, and the rate field of the accelerometer's control register updated and
followed. A reset, a measurement and a request move within every preorder that these steps move
within (`Programs`), and in the end every command does (`Operates`).
-/

namespace ECompass

open Program Operation

/-! ### Steps of programming -/

namespace Operation

variable {α β : Type}

theorem onBus_bind (first : BusM α) (rest : α → BusM β) :
    onBus (first >>= rest) = (do onBus (rest (← onBus first))) := by
  funext rig
  rw [bind_apply]
  unfold onBus
  rw [bind_apply]
  cases first rig.bench.bus <;> rfl

theorem onBus_forM (program : α → BusM PUnit) (items : List α) :
    onBus (items.forM program) = items.forM fun item => onBus (program item) := by
  induction items with
  | nil => rfl
  | cons item rest ih =>
    show onBus (program item >>= fun _ => rest.forM program) = _
    rw [onBus_bind]
    simp only [ih]
    rfl

end Operation

/-- The registers of the chip on a rig. -/
abbrev Rig.chip (rig : Rig) : RegisterFile := rig.bench.bus.chip

/-- A transfer failed, and nothing else has happened. -/
structure Rig.Failed (rig next : Rig) : Prop where
  /-- The transfer. -/
  bus : rig.bench.bus.Failed next.bench.bus
  /-- The driver is as it was. -/
  driver : next.driver = rig.driver

/-- One register was written, and the driver has followed. -/
structure Rig.Wrote (rig : Rig) (r : Register) (value : UInt8) (driver : Driver) (next : Rig) :
    Prop where
  /-- The register. -/
  bus : rig.bench.bus.Wrote r value next.bench.bus
  /-- What the driver has become. -/
  driver : next.driver = driver

theorem write_ends (r : Register) (value : UInt8) (rig : Rig) :
    Ends (onBus (Bus.writeRegister r value)) rig (fun _ next => rig.Wrote r value rig.driver next)
      (fun _ next => rig.Failed next) :=
  onBus_ends <| (Bus.writeRegister_ends r value rig.bench.bus).mono (fun _ _ h => ⟨h, rfl⟩)
    fun _ _ h => ⟨h, rfl⟩

theorem update_ends (u : RegisterUpdate) (rig : Rig) :
    Ends (onBus (Bus.update u)) rig
      (fun _ next => rig.Wrote u.register (u.apply (rig.chip.read u.register.addr)) rig.driver next)
      (fun _ next => rig.Failed next) :=
  onBus_ends <| (Bus.update_ends u rig.bench.bus).mono (fun _ _ h => ⟨h, rfl⟩) fun _ _ h => ⟨h, rfl⟩

/-- A control register is written, and expected at once. -/
theorem programControl_ends (c : Channel) (rig : Rig) :
    Ends (programControl c) rig
      (fun _ next => rig.Wrote c.control (rig.driver.control c)
        (rig.driver.expect c (rig.driver.control c)) next)
      (fun _ next => rig.Failed next) := by
  refine driver_bind_ends ((write_ends _ _ rig).bind fun _ next h => ?_)
  refine ⟨h.bus, ?_⟩
  show next.driver.expect c _ = _
  rw [h.driver]

/-- An update is carried out, and followed. -/
theorem applyUpdate_ends (u : RegisterUpdate) (rig : Rig) :
    Ends (applyUpdate u) rig
      (fun _ next => rig.Wrote u.register (u.apply (rig.chip.read u.register.addr))
        (rig.driver.track u) next)
      (fun _ next => rig.Failed next) := by
  refine (update_ends u rig).bind fun _ next h => ?_
  refine ⟨h.bus, ?_⟩
  rw [← h.driver]

/-- A reset programs the enables of the accelerometer. -/
theorem Driver.control_accel_and (d : Driver) :
    d.control .accel &&& ~~~Setting.mask AccelRate = accelEnables := by
  show (accelEnables ||| Setting.bits d.config.accelRate) &&& ~~~Setting.mask AccelRate =
    accelEnables
  cases d.config.accelRate <;> decide

/-! ### What the health check sees of it -/

theorem Channel.control_inj {c d : Channel} : c.control = d.control ↔ c = d := by
  cases c <;> cases d <;> decide

theorem Expected.get_track (e : Expected) (u : RegisterUpdate) (c : Channel) :
    (e.track u).get c = if u.register = c.control then u.apply (e.get c) else e.get c :=
  PerChannel.get_ofFn _ c

theorem Rig.Failed.mismatched_iff {rig next : Rig} (h : rig.Failed next) (c : Channel) :
    next.Mismatched c ↔ rig.Mismatched c := by
  rw [Mismatched, Mismatched, h.bus.chip, h.driver]

/-- After a write the check compares the written value, if the register is the channel's. -/
theorem Rig.Wrote.mismatched_iff {rig next : Rig} {r : Register} {value : UInt8} {driver : Driver}
    (h : rig.Wrote r value driver next) (c : Channel) : next.Mismatched c ↔
      (if c.control = r then value else rig.chip.read c.control.addr) ≠ driver.expected.get c := by
  rw [Mismatched, h.driver, h.bus.chip]
  split
  · rename_i same
    rw [← same, RegisterFile.read_write_self]
  · rename_i apart
    rw [RegisterFile.read_write_of_ne _ _ fun e => apart (Register.addr_injective e)]

/-- No channel is watched through the register. -/
def Register.Unwatched (r : Register) : Prop := ∀ c : Channel, r ≠ c.control

instance (r : Register) : Decidable r.Unwatched :=
  decidable_of_iff (r ≠ Channel.accel.control ∧ r ≠ Channel.mag.control)
    ⟨fun h c => by cases c <;> simp [h], fun h => ⟨h .accel, h .mag⟩⟩

/-- An update of a register that is not watched is not followed. -/
theorem Driver.track_of_unwatched {u : RegisterUpdate} (h : u.register.Unwatched) (d : Driver) :
    d.track u = d := by
  have same : Expected.track d.expected u = d.expected := by
    apply PerChannel.ext_get
    intro c
    rw [Expected.get_track, if_neg (h c)]
  rw [track, same]

theorem Rig.Wrote.mismatched_iff_of_unwatched {rig next : Rig} {r : Register} {value : UInt8}
    (h : rig.Wrote r value rig.driver next) (unwatched : r.Unwatched) (c : Channel) :
    next.Mismatched c ↔ rig.Mismatched c := by
  rw [h.mismatched_iff, if_neg (unwatched c).symm, Mismatched]

/-- Every setting but the accelerometer's rate lies in a register that is not watched. -/
theorem Config.unwatched_update (config : Config) {field : Field} (h : field ≠ .accelRate) :
    (config.update field).register.Unwatched := by
  cases field
  case accelRate => exact absurd rfl h
  all_goals exact of_decide_eq_true rfl

/-- What is left of a reset after both control registers were written. -/
def finishReset : Operation Unit := do
  onBus (Bus.writeRegister .ctrl5 magHighResolution)
  onBus (Bus.writeRegister .ctrl3 accelReadyRouting)
  onBus (Bus.writeRegister .ctrl4 magReadyRouting)
  programSettings .accel
  onDriver Driver.clearFilter
  programSettings .mag
  onDriver Driver.restartReads

/-- A reset writes both control registers early. -/
theorem reset_eq : reset = (do
    onBus (interfaceUpdates.forM Bus.update)
    programControl .accel
    programControl .mag
    finishReset) := rfl

/-! ### Relations that programming moves within -/

/-- The interface registers are not watched. -/
theorem interfaceUpdates_within {R : Rig → Rig → Prop} [IsPreorder Rig R]
    (failed : ∀ {rig next}, rig.Failed next → R rig next)
    (write : ∀ {rig next r value}, r.Unwatched → rig.Wrote r value rig.driver next → R rig next) :
    Within R (onBus (interfaceUpdates.forM Bus.update)) := by
  rw [onBus_forM]
  have unwatched : ∀ u ∈ interfaceUpdates, u.register.Unwatched := by decide
  exact Within.forM fun u hu rig =>
    (update_ends u rig).mono (fun _ _ => write (unwatched u hu)) fun _ _ => failed

/-- Whatever the driver programs, it moves the rig within `R`. -/
structure Programs (R : Rig → Rig → Prop) : Prop where
  /-- Steps that only read. -/
  calm : ∀ {rig next}, rig.Calm next → R rig next
  /-- A transfer fails. -/
  failed : ∀ {rig next}, rig.Failed next → R rig next
  /-- The control register of a channel is written, and expected at once. -/
  control : ∀ {rig next c}, rig.Wrote c.control (rig.driver.control c)
    (rig.driver.expect c (rig.driver.control c)) next → R rig next
  /-- A register that is not watched is written. -/
  write : ∀ {rig next r value}, r.Unwatched → rig.Wrote r value rig.driver next → R rig next
  /-- The rate field of the accelerometer's control register is updated, and followed. -/
  rate : ∀ {rig next} {s : AccelRate}, rig.Wrote Channel.accel.control
    ((RegisterUpdate.program s).apply (rig.chip.read Channel.accel.control.addr))
    (rig.driver.track (.program s)) next → R rig next

namespace Programs

variable {R : Rig → Rig → Prop}

theorem within_calm (h : Programs R) {α : Type} {operation : Operation α}
    (calm : Within Rig.Calm operation) : Within R operation :=
  calm.mono fun _ _ => h.calm

theorem programControl (h : Programs R) (c : Channel) : Within R (programControl c) := fun rig =>
  (programControl_ends c rig).mono (fun _ _ => h.control) fun _ _ => h.failed

theorem writeRegister (h : Programs R) {r : Register} (unwatched : r.Unwatched) (value : UInt8) :
    Within R (onBus (Bus.writeRegister r value)) := fun rig =>
  (write_ends r value rig).mono (fun _ _ => h.write unwatched) fun _ _ => h.failed

/-- An update that programs a setting moves within `R`. -/
theorem applyUpdate (h : Programs R) (config : Config) (field : Field) :
    Within R (applyUpdate (config.update field)) := by
  refine fun rig => (applyUpdate_ends (config.update field) rig).mono (fun _ next wrote => ?_)
    fun _ _ => h.failed
  by_cases rate : field = .accelRate
  · subst rate
    exact h.rate wrote
  · have unwatched := config.unwatched_update rate
    rw [Driver.track_of_unwatched unwatched] at wrote
    exact h.write unwatched wrote

variable [IsPreorder Rig R]

theorem programSettings (h : Programs R) (c : Channel) : Within R (programSettings c) := by
  refine (h.within_calm driver_calm).bind fun d => Within.forM fun u hu => ?_
  obtain ⟨field, -, rfl⟩ := List.mem_map.1 hu
  exact h.applyUpdate d.config field

theorem finishReset (h : Programs R) : Within R ECompass.finishReset := by
  have quiet (f : Driver → Driver) (hf : ∀ d : Driver, d.Calm (f d)) : Within R (onDriver f) :=
    h.within_calm (onDriver_calm hf)
  refine (h.writeRegister (by decide) _).bind fun _ => (h.writeRegister (by decide) _).bind fun _ =>
    (h.writeRegister (by decide) _).bind fun _ => (h.programSettings .accel).bind fun _ =>
    Within.bind ?_ fun _ => (h.programSettings .mag).bind fun _ => ?_
  · exact quiet _ fun _ => ⟨rfl, rfl, rfl⟩
  · exact quiet _ fun _ => ⟨rfl, rfl, rfl⟩

theorem reset (h : Programs R) : Within R reset :=
  (interfaceUpdates_within h.failed h.write).bind fun _ => (h.programControl .accel).bind fun _ =>
    (h.programControl .mag).bind fun _ => h.finishReset

/-- A measurement moves within `R` if counting a recovery does. -/
theorem measure (h : Programs R) {c : Channel}
    (count : Within R (onDriver fun d => d.countRecovery c)) : Within R (measure c) := by
  have recovery : Within R (do recover c; return Measurement.recovered) :=
    (count.bind fun _ => h.reset).bind fun _ => .pure _
  have acquisition : Within R (acquire c) := h.within_calm (acquire_calm c)
  have check : Within R
      (do if ← isHealthy c then acquire c else do recover c; return .recovered) := by
    refine (h.within_calm (isHealthy_calm c)).bind fun healthy => ?_
    cases healthy
    · exact recovery
    · exact acquisition
  refine (h.within_calm (isReady_calm c)).bind fun ready => ?_
  cases ready
  · exact (h.within_calm (putOff_calm c)).bind fun _ => .pure _
  · exact check

/-- A request moves within `R` if putting a configuration into force does. -/
theorem requestSetting (h : Programs R)
    (configure : ∀ config, Within R (onDriver fun d => { d with config })) (field : Field)
    (request : Nat) : Within R (requestSetting field request) := by
  refine (h.within_calm driver_calm).bind fun d => ?_
  split
  · exact .throw _
  · rename_i config _
    exact (configure config).bind fun _ => h.applyUpdate config field

end Programs

/-! ### Commands -/

/-- Whether a command may write to the chip. -/
def Command.mayWrite : Command → Bool
  | .bringUp => true
  | .reset => true
  | .onTimer _ => true
  | .measure _ => true
  | .readSamples _ _ => true
  | .requestSetting _ _ => true
  | _ => false

/-- The other commands only read. -/
theorem Command.run_calm {command : Command} (h : command.mayWrite = false) :
    Within Rig.Calm command.run := by
  cases command with
  | bringUp => cases h
  | reset => cases h
  | onTimer c => cases h
  | measure c => cases h
  | readSamples c room => cases h
  | requestSetting field n => cases h
  | whoAmI => exact readIdentity_calm.bind fun _ => .pure _
  | popQueue c => exact (popQueue_calm c).bind fun _ => .pure _
  | flushQueue c => exact (flushQueue_calm c).bind fun _ => .pure _
  | start => exact start_calm.bind fun _ => .pure _
  | stop => exact stop_calm.bind fun _ => .pure _
  | setPollRate c rate => exact (setPollRate_calm c rate).bind fun _ => .pure _
  | setQueueDepth c depth => exact (setQueueDepth_calm c depth).bind fun _ => .pure _
  | setPublishing c enable => exact (setPublishing_calm c enable).bind fun _ => .pure _
  | setLowPass c cutoff => exact (setLowPass_calm c cutoff).bind fun _ => .pure _
  | lowPass c => exact (lowPass_calm c).bind fun _ => .pure _
  | setCalibration c cal => exact (setCalibration_calm c cal).bind fun _ => .pure _
  | selfTest c => exact driver_calm.bind fun _ => .pure _
  | dumpRegisters => exact dumpRegisters_calm.bind fun _ => .pure _
  | toggleLogging => exact toggleLogging_calm.bind fun _ => .pure _

/-- Whatever a command is made of, it moves the rig within `R`. -/
structure Operates (R : Rig → Rig → Prop) : Prop where
  /-- Operations that only read. -/
  calm : ∀ {rig next}, rig.Calm next → R rig next
  /-- A reset. -/
  reset : Within R reset
  /-- A measurement. -/
  measure : ∀ c, Within R (measure c)
  /-- A request for a setting. -/
  request : ∀ field n, Within R (requestSetting field n)

/-- What is programmed moves within `R`, and with it every command does, if counting a recovery and
putting a configuration into force do. -/
theorem Programs.operates {R : Rig → Rig → Prop} [IsPreorder Rig R] (h : Programs R)
    (count : ∀ c, Within R (onDriver fun d => d.countRecovery c))
    (configure : ∀ config, Within R (onDriver fun d => { d with config })) : Operates R where
  calm := h.calm
  reset := h.reset
  measure c := h.measure (count c)
  request := h.requestSetting configure

namespace Operates

variable {R : Rig → Rig → Prop}

/-- Commands that move within two relations move within what these imply together. -/
theorem both {S T : Rig → Rig → Prop} (h : Operates R) (h' : Operates S)
    (imp : ∀ rig next, R rig next → S rig next → T rig next) : Operates T where
  calm quiet := imp _ _ (h.calm quiet) (h'.calm quiet)
  reset := h.reset.both h'.reset imp
  measure c := (h.measure c).both (h'.measure c) imp
  request field n := (h.request field n).both (h'.request field n) imp

theorem within_calm (h : Operates R) {α : Type} {operation : Operation α}
    (calm : Within Rig.Calm operation) : Within R operation :=
  calm.mono fun _ _ => h.calm

variable [IsPreorder Rig R]

theorem onTimer (h : Operates R) (c : Channel) : Within R (onTimer c) := by
  refine (h.within_calm driver_calm).bind fun d => ?_
  split
  · exact h.measure c
  · exact .pure _

theorem bringUp (h : Operates R) : Within R bringUp :=
  h.reset.bind fun _ => (h.measure .accel).bind fun _ => .pure _

theorem readSamples (h : Operates R) (c : Channel) (room : Nat) :
    Within R (readSamples c room) := by
  have fresh : Within R (measureAndTake c) := by
    refine (h.within_calm (flushQueue_calm c)).bind fun _ => (h.measure c).bind fun outcome => ?_
    cases outcome
    case sampled => exact (h.within_calm (popQueue_calm c)).bind fun _ => .pure _
    all_goals exact .pure _
  rw [readSamples_eq]
  unfold sampling
  split
  · exact .throw _
  · refine (h.within_calm driver_calm).bind fun d => ?_
    split
    · exact h.within_calm (drain_calm c room)
    · exact fresh

/-- Every command moves the rig within `R`. -/
theorem command (h : Operates R) (command : Command) : Within R command.run := by
  cases writes : command.mayWrite with
  | false => exact h.within_calm (Command.run_calm writes)
  | true =>
    cases command with
    | bringUp => exact h.bringUp.bind fun _ => .pure _
    | reset => exact h.reset.bind fun _ => .pure _
    | onTimer c => exact (h.onTimer c).bind fun _ => .pure _
    | measure c => exact (h.measure c).bind fun _ => .pure _
    | readSamples c room => exact (h.readSamples c room).bind fun _ => .pure _
    | requestSetting field n => exact (h.request field n).bind fun _ => .pure _
    | _ => cases writes

end Operates

end ECompass
