import ECompass.Proofs.Sessions

/-!
# Runs in parallel

Two runs of the driver that start from related rigs end in related rigs, with the same answers.
What has to be known of the relation for that is little (`Parallel`): the two drivers look the same
as far as operations look at them, single transfers end alike, and so does the commitment of a
sample.

How a driver reports its samples is not looked at elsewhere: whether they are published, whether the
diagnostic log is on and when it was last written, and how far the count of extreme samples has been
copied. `Driver.muted` is the driver without all that. The commands that only change how samples are
reported are left out here.

The relation may also speak of how far the runs have come without a failure. Then the runs end alike
unless one of them fails, in a state of which a predicate says so.
-/

namespace ECompass

open Program Operation

/-! ### What is looked at -/

/-- The monitor without what is only reported. -/
def Monitor.muted (m : Monitor) : Monitor := { m with logging := false, cadence := {} }

/-- The driver without what concerns reports alone. -/
def Driver.muted (d : Driver) : Driver :=
  { d with publishing := .both true, monitor := d.monitor.muted, stats.extremes := 0 }

/-- Whether a command only changes how samples are reported. -/
def Command.reports : Command → Bool
  | .setPublishing _ _ => true
  | .toggleLogging => true
  | _ => false

/-- Rigs that `R` relates cannot be told apart by the parts of operations, unless one of these fails
in a state of which `P` holds. -/
structure Parallel (P : Rig → Prop) (R : Rig → Rig → Prop) : Prop where
  /-- The drivers look the same. -/
  driver : ∀ {rig other}, R rig other → rig.driver.muted = other.driver.muted
  /-- The clocks are the same. -/
  now : ∀ {rig other}, R rig other → rig.bench.timer.now = other.bench.timer.now
  /-- The data-ready lines are the same. -/
  dataReady : ∀ {rig other}, R rig other → rig.bench.dataReady = other.bench.dataReady
  /-- Both drivers may change in the same way. -/
  onDriver : ∀ {f : Driver → Driver}, (∀ d, (f d).muted = (f d.muted).muted) →
    SimulatesUnless P R (onDriver f) (onDriver f)
  /-- Both timers may be called. -/
  callTimer : ∀ calls, SimulatesUnless P R (callTimer calls) (callTimer calls)
  /-- A register is read. -/
  readRegister : ∀ r, SimulatesUnless P R (onBus (Bus.readRegister r)) (onBus (Bus.readRegister r))
  /-- A register is written. -/
  writeRegister : ∀ r value, SimulatesUnless P R (onBus (Bus.writeRegister r value))
    (onBus (Bus.writeRegister r value))
  /-- A burst is read. -/
  burst : ∀ c : Channel, SimulatesUnless P R (onBus (Bus.readBurst c.status Burst.length))
    (onBus (Bus.readBurst c.status Burst.length))
  /-- A sample is committed. -/
  commit : ∀ c raw, SimulatesUnless P R (commit c raw) (commit c raw)

/-- An operation ends alike on rigs that `R` relates, unless it fails in a state of which `P`
holds. -/
abbrev InParallel (P : Rig → Prop) (R : Rig → Rig → Prop) {α : Type} (operation : Operation α) :
    Prop :=
  SimulatesUnless P R operation operation

namespace Parallel

variable {P : Rig → Prop} {R : Rig → Rig → Prop} {α : Type}

/-! ### Parts of operations -/

/-- An operation that looks at the driver goes on alike, if it does not look at what concerns
reports. -/
theorem driver_bind (h : Parallel P R) {f : Driver → Operation α} (looks : ∀ d, f d = f d.muted)
    (rest : ∀ d, InParallel P R (f d)) : InParallel P R (Operation.driver >>= f) := by
  intro rig other related
  show Alike R (f rig.driver rig) (f other.driver other) ∨ FailsIn P (f rig.driver rig) ∨
    FailsIn P (f other.driver other)
  rw [looks rig.driver, looks other.driver, h.driver related]
  exact rest _ rig other related

theorem now_bind (h : Parallel P R) {f : Nat → Operation α} (rest : ∀ t, InParallel P R (f t)) :
    InParallel P R (Operation.now >>= f) := by
  intro rig other related
  show Alike R (f rig.bench.timer.now rig) (f other.bench.timer.now other) ∨
    FailsIn P (f rig.bench.timer.now rig) ∨ FailsIn P (f other.bench.timer.now other)
  rw [h.now related]
  exact rest _ rig other related

theorem update (h : Parallel P R) (u : RegisterUpdate) : InParallel P R (onBus (Bus.update u)) := by
  rw [Bus.update, onBus_bind]
  exact (h.readRegister _).bind fun _ => h.writeRegister _ _

theorem readAll (h : Parallel P R) (registers : List Register) :
    InParallel P R (onBus (RegisterDump.readAll registers)) := by
  induction registers with
  | nil => exact .pure _
  | cons r rest ih =>
    rw [RegisterDump.readAll, onBus_bind]
    refine (h.readRegister r).bind fun _ => ?_
    rw [onBus_bind]
    exact ih.bind fun _ => .pure _

theorem capture (h : Parallel P R) (expected : Expected) (now : Nat) :
    InParallel P R (onBus (RegisterDump.capture expected now)) := by
  rw [RegisterDump.capture, onBus_bind]
  exact (h.readAll _).bind fun _ => .pure _

/-! ### Acquisition -/

theorem programControl (h : Parallel P R) (c : Channel) : InParallel P R (programControl c) :=
  h.driver_bind (fun _ => rfl) fun _ => (h.writeRegister _ _).bind fun _ =>
    h.onDriver fun _ => rfl

theorem applyUpdate (h : Parallel P R) (u : RegisterUpdate) : InParallel P R (applyUpdate u) :=
  (h.update u).bind fun _ => h.onDriver fun _ => rfl

theorem programSettings (h : Parallel P R) (c : Channel) : InParallel P R (programSettings c) :=
  h.driver_bind (fun _ => rfl) fun _ => .forM fun u _ => h.applyUpdate u

theorem reset (h : Parallel P R) : InParallel P R reset := by
  have interface : InParallel P R (onBus (interfaceUpdates.forM Bus.update)) := by
    rw [onBus_forM]
    exact .forM fun u _ => h.update u
  exact interface.bind fun _ => (h.programControl .accel).bind fun _ =>
    (h.programControl .mag).bind fun _ => (h.writeRegister _ _).bind fun _ =>
    (h.writeRegister _ _).bind fun _ => (h.writeRegister _ _).bind fun _ =>
    (h.programSettings .accel).bind fun _ => (h.onDriver fun _ => rfl).bind fun _ =>
    (h.programSettings .mag).bind fun _ => h.onDriver fun _ => rfl

theorem isReady (h : Parallel P R) (c : Channel) : InParallel P R (isReady c) := by
  intro rig other related
  have same : rig.Ready c ↔ other.Ready c := by rw [Rig.Ready, Rig.Ready, h.dataReady related]
  rw [isReady_apply, isReady_apply, decide_eq_decide.2 same]
  exact .inl (.ok _ related)

theorem putOff (h : Parallel P R) (c : Channel) : InParallel P R (putOff c) := by
  refine (h.onDriver fun _ => rfl).bind fun _ => h.driver_bind (fun _ => rfl) fun d => ?_
  split
  · exact h.callTimer _
  · exact .pure _

theorem isHealthy (h : Parallel P R) (c : Channel) : InParallel P R (isHealthy c) :=
  (h.readRegister _).bind fun _ => h.driver_bind (fun _ => rfl) fun _ => .pure _

theorem acquire (h : Parallel P R) (c : Channel) : InParallel P R (acquire c) :=
  ((h.burst c).bind fun _ => .pure _).bind fun _ => (h.commit c _).bind fun _ => .pure _

theorem measure (h : Parallel P R) (c : Channel) : InParallel P R (measure c) := by
  have recovery : InParallel P R (recover c) :=
    (h.onDriver fun _ => rfl).bind fun _ => h.reset
  have check : InParallel P R
      (do
        if ← ECompass.isHealthy c then ECompass.acquire c
        else do recover c; return .recovered) := by
    refine (h.isHealthy c).bind fun healthy => ?_
    cases healthy
    · exact recovery.bind fun _ => .pure _
    · exact h.acquire c
  refine (h.isReady c).bind fun ready => ?_
  cases ready
  · exact (h.putOff c).bind fun _ => .pure _
  · exact check

theorem onTimer (h : Parallel P R) (c : Channel) : InParallel P R (onTimer c) := by
  refine h.driver_bind (fun _ => rfl) fun d => ?_
  split
  · exact h.measure c
  · exact .pure _

theorem connect (h : Parallel P R) : InParallel P R connect := by
  refine (h.readRegister _).bind fun _ => (h.readRegister _).bind fun value => ?_
  split
  · exact .throw _
  · exact .pure _

theorem bringUp (h : Parallel P R) : InParallel P R bringUp :=
  h.reset.bind fun _ => (h.measure .accel).bind fun _ => .pure _

/-! ### Reading samples and tuning -/

theorem popQueue (h : Parallel P R) (c : Channel) : InParallel P R (popQueue c) :=
  h.driver_bind (fun _ => rfl) fun _ => (h.onDriver fun _ => rfl).bind fun _ => .pure _

theorem drain (h : Parallel P R) (c : Channel) (room : Nat) : InParallel P R (drain c room) := by
  refine h.driver_bind (fun _ => rfl) fun d => ?_
  split
  split
  · exact (SimulatesUnless.throw _).bind fun _ => (h.onDriver fun _ => rfl).bind fun _ => .pure _
  · exact (h.onDriver fun _ => rfl).bind fun _ => .pure _

theorem readSamples (h : Parallel P R) (c : Channel) (room : Nat) :
    InParallel P R (readSamples c room) := by
  have fresh : InParallel P R (measureAndTake c) := by
    refine (h.onDriver fun _ => rfl).bind fun _ => (h.measure c).bind fun outcome => ?_
    cases outcome
    case sampled => exact (h.popQueue c).bind fun _ => .pure _
    all_goals exact .pure _
  rw [readSamples_eq]
  unfold sampling
  split
  · exact .throw _
  · refine h.driver_bind (fun _ => rfl) fun d => ?_
    split
    · exact h.drain c room
    · exact fresh

theorem setPollRate (h : Parallel P R) (c : Channel) (rate : PollRate) :
    InParallel P R (setPollRate c rate) := by
  refine h.driver_bind (fun _ => rfl) fun d => ?_
  split
  · exact .throw _
  · refine (h.callTimer _).bind fun _ => (h.onDriver fun _ => rfl).bind fun _ => ?_
    -- whether the filter follows is decided last, but splits first
    split
    · split
      · exact (h.onDriver fun _ => rfl).bind fun _ => h.onDriver fun _ => rfl
      · exact h.onDriver fun _ => rfl
    · split
      · exact (h.onDriver fun _ => rfl).bind fun _ => .pure _
      · exact .pure _

theorem setQueueDepth (h : Parallel P R) (c : Channel) (depth : Nat) :
    InParallel P R (setQueueDepth c depth) := by
  refine h.driver_bind (fun _ => rfl) fun d => ?_
  split
  · exact .throw _
  · exact h.onDriver fun _ => rfl

theorem requestSetting (h : Parallel P R) (field : Field) (request : Nat) :
    InParallel P R (requestSetting field request) := by
  refine h.driver_bind (fun _ => rfl) fun d => ?_
  split
  · exact .throw _
  · exact (h.onDriver fun _ => rfl).bind fun _ => h.applyUpdate _

theorem setCalibration (h : Parallel P R) (c : Channel) (cal : Calibration) :
    InParallel P R (setCalibration c cal) := by
  refine h.driver_bind (fun _ => rfl) fun d => ?_
  split
  · exact .throw _
  · exact h.onDriver fun _ => rfl

theorem setLowPass (h : Parallel P R) (c : Channel) (cutoff : Float32) :
    InParallel P R (setLowPass c cutoff) := by
  cases c
  · exact h.onDriver (f := fun d => { d with filter := .design d.outputRate cutoff }) fun _ => rfl
  · exact .throw _

theorem lowPass (h : Parallel P R) (c : Channel) : InParallel P R (lowPass c) := by
  cases c
  · exact h.driver_bind (fun _ => rfl) fun _ => .pure _
  · exact .throw _

theorem dumpRegisters (h : Parallel P R) : InParallel P R dumpRegisters :=
  h.driver_bind (fun _ => rfl) fun _ => h.now_bind fun _ => h.capture _ _

/-- Every command that does not change how samples are reported ends alike. -/
theorem command (h : Parallel P R) {command : Command} (quiet : command.reports = false) :
    InParallel P R command.run := by
  cases command with
  | bringUp => exact h.bringUp.bind fun _ => .pure _
  | reset => exact h.reset.bind fun _ => .pure _
  | whoAmI => exact (h.readRegister _).bind fun _ => .pure _
  | onTimer c => exact (h.onTimer c).bind fun _ => .pure _
  | measure c => exact (h.measure c).bind fun _ => .pure _
  | readSamples c room => exact (h.readSamples c room).bind fun _ => .pure _
  | popQueue c => exact (h.popQueue c).bind fun _ => .pure _
  | flushQueue c => exact (h.onDriver fun _ => rfl).bind fun _ => .pure _
  | start =>
    exact (h.driver_bind (fun _ => rfl) fun _ => (h.onDriver fun _ => rfl).bind fun _ =>
      h.callTimer _).bind fun _ => .pure _
  | stop =>
    exact (h.driver_bind (fun _ => rfl) fun _ => (h.onDriver fun _ => rfl).bind fun _ =>
      h.callTimer _).bind fun _ => .pure _
  | setPollRate c rate => exact (h.setPollRate c rate).bind fun _ => .pure _
  | setQueueDepth c depth => exact (h.setQueueDepth c depth).bind fun _ => .pure _
  | setPublishing c enable => cases quiet
  | requestSetting field n => exact (h.requestSetting field n).bind fun _ => .pure _
  | setLowPass c cutoff => exact (h.setLowPass c cutoff).bind fun _ => .pure _
  | lowPass c => exact (h.lowPass c).bind fun _ => .pure _
  | setCalibration c cal => exact (h.setCalibration c cal).bind fun _ => .pure _
  | selfTest c => exact h.driver_bind (fun _ => rfl) fun _ => .pure _
  | dumpRegisters => exact h.dumpRegisters.bind fun _ => .pure _
  | toggleLogging => cases quiet

end Parallel

/-- A command that ends alike on two rigs is answered alike. -/
theorem Command.runOn_of_alike {R : Rig → Rig → Prop} {command : Command} {rig other : Rig}
    (alike : Alike R (command.run rig) (command.run other)) :
    (command.runOn rig).1 = (command.runOn other).1 ∧
      R (command.runOn rig).2 (command.runOn other).2 := by
  unfold Command.runOn
  revert alike
  generalize command.run rig = first, command.run other = second
  rintro (⟨reply, related⟩ | ⟨e, related⟩)
  · exact ⟨rfl, related⟩
  · exact ⟨rfl, related⟩

end ECompass
