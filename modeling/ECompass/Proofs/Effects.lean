import ECompass.Proofs.Sessions

/-!
# What operations leave alone

Most of what an operation does stays out of sight of its callers: transfers, expected control
values, counters, notices. `Rig.Steady` relates rigs whose queues, filter and polling are the same,
and most parts of operations are steady.

What changes a queue, the filter or the polling is little: a design of the filter, a sample that is
kept, a change of a queue, a measurement that is put off, and the three requests that arm and disarm
triggers. A preorder that all of these move within is one that every command moves within
(`Drives`); without the three requests it is one for the commands that leave the polling alone
(`Serves`).

A reset is told exactly (`reset_programs`): but for the registers and the expected control values it
empties the filter and counts samples from zero, and all of its transfers move a single byte. So are
a measurement that is put off (`putOff_apply`) and a change of poll rate (`setPollRate_apply`).
-/

namespace ECompass

open Program Operation

/-! ### Single bytes -/

/-- Whether a header announces several bytes. -/
def Header.isBurst : Header → Bool
  | .direct _ _ length => 1 < length
  | .framed command => Frame.advances command

namespace Bus

theorem isBurst_header (bus : Bus) (direction : Direction) (address : UInt8) (n : Nat) :
    (bus.header direction address n).isBurst = decide (1 < n) := by
  unfold header
  split
  · rfl
  · exact Frame.advances_command direction address n

/-- From one bus to the other every transfer moved a single byte. -/
def Singly (bus next : Bus) : Prop :=
  ∃ made, next.transfers = bus.transfers ++ made ∧ ∀ t ∈ made, t.header.isBurst = false

instance : IsPreorder Bus Singly where
  refl bus := ⟨[], (List.append_nil _).symm, fun _ h => absurd h List.not_mem_nil⟩
  trans := by
    rintro bus mid next ⟨made, eq, single⟩ ⟨made', eq', single'⟩
    refine ⟨made ++ made', by rw [eq', eq, List.append_assoc], fun t ht => ?_⟩
    rcases List.mem_append.1 ht with ht | ht
    · exact single t ht
    · exact single' t ht

theorem singly_noted (bus : Bus) (direction : Direction) (address : UInt8)
    (data : Option (List UInt8)) : bus.Singly (bus.noted direction address 1 data) := by
  refine ⟨_, transfers_noted .., fun t ht => ?_⟩
  rw [List.mem_singleton.1 ht, isBurst_header]
  rfl

theorem readRegister_singly (r : Register) : Within Singly (readRegister r) := by
  intro bus
  rw [Ends, readRegister_apply]
  cases bus.fails .read <;> exact singly_noted ..

theorem writeRegister_singly (r : Register) (value : UInt8) :
    Within Singly (writeRegister r value) := by
  intro bus
  rw [Ends, writeRegister_apply]
  cases bus.fails .write
  · exact singly_noted { bus with chip := bus.chip.write r.addr value } ..
  · exact singly_noted ..

theorem update_singly (u : RegisterUpdate) : Within Singly (update u) :=
  (readRegister_singly _).bind fun _ => writeRegister_singly _ _

end Bus

/-! ### Programming -/

/-- From one rig to the other only transfers of single bytes were made and control values were
expected. -/
def Rig.Programmed (rig next : Rig) : Prop :=
  ∃ expected bus, rig.bench.bus.Singly bus ∧
    next = { driver := { rig.driver with expected }, bench := { rig.bench with bus } }

instance : IsPreorder Rig Rig.Programmed where
  refl rig := ⟨_, _, refl_of Bus.Singly rig.bench.bus, rfl⟩
  trans := by
    rintro rig mid next ⟨_, _, single, rfl⟩ ⟨_, _, single', rfl⟩
    exact ⟨_, _, trans_of Bus.Singly single single', rfl⟩

theorem onBus_programs {α : Type} {program : BusM α} (h : Within Bus.Singly program) :
    Within Rig.Programmed (onBus program) := fun rig =>
  onBus_ends <| (h rig.bench.bus).mono (fun _ _ single => ⟨_, _, single, rfl⟩)
    fun _ _ single => ⟨_, _, single, rfl⟩

theorem onDriver_expects {f : Driver → Driver}
    (h : ∀ d : Driver, ∃ expected, f d = { d with expected }) :
    Within Rig.Programmed (onDriver f) := by
  intro rig
  obtain ⟨expected, eq⟩ := h rig.driver
  refine ⟨expected, rig.bench.bus, refl_of Bus.Singly _, ?_⟩
  rw [← eq]

theorem driver_programs : Within Rig.Programmed driver := fun rig => refl_of Rig.Programmed rig

theorem programControl_programs (c : Channel) : Within Rig.Programmed (programControl c) :=
  driver_programs.bind fun _ => (onBus_programs (Bus.writeRegister_singly _ _)).bind fun _ =>
    onDriver_expects fun _ => ⟨_, rfl⟩

theorem applyUpdate_programs (u : RegisterUpdate) : Within Rig.Programmed (applyUpdate u) :=
  (onBus_programs (Bus.update_singly u)).bind fun _ => onDriver_expects fun _ => ⟨_, rfl⟩

theorem programSettings_programs (c : Channel) : Within Rig.Programmed (programSettings c) :=
  driver_programs.bind fun _ => Within.forM fun u _ => applyUpdate_programs u

theorem isHealthy_programs (c : Channel) : Within Rig.Programmed (isHealthy c) :=
  (onBus_programs (Bus.readRegister_singly _)).bind fun _ => driver_programs.bind fun _ => .pure _

/-- What a reset does up to the point where it empties the filter. -/
def programChip : Operation Unit := do
  onBus (interfaceUpdates.forM Bus.update)
  programControl .accel
  programControl .mag
  onBus (Bus.writeRegister .ctrl5 magHighResolution)
  onBus (Bus.writeRegister .ctrl3 accelReadyRouting)
  onBus (Bus.writeRegister .ctrl4 magReadyRouting)
  programSettings .accel

theorem programChip_programs : Within Rig.Programmed programChip :=
  (onBus_programs (Within.forM fun u _ => Bus.update_singly u)).bind fun _ =>
    (programControl_programs .accel).bind fun _ => (programControl_programs .mag).bind fun _ =>
    (onBus_programs (Bus.writeRegister_singly _ _)).bind fun _ =>
    (onBus_programs (Bus.writeRegister_singly _ _)).bind fun _ =>
    (onBus_programs (Bus.writeRegister_singly _ _)).bind fun _ => programSettings_programs .accel

theorem reset_eq_programChip : reset = (do
    programChip
    onDriver Driver.clearFilter
    programSettings .mag
    onDriver Driver.restartReads) := by
  unfold reset programChip
  simp only [bind_assoc]

/-- A reset that succeeds has emptied the filter and counts samples from zero; one that fails has
perhaps emptied the filter. Apart from that a reset only programs. -/
theorem reset_programs (rig : Rig) : Ends reset rig
    (fun _ next => Rig.Programmed
      { rig with driver := rig.driver.clearFilter.restartReads } next)
    (fun _ next => rig.Programmed next ∨
      Rig.Programmed { rig with driver := rig.driver.clearFilter } next) := by
  have through {f : Driver → Driver} (commutes : ∀ d expected, f { d with expected } =
      { f d with expected }) {mid : Rig} (h : rig.Programmed mid) :
      Rig.Programmed { rig with driver := f rig.driver } { mid with driver := f mid.driver } := by
    obtain ⟨expected, bus, single, rfl⟩ := h
    exact ⟨expected, bus, single, congrArg (Rig.mk · _) (commutes rig.driver expected)⟩
  rw [reset_eq_programChip]
  refine ((programChip_programs rig).mono (fun _ _ h => h) fun _ _ h => .inl h).bind
    fun _ mid programmed => ?_
  have cleared := through (f := Driver.clearFilter) (fun _ _ => rfl) programmed
  refine Ends.bind (Q := fun _ next => Rig.Programmed
    { rig with driver := rig.driver.clearFilter } next) cleared fun _ mid cleared => ?_
  refine ((programSettings_programs .mag mid).mono
    (fun _ _ h => trans_of Rig.Programmed cleared h)
    fun _ _ h => .inr (trans_of Rig.Programmed cleared h)).bind fun _ mid programmed => ?_
  obtain ⟨expected, bus, single, rfl⟩ := programmed
  exact ⟨expected, bus, single, rfl⟩

/-! ### Steady parts -/

/-- Queues, filter and polling are as they were. -/
structure Rig.Steady (rig next : Rig) : Prop where
  /-- The queues. -/
  queue : next.driver.queue = rig.driver.queue
  /-- The filter. -/
  filter : next.driver.filter = rig.driver.filter
  /-- The poll intervals, and whether the triggers are armed. -/
  scheduler : next.driver.scheduler = rig.driver.scheduler
  /-- The calls on the timer. -/
  calls : next.bench.timer.calls = rig.bench.timer.calls

instance : IsPreorder Rig Rig.Steady where
  refl _ := ⟨rfl, rfl, rfl, rfl⟩
  trans _ _ _ h h' := ⟨h'.queue.trans h.queue, h'.filter.trans h.filter,
    h'.scheduler.trans h.scheduler, h'.calls.trans h.calls⟩

theorem Rig.Programmed.steady {rig next : Rig} (h : rig.Programmed next) : rig.Steady next := by
  obtain ⟨_, _, -, rfl⟩ := h
  exact ⟨rfl, rfl, rfl, rfl⟩

section Steady

variable {α : Type}

theorem within_steady_of_programs {operation : Operation α}
    (h : Within Rig.Programmed operation) : Within Rig.Steady operation :=
  h.mono fun _ _ => Rig.Programmed.steady

theorem onBus_steady (program : BusM α) : Within Rig.Steady (onBus program) := fun _ =>
  onBus_ends <| Ends.trivial.mono (fun _ _ _ => ⟨rfl, rfl, rfl, rfl⟩)
    fun _ _ _ => ⟨rfl, rfl, rfl, rfl⟩

theorem attempt_steady (program : BusM α) : Within Rig.Steady (attempt program) := fun _ =>
  attempt_ends <| Ends.trivial.mono (fun _ _ _ => ⟨rfl, rfl, rfl, rfl⟩)
    fun _ _ _ => ⟨rfl, rfl, rfl, rfl⟩

theorem driver_steady : Within Rig.Steady driver := fun rig => refl_of Rig.Steady rig

theorem now_steady : Within Rig.Steady now := fun rig => refl_of Rig.Steady rig

theorem tell_steady (n : Notice) : Within Rig.Steady (tell n) := fun _ => ⟨rfl, rfl, rfl, rfl⟩

theorem isReady_steady (c : Channel) : Within Rig.Steady (isReady c) := by
  cases c <;> exact fun rig => refl_of Rig.Steady rig

theorem readBurst_steady (c : Channel) : Within Rig.Steady (readBurst c) :=
  (onBus_steady _).bind fun _ => .pure _

theorem watch_steady (s : Sample) : Within Rig.Steady (watch s) := by
  refine driver_steady.bind fun d => Within.bind (fun _ => ⟨rfl, rfl, rfl, rfl⟩) fun _ => ?_
  split
  · exact .pure _
  · refine Within.bind (fun _ => ⟨rfl, rfl, rfl, rfl⟩) fun _ => ?_
    split
    · exact driver_steady.bind fun _ => (attempt_steady _).bind fun _ => tell_steady _
    · exact tell_steady _

theorem announce_steady (c : Channel) (s : Sample) (publish : Bool) :
    Within Rig.Steady (announce c s publish) := by
  cases c <;> cases publish
  · exact (tell_steady _).bind fun _ => watch_steady s
  · exact (tell_steady _).bind fun _ => (tell_steady _).bind fun _ => watch_steady s
  · exact (tell_steady _).bind fun _ => .pure _
  · exact (tell_steady _).bind fun _ => (tell_steady _).bind fun _ => .pure _

theorem readIdentity_steady : Within Rig.Steady readIdentity := onBus_steady _

theorem connect_steady : Within Rig.Steady connect := by
  refine readIdentity_steady.bind fun _ => readIdentity_steady.bind fun _ => ?_
  split
  · exact .throw _
  · exact .pure _

theorem requestSetting_steady (field : Field) (request : Nat) :
    Within Rig.Steady (requestSetting field request) := by
  refine driver_steady.bind fun d => ?_
  split
  · exact .throw _
  · exact Within.bind (fun _ => ⟨rfl, rfl, rfl, rfl⟩) fun _ =>
      within_steady_of_programs (applyUpdate_programs _)

theorem setPublishing_steady (c : Channel) (enable : Bool) :
    Within Rig.Steady (setPublishing c enable) := fun _ => ⟨rfl, rfl, rfl, rfl⟩

theorem setCalibration_steady (c : Channel) (cal : Calibration) :
    Within Rig.Steady (setCalibration c cal) := by
  refine driver_steady.bind fun d => ?_
  split
  · exact .throw _
  · exact fun _ => ⟨rfl, rfl, rfl, rfl⟩

theorem lowPass_steady (c : Channel) : Within Rig.Steady (lowPass c) := by
  cases c
  · exact driver_steady.bind fun _ => .pure _
  · exact .throw _

theorem dumpRegisters_steady : Within Rig.Steady dumpRegisters :=
  driver_steady.bind fun _ => now_steady.bind fun _ => onBus_steady _

theorem toggleLogging_steady : Within Rig.Steady toggleLogging :=
  Within.bind (fun _ => ⟨rfl, rfl, rfl, rfl⟩) fun _ => driver_steady.bind fun _ => .pure _

end Steady

/-! ### Calls on the timer -/

/-- A measurement that is put off is counted, and the trigger is called if it is armed. -/
theorem putOff_apply (c : Channel) (rig : Rig) : putOff c rig = .ok ()
    { driver := rig.driver.countReschedule
      bench := { rig.bench with timer.calls := rig.bench.timer.calls ++
        if rig.driver.scheduler.isActive c then Scheduler.retry c retryDelay else [] } } := by
  show (if rig.driver.scheduler.isActive c then callTimer _ else pure () : Operation Unit)
    { rig with driver := rig.driver.countReschedule } = _
  by_cases active : rig.driver.scheduler.isActive c
  · rw [if_pos active, if_pos active]
    rfl
  · rw [if_neg active, if_neg active, List.append_nil]
    rfl

/-- The driver after a change of poll rate that the scheduler has answered. -/
def Driver.adopt (d : Driver) (c : Channel) (outcome : Reschedule) (scheduler : Scheduler) :
    Driver :=
  let d := { d with scheduler }
  let d := if outcome = .started then d.flushAll else d
  if c = .accel ∧ outcome ≠ .stopped then d.followPolling else d

section Adopt

variable (d : Driver) (c : Channel) (outcome : Reschedule) (scheduler : Scheduler)

@[simp] theorem Driver.scheduler_adopt : (d.adopt c outcome scheduler).scheduler = scheduler := by
  unfold adopt
  split <;> split <;> rfl

/-- Only a start of the triggers discards what is queued. -/
theorem Driver.queue_adopt : (d.adopt c outcome scheduler).queue =
    if outcome = .started then d.queue.map SampleQueue.flush else d.queue := by
  unfold adopt
  split <;> split <;> rfl

/-- The filter follows an accelerometer rate, and keeps its cutoff. -/
theorem Driver.filter_adopt : (d.adopt c outcome scheduler).filter =
    if c = .accel ∧ outcome ≠ .stopped then
      .design (pollingRate (scheduler.interval.get .accel)) d.filter.cutoff
    else d.filter := by
  unfold adopt
  by_cases follows : c = .accel ∧ outcome ≠ .stopped
  · rw [if_pos follows, if_pos follows]
    split <;> rfl
  · rw [if_neg follows, if_neg follows]
    split <;> rfl

end Adopt

/-- A poll rate is refused, and nothing changes, or the scheduler answers it, the triggers are
called, and the driver adopts the answer. -/
theorem setPollRate_apply (c : Channel) (rate : PollRate) (rig : Rig) : setPollRate c rate rig =
    match rig.driver.scheduler.setPollRate c rate with
    | none => .error .invalidConfig rig
    | some (outcome, calls, scheduler) => .ok ()
      { driver := rig.driver.adopt c outcome scheduler
        bench := { rig.bench with timer.calls := rig.bench.timer.calls ++ calls } } := by
  unfold setPollRate
  rw [bind_apply]
  show (match rig.driver.scheduler.setPollRate c rate with
    | none => _
    | some (outcome, calls, scheduler) => _ : Operation Unit) rig = _
  cases rig.driver.scheduler.setPollRate c rate with
  | none => rfl
  | some answer =>
    obtain ⟨outcome, calls, scheduler⟩ := answer
    unfold Driver.adopt
    cases c <;> cases outcome <;> rfl

/-! ### Commands -/

/-- Whether a command arms or disarms triggers. -/
def Command.schedules : Command → Bool
  | .start => true
  | .stop => true
  | .setPollRate _ _ => true
  | _ => false

/-- Whatever the driver does between changes of its polling, it moves the rig within `R`. -/
structure Serves (R : Rig → Rig → Prop) : Prop where
  /-- Steps that leave queues, filter and polling alone. -/
  steady : ∀ {rig next}, rig.Steady next → R rig next
  /-- The filter is designed anew. -/
  design : ∀ rig rate cutoff, R rig { rig with driver.filter := .design rate cutoff }
  /-- A sample is kept. -/
  keep : ∀ rig c raw, R rig (rig.keep c raw)
  /-- The queues change. -/
  queue : ∀ rig queue, R rig { rig with driver.queue := queue }
  /-- A measurement is put off. -/
  putOff : ∀ c, Within R (putOff c)

/-- Whatever the driver does, it moves the rig within `R`. -/
structure Drives (R : Rig → Rig → Prop) : Prop extends Serves R where
  /-- The triggers are armed. -/
  start : Within R start
  /-- The triggers are disarmed. -/
  stop : Within R stop
  /-- A poll rate changes. -/
  setPollRate : ∀ c rate, Within R (setPollRate c rate)

namespace Serves

variable {R : Rig → Rig → Prop}

theorem within_steady (h : Serves R) {α : Type} {operation : Operation α}
    (steady : Within Rig.Steady operation) : Within R operation :=
  steady.mono fun _ _ => h.steady

variable [IsPreorder Rig R]

theorem reset (h : Serves R) : Within R reset := by
  intro rig
  have cleared : R rig { rig with driver := rig.driver.clearFilter } := h.design rig _ _
  refine (reset_programs rig).mono (fun _ next programmed => ?_) fun _ next programmed => ?_
  · have restarted : Rig.Steady { rig with driver := rig.driver.clearFilter }
      { rig with driver := rig.driver.clearFilter.restartReads } := ⟨rfl, rfl, rfl, rfl⟩
    exact trans_of R cleared (h.steady (trans_of Rig.Steady restarted programmed.steady))
  · rcases programmed with programmed | programmed
    · exact h.steady programmed.steady
    · exact trans_of R cleared (h.steady programmed.steady)

theorem commit (h : Serves R) (c : Channel) (raw : Axes Int16) : Within R (commit c raw) := by
  intro rig
  rw [Ends, commit_apply]
  have announced := h.within_steady (announce_steady c (rig.sample c raw)
    (rig.driver.publishing.get c)) (rig.keep c raw)
  exact announced.mono (fun _ _ moved => trans_of R (h.keep rig c raw) moved)
    fun _ _ moved => trans_of R (h.keep rig c raw) moved

theorem measure (h : Serves R) (c : Channel) : Within R (measure c) := by
  have recovery : Within R (do recover c; return Measurement.recovered) := by
    refine Within.bind (Within.bind ?_ fun _ => h.reset) fun _ => .pure _
    exact fun _ => h.steady ⟨rfl, rfl, rfl, rfl⟩
  have acquisition : Within R (acquire c) :=
    (h.within_steady (readBurst_steady c)).bind fun _ => (h.commit c _).bind fun _ => .pure _
  have check : Within R
      (do if ← isHealthy c then acquire c else do recover c; return .recovered) := by
    refine (h.within_steady (within_steady_of_programs (isHealthy_programs c))).bind
      fun healthy => ?_
    cases healthy
    · exact recovery
    · exact acquisition
  refine (h.within_steady (isReady_steady c)).bind fun ready => ?_
  cases ready
  · exact (h.putOff c).bind fun _ => .pure _
  · exact check

theorem onTimer (h : Serves R) (c : Channel) : Within R (onTimer c) := by
  refine (h.within_steady driver_steady).bind fun d => ?_
  split
  · exact h.measure c
  · exact .pure _

theorem popQueue (h : Serves R) (c : Channel) : Within R (popQueue c) :=
  (h.within_steady driver_steady).bind fun _ =>
    Within.bind (fun rig => h.queue rig _) fun _ => .pure _

theorem drain (h : Serves R) (c : Channel) (room : Nat) : Within R (drain c room) := by
  refine (h.within_steady driver_steady).bind fun d => ?_
  have rest (samples : List Sample) (queue : SampleQueue Sample) : Within R (do
      onDriver fun d => d.onQueue c fun _ => queue
      return samples) := Within.bind (fun rig => h.queue rig _) fun _ => .pure _
  split
  split
  · exact (Within.throw _).bind fun _ => rest _ _
  · exact rest _ _

theorem readSamples (h : Serves R) (c : Channel) (room : Nat) : Within R (readSamples c room) := by
  have fresh : Within R (measureAndTake c) := by
    refine Within.bind (fun rig => h.queue rig _) fun _ => (h.measure c).bind fun outcome => ?_
    cases outcome
    case sampled => exact (h.popQueue c).bind fun _ => .pure _
    all_goals exact .pure _
  rw [readSamples_eq]
  unfold sampling
  split
  · exact .throw _
  · refine (h.within_steady driver_steady).bind fun d => ?_
    split
    · exact h.drain c room
    · exact fresh

theorem setQueueDepth (h : Serves R) (c : Channel) (depth : Nat) :
    Within R (setQueueDepth c depth) := by
  refine (h.within_steady driver_steady).bind fun d => ?_
  split
  · exact .throw _
  · exact fun rig => h.queue rig _

theorem setLowPass (h : Serves R) (c : Channel) (cutoff : Float32) :
    Within R (setLowPass c cutoff) := by
  cases c
  · exact fun rig => h.design rig _ _
  · exact .throw _

/-- A command that leaves the polling alone moves the rig within `R`. -/
theorem command (h : Serves R) {command : Command} (keeps : command.schedules = false) :
    Within R command.run := by
  have steady {α : Type} {operation : Operation α} (quiet : Within Rig.Steady operation) :
      Within R operation := h.within_steady quiet
  cases command with
  | bringUp =>
    exact (h.reset.bind fun _ => (h.measure .accel).bind fun _ => .pure _).bind fun _ => .pure _
  | reset => exact h.reset.bind fun _ => .pure _
  | whoAmI => exact (steady readIdentity_steady).bind fun _ => .pure _
  | onTimer c => exact (h.onTimer c).bind fun _ => .pure _
  | measure c => exact (h.measure c).bind fun _ => .pure _
  | readSamples c room => exact (h.readSamples c room).bind fun _ => .pure _
  | popQueue c => exact (h.popQueue c).bind fun _ => .pure _
  | flushQueue c => exact Within.bind (fun rig => h.queue rig _) fun _ => .pure _
  | start => cases keeps
  | stop => cases keeps
  | setPollRate c rate => cases keeps
  | setQueueDepth c depth => exact (h.setQueueDepth c depth).bind fun _ => .pure _
  | setPublishing c enable => exact (steady (setPublishing_steady c enable)).bind fun _ => .pure _
  | requestSetting field n => exact (steady (requestSetting_steady field n)).bind fun _ => .pure _
  | setLowPass c cutoff => exact (h.setLowPass c cutoff).bind fun _ => .pure _
  | lowPass c => exact (steady (lowPass_steady c)).bind fun _ => .pure _
  | setCalibration c cal => exact (steady (setCalibration_steady c cal)).bind fun _ => .pure _
  | selfTest c => exact (steady driver_steady).bind fun _ => .pure _
  | dumpRegisters => exact (steady dumpRegisters_steady).bind fun _ => .pure _
  | toggleLogging => exact (steady toggleLogging_steady).bind fun _ => .pure _

end Serves

namespace Drives

variable {R : Rig → Rig → Prop} [IsPreorder Rig R]

/-- Every command moves the rig within `R`. -/
theorem command (h : Drives R) (command : Command) : Within R command.run := by
  cases keeps : command.schedules with
  | false => exact h.toServes.command keeps
  | true =>
    cases command with
    | start => exact h.start.bind fun _ => .pure _
    | stop => exact h.stop.bind fun _ => .pure _
    | setPollRate c rate => exact (h.setPollRate c rate).bind fun _ => .pure _
    | _ => cases keeps

/-- A session moves the rig within `R` if its stimuli do. -/
theorem session (h : Drives R) {steps : List Step} (stimuli : StimuliWithin R steps) (rig : Rig) :
    R rig (runSession rig steps).2 :=
  runSession_within h.command stimuli

end Drives

end ECompass
