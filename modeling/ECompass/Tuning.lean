import ECompass.Acquisition

/-!
# Tuning

Operations that change how the driver works: polling, queue depths, publishing, the settings of the
chip, the filter and the calibrations. A request that is not acceptable changes nothing. An
accepted setting is in force for the driver before it is written to the chip.
-/

namespace ECompass

open Operation

/-! ### Polling -/

/-- Discards what is queued and arms the triggers of the channels that have a poll rate. -/
def start : Operation Unit := do
  let (calls, scheduler) := (← driver).scheduler.start
  onDriver fun d => { d.flushAll with scheduler }
  callTimer calls

/-- Disarms both triggers. -/
def stop : Operation Unit := do
  let (calls, scheduler) := (← driver).scheduler.stop
  onDriver fun d => { d with scheduler }
  callTimer calls

/-- Stops polling and gives the surroundings back. -/
def release : Operation Bench := do
  stop
  return (← get).bench

/-- Designs the accelerometer filter for its poll interval. -/
def Driver.followPolling (d : Driver) : Driver :=
  d.redesign (pollingRate (d.scheduler.interval.get .accel))

/-- Changes the poll rate of a channel. If that starts the triggers anew, what is queued is
discarded; the accelerometer filter follows a new rate of its channel. -/
def setPollRate (c : Channel) (rate : PollRate) : Operation Unit := do
  match (← driver).scheduler.setPollRate c rate with
  | none => throw .invalidConfig
  | some (outcome, calls, scheduler) =>
    callTimer calls
    onDriver fun d => { d with scheduler }
    if outcome = .started then onDriver Driver.flushAll
    if c = .accel ∧ outcome ≠ .stopped then onDriver Driver.followPolling

/-! ### Queues and publishing -/

/-- Changes how many samples of a channel are kept. -/
def setQueueDepth (c : Channel) (depth : Nat) : Operation Unit := do
  match ((← driver).queue.get c).resize depth with
  | none => throw .invalidConfig
  | some queue => onDriver fun d => d.onQueue c fun _ => queue

/-- Chooses whether the samples of a channel are published. -/
def setPublishing (c : Channel) (enable : Bool) : Operation Unit :=
  onDriver fun d => { d with publishing := d.publishing.set c enable }

/-! ### Settings and calibration -/

/-- Puts a setting into force and programs it. -/
def requestSetting (field : Field) (request : Nat) : Operation Unit := do
  match (← driver).config.request field request with
  | none => throw .outOfRange
  | some config =>
    onDriver fun d => { d with config }
    applyUpdate (config.update field)

/-- Replaces the calibration of a channel. -/
def setCalibration (c : Channel) (cal : Calibration) : Operation Unit := do
  match (← driver).config.calibrate c cal with
  | none => throw .invalidConfig
  | some config => onDriver fun d => { d with config }

/-- Sets the cutoff of a channel's filter, which is then designed for the output rate of the chip.
The magnetometer has no filter. -/
def setLowPass (c : Channel) (cutoff : Float32) : Operation Unit := do
  match c with
  | .accel => onDriver fun d => { d with filter := .design d.outputRate cutoff }
  | .mag => throw .invalidConfig

/-- The cutoff of a channel's filter. -/
def lowPass (c : Channel) : Operation Float32 := do
  match c with
  | .accel => return (← driver).filter.cutoff
  | .mag => throw .invalidConfig

/-! ### Diagnostics -/

/-- Reads every diagnostic register. -/
def dumpRegisters : Operation RegisterDump := do
  onBus (RegisterDump.capture (← driver).expected (← now))

/-- Switches the diagnostic log on or off, and gives its new state. -/
def toggleLogging : Operation Bool := do
  onDriver fun d => { d with monitor := d.monitor.toggle }
  return (← driver).monitor.logging

end ECompass
