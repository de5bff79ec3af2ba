import ECompass.Diagnostics.Monitor
import ECompass.Filter.LowPass
import ECompass.SampleQueue
import ECompass.Scheduler

/-!
# Driver state

What the driver keeps between operations: the configuration, the filter of the accelerometer, a
queue and a publish flag for each channel, the scheduler, the expected control values, the counters
and the monitor. The operations in this module change the state alone; those that also reach the
bus, the timer or the sink are built from them.
-/

namespace ECompass

/-- Why an operation failed. -/
inductive Error where
  /-- A transfer failed. -/
  | bus (cause : BusError)
  /-- The chip identifies itself as something else. -/
  | invalidDevice (identity : UInt8)
  /-- The requested range, rate or bandwidth is more than the chip supports. -/
  | outOfRange
  /-- The requested poll rate, queue depth, filter or calibration is not acceptable. -/
  | invalidConfig
  /-- There is no room for a single sample. -/
  | bufferTooSmall
  /-- The channel is polled, but nothing is queued yet. -/
  | wouldBlock
  deriving DecidableEq

/-- The text of a bus error. -/
def BusError.message : BusError → String
  | .communication => "Communication"

/-- The text of an error. -/
def Error.message : Error → String
  | .bus cause => "Bus(" ++ cause.message ++ ")"
  | .invalidDevice identity => "InvalidDevice(" ++ toString identity.toNat ++ ")"
  | .outOfRange => "OutOfRange"
  | .invalidConfig => "InvalidConfig"
  | .bufferTooSmall => "BufferTooSmall"
  | .wouldBlock => "WouldBlock"

/-- The outcome of an acquisition. -/
inductive Measurement where
  /-- A sample was queued. -/
  | sampled
  /-- No data was ready. -/
  | notReady
  /-- The chip had lost its configuration and was configured anew. -/
  | recovered
  /-- The channel is not polled, so nothing was done. -/
  | inactive
  deriving DecidableEq

/-- The counters of the driver. They wrap around, except the count of extreme samples, which stays
at its largest value. -/
structure Stats where
  /-- Samples of each channel since the last completed reset. -/
  reads : PerChannel UInt32 := .both 0
  /-- Recoveries that an unexpected control value of each channel caused. -/
  recoveries : PerChannel UInt32 := .both 0
  /-- Accelerometer measurements put off because no data was ready. -/
  reschedules : UInt32 := 0
  /-- Extreme samples. -/
  extremes : Nat := 0
  deriving DecidableEq

/-- The cutoff of the accelerometer filter before any is set, in hertz. -/
def initialCutoff : Float32 := 30

/-- The state of the driver. -/
structure Driver where
  /-- The settings in force and the calibrations. -/
  config : Config := {}
  /-- The low-pass filter of the accelerometer. -/
  filter : AxisFilter
  /-- The queue of each channel. -/
  queue : PerChannel (SampleQueue Sample) := .both .empty
  /-- Whether the samples of a channel are published. -/
  publishing : PerChannel Bool := .both true
  /-- The poll intervals. -/
  scheduler : Scheduler := .initial
  /-- The control values that the chip should hold. -/
  expected : Expected := .initial
  /-- The counters. -/
  stats : Stats := {}
  /-- The watch for extreme samples. -/
  monitor : Monitor := {}
  deriving DecidableEq

namespace Driver

/-- The rate in hertz at which the chip produces accelerometer samples. -/
def outputRate (d : Driver) : Float32 := .ofNat d.config.accelRate.hertz

/-- A driver before its first operation; the filter is designed for the output rate. -/
def initial : Driver where
  filter := .design (.ofNat AccelRate.hz800.hertz) initialCutoff

/-! ### Queues -/

/-- Changes the queue of one channel. -/
def onQueue (d : Driver) (c : Channel) (f : SampleQueue Sample → SampleQueue Sample) : Driver :=
  { d with queue := d.queue.modify c f }

/-- Discards the queued samples of both channels. -/
def flushAll (d : Driver) : Driver := { d with queue := d.queue.map SampleQueue.flush }

/-! ### Filter -/

/-- Designs the filter anew for the cutoff it has. -/
def redesign (d : Driver) (sampleRate : Float32) : Driver :=
  { d with filter := .design sampleRate d.filter.cutoff }

/-- Designs the filter anew as it was, which empties it. -/
def clearFilter (d : Driver) : Driver := d.redesign d.filter.sampleRate

/-- The rate in hertz of a poll interval in microseconds. -/
def pollingRate (interval : Nat) : Float32 := 1e6 / .ofNat interval

/-! ### Samples -/

/-- Filters a calibrated reading; only the accelerometer has a filter. -/
def smooth (d : Driver) (c : Channel) (reading : Axes Float32) : Axes Float32 × Driver :=
  match c with
  | .accel =>
    let (smoothed, filter) := d.filter.apply reading
    (smoothed, { d with filter })
  | .mag => (reading, d)

/-- The sample that raw counts give at a time, and the driver with its filter moved on. -/
def convert (d : Driver) (c : Channel) (raw : Axes Int16) (now : Nat) : Sample × Driver :=
  let scaling := d.config.scaling c
  let calibrated := (d.config.calibration.get c).apply scaling raw
  let (reading, next) := d.smooth c calibrated
  ({ timestamp := now
     transferErrors := 0
     raw := raw
     reading := reading
     scaling := scaling
     fullScale := d.config.fullScale c }, next)

/-- Queues and counts a sample. -/
def keep (d : Driver) (c : Channel) (s : Sample) : Driver :=
  let d := d.onQueue c fun queue => (queue.push s).2
  { d with stats.reads := d.stats.reads.modify c (· + 1) }

/-! ### Counters -/

/-- Counts a measurement that was put off. -/
def countReschedule (d : Driver) : Driver :=
  { d with stats.reschedules := d.stats.reschedules + 1 }

/-- Counts a recovery that a channel's control value caused. -/
def countRecovery (d : Driver) (c : Channel) : Driver :=
  { d with stats.recoveries := d.stats.recoveries.modify c (· + 1) }

/-- Starts counting samples from zero. -/
def restartReads (d : Driver) : Driver := { d with stats.reads := .both 0 }

/-! ### Expected control values -/

/-- Expects a control value of a channel. -/
def expect (d : Driver) (c : Channel) (value : UInt8) : Driver :=
  { d with expected := d.expected.set c value }

/-- Follows an update that was written. -/
def track (d : Driver) (u : RegisterUpdate) : Driver :=
  { d with expected := Expected.track d.expected u }

/-! ### Self-test -/

/-- Offsets below this size count as never calibrated, and so do scales this close to unity. -/
def calibrationThreshold : Float32 := 1e-6

/-- The largest distance of a calibrated scale from unity. -/
def maxScaleDeviation : Float32 := 0.4

/-- Whether an offset has been calibrated. -/
def offsetCalibrated (offset : Float32) : Bool := calibrationThreshold ≤ offset.abs

/-- Whether a scale has been calibrated, and to a value near unity. -/
def scaleCalibrated (scale : Float32) : Bool :=
  let deviation := (scale - 1).abs
  calibrationThreshold ≤ deviation && deviation ≤ maxScaleDeviation

/-- Whether a channel has brought samples and is calibrated. The scales of the magnetometer are not
looked at. -/
def selfTest (d : Driver) (c : Channel) : Bool :=
  let cal := d.config.calibration.get c
  d.stats.reads.get c != 0 && cal.offset.all offsetCalibrated &&
    (c = .mag || cal.scale.all scaleCalibrated)

/-- Whether the magnetometer sits outside the housing of the flight controller. -/
def magIsExternal (_ : Driver) : Bool := false

end Driver

end ECompass
