import ECompass.Rig

/-!
# Acquisition

Configuring the chip and taking measurements.

A reset writes the whole configuration to the chip. A measurement first makes sure that data is
ready, then that the channel's control register still holds the expected value: if it does not, the
chip has lost power, and a reset takes the place of the measurement. Otherwise one burst is read,
turned into a sample, queued, and made known to the sink; accelerometer samples also go to the
monitor.
-/

namespace ECompass

open Operation

/-! ### Reset -/

/-- The updates that keep the chip from taking traffic on a shared bus for its I2C interface, by
the undocumented interface registers. -/
def interfaceUpdates : List RegisterUpdate :=
  [⟨.i2cControl1, 0x00, 0x10⟩, ⟨.i2cControl1, 0x08, 0x00⟩, ⟨.i2cControl2, 0x00, 0x80⟩,
    ⟨.i2cControl1, 0x18, 0x00⟩]

/-- Magnetometer resolution bits for the high resolution. -/
def magHighResolution : UInt8 := 0b01100000

/-- Routes the accelerometer's data-ready signal to the first interrupt line. -/
def accelReadyRouting : UInt8 := 0x04

/-- Routes the magnetometer's data-ready signal to the second interrupt line. -/
def magReadyRouting : UInt8 := 0x04

namespace Driver

/-- The value that a reset writes to the control register of a channel. -/
def control (d : Driver) : Channel → UInt8
  | .accel => accelEnables ||| Setting.bits d.config.accelRate
  | .mag => magContinuous

end Driver

/-- Writes the control register of a channel and expects the value from then on. -/
def programControl (c : Channel) : Operation Unit := do
  let value := (← driver).control c
  onBus (Bus.writeRegister c.control value)
  onDriver fun d => d.expect c value

/-- Carries out an update on the chip and then follows it. -/
def applyUpdate (u : RegisterUpdate) : Operation Unit := do
  onBus (Bus.update u)
  onDriver fun d => d.track u

/-- Programs every setting of a channel. -/
def programSettings (c : Channel) : Operation Unit := do
  ((← driver).config.updates c).forM applyUpdate

/-- Configures the chip anew. Every range, rate and bandwidth is written, the filter is emptied and
samples are counted from zero. -/
def reset : Operation Unit := do
  onBus (interfaceUpdates.forM Bus.update)
  programControl .accel
  programControl .mag
  onBus (Bus.writeRegister .ctrl5 magHighResolution)
  onBus (Bus.writeRegister .ctrl3 accelReadyRouting)
  onBus (Bus.writeRegister .ctrl4 magReadyRouting)
  programSettings .accel
  onDriver Driver.clearFilter
  programSettings .mag
  onDriver Driver.restartReads

/-! ### Measurements -/

/-- Whether a channel has data. The magnetometer's line is not wired, and an accelerometer line
that cannot be read counts as not ready. -/
def isReady (c : Channel) : Operation Bool := do
  match c with
  | .accel => return (← get).bench.dataReady = .high
  | .mag => return true

/-- Delay in microseconds before a measurement that found no data is tried again. -/
def retryDelay : Nat := 100

/-- Counts a measurement that found no data, and puts the trigger off if it is armed. -/
def putOff (c : Channel) : Operation Unit := do
  onDriver Driver.countReschedule
  if (← driver).scheduler.isActive c then callTimer (Scheduler.retry c retryDelay)

/-- Whether the control register of a channel holds the expected value. -/
def isHealthy (c : Channel) : Operation Bool := do
  let value ← onBus (Bus.readRegister c.control)
  return value = (← driver).expected.get c

/-- Counts a recovery and configures the chip anew. -/
def recover (c : Channel) : Operation Unit := do
  onDriver fun d => d.countRecovery c
  reset

/-- Reads one burst of a channel. -/
def readBurst (c : Channel) : Operation Burst := do
  let bytes ← onBus (Bus.readBurst c.status Burst.length)
  return .ofBytes bytes

/-- Shows a sample to the monitor and passes on the record, with a register dump if one is due and
can be read. -/
def watch (s : Sample) : Operation Unit := do
  let (record, monitor) := (← driver).monitor.observe s s.timestamp
  onDriver fun d => { d with monitor }
  match record with
  | none => return ()
  | some record =>
    onDriver fun d => { d with stats.extremes := monitor.extremes }
    if record.actions.registers then
      let registers ← attempt (RegisterDump.capture (← driver).expected s.timestamp)
      tell (.diagnostic { record with registers })
    else tell (.diagnostic record)

/-- Turns raw counts into a sample, queues it and makes it known. -/
def commit (c : Channel) (raw : Axes Int16) : Operation Unit := do
  let (sample, next) := (← driver).convert c raw (← now)
  onDriver fun _ => next.keep c sample
  tell (.queued c)
  if next.publishing.get c then tell (.published c sample)
  match c with
  | .accel => watch sample
  | .mag => return ()

/-- Takes one measurement of a channel. -/
def measure (c : Channel) : Operation Measurement := do
  if ← isReady c then
    if ← isHealthy c then
      let burst ← readBurst c
      commit c burst.raw
      return .sampled
    else
      recover c
      return .recovered
  else
    putOff c
    return .notReady

/-- Answers a firing of a channel's trigger: a measurement, if the channel is polled. -/
def onTimer (c : Channel) : Operation Measurement := do
  if (← driver).scheduler.isActive c then measure c else return .inactive

/-! ### Start of operation -/

/-- The identification of the chip. -/
def identity : UInt8 := 0x49

/-- Reads the identification register. -/
def readIdentity : Operation UInt8 := onBus (Bus.readRegister .whoAmI)

/-- Makes sure that the chip is the right one. The first transfer after power has come on may bring
anything, so its value is ignored. -/
def connect : Operation Unit := do
  let _ ← readIdentity
  let value ← readIdentity
  if value ≠ identity then throw (.invalidDevice value)

/-- Configures the chip and takes a first accelerometer measurement. -/
def bringUp : Operation Unit := do
  reset
  let _ ← measure .accel
  return ()

/-! ### Queues -/

/-- Takes the oldest queued sample of a channel. -/
def popQueue (c : Channel) : Operation (Option Sample) := do
  let (sample, rest) := ((← driver).queue.get c).pop
  onDriver fun d => d.onQueue c fun _ => rest
  return sample

/-- Discards the queued samples of a channel. -/
def flushQueue (c : Channel) : Operation Unit := onDriver fun d => d.onQueue c SampleQueue.flush

end ECompass
