import ECompass.Reader
import ECompass.Tuning

/-!
# Commands, stimuli and sessions

Everything that can happen to a rig, as data: the commands that are given to the driver, with their
replies, and the stimuli that act on the surroundings. A session is a list of both; running it folds
its steps over the rig, and an error ends a command but not the session.

Stimuli never touch the driver, and commands reach the surroundings only through the bus, the timer
and the sink.
-/

namespace ECompass

open Operation

/-- A command to the driver. -/
inductive Command where
  /-- Configure the chip and take a first measurement. -/
  | bringUp
  /-- Configure the chip. -/
  | reset
  /-- Read the identification. -/
  | whoAmI
  /-- Answer a firing of a trigger. -/
  | onTimer (c : Channel)
  /-- Take a measurement. -/
  | measure (c : Channel)
  /-- Read samples into a buffer with some room. -/
  | readSamples (c : Channel) (room : Nat)
  /-- Take the oldest sample straight from a queue. -/
  | popQueue (c : Channel)
  /-- Discard the samples of a queue. -/
  | flushQueue (c : Channel)
  /-- Start polling. -/
  | start
  /-- Stop polling. -/
  | stop
  /-- Change a poll rate. -/
  | setPollRate (c : Channel) (rate : PollRate)
  /-- Change a queue depth. -/
  | setQueueDepth (c : Channel) (depth : Nat)
  /-- Choose whether samples are published. -/
  | setPublishing (c : Channel) (enable : Bool)
  /-- Request a setting of the chip. -/
  | requestSetting (field : Field) (request : Nat)
  /-- Set the cutoff of a filter. -/
  | setLowPass (c : Channel) (cutoff : Float32)
  /-- Ask for the cutoff of a filter. -/
  | lowPass (c : Channel)
  /-- Replace a calibration. -/
  | setCalibration (c : Channel) (cal : Calibration)
  /-- Ask whether a channel passes its self-test. -/
  | selfTest (c : Channel)
  /-- Read every diagnostic register. -/
  | dumpRegisters
  /-- Switch the diagnostic log. -/
  | toggleLogging
  deriving DecidableEq

/-- The reply to a command that did not fail. -/
inductive Reply where
  /-- Nothing to tell. -/
  | done
  /-- The value of a register. -/
  | byte (value : UInt8)
  /-- The outcome of a measurement. -/
  | measured (outcome : Measurement)
  /-- The samples that were read. -/
  | samples (taken : List Sample)
  /-- The sample taken from a queue, if there was one. -/
  | popped (sample : Option Sample)
  /-- The cutoff of a filter. -/
  | cutoff (hertz : Float32)
  /-- Whether a self-test was passed. -/
  | tested (passed : Bool)
  /-- A register dump. -/
  | dump (registers : RegisterDump)
  /-- Whether the diagnostic log is on. -/
  | logging (enabled : Bool)
  deriving DecidableEq

/-- Carries out a command. -/
def Command.run : Command → Operation Reply
  | .bringUp => do ECompass.bringUp; return .done
  | .reset => do ECompass.reset; return .done
  | .whoAmI => return .byte (← readIdentity)
  | .onTimer c => return .measured (← ECompass.onTimer c)
  | .measure c => return .measured (← ECompass.measure c)
  | .readSamples c room => return .samples (← ECompass.readSamples c room)
  | .popQueue c => return .popped (← ECompass.popQueue c)
  | .flushQueue c => do ECompass.flushQueue c; return .done
  | .start => do ECompass.start; return .done
  | .stop => do ECompass.stop; return .done
  | .setPollRate c rate => do ECompass.setPollRate c rate; return .done
  | .setQueueDepth c depth => do ECompass.setQueueDepth c depth; return .done
  | .setPublishing c enable => do ECompass.setPublishing c enable; return .done
  | .requestSetting field request => do ECompass.requestSetting field request; return .done
  | .setLowPass c cutoff => do ECompass.setLowPass c cutoff; return .done
  | .lowPass c => return .cutoff (← ECompass.lowPass c)
  | .setCalibration c cal => do ECompass.setCalibration c cal; return .done
  | .selfTest c => return .tested ((← driver).selfTest c)
  | .dumpRegisters => return .dump (← ECompass.dumpRegisters)
  | .toggleLogging => return .logging (← ECompass.toggleLogging)

/-- Something that happens in the surroundings of the driver. -/
inductive Stimulus where
  /-- A register takes a value. -/
  | register (address value : UInt8)
  /-- The outputs of a channel take counts. -/
  | outputs (c : Channel) (raw : Axes Int16)
  /-- Measurements wait on a channel, in place of any before. -/
  | waiting (c : Channel) (raws : List (Axes Int16))
  /-- A loss of power puts the watched control registers back to their power-on values. -/
  | brownout
  /-- After some more reads, one fails. -/
  | readFault (after : Nat)
  /-- After some more writes, one fails. -/
  | writeFault (after : Nat)
  /-- The data-ready line changes. -/
  | dataReady (level : DataReady)
  /-- The clock is set. -/
  | clock (now : Nat)
  /-- The clock moves on. -/
  | advance (microseconds : Nat)
  deriving DecidableEq

/-- The number of times the clock can show. -/
def clockPeriod : Nat := UInt64.size

/-- The surroundings after a stimulus. -/
def Stimulus.act (s : Stimulus) (bench : Bench) : Bench :=
  match s with
  | .register address value => { bench with bus.chip := bench.bus.chip.write address value }
  | .outputs c raw => { bench with bus := bench.bus.present c raw }
  | .waiting c raws => { bench with bus.waiting := bench.bus.waiting.set c raws }
  | .brownout =>
    { bench with bus.chip := bench.bus.chip.writeEach RegisterFile.powerOnControl }
  | .readFault after => { bench with bus.readFault := some after }
  | .writeFault after => { bench with bus.writeFault := some after }
  | .dataReady level => { bench with dataReady := level }
  | .clock now => { bench with timer.now := now }
  | .advance microseconds =>
    { bench with timer.now := (bench.timer.now + microseconds) % clockPeriod }

/-- One step of a session. -/
inductive Step where
  /-- A command is given. -/
  | command (c : Command)
  /-- The surroundings change. -/
  | stimulus (s : Stimulus)
  deriving DecidableEq

/-- What a step of a session gives. -/
inductive Answer where
  /-- The reply to a command. -/
  | reply (r : Reply)
  /-- The error of a command. -/
  | failure (e : Error)
  /-- Nothing, as the step was a stimulus. -/
  | silence
  deriving DecidableEq

/-- The answer of a command, and the rig after it. -/
def Command.runOn (c : Command) (rig : Rig) : Answer × Rig :=
  match c.run rig with
  | .ok reply rig => (.reply reply, rig)
  | .error error rig => (.failure error, rig)

/-- The answer of a step, and the rig after it. -/
def Step.run (step : Step) (rig : Rig) : Answer × Rig :=
  match step with
  | .command c => c.runOn rig
  | .stimulus s => (.silence, { rig with bench := s.act rig.bench })

/-- The answers of a session, and the rig after it. -/
def runSession (rig : Rig) : List Step → List Answer × Rig
  | [] => ([], rig)
  | step :: rest =>
    let (answer, next) := step.run rig
    let (answers, final) := runSession next rest
    (answer :: answers, final)

/-- The session in which the clock moves on and a trigger fires, `n` times over. -/
def cycles (c : Channel) (n : Nat) (microseconds : Nat) : List Step :=
  (List.replicate n [.stimulus (.advance microseconds), .command (.onTimer c)]).flatten

/-- A session in two parts is the second part on the rig that the first one leaves. -/
theorem runSession_append (rig : Rig) (first second : List Step) :
    runSession rig (first ++ second) =
      ((runSession rig first).1 ++ (runSession (runSession rig first).2 second).1,
        (runSession (runSession rig first).2 second).2) := by
  induction first generalizing rig with
  | nil => rfl
  | cons step rest ih => simp only [List.cons_append, runSession, ih]
end ECompass
