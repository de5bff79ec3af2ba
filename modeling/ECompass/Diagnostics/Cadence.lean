/-!
# Log cadence

How often the diagnostic log is written: a sample line once a second, a register dump every quarter
of a second while readings are extreme and every ten seconds otherwise, a sync to storage every ten
seconds, and an alarm every ten seconds once an extreme reading has been seen.

A time of zero stands for "never" for sample lines and dumps, which are due at once then. The
distance of two times is zero if the clock went backwards, so nothing is due then.
-/

namespace ECompass

/-- The tone of an alarm. -/
inductive Tone where
  /-- Extreme readings were seen earlier, but the current one is sane. -/
  | recovered
  /-- The current reading is extreme, after sane ones. -/
  | extreme
  /-- The current reading is extreme, and none has been sane. -/
  | extremeSinceBoot
  deriving DecidableEq

/-- The number of a tone. -/
def Tone.code : Tone → Nat
  | .recovered => 3
  | .extreme => 4
  | .extremeSinceBoot => 5

/-- What to write for one record. -/
structure LogActions where
  /-- Write a sample line. -/
  sample : Bool
  /-- Write the register dump. -/
  registers : Bool
  /-- Sync the log to storage. -/
  sync : Bool
  /-- Sound the alarm. -/
  alarm : Option Tone
  deriving DecidableEq

/-- When each action was last due, in microseconds. -/
structure Cadence where
  /-- Time of the last sample line. -/
  lastSample : Nat := 0
  /-- Time of the last register dump. -/
  lastRegisters : Nat := 0
  /-- Time of the last sync. -/
  lastSync : Nat := 0
  /-- Time of the last alarm. -/
  lastAlarm : Nat := 0
  deriving DecidableEq

namespace Cadence

/-- Least distance of two sample lines. -/
def sampleInterval : Nat := 1000000

/-- Least distance of two register dumps while readings are extreme. -/
def extremeRegistersInterval : Nat := 250000

/-- Least distance of two register dumps otherwise. -/
def registersInterval : Nat := 10000000

/-- Least distance of two syncs. -/
def syncInterval : Nat := 10000000

/-- Least distance of two alarms. -/
def alarmInterval : Nat := 10000000

/-- Whether a sample line is due. -/
def sampleDue (c : Cadence) (now : Nat) : Bool :=
  c.lastSample == 0 || sampleInterval < now - c.lastSample

/-- Whether a register dump is due. -/
def registersDue (c : Cadence) (now : Nat) (extreme : Bool) : Bool :=
  c.lastRegisters == 0 || (extreme && extremeRegistersInterval < now - c.lastRegisters) ||
    registersInterval < now - c.lastRegisters

/-- Whether a sync is due. -/
def syncDue (c : Cadence) (now : Nat) : Bool := syncInterval < now - c.lastSync

/-- Whether an alarm is due. -/
def alarmDue (c : Cadence) (now extremes : Nat) : Bool :=
  extremes != 0 && alarmInterval < now - c.lastAlarm

/-- The tone for a reading. -/
def tone (extreme bootOk : Bool) : Tone :=
  if !extreme then .recovered else if bootOk then .extreme else .extremeSinceBoot

/-- The actions due for a record at a time, and the cadence after them. The record says whether the
reading is extreme, whether a sane one has been seen, and how many extreme ones have. -/
def step (c : Cadence) (now : Nat) (extreme bootOk : Bool) (extremes : Nat) :
    LogActions × Cadence :=
  let sample := c.sampleDue now
  let registers := c.registersDue now extreme
  let sync := c.syncDue now
  let alarm := c.alarmDue now extremes
  ({ sample, registers, sync, alarm := if alarm then some (tone extreme bootOk) else none },
    { lastSample := if sample then now else c.lastSample
      lastRegisters := if registers then now else c.lastRegisters
      lastSync := if sync then now else c.lastSync
      lastAlarm := if alarm then now else c.lastAlarm })

end Cadence

end ECompass
