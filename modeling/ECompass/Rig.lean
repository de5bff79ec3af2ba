import ECompass.Driver

/-!
# Rig

A driver wired to its surroundings: the bus with the chip, the timer, the line that tells when
accelerometer data is ready, and the sink that is told about samples. Operations of the driver are
state transformers on the rig that keep the state when they fail, so that what happened before an
error stays.
-/

namespace ECompass

/-- What the data-ready line of the accelerometer shows. -/
inductive DataReady where
  /-- Data is ready. -/
  | high
  /-- No data is ready. -/
  | low
  /-- The line cannot be read. -/
  | unreadable
  deriving DecidableEq

/-- What the sink is told. -/
inductive Notice where
  /-- A sample was queued on a channel, so waiting readers may wake. -/
  | queued (c : Channel)
  /-- A sample is published. -/
  | published (c : Channel) (s : Sample)
  /-- A record for the diagnostic log. -/
  | diagnostic (r : DiagnosticRecord)
  deriving DecidableEq

/-- The platform timer: its clock in microseconds, and the calls made on its triggers so far. -/
structure Timer where
  /-- The time. -/
  now : Nat
  /-- The calls. -/
  calls : List TimerCall := []
  deriving DecidableEq

/-- The surroundings of a driver. -/
structure Bench where
  /-- The bus with the chip. -/
  bus : Bus
  /-- The timer. -/
  timer : Timer
  /-- The data-ready line. -/
  dataReady : DataReady := .high
  /-- What the sink was told so far. -/
  notices : List Notice := []
  deriving DecidableEq

/-- A driver in its surroundings. -/
structure Rig where
  /-- The driver. -/
  driver : Driver := .initial
  /-- The surroundings. -/
  bench : Bench
  deriving DecidableEq

/-- Forgets the transfers, timer calls and notices so far. -/
def Rig.clearTraces (rig : Rig) : Rig :=
  { rig with bench.bus.transfers := [], bench.timer.calls := [], bench.notices := [] }

/-- Operations of the driver. -/
abbrev Operation := EStateM Error Rig

namespace Operation

variable {α : Type}

/-- Runs a bus program; its failure is the failure of the operation. -/
def onBus (program : BusM α) : Operation α := fun rig =>
  match program rig.bench.bus with
  | .ok a bus => .ok a { rig with bench.bus := bus }
  | .error cause bus => .error (.bus cause) { rig with bench.bus := bus }

/-- Runs a bus program; its failure is no failure of the operation. -/
def attempt (program : BusM α) : Operation (Option α) := fun rig =>
  match program rig.bench.bus with
  | .ok a bus => .ok (some a) { rig with bench.bus := bus }
  | .error _ bus => .ok none { rig with bench.bus := bus }

/-- The driver as it is. -/
def driver : Operation Driver := return (← get).driver

/-- The time. -/
def now : Operation Nat := return (← get).bench.timer.now

/-- Changes the driver alone. -/
def onDriver (f : Driver → Driver) : Operation Unit :=
  modify fun rig => { rig with driver := f rig.driver }

/-- Makes calls on the timer. -/
def callTimer (calls : List TimerCall) : Operation Unit :=
  modify fun rig => { rig with bench.timer.calls := rig.bench.timer.calls ++ calls }

/-- Tells the sink. -/
def tell (n : Notice) : Operation Unit :=
  modify fun rig => { rig with bench.notices := rig.bench.notices ++ [n] }

end Operation

end ECompass
