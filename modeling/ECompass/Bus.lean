import ECompass.Bus.Frame
import ECompass.RegisterFile
import ECompass.Sample

/-!
# Bus

The chip and what lies between it and the driver. The registers are reached directly, or by SPI
frames, of which the chip sees the command byte and what it is sent (`exchange`); either way a
transfer may fail, and a failed transfer moves nothing. Failures are injected: a countdown for each
direction says how many further transfers succeed before one fails.

The chip may also have measurements waiting. A read of several bytes that starts at a channel's
status register first puts the next one, if any, into the output registers.

Every transfer is recorded with its header and with the bytes that moved. A bus program is a state
transformer on `Bus` that keeps the state when it fails.
-/

namespace ECompass

/-- How the driver reaches the chip. -/
inductive Transport where
  /-- The registers are addressed directly. -/
  | direct
  /-- The registers are reached by SPI frames. -/
  | spi
  deriving DecidableEq

/-- Why a transfer failed. -/
inductive BusError where
  /-- The chip could not be reached. -/
  | communication
  deriving DecidableEq

/-- How a transfer begins on the wire. -/
inductive Header where
  /-- A direct transfer of some bytes from an address on. -/
  | direct (direction : Direction) (address : UInt8) (length : Nat)
  /-- An SPI frame with its command. -/
  | framed (command : UInt8)
  deriving DecidableEq

/-- One transfer on the bus. -/
structure Transfer where
  /-- How the transfer began. -/
  header : Header
  /-- The bytes that moved, or nothing if the transfer failed. -/
  data : Option (List UInt8)
  deriving DecidableEq

/-- The chip and its connection to the driver. -/
structure Bus where
  /-- How the chip is reached. -/
  transport : Transport
  /-- The registers of the chip. -/
  chip : RegisterFile := .powerOn
  /-- The measurements that wait on each channel, oldest first. -/
  waiting : PerChannel (List (Axes Int16)) := .both []
  /-- How many further reads succeed before one fails, if one is to fail. -/
  readFault : Option Nat := none
  /-- How many further writes succeed before one fails, if one is to fail. -/
  writeFault : Option Nat := none
  /-- The transfers so far. -/
  transfers : List Transfer := []
  deriving DecidableEq

/-- Programs on the bus. -/
abbrev BusM := EStateM BusError Bus

namespace Bus

/-- Counts one transfer: whether it fails, and the countdown for the next one. -/
def countdown : Option Nat → Bool × Option Nat
  | none => (false, none)
  | some 0 => (true, none)
  | some (n + 1) => (false, some n)

/-- Notes a transfer. -/
def record (bus : Bus) (t : Transfer) : Bus := { bus with transfers := bus.transfers ++ [t] }

/-- Puts counts into the output registers of a channel. -/
def present (bus : Bus) (c : Channel) (raw : Axes Int16) : Bus :=
  let place i := c.firstOutput.addr + .ofNat i
  { bus with chip := bus.chip.writeRun place (Burst.outputBytes raw) }

/-- The channel whose status register has the address. -/
def channelAt? (address : UInt8) : Option Channel :=
  if address = Channel.accel.status.addr then some .accel
  else if address = Channel.mag.status.addr then some .mag
  else none

/-- Puts the next waiting measurement, if any, into the outputs of the channel whose status register
has the address. -/
def refill (bus : Bus) (start : UInt8) : Bus :=
  match channelAt? start with
  | none => bus
  | some c =>
    match bus.waiting.get c with
    | [] => bus
    | raw :: rest => { bus.present c raw with waiting := bus.waiting.set c rest }

/-- What a read of some bytes does to the chip before they are taken: a burst brings up the next
waiting measurement of its channel. -/
def prepare (bus : Bus) (start : UInt8) (length : Nat) : Bus :=
  if 1 < length then bus.refill start else bus

/-- One transfer that reads `n` bytes, from `place 0` on. -/
def transferIn (header : Header) (place : Nat → UInt8) (n : Nat) : BusM (Vector UInt8 n) :=
  fun bus =>
    let (fails, left) := countdown bus.readFault
    let bus := { bus with readFault := left }
    if fails then .error .communication (bus.record ⟨header, none⟩)
    else
      let bus := bus.prepare (place 0) n
      let bytes := bus.chip.readRun place n
      .ok bytes (bus.record ⟨header, some bytes.toList⟩)

/-- One transfer that writes bytes, from `place 0` on. -/
def transferOut (header : Header) (place : Nat → UInt8) (data : List UInt8) : BusM Unit :=
  fun bus =>
    let (fails, left) := countdown bus.writeFault
    let bus := { bus with writeFault := left }
    if fails then .error .communication (bus.record ⟨header, none⟩)
    else
      let bus := { bus with chip := bus.chip.writeRun place data }
      .ok () (bus.record ⟨header, some data⟩)

/-- Where the bytes of a direct transfer go. -/
def directPlace (address : UInt8) (i : Nat) : UInt8 := address + .ofNat i

/-- Reads `n` bytes directly. -/
def readDirect (address : UInt8) (n : Nat) : BusM (Vector UInt8 n) :=
  transferIn (.direct .read address n) (directPlace address) n

/-- Writes bytes directly. -/
def writeDirect (address : UInt8) (data : List UInt8) : BusM Unit :=
  transferOut (.direct .write address data.length) (directPlace address) data

/-- One SPI frame at the chip, which has only the command to go by. Bytes go both ways at once: a
read answers with registers and ignores what is sent, a write takes what is sent and answers with
zeros. -/
def exchange {n : Nat} (command : UInt8) (sent : Vector UInt8 n) : BusM (Vector UInt8 n) :=
  match Frame.direction command with
  | .read => transferIn (.framed command) (Frame.place command) n
  | .write => do
    transferOut (.framed command) (Frame.place command) sent.toList
    return .replicate n 0

/-- Reads `n` bytes by one SPI frame, sending zeros. -/
def readFrame (address : UInt8) (n : Nat) : BusM (Vector UInt8 n) :=
  exchange (Frame.command .read address n) (.replicate n 0)

/-- Writes at most sixteen bytes by one SPI frame, ignoring the answer. -/
def writeFrame (address : UInt8) (data : List UInt8) : BusM Unit := do
  let _ ← exchange (Frame.command .write address data.length) ⟨data.toArray, rfl⟩
  return ()

/-- Writes bytes by as many SPI frames as it takes, up to the first that fails. -/
def writeFrames (address : UInt8) (data : List UInt8) : BusM Unit :=
  (Frame.split address data).forM fun (start, chunk) => writeFrame start chunk

/-- Reads `n` bytes from an address on. -/
def read (address : UInt8) (n : Nat) : BusM (Vector UInt8 n) := do
  match (← get).transport with
  | .direct => readDirect address n
  | .spi => readFrame address n

/-- Writes bytes from an address on. -/
def write (address : UInt8) (data : List UInt8) : BusM Unit := do
  match (← get).transport with
  | .direct => writeDirect address data
  | .spi => writeFrames address data

end Bus

end ECompass
