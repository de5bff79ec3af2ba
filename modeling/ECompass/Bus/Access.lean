import ECompass.Bus
import ECompass.Config

/-!
# Register access

Single registers, read-modify-write updates and bursts over the bus. Every access is one transfer,
an update two; nothing is retried, and the first failed transfer ends the access.
-/

namespace ECompass

namespace Bus

/-- Reads the byte at an address, named or not. -/
def readAddress (address : UInt8) : BusM UInt8 := do
  let bytes ← read address 1
  return bytes[0]

/-- Writes the byte at an address, named or not. -/
def writeAddress (address value : UInt8) : BusM Unit := write address [value]

/-- Reads a register. -/
def readRegister (r : Register) : BusM UInt8 := readAddress r.addr

/-- Writes a register. -/
def writeRegister (r : Register) (value : UInt8) : BusM Unit := writeAddress r.addr value

/-- Reads a register and writes back its value after the update. -/
def update (u : RegisterUpdate) : BusM Unit := do
  let value ← readRegister u.register
  writeRegister u.register (u.apply value)

/-- Reads `n` registers in one transfer, from the given one on. -/
def readBurst (r : Register) (n : Nat) : BusM (Vector UInt8 n) := read r.addr n

end Bus

end ECompass
