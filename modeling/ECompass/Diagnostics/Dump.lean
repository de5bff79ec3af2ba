import ECompass.Bus.Access

/-!
# Register dumps

A dump reads every register of the diagnostic list, one transfer each, and keeps the values next to
the ones that the health check expects. Some registers are on the list twice; a look-up takes the
first value.
-/

namespace ECompass

/-- The diagnostic registers as they were read. -/
structure RegisterDump where
  /-- Time of the dump in microseconds. -/
  timestamp : Nat
  /-- The registers and their values, in the order of reading. -/
  entries : List (Register × UInt8)
  /-- The control values that were expected. -/
  expected : Expected
  deriving DecidableEq

namespace RegisterDump

/-- Reads every register of a list, up to the first transfer that fails. -/
def readAll : List Register → BusM (List (Register × UInt8))
  | [] => return []
  | r :: rest => do
    let value ← Bus.readRegister r
    let entries ← readAll rest
    return (r, value) :: entries

/-- Takes a dump. -/
def capture (expected : Expected) (now : Nat) : BusM RegisterDump := do
  let entries ← readAll Register.diagnostic
  return ⟨now, entries, expected⟩

/-- The value read first for a register, if it is on the list. -/
def get? (d : RegisterDump) (r : Register) : Option UInt8 :=
  (d.entries.find? fun entry => entry.1 = r).map Prod.snd

/-- Whether a control register of either channel differs from what was expected. -/
def hasMismatch (d : RegisterDump) : Bool :=
  d.get? Channel.accel.control ≠ some (d.expected.get .accel) ||
    d.get? Channel.mag.control ≠ some (d.expected.get .mag)

end RegisterDump

end ECompass
