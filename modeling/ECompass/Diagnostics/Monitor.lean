import ECompass.Diagnostics.Cadence
import ECompass.Diagnostics.Dump
import ECompass.Sample

/-!
# Extreme readings

A reading whose every axis exceeds thirty metres per second squared usually means that the sensor
has lost power and come back in a bogus state. The monitor counts such readings and switches the
diagnostic log on at each of them. While the log is on, every reading gives a record, with the
actions that the cadence allows for it.
-/

namespace ECompass

/-- What the diagnostic log receives for one sample. -/
structure DiagnosticRecord where
  /-- The sample. -/
  sample : Sample
  /-- Whether the sample is extreme. -/
  extreme : Bool
  /-- Whether a sane sample has been seen. -/
  bootOk : Bool
  /-- How many extreme samples have been seen. -/
  extremes : Nat
  /-- What to write. -/
  actions : LogActions
  /-- The register dump, if one was asked for and could be read. -/
  registers : Option RegisterDump
  deriving DecidableEq

/-- Acceleration beyond which an axis is extreme, in metres per second squared. -/
def extremeThreshold : Float32 := 30

/-- Whether every axis of a sample is beyond the threshold. -/
def Sample.isExtreme (s : Sample) : Bool :=
  s.reading.all fun axis => extremeThreshold < axis.abs

/-- Watches for extreme samples. -/
structure Monitor where
  /-- Whether samples give records. -/
  logging : Bool := false
  /-- Whether a sane sample has been seen. -/
  bootOk : Bool := false
  /-- How many extreme samples have been seen, as far as can be counted. -/
  extremes : Nat := 0
  /-- When the log was last written. -/
  cadence : Cadence := {}
  deriving DecidableEq

namespace Monitor

/-- The largest count. -/
def maxCount : Nat := UInt32.size - 1

/-- The monitor after a sample was counted, before any record is made of it. -/
def count (m : Monitor) (extreme : Bool) : Monitor :=
  if extreme then { m with extremes := min (m.extremes + 1) maxCount, logging := true }
  else { m with bootOk := true }

/-- Counts a sample at a time, and gives a record of it if the log is on. -/
def observe (m : Monitor) (s : Sample) (now : Nat) : Option DiagnosticRecord × Monitor :=
  let extreme := s.isExtreme
  let m := m.count extreme
  if m.logging then
    let (actions, cadence) := m.cadence.step now extreme m.bootOk m.extremes
    (some ⟨s, extreme, m.bootOk, m.extremes, actions, none⟩, { m with cadence })
  else (none, m)

/-- Switches the log on or off. -/
def toggle (m : Monitor) : Monitor := { m with logging := !m.logging }

end Monitor

end ECompass
