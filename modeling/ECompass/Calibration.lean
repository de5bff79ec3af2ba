import ECompass.Axes

/-!
# Calibration

A calibration corrects each axis on its own: the raw count is scaled to the physical unit, the
offset is subtracted, and the difference is multiplied by the axis scale. For the accelerometer the
offset is in metres per second squared; for the magnetometer it is the hard-iron bias in gauss, and
the scale is the soft-iron correction.
-/

namespace ECompass

/-- Offset and scale of every axis. -/
structure Calibration where
  /-- What is subtracted from the scaled reading. -/
  offset : Axes Float32
  /-- What the difference is multiplied by. -/
  scale : Axes Float32
  deriving DecidableEq

/-- One axis of a calibrated reading: `(count * lsb - offset) * scale`. -/
def calibrateAxis (lsb offset scale : Float32) (count : Int16) : Float32 :=
  (Float32.ofInt count.toInt * lsb - offset) * scale

namespace Calibration

/-- The calibration that changes nothing: no offset, unit scale. -/
def neutral : Calibration := ⟨.all3 0, .all3 1⟩

/-- Whether the scales are close enough to unity to be accepted for the accelerometer: their sum
lies strictly between two and four. -/
def isCredible (cal : Calibration) : Bool :=
  let sum := cal.scale.x + cal.scale.y + cal.scale.z
  sum > 2 && sum < 4

/-- The physical reading that stands for raw counts worth `lsb` each. -/
def apply (cal : Calibration) (lsb : Float32) (raw : Axes Int16) : Axes Float32 :=
  ⟨calibrateAxis lsb cal.offset.x cal.scale.x raw.x,
    calibrateAxis lsb cal.offset.y cal.scale.y raw.y,
    calibrateAxis lsb cal.offset.z cal.scale.z raw.z⟩

end Calibration

end ECompass
