import ECompass.Setting

/-!
# Accelerometer settings

Full-scale range, output data rate and anti-alias bandwidth of the accelerometer, each with its
table of register bits. The range also decides what one count of the output means.

Range and bandwidth share the register `ctrl2`; their fields are disjoint.
-/

namespace ECompass

/-- Standard gravity in metres per second squared. -/
def standardGravity : Float32 := 9.80665

/-- Full-scale range of the accelerometer. -/
inductive AccelRange where
  /-- Two times gravity either way, the most sensitive range. -/
  | g2
  /-- Four times gravity either way. -/
  | g4
  /-- Six times gravity either way. -/
  | g6
  /-- Eight times gravity either way. -/
  | g8
  /-- Sixteen times gravity either way, the widest range. -/
  | g16
  deriving DecidableEq

namespace AccelRange

/-- Full scale in units of gravity. -/
def g : AccelRange → Nat
  | .g2 => 2
  | .g4 => 4
  | .g6 => 6
  | .g8 => 8
  | .g16 => 16

/-- Thousandths of gravity in one count. -/
def milliGPerCount : AccelRange → Float32
  | .g2 => 0.061
  | .g4 => 0.122
  | .g6 => 0.183
  | .g8 => 0.244
  | .g16 => 0.732

/-- Metres per second squared in one count. -/
def scale (r : AccelRange) : Float32 := r.milliGPerCount * 1e-3 * standardGravity

/-- Full scale in metres per second squared. -/
def fullScale (r : AccelRange) : Float32 := Float32.ofNat r.g * standardGravity

end AccelRange

instance : Setting AccelRange where
  all := [.g2, .g4, .g6, .g8, .g16]
  register := .ctrl2
  mask := 0b00111000
  value := AccelRange.g
  bits
    | .g2 => 0b00000000
    | .g4 => 0b00001000
    | .g6 => 0b00010000
    | .g8 => 0b00011000
    | .g16 => 0b00100000

/-- Output data rate of the accelerometer. -/
inductive AccelRate where
  /-- One hundred samples per second. -/
  | hz100
  /-- Two hundred samples per second. -/
  | hz200
  /-- Four hundred samples per second. -/
  | hz400
  /-- Eight hundred samples per second. -/
  | hz800
  /-- Sixteen hundred samples per second. -/
  | hz1600
  deriving DecidableEq

/-- Samples per second. -/
def AccelRate.hertz : AccelRate → Nat
  | .hz100 => 100
  | .hz200 => 200
  | .hz400 => 400
  | .hz800 => 800
  | .hz1600 => 1600

instance : Setting AccelRate where
  all := [.hz100, .hz200, .hz400, .hz800, .hz1600]
  register := .ctrl1
  mask := 0b11110000
  value := AccelRate.hertz
  bits
    | .hz100 => 0b01100000
    | .hz200 => 0b01110000
    | .hz400 => 0b10000000
    | .hz800 => 0b10010000
    | .hz1600 => 0b10100000

/-- Bandwidth of the accelerometer's anti-alias filter on the chip. -/
inductive AntiAlias where
  /-- Fifty hertz. -/
  | hz50
  /-- One hundred and ninety-four hertz. -/
  | hz194
  /-- Three hundred and sixty-two hertz. -/
  | hz362
  /-- Seven hundred and seventy-three hertz. -/
  | hz773
  deriving DecidableEq

/-- Bandwidth in hertz. -/
def AntiAlias.hertz : AntiAlias → Nat
  | .hz50 => 50
  | .hz194 => 194
  | .hz362 => 362
  | .hz773 => 773

instance : Setting AntiAlias where
  all := [.hz50, .hz194, .hz362, .hz773]
  register := .ctrl2
  mask := 0b11000000
  value := AntiAlias.hertz
  bits
    | .hz773 => 0b00000000
    | .hz194 => 0b01000000
    | .hz362 => 0b10000000
    | .hz50 => 0b11000000

instance : LawfulSetting AccelRange where
  mem_all s := by cases s <;> decide
  ascending := by decide
  bits_within_mask s := by cases s <;> decide
  bits_injective s t := by cases s <;> cases t <;> decide

instance : LawfulSetting AccelRate where
  mem_all s := by cases s <;> decide
  ascending := by decide
  bits_within_mask s := by cases s <;> decide
  bits_injective s t := by cases s <;> cases t <;> decide

instance : LawfulSetting AntiAlias where
  mem_all s := by cases s <;> decide
  ascending := by decide
  bits_within_mask s := by cases s <;> decide
  bits_injective s t := by cases s <;> cases t <;> decide

end ECompass
