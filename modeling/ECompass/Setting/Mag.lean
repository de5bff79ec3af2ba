import ECompass.Setting

/-!
# Magnetometer settings

Full-scale range and output data rate of the magnetometer, each with its table of register bits.
The chip also offers rates below twenty-five hertz, which the driver does not use; a request for
less than twenty-five is answered with twenty-five.
-/

namespace ECompass

/-- Full-scale range of the magnetometer. -/
inductive MagRange where
  /-- Two gauss either way, the most sensitive range. -/
  | ga2
  /-- Four gauss either way. -/
  | ga4
  /-- Eight gauss either way. -/
  | ga8
  /-- Twelve gauss either way, the widest range. -/
  | ga12
  deriving DecidableEq

namespace MagRange

/-- Full scale in gauss. -/
def gauss : MagRange → Nat
  | .ga2 => 2
  | .ga4 => 4
  | .ga8 => 8
  | .ga12 => 12

/-- Thousandths of a gauss in one count. -/
def milliGaussPerCount : MagRange → Float32
  | .ga2 => 0.080
  | .ga4 => 0.160
  | .ga8 => 0.320
  | .ga12 => 0.479

/-- Gauss in one count. -/
def scale (r : MagRange) : Float32 := r.milliGaussPerCount * 1e-3

/-- Full scale in gauss, as a measured quantity. -/
def fullScale (r : MagRange) : Float32 := Float32.ofNat r.gauss

end MagRange

instance : Setting MagRange where
  all := [.ga2, .ga4, .ga8, .ga12]
  register := .ctrl6
  mask := 0b01100000
  value := MagRange.gauss
  bits
    | .ga2 => 0b00000000
    | .ga4 => 0b00100000
    | .ga8 => 0b01000000
    | .ga12 => 0b01100000

/-- Output data rate of the magnetometer. -/
inductive MagRate where
  /-- Twenty-five samples per second. -/
  | hz25
  /-- Fifty samples per second. -/
  | hz50
  /-- One hundred samples per second. -/
  | hz100
  deriving DecidableEq

/-- Samples per second. -/
def MagRate.hertz : MagRate → Nat
  | .hz25 => 25
  | .hz50 => 50
  | .hz100 => 100

instance : Setting MagRate where
  all := [.hz25, .hz50, .hz100]
  register := .ctrl5
  mask := 0b00011100
  value := MagRate.hertz
  bits
    | .hz25 => 0b00001100
    | .hz50 => 0b00010000
    | .hz100 => 0b00010100

instance : LawfulSetting MagRange where
  mem_all s := by cases s <;> decide
  ascending := by decide
  bits_within_mask s := by cases s <;> decide
  bits_injective s t := by cases s <;> cases t <;> decide

instance : LawfulSetting MagRate where
  mem_all s := by cases s <;> decide
  ascending := by decide
  bits_within_mask s := by cases s <;> decide
  bits_injective s t := by cases s <;> cases t <;> decide

end ECompass
