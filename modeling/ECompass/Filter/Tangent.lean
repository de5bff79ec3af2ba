import ECompass.Filter.Precision

/-!
# Tangent

The tangent of a single-precision angle, as the filter design uses it. Near zero the angle is its
own tangent. Otherwise the nearest multiple of a right angle is subtracted in double precision, a
polynomial gives the tangent of the rest, and after an odd multiple the negative reciprocal is
taken. The result is rounded to single precision once, at the end.

For small angles the multiple is found by comparing bit patterns, for larger ones by rounding
the quotient, and then the multiple is subtracted in two parts to keep the precision of the rest.
Angles are not negative: the design divides a half turn by a ratio of two positive frequencies.

Two parts of a right angle are enough up to 2^28 right angles. Finite angles from there on, which
take a cutoff of some hundred million times the sample rate, are not covered: for these the tangent
of the platform subtracts the multiple with more digits, and its value differs from the one here.
-/

namespace ECompass

namespace Tangent

/-- A right angle. -/
def rightAngle : Float := 1.5707963267948966

/-- The leading bits of a right angle. -/
def rightAngleHigh : Float := 1.5707963109016418

/-- What the leading bits of a right angle leave out. -/
def rightAngleLow : Float := 1.5893254773528197e-8

/-- How many right angles there are in a radian. -/
def perRadian : Float := 0.6366197723675814

/-- Adding this number to a smaller one rounds that one to an integer, which then stands in the
last bits of the sum. -/
def roundingShift : Float := 6755399441055744.0

/-- The tangent of a rest of at most half a right angle, or its negative reciprocal after an odd
number of right angles. -/
def ofRest (odd : Bool) (x : Float) : Float32 :=
  let z := x * x
  let r := 0.00297435743359967304927 + z * 0.00946564784943673166728
  let t := 0.0533812378445670393523 + z * 0.0245283181166547278873
  let w := z * z
  let s := z * x
  let u := 0.333331395030791399758 + z * 0.133392002712976742718
  let tan := (x + s * u) + (s * w) * (t + w * r)
  toSingle (if odd then -1 / tan else tan)

/-- The tangent after subtracting the nearest multiple of a right angle, for angles too large to be
told apart by bit patterns and smaller than 2^28 right angles. -/
def ofLarge (x : Float) : Float32 :=
  let shifted := x * perRadian + roundingShift
  let n := shifted - roundingShift
  ofRest (shifted.toBits &&& 1 == 1) ((x - n * rightAngleHigh) - n * rightAngleLow)

end Tangent

open Tangent in
/-- The tangent of an angle that is not negative and smaller than 2^28 right angles, or is no finite
number. -/
def tangent (angle : Float32) : Float32 :=
  let bits := angle.toBits
  let x := toDouble angle
  if bits < 0x39800000 then angle
  else if bits ≤ 0x3f490fda then ofRest false x
  else if bits ≤ 0x4016cbe3 then ofRest true (x - rightAngle)
  else if bits ≤ 0x407b53d1 then ofRest false (x - 2 * rightAngle)
  else if bits ≤ 0x40afeddf then ofRest true (x - 3 * rightAngle)
  else if bits ≤ 0x40e231d5 then ofRest false (x - 4 * rightAngle)
  else if bits ≥ 0x7f800000 then angle - angle
  else ofLarge x

end ECompass
