/-!
# Single and double precision

The tangent of the filter design is computed in double precision and rounded once to single. Both
conversions are written on the sign, mantissa and exponent of the number, so that they can be
evaluated by proofs: `changeFormat` rounds a number to another binary format, to the nearest value
and to even on a tie, and a number too large for the format becomes an infinity when packed.
-/

namespace ECompass

open Float.Model

/-- Rounds a number to a binary format. -/
def changeFormat (format : Format) : UnpackedFloat → UnpackedFloat
  | .finite sign mantissa exponent _ => UnpackedFloat.round format sign mantissa exponent
  | .zero sign => .zero sign
  | .infinity sign => .infinity sign
  | .notANumber => .notANumber

/-- The double-precision number of the same value. -/
def toDouble (x : Float32) : Float :=
  let number := UnpackedFloat.unpack .binary32 x.toBits.toBitVec
  .ofBits (.ofBitVec (UnpackedFloat.pack .binary64 (changeFormat .binary64 number)))

/-- The single-precision number nearest to a double-precision one. -/
def toSingle (x : Float) : Float32 :=
  let number := UnpackedFloat.unpack .binary64 x.toBits.toBitVec
  .ofBits (.ofBitVec (UnpackedFloat.pack .binary32 (changeFormat .binary32 number)))

end ECompass
