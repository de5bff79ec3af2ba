import ECompass.Filter.Tangent

/-!
# Scalars of the filter

The low-pass filter is written once, over any type of numbers that offers the operations it uses.
The driver runs it in single precision; the algebra of the design, such as its gain for a constant
input, is a statement about the same definitions over exact numbers.
-/

namespace ECompass

/-- Numbers that a low-pass filter can be designed and run with. -/
class Scalar (α : Type) extends Zero α, One α, Add α, Sub α, Mul α, Div α, LE α, LT α where
  /-- The order can be decided. -/
  decidableLE : DecidableLE α
  /-- The strict order can be decided. -/
  decidableLT : DecidableLT α
  /-- The absolute value. -/
  abs : α → α
  /-- Whether the number is neither infinite nor undefined. -/
  isFinite : α → Bool
  /-- A gain of at most this size is treated as none. -/
  negligible : α
  /-- Half a turn. -/
  halfTurn : α
  /-- The cosine of an eighth of a turn. -/
  cosEighthTurn : α
  /-- The tangent. -/
  tan : α → α

namespace Scalar

attribute [reducible, instance] decidableLE decidableLT

/-- Twice a number. -/
def twice {α : Type} [Scalar α] (a : α) : α := a + a

/-- Single precision, with the distance from one to the next number as the negligible gain. -/
instance : Scalar Float32 where
  zero := 0
  one := 1
  decidableLE := inferInstance
  decidableLT := inferInstance
  abs := Float32.abs
  isFinite := Float32.isFinite
  negligible := .ofBits 0x34000000
  halfTurn := .ofBits 0x40490fdb
  cosEighthTurn := .ofBits 0x3f3504f3
  tan := tangent

end Scalar

end ECompass
