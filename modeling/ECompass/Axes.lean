/-!
# Axes

A measurement has three axes. Calibration and filtering work axis by axis, so they are written as
`map` and `zipWith` on triples, and no axis can influence another.
-/

namespace ECompass

/-- One value for each of the three axes. -/
structure Axes (α : Type) where
  /-- Value along the x axis. -/
  x : α
  /-- Value along the y axis. -/
  y : α
  /-- Value along the z axis. -/
  z : α
  deriving DecidableEq

namespace Axes

variable {α β γ : Type}

/-- The same value on every axis. -/
def all3 (a : α) : Axes α := ⟨a, a, a⟩

/-- Changes every axis by `f`. -/
def map (f : α → β) (v : Axes α) : Axes β := ⟨f v.x, f v.y, f v.z⟩

/-- Joins two triples axis by axis. -/
def zipWith (f : α → β → γ) (v : Axes α) (w : Axes β) : Axes γ :=
  ⟨f v.x w.x, f v.y w.y, f v.z w.z⟩

/-- Whether every axis passes the test. -/
def all (p : α → Bool) (v : Axes α) : Bool := p v.x && p v.y && p v.z

/-- The three values in the order x, y, z. -/
def toList (v : Axes α) : List α := [v.x, v.y, v.z]

end Axes

end ECompass
