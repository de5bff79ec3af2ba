import ECompass.Axes
import ECompass.Filter.Scalar

/-!
# Low-pass filter

A second-order Butterworth low-pass filter in direct form II: five coefficients, and a line that
remembers the last two inner values. A filter whose cutoff or sample rate is not positive passes
its input through.

Designing a filter sets everything anew, so a filter that is redesigned equals a fresh one. The
first input settles the line as if it had been applied forever, and so passes through unchanged.
An inner value that is not finite is replaced by the input, which keeps a bad reading from
circling in the line.
-/

namespace ECompass

open Scalar

/-- The coefficients of a second-order filter: two for feedback, three for the output. -/
structure Coefficients (α : Type) where
  /-- Feedback of the last inner value. -/
  a1 : α
  /-- Feedback of the inner value before it. -/
  a2 : α
  /-- Share of the new inner value in the output. -/
  b0 : α
  /-- Share of the last inner value in the output. -/
  b1 : α
  /-- Share of the inner value before it in the output. -/
  b2 : α
  deriving DecidableEq

namespace Coefficients

variable {α : Type} [Scalar α]

/-- The coefficients that pass the input through. -/
def passThrough : Coefficients α := ⟨0, 0, 1, 0, 0⟩

/-- The Butterworth coefficients for the tangent `w` of the cutoff angle and the damping `k`. -/
def butterworth (k w : α) : Coefficients α :=
  let c := 1 + k * w + w * w
  let b0 := w * w / c
  { a1 := twice (w * w - 1) / c
    a2 := (1 - k * w + w * w) / c
    b0 := b0
    b1 := twice b0
    b2 := b0 }

/-- The gain of the output side. -/
def gain (k : Coefficients α) : α := k.b0 + k.b1 + k.b2

end Coefficients

/-- A second-order low-pass filter. -/
structure LowPass (α : Type) where
  /-- The rate of the samples in hertz, as designed for. -/
  sampleRate : α
  /-- The cutoff frequency in hertz. -/
  cutoff : α
  /-- The coefficients. -/
  coefficients : Coefficients α
  /-- The last inner value. -/
  last : α
  /-- The inner value before the last. -/
  previous : α
  /-- Whether the line has been settled since the design. -/
  settled : Bool
  deriving DecidableEq

namespace LowPass

variable {α : Type} [Scalar α]

/-- A filter for the given sample rate and cutoff, with an empty line. -/
def design (sampleRate cutoff : α) : LowPass α where
  sampleRate := sampleRate
  cutoff := cutoff
  coefficients :=
    if cutoff ≤ 0 ∨ sampleRate ≤ 0 then .passThrough
    else .butterworth (twice cosEighthTurn) (tan (halfTurn / (sampleRate / cutoff)))
  last := 0
  previous := 0
  settled := false

/-- Whether the filter passes its input through. -/
def PassesThrough (f : LowPass α) : Prop := f.cutoff ≤ 0 ∨ f.sampleRate ≤ 0

instance (f : LowPass α) : Decidable f.PassesThrough :=
  inferInstanceAs (Decidable (f.cutoff ≤ 0 ∨ f.sampleRate ≤ 0))

/-- Settles the line as if the input had been applied forever. -/
def settle (f : LowPass α) (input : α) : LowPass α :=
  let gain := f.coefficients.gain
  let inner := if negligible < Scalar.abs gain then input / gain else input
  { f with last := inner, previous := inner, settled := true }

/-- The next inner value: the input less the feedback, or the input itself if that is not finite. -/
def inner (f : LowPass α) (input : α) : α :=
  let value := input - f.last * f.coefficients.a1 - f.previous * f.coefficients.a2
  if isFinite value then value else input

/-- One step of a settled filter: the output, and the filter with its line moved on. -/
def advance (f : LowPass α) (input : α) : α × LowPass α :=
  let value := f.inner input
  let k := f.coefficients
  (value * k.b0 + f.last * k.b1 + f.previous * k.b2, { f with last := value, previous := f.last })

/-- Filters one input. -/
def apply (f : LowPass α) (input : α) : α × LowPass α :=
  if f.PassesThrough then (input, f)
  else if f.settled then f.advance input
  else (f.settle input).advance input

/-- Filters a list of inputs in order. -/
def applyAll (f : LowPass α) : List α → List α × LowPass α
  | [] => ([], f)
  | input :: rest =>
    let (output, next) := f.apply input
    let (outputs, final) := next.applyAll rest
    (output :: outputs, final)

/-- A filter that passes its input through never changes. -/
theorem apply_of_passesThrough {f : LowPass α} (h : f.PassesThrough) (input : α) :
    f.apply input = (input, f) := by
  simp [apply, h]

end LowPass

/-- One low-pass filter for each axis, all of one design. -/
abbrev AxisFilter := Axes (LowPass Float32)

namespace AxisFilter

/-- Three filters of the given design. -/
def design (sampleRate cutoff : Float32) : AxisFilter := .all3 (.design sampleRate cutoff)

/-- The sample rate that the filters are designed for. -/
def sampleRate (f : AxisFilter) : Float32 := f.x.sampleRate

/-- The cutoff frequency of the filters. -/
def cutoff (f : AxisFilter) : Float32 := f.x.cutoff

/-- Filters a reading axis by axis. -/
def apply (f : AxisFilter) (reading : Axes Float32) : Axes Float32 × AxisFilter :=
  let step := Axes.zipWith LowPass.apply f reading
  (step.map Prod.fst, step.map Prod.snd)

end AxisFilter

end ECompass
