import ECompass.Proofs.Filtering
import Mathlib.Algebra.Order.Field.Rat
import Mathlib.Tactic.FieldSimp
import Mathlib.Tactic.Ring

/-!
# The line of the filter

The filter remembers its last two inner values. What they can be is the subject of this module, in
two regards.

In single precision an inner value can be infinite or undefined: a bad input, a bad coefficient or a
product of large numbers is enough. A new inner value that is not finite is replaced by the input,
so each finite input puts a finite value into the line, and two of them flush it
(`bad_values_are_flushed`). The first input of a fresh filter settles the line before, which may
fill it with bad values, but they are moved on like others.

In exact numbers the line is at rest if both of its values are the input divided by the gain
(`LowPass.atRest`). Butterworth coefficients have the gain at which a constant input then passes
unchanged and leaves the line as it is (`constant_inputs_pass`).
-/

namespace ECompass

open Scalar

/-! ### Finite lines -/

namespace LowPass

section Finite

variable {α : Type} [Scalar α] {f : LowPass α} {input : α}

/-- The filter is settled, and its last inner value is finite. -/
structure LastFinite (f : LowPass α) : Prop where
  /-- The line is not settled again. -/
  settled : f.settled = true
  /-- The last inner value is finite. -/
  last : isFinite f.last = true

/-- So is the one before it. -/
structure LineFinite (f : LowPass α) : Prop extends f.LastFinite where
  /-- The inner value before the last is finite. -/
  previous : isFinite f.previous = true

/-- The new inner value is finite if the input is, whatever the coefficients and the line. -/
theorem isFinite_inner (f : LowPass α) (finite : isFinite input = true) :
    isFinite (f.inner input) = true := by
  unfold inner
  dsimp only
  split
  · assumption
  · exact finite

/-- A settled filter is advanced by an input. -/
theorem apply_of_settled (filters : ¬ f.PassesThrough) (settled : f.settled = true) (input : α) :
    f.apply input = f.advance input := by
  rw [apply, if_neg filters, if_pos settled]

/-- A finite input makes the last inner value finite, also if it settles the line. -/
theorem lastFinite_apply (filters : ¬ f.PassesThrough) (finite : isFinite input = true) :
    (f.apply input).2.LastFinite := by
  rw [apply, if_neg filters]
  split
  · exact ⟨‹_›, f.isFinite_inner finite⟩
  -- the quotient that settles the line may overflow, but it becomes the value before the last
  · exact ⟨rfl, (f.settle input).isFinite_inner finite⟩

/-- Another one moves it on, so that the whole line is finite. -/
theorem LastFinite.apply (h : f.LastFinite) (filters : ¬ f.PassesThrough)
    (finite : isFinite input = true) : (f.apply input).2.LineFinite := by
  refine ⟨lastFinite_apply filters finite, ?_⟩
  rw [apply_of_settled filters h.settled]
  exact h.last

/-- Inputs do not change whether a filter passes them through. -/
theorem passesThrough_applyAll (f : LowPass α) (inputs : List α) :
    (f.applyAll inputs).2.PassesThrough ↔ f.PassesThrough := by
  show (f.applyAll inputs).2.emptied.PassesThrough ↔ f.PassesThrough
  rw [emptied_applyAll]
  rfl

theorem passesThrough_apply (f : LowPass α) (input : α) :
    (f.apply input).2.PassesThrough ↔ f.PassesThrough := f.passesThrough_applyAll [input]

/-- Finite inputs keep the line finite. -/
theorem LineFinite.applyAll (h : f.LineFinite) (filters : ¬ f.PassesThrough) {inputs : List α}
    (finite : ∀ input ∈ inputs, isFinite input = true) : (f.applyAll inputs).2.LineFinite := by
  induction inputs generalizing f with
  | nil => exact h
  | cons input rest ih =>
    have next := h.toLastFinite.apply filters (finite input List.mem_cons_self)
    exact ih next ((f.passesThrough_apply input).not.2 filters) fun later listed =>
      finite later (List.mem_cons_of_mem _ listed)

/-- Inputs in two parts are applied to what the first part leaves of the filter. -/
theorem applyAll_append (f : LowPass α) (inputs more : List α) :
    (f.applyAll (inputs ++ more)).2 = ((f.applyAll inputs).2.applyAll more).2 := by
  induction inputs generalizing f with
  | nil => rfl
  | cons input rest ih => exact ih _

/-- A filter that passes its input through never changes. -/
theorem applyAll_of_passesThrough (through : f.PassesThrough) (inputs : List α) :
    f.applyAll inputs = (inputs, f) := by
  induction inputs with
  | nil => rfl
  | cons input rest ih => simp only [applyAll, apply_of_passesThrough through, ih]

end Finite

end LowPass

/-- Values that are not finite do not stay in the filter. Whatever its coefficients, whatever is in
its line and whether it is settled: after any inputs and two finite ones after them both values of
the line are finite, and they remain so for as long as the inputs are finite. A filter that passes
its input through does so with every input, and never changes. -/
theorem bad_values_are_flushed (f : LowPass Float32) :
    (¬ f.PassesThrough → ∀ (before : List Float32) (first second : Float32) (more : List Float32),
      first.isFinite = true → second.isFinite = true →
      (∀ input ∈ more, input.isFinite = true) →
      let after := (f.applyAll (before ++ first :: second :: more)).2
      after.last.isFinite = true ∧ after.previous.isFinite = true) ∧
    (f.PassesThrough → ∀ inputs, f.applyAll inputs = (inputs, f)) := by
  refine ⟨fun filters before first second more finite finite' later => ?_,
    LowPass.applyAll_of_passesThrough⟩
  have filters' : ¬ (f.applyAll before).2.PassesThrough :=
    (f.passesThrough_applyAll before).not.2 filters
  have filters'' := (LowPass.passesThrough_apply _ first).not.2 filters'
  have flushed := (LowPass.lastFinite_apply filters' finite).apply filters'' finite'
  have kept := flushed.applyAll ((LowPass.passesThrough_apply _ second).not.2 filters'') later
  rw [LowPass.applyAll_append]
  exact ⟨kept.last, kept.previous⟩

/-- Three finite inputs after an infinite one, in a filter with an undefined coefficient and nothing
but bad values in its line; and a filter that passes on whatever it is given. -/
theorem bad_values_are_flushed_undefined :
    let infinite : Float32 := .ofBits 0x7f800000
    let undefined : Float32 := .ofBits 0x7fc00000
    let bad : LowPass Float32 :=
      ⟨800, 30, ⟨undefined, 1, 0, infinite, 0⟩, infinite, undefined, false⟩
    let after := (bad.applyAll [infinite, 1, 2, 3]).2
    after.last.isFinite = true ∧ after.previous.isFinite = true ∧
      (LowPass.design 800 0).applyAll [undefined, 1] = ([undefined, 1], .design 800 0) := by
  intro infinite undefined bad after
  obtain ⟨last, previous⟩ := (bad_values_are_flushed bad).1 (by decide +kernel) [infinite] 1 2 [3]
    (by decide +kernel) (by decide +kernel) (by decide +kernel)
  exact ⟨last, previous, (bad_values_are_flushed _).2 (by decide +kernel) _⟩

/-! ### Lines at rest -/

theorem ne_zero_of_pow_lt_abs {gain : ℚ} (h : 2⁻¹ ^ 23 < |gain|) : gain ≠ 0 :=
  abs_pos.1 (lt_trans (by positivity) h)

/-- The output coefficients of a Butterworth filter add up to the same as those of its feedback. -/
theorem butterworth_identity {k w c : ℚ} (nonzero : c ≠ 0) (denominator : c = 1 + k * w + w * w) :
    w * w / c + (w * w / c + w * w / c) + w * w / c =
      1 + ((w * w - 1) + (w * w - 1)) / c + (1 - k * w + w * w) / c := by
  field_simp
  rw [denominator]
  ring

/-- The feedback of a line at rest leaves the line as it is. -/
theorem feedback_at_rest {v gain a1 a2 : ℚ} (nonzero : gain ≠ 0) (unity : gain = 1 + a1 + a2) :
    v - v / gain * a1 - v / gain * a2 = v / gain := by
  have all : v / gain * gain = v := div_mul_cancel₀ v nonzero
  calc v - v / gain * a1 - v / gain * a2
      = v / gain * gain - v / gain * a1 - v / gain * a2 := by rw [all]
    _ = v / gain * (1 + a1 + a2) - v / gain * a1 - v / gain * a2 := by rw [← unity]
    _ = v / gain := by ring

/-- The output of a line at rest is the input. -/
theorem output_at_rest {v b0 b1 b2 : ℚ} (nonzero : b0 + b1 + b2 ≠ 0) :
    v / (b0 + b1 + b2) * b0 + v / (b0 + b1 + b2) * b1 + v / (b0 + b1 + b2) * b2 = v := by
  rw [← mul_add, ← mul_add, div_mul_cancel₀ v nonzero]

/-- What exact numbers leave open of the numbers that a filter is designed with. -/
class Trigonometry where
  /-- The tangent. -/
  tan : ℚ → ℚ
  /-- Half a turn. -/
  halfTurn : ℚ
  /-- The cosine of an eighth of a turn. -/
  cosEighthTurn : ℚ

/-- Rational numbers. What is negligible is as in single precision. -/
instance [Trigonometry] : Scalar ℚ where
  zero := 0
  one := 1
  decidableLE := inferInstance
  decidableLT := inferInstance
  abs x := |x|
  isFinite _ := true
  negligible := 2⁻¹ ^ 23
  halfTurn := Trigonometry.halfTurn
  cosEighthTurn := Trigonometry.cosEighthTurn
  tan := Trigonometry.tan

namespace LowPass

/-- An input that changes nothing changes nothing again and again. -/
theorem applyAll_replicate {α : Type} [Scalar α] {f : LowPass α} {input output : α}
    (still : f.apply input = (output, f)) (n : Nat) :
    f.applyAll (List.replicate n input) = (List.replicate n output, f) := by
  induction n with
  | zero => rfl
  | succ n ih => simp only [List.replicate_succ, applyAll, still, ih]

variable [Trigonometry]

/-- The filter with its line at rest under a constant input. -/
def atRest (f : LowPass ℚ) (input : ℚ) : LowPass ℚ :=
  { f with
    last := input / f.coefficients.gain
    previous := input / f.coefficients.gain
    settled := true }

/-- A line that is settled is at rest, if the gain is not negligible. -/
theorem settle_eq_atRest {f : LowPass ℚ} (gain : negligible < |f.coefficients.gain|) (input : ℚ) :
    f.settle input = f.atRest input := by
  have settled : (if negligible < |f.coefficients.gain| then input / f.coefficients.gain
      else input) = input / f.coefficients.gain := if_pos gain
  exact congrArg (fun inner => { f with last := inner, previous := inner, settled := true }) settled

/-- A constant input passes a line at rest unchanged and leaves it at rest, if the gain of the
output side is that of the feedback. -/
theorem advance_atRest {f : LowPass ℚ} (nonzero : f.coefficients.gain ≠ 0)
    (unity : f.coefficients.gain = 1 + f.coefficients.a1 + f.coefficients.a2) (input : ℚ) :
    (f.atRest input).advance input = (input, f.atRest input) := by
  have feedback : (f.atRest input).inner input = input / f.coefficients.gain :=
    feedback_at_rest nonzero unity
  have output : input / f.coefficients.gain * f.coefficients.b0 +
      input / f.coefficients.gain * f.coefficients.b1 +
      input / f.coefficients.gain * f.coefficients.b2 = input := output_at_rest nonzero
  unfold advance
  dsimp only
  rw [feedback]
  exact congrArg (·, f.atRest input) output

/-- Once settled for a constant input, a filter passes that input on for as long as it lasts, and
its line stays at rest. -/
theorem applyAll_atRest {f : LowPass ℚ} (filters : ¬ f.PassesThrough)
    (nonzero : f.coefficients.gain ≠ 0)
    (unity : f.coefficients.gain = 1 + f.coefficients.a1 + f.coefficients.a2) (input : ℚ)
    (n : Nat) :
    (f.atRest input).applyAll (List.replicate n input) =
      (List.replicate n input, f.atRest input) := by
  have filters' : ¬ (f.atRest input).PassesThrough := filters
  have still : (f.atRest input).apply input = (input, f.atRest input) := by
    rw [apply_of_settled filters' rfl]
    exact advance_atRest nonzero unity input
  exact applyAll_replicate still n

end LowPass

/-- The output side of a Butterworth filter has the same gain as its feedback. -/
theorem Coefficients.gain_butterworth [Trigonometry] {k w : ℚ} (c : 1 + k * w + w * w ≠ 0) :
    (butterworth k w).gain = 1 + (butterworth k w).a1 + (butterworth k w).a2 :=
  butterworth_identity c rfl

/-- Read exactly, a design has a gain of one for constant inputs, whatever its tangent and its
damping. If the gain of its output side is not negligible, then the outputs are equal to a constant
input from the first on, and from then on both values of the line are the input divided by the gain.
The same holds after the line is settled for the input, whatever was in it. -/
theorem constant_inputs_pass [Trigonometry] (rate cutoff : ℚ) :
    let fresh : LowPass ℚ := .design rate cutoff
    let k : ℚ := twice cosEighthTurn
    let w : ℚ := tan (halfTurn / (rate / cutoff))
    let gain := fresh.coefficients.gain
    ¬ fresh.PassesThrough → 1 + k * w + w * w ≠ 0 →
      gain = 1 + fresh.coefficients.a1 + fresh.coefficients.a2 ∧
      (negligible < |gain| → ∀ v : ℚ,
        let resting := { fresh with last := v / gain, previous := v / gain, settled := true }
        (∀ n, fresh.applyAll (List.replicate (n + 1) v) = (List.replicate (n + 1) v, resting)) ∧
        ∀ f : LowPass ℚ, f.emptied = fresh → f.settle v = resting ∧
          ∀ n, (f.settle v).applyAll (List.replicate n v) = (List.replicate n v, resting)) := by
  intro fresh k w gain filters c
  have designed : fresh.coefficients = .butterworth k w := if_neg filters
  have unity : gain = 1 + fresh.coefficients.a1 + fresh.coefficients.a2 := by
    show fresh.coefficients.gain = _
    rw [designed]
    exact Coefficients.gain_butterworth c
  refine ⟨unity, fun audible v => ?_⟩
  intro resting
  have nonzero : gain ≠ 0 := ne_zero_of_pow_lt_abs audible
  have still (n : Nat) : resting.applyAll (List.replicate n v) = (List.replicate n v, resting) :=
    LowPass.applyAll_atRest filters nonzero unity v n
  have settled : fresh.settle v = resting := LowPass.settle_eq_atRest audible v
  refine ⟨fun n => ?_, fun f same => ?_⟩
  · have first : fresh.apply v = (v, resting) := by
      have unsettled : fresh.apply v = (fresh.settle v).advance v := if_neg filters
      rw [unsettled, settled]
      exact LowPass.advance_atRest nonzero unity v
    rw [List.replicate_succ, LowPass.applyAll, first]
    dsimp only
    rw [still]
  · have settled' : f.settle v = resting := by
      show f.emptied.settle v = resting
      rw [same, settled]
    exact ⟨settled', fun n => by rw [settled', still]⟩

/-- A damping of one and a tangent of one half: under an input of four the line rests at seven. -/
theorem constant_inputs_pass_half :
    letI : Trigonometry := ⟨fun _ => 1 / 2, 3, 1 / 2⟩
    let fresh : LowPass ℚ := .design 800 30
    let resting : LowPass ℚ := { fresh with last := 7, previous := 7, settled := true }
    fresh.coefficients = ⟨-6 / 7, 3 / 7, 1 / 7, 2 / 7, 1 / 7⟩ ∧
      fresh.applyAll [4, 4, 4] = ([4, 4, 4], resting) ∧
      ({ fresh with last := 5, previous := -2 }.settle 4).applyAll [4, 4] = ([4, 4], resting) := by
  let _ : Trigonometry := ⟨fun _ => 1 / 2, 3, 1 / 2⟩
  have gain : (LowPass.design 800 30 : LowPass ℚ).coefficients.gain = 4 / 7 := by decide +kernel
  obtain ⟨-, rests⟩ := constant_inputs_pass 800 30 (by decide +kernel) (by decide +kernel)
  obtain ⟨passes, settles⟩ := rests (by decide +kernel) 4
  have seven : (4 : ℚ) / (4 / 7) = 7 := by decide +kernel
  rw [gain, seven] at passes settles
  exact ⟨by decide +kernel, passes 2, (settles _ rfl).2 2⟩

end ECompass
