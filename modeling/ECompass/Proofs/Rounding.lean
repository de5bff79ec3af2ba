import ECompass.Filter.Precision
import Mathlib

/-!
# Exact values

A single-precision number that is finite stands for a rational number (`rational?`). Small natural
numbers stand for themselves (`rational?_ofNat`), and so a quotient of two of them is rounded once.
It is rounded to the nearest number, which may be the next larger or the next smaller one, but it is
not rounded past a natural number, as that is a number to round to as well (`exists_rational?_div`).

The operations round in three steps: the mantissa is shifted to the length of the format, rounded to
an even one on a tie, and shifted once more if it has become too long.
-/

namespace ECompass

open Float.Model UnpackedFloat

/-- The value of an unpacked number, if it is finite. -/
def value? : UnpackedFloat → Option ℚ
  | .finite sign mantissa exponent _ => some (sign.apply mantissa * 2 ^ exponent)
  | .zero _ => some 0
  | .infinity _ | .notANumber => none

/-- The exact value of a number, if it is finite. -/
def rational? (x : Float32) : Option ℚ := value? x.toModel.unpack

/-- A number that is not at most zero has a positive value. -/
theorem rational?_pos {x : Float32} {q : ℚ} (pos : ¬x ≤ 0) (exact : rational? x = some q) :
    0 < q := by
  have zero : (0 : Float32).toModel.unpack = .zero .positive := by rfl
  have unle : ¬x.toModel.unpack.le (.zero .positive) := by
    rw [← zero]
    exact fun le => pos (decide_eq_true le)
  unfold rational? at exact
  generalize x.toModel.unpack = u at unle exact
  cases u with
  | infinity | notANumber => cases exact
  | zero sign => exact absurd rfl unle
  | finite sign mantissa exponent positive =>
    cases sign with
    | negative => exact absurd rfl unle
    | positive =>
      obtain rfl := Option.some.inj exact
      have : (0 : ℚ) < ((mantissa : ℤ) : ℚ) := by exact_mod_cast positive
      exact mul_pos this (zpow_pos two_pos exponent)

/-! ### Shifting and rounding a mantissa -/

theorem mantissa_shiftRight (em : ExtendedMantissa) (k : ℕ) :
    (em >>> k).mantissa = em.mantissa / 2 ^ k := by
  show (Nat.repeat ExtendedMantissa.shiftRightOne k em).mantissa = _
  induction k with
  | zero => simp [Nat.repeat]
  | succ k ih =>
    show (Nat.repeat ExtendedMantissa.shiftRightOne k em).mantissa / 2 = _
    rw [ih, Nat.div_div_eq_div_mul, pow_succ]

theorem mantissa_ofMantissaAndAccuracy (m : ℕ) (accuracy : Accuracy) :
    (ExtendedMantissa.ofMantissaAndAccuracy m accuracy).mantissa = m := by
  unfold ExtendedMantissa.ofMantissaAndAccuracy
  split <;> rfl

/-- Shifting out zeros leaves a mantissa exact. -/
theorem shiftRight_exact (m k : ℕ) :
    (⟨m * 2 ^ k, false, false⟩ : ExtendedMantissa) >>> k = ⟨m, false, false⟩ := by
  show Nat.repeat ExtendedMantissa.shiftRightOne k ⟨m * 2 ^ k, false, false⟩ = _
  induction k generalizing m with
  | zero => simp [Nat.repeat]
  | succ k ih =>
    have even : m * 2 ^ (k + 1) = m * 2 * 2 ^ k := by ring
    rw [Nat.repeat, even, ih]
    simp [ExtendedMantissa.shiftRightOne]

/-- A mantissa is rounded to itself or to the next one. -/
theorem roundedMantissa_bounds (em : ExtendedMantissa) :
    em.mantissa ≤ em.roundedMantissa ∧ em.roundedMantissa ≤ em.mantissa + 1 := by
  obtain ⟨m, round, sticky⟩ := em
  have := Nat.mod_lt m two_pos
  cases round <;> cases sticky <;>
    simp only [ExtendedMantissa.roundedMantissa, ExtendedMantissa.accuracy,
      Accuracy.roundToNearestEven] <;>
    omega

/-- A mantissa has the length of the format. -/
def Full (m : ℕ) : Prop := 2 ^ 23 ≤ m ∧ m < 2 ^ 24

theorem Full.log2 {m : ℕ} (full : Full m) : m.log2 = 23 :=
  (Nat.log2_eq_iff (by have := full.1; omega)).2 full

theorem Full.pos {m : ℕ} (full : Full m) : 0 < m := lt_of_lt_of_le (by decide) full.1

theorem Full.of_log2 {m k : ℕ} (length : m.log2 = 23 + k) : Full (m / 2 ^ k) := by
  have pos : m ≠ 0 := by
    rintro rfl
    simp at length
    omega
  obtain ⟨lower, upper⟩ := (Nat.log2_eq_iff pos).1 length
  constructor
  · rw [Nat.le_div_iff_mul_le (Nat.two_pow_pos k), ← pow_add]
    exact lower
  · rw [Nat.div_lt_iff_lt_mul (Nat.two_pow_pos k), ← pow_add]
    exact upper.trans_eq (by ring)

/-- A mantissa that is long enough is shifted to the length of the format. -/
theorem shiftToTargetExponent_of_long {m k : ℕ} {e : ℤ} (accuracy : Accuracy)
    (length : m.log2 = 23 + k) (low : -149 ≤ e + k) :
    shiftToTargetExponent .binary32 m e accuracy =
      (ExtendedMantissa.ofMantissaAndAccuracy m accuracy >>> k, e + k) := by
  have target : Format.binary32.targetExponent (totalExponent m e) = e + k := by
    simp only [Format.targetExponent, totalExponent, Format.mantissaBits, Format.minExponent,
      length]
    push_cast
    omega
  have shift : (e + k - e).toNat = k := by omega
  unfold shiftToTargetExponent shiftToExponent
  simp only [target, shift]

theorem roundWithAccuracy_eq {format : Format} {sign : Sign} {m m' : ℕ} {e e₁ e' : ℤ}
    {accuracy : Accuracy} {em em' : ExtendedMantissa}
    (first : shiftToTargetExponent format m e accuracy = (em, e₁))
    (second : shiftToTargetExponent format em.roundedMantissa e₁ .exact = (em', e'))
    (mantissa : em'.mantissa = m') (pos : 0 < m') :
    roundWithAccuracy format sign m e accuracy = .finite sign m' e' pos := by
  subst mantissa
  unfold roundWithAccuracy
  simp only [first, second]
  exact dif_neg pos.ne'

/-- A mantissa that is long enough is rounded once, and is shifted by one more if that makes it too
long. -/
theorem roundWithAccuracy_of_long {m k : ℕ} {e : ℤ} (accuracy : Accuracy)
    (length : m.log2 = 23 + k) (low : -149 ≤ e + k) :
    let r := (ExtendedMantissa.ofMantissaAndAccuracy m accuracy >>> k).roundedMantissa
    ∃ m' e' pos, roundWithAccuracy .binary32 .positive m e accuracy = .finite .positive m' e' pos ∧
      Full m' ∧ (m' = r ∧ e' = e + k ∨ 2 * m' = r ∧ e' = e + k + 1) := by
  intro r
  have bounds := roundedMantissa_bounds (ExtendedMantissa.ofMantissaAndAccuracy m accuracy >>> k)
  rw [mantissa_shiftRight, mantissa_ofMantissaAndAccuracy] at bounds
  have full := Full.of_log2 length
  have shifted := shiftToTargetExponent_of_long accuracy length low
  rcases Nat.lt_or_ge r (2 ^ 24) with small | large
  · have full : Full r := ⟨full.1.trans bounds.1, small⟩
    have again := shiftToTargetExponent_of_long (k := 0) .exact full.log2
      (show -149 ≤ e + k + (0 : ℕ) by omega)
    rw [Nat.cast_zero, add_zero] at again
    exact ⟨r, e + k, full.pos, roundWithAccuracy_eq shifted again rfl full.pos, full,
      .inl ⟨rfl, rfl⟩⟩
  · have carried : r = 2 ^ 24 := by
      have := full.2
      omega
    have again := shiftToTargetExponent_of_long (m := r) (k := 1) .exact
      (by rw [carried, Nat.log2_two_pow]) (show -149 ≤ e + k + (1 : ℕ) by omega)
    rw [Nat.cast_one] at again
    have half : (ExtendedMantissa.ofMantissaAndAccuracy r .exact >>> 1).mantissa = 2 ^ 23 := by
      rw [mantissa_shiftRight]
      show r / 2 ^ 1 = 2 ^ 23
      omega
    exact ⟨2 ^ 23, e + k + 1, by decide, roundWithAccuracy_eq shifted again half _,
      ⟨by decide, by decide⟩, .inr ⟨by omega, rfl⟩⟩

/-! ### Packing -/

/-- A full mantissa survives packing, if the exponent fits. -/
theorem unpack_pack_of_full {sign : Sign} {m : ℕ} {e : ℤ} {pos : 0 < m} (full : Full m)
    (low : -149 ≤ e) (high : e ≤ 104) :
    UnpackedFloat.unpack .binary32 (UnpackedFloat.pack .binary32 (.finite sign m e pos)) =
      .finite sign m e pos := by
  let b : ℕ := (e + 127 + 23).toNat
  have fits : b + 1 < 2 ^ 8 := by omega
  have exponent : (BitVec.ofNat 8 b).toNat = b := Nat.mod_eq_of_lt (by omega)
  have normal : BitVec.ofNat 8 b ≠ 0#8 := by
    intro h
    have := congrArg BitVec.toNat h
    rw [exponent] at this
    simp at this
    omega
  have finite : BitVec.ofNat 8 b ≠ -1#8 := by
    intro h
    have := congrArg BitVec.toNat h
    rw [exponent] at this
    simp at this
    omega
  have mantissa : (1#1 ++ BitVec.ofNat 23 m).toNat = m := by
    rw [BitVec.toNat_append, ← Nat.shiftLeft_add_eq_or_of_lt (BitVec.isLt _)]
    obtain ⟨lower, upper⟩ := full
    simp [Nat.shiftLeft_eq]
    omega
  have packed : UnpackedFloat.pack .binary32 (.finite sign m e pos) =
      packComponents .binary32 sign (BitVec.ofNat 8 b) (BitVec.ofNat 23 m) := by
    show (if 2 ^ 8 ≤ b + 1 then _ else if m.log2 + 1 = 24 then _ else _) = _
    rw [if_neg (by omega), if_pos (by rw [full.log2])]
    rfl
  rw [packed]
  unfold UnpackedFloat.unpack
  simp only [unpackMantissa_packComponents, unpackExponent_packComponents,
    unpackSign_packComponents]
  rw [if_neg finite, if_neg normal]
  simp only [Sign.ofBitVec_toBitVec, mantissa, exponent]
  congr 1
  show (b : ℤ) - (127 + 23) = e
  omega

/-- Rounding to the format gives the value of the rounded mantissa, if that fits. -/
theorem value?_round_of_long {m k : ℕ} {e : ℤ} (accuracy : Accuracy)
    (length : m.log2 = 23 + k) (low : -149 ≤ e + k) (high : e + k ≤ 103) :
    value? (UnpackedFloat.unpack .binary32 (UnpackedFloat.pack .binary32
        (roundWithAccuracy .binary32 .positive m e accuracy))) =
      some (((ExtendedMantissa.ofMantissaAndAccuracy m accuracy >>> k).roundedMantissa : ℚ) *
        2 ^ (e + k)) := by
  obtain ⟨m', e', pos, rounded, full, same⟩ := roundWithAccuracy_of_long accuracy length low
  rw [rounded, unpack_pack_of_full full (by omega) (by omega)]
  show some (((m' : ℤ) : ℚ) * 2 ^ e') = _
  rcases same with ⟨rfl, rfl⟩ | ⟨double, rfl⟩
  · rw [Int.cast_natCast]
  · rw [← double, zpow_add_one₀ two_ne_zero]
    push_cast
    ring_nf

/-! ### Natural numbers -/

theorem log2_mul_two_pow {n : ℕ} (pos : 0 < n) (j : ℕ) : (n * 2 ^ j).log2 = n.log2 + j := by
  obtain ⟨lower, upper⟩ := (Nat.log2_eq_iff pos.ne').1 rfl
  have scaled : n * 2 ^ j ≠ 0 := by positivity
  refine (Nat.log2_eq_iff scaled).2 ⟨?_, ?_⟩
  · rw [pow_add]
    exact Nat.mul_le_mul_right _ lower
  · rw [add_right_comm, pow_add]
    exact Nat.mul_lt_mul_of_pos_right upper (Nat.two_pow_pos j)

theorem log2_le_of_small {n : ℕ} (pos : 0 < n) (small : n < 2 ^ 24) : n.log2 ≤ 23 :=
  Nat.le_of_lt_succ ((Nat.log2_lt pos.ne').2 small)

/-- The number is a natural one, with a mantissa of full length. -/
def Denotes (u : UnpackedFloat) (n : ℕ) : Prop :=
  ∃ pos, u = .finite .positive (n * 2 ^ (23 - n.log2)) (n.log2 - 23) pos

theorem full_scaled {n : ℕ} (pos : 0 < n) (small : n < 2 ^ 24) : Full (n * 2 ^ (23 - n.log2)) := by
  have short := log2_le_of_small pos small
  have length : (n * 2 ^ (23 - n.log2)).log2 = 23 + 0 := by
    rw [log2_mul_two_pow pos]
    omega
  simpa using Full.of_log2 length

section

variable {n : ℕ} {u : UnpackedFloat} (pos : 0 < n) (small : n < 2 ^ 24)

include pos small

theorem Denotes.value? (h : Denotes u n) : value? u = some (n : ℚ) := by
  have short := log2_le_of_small pos small
  obtain ⟨_, rfl⟩ := h
  show some (((n * 2 ^ (23 - n.log2) : ℕ) : ℤ) * (2 : ℚ) ^ ((n.log2 : ℤ) - 23)) = _
  have exponent : (n.log2 : ℤ) - 23 = -((23 - n.log2 : ℕ) : ℤ) := by omega
  rw [exponent, zpow_neg, zpow_natCast]
  push_cast
  rw [mul_assoc, mul_inv_cancel₀ (by positivity), mul_one]

/-- A natural number survives packing. -/
theorem Denotes.unpack_pack (h : Denotes u n) :
    Denotes (UnpackedFloat.unpack .binary32 (UnpackedFloat.pack .binary32 u)) n := by
  have short := log2_le_of_small pos small
  obtain ⟨scaled, rfl⟩ := h
  exact ⟨scaled, unpack_pack_of_full (full_scaled pos small) (by omega) (by omega)⟩

/-- Rounding leaves a natural number as it is. -/
theorem round_denotes {j : ℕ} (long : 23 ≤ n.log2 + j) :
    Denotes (roundWithAccuracy .binary32 .positive (n * 2 ^ j) (-j) .exact) n := by
  have short := log2_le_of_small pos small
  have full := full_scaled pos small
  obtain ⟨k, hk⟩ := Nat.exists_eq_add_of_le long
  have length : (n * 2 ^ j).log2 = 23 + k := by rw [log2_mul_two_pow pos, hk]
  have split : j = 23 - n.log2 + k := by omega
  have scaled : n * 2 ^ j = n * 2 ^ (23 - n.log2) * 2 ^ k := by rw [mul_assoc, ← pow_add, ← split]
  have exponent : -(j : ℤ) + k = n.log2 - 23 := by omega
  have first := shiftToTargetExponent_of_long (e := -j) .exact length (by omega)
  have shifted : ExtendedMantissa.ofMantissaAndAccuracy (n * 2 ^ j) .exact >>> k =
      ⟨n * 2 ^ (23 - n.log2), false, false⟩ := by
    rw [scaled]
    exact shiftRight_exact _ k
  rw [shifted, exponent] at first
  have second := shiftToTargetExponent_of_long (k := 0) (e := n.log2 - 23) .exact full.log2
    (by omega)
  rw [Nat.cast_zero, add_zero] at second
  exact ⟨full.pos, roundWithAccuracy_eq first second rfl full.pos⟩

theorem ofNat_denotes : Denotes (UnpackedFloat.ofNat .binary32 n) n := by
  have short := log2_le_of_small pos small
  have target : Format.binary32.targetExponent (totalExponent n 0) = -((23 - n.log2 : ℕ) : ℤ) := by
    simp only [Format.targetExponent, totalExponent, Format.mantissaBits, Format.minExponent]
    push_cast
    omega
  unfold UnpackedFloat.ofNat UnpackedFloat.ofInt UnpackedFloat.normalize
  rw [Int.compare_eq_gt.2 (by omega)]
  show Denotes (UnpackedFloat.round _ _ (Int.toNat n) 0) n
  unfold UnpackedFloat.round decreaseExponent
  simp only [Int.toNat_natCast, target, Nat.shiftLeft_eq, Int.zero_sub]
  exact round_denotes pos small (by omega)

end

/-- A product of natural numbers is exact. -/
theorem mul_denotes {u v : UnpackedFloat} {a b : ℕ} (hu : Denotes u a) (hv : Denotes v b)
    (ha : 0 < a) (hb : 0 < b) (small : a * b < 2 ^ 24) :
    Denotes (UnpackedFloat.mul .binary32 u v) (a * b) := by
  have shortA := log2_le_of_small ha (lt_of_le_of_lt (Nat.le_mul_of_pos_right a hb) small)
  have shortB := log2_le_of_small hb (lt_of_le_of_lt (Nat.le_mul_of_pos_left b ha) small)
  have long : a.log2 + b.log2 ≤ (a * b).log2 := by
    rw [Nat.le_log2 (by positivity), pow_add]
    exact Nat.mul_le_mul (Nat.log2_self_le ha.ne') (Nat.log2_self_le hb.ne')
  obtain ⟨_, rfl⟩ := hu
  obtain ⟨_, rfl⟩ := hv
  have mantissa : a * 2 ^ (23 - a.log2) * (b * 2 ^ (23 - b.log2)) =
      a * b * 2 ^ (46 - a.log2 - b.log2) := by
    have : 46 - a.log2 - b.log2 = 23 - a.log2 + (23 - b.log2) := by omega
    rw [this, pow_add]
    ring
  have exponent : (a.log2 : ℤ) - 23 + (b.log2 - 23) = -((46 - a.log2 - b.log2 : ℕ) : ℤ) := by omega
  show Denotes (roundWithAccuracy _ _ (_ * _) (_ + _) _) _
  rw [mantissa, exponent]
  exact round_denotes (Nat.mul_pos ha hb) small (by omega)

/-- Small natural numbers are converted to themselves. -/
theorem unpack_ofNat {n : ℕ} (pos : 0 < n) (small : n < 2 ^ 23) :
    Denotes (Float32.ofNat n).toModel.unpack n := by
  have one : Denotes (Float32.ofBits 1065353216).toModel.unpack 1 := ⟨by decide, rfl⟩
  have whole : n.toUInt64.toNat = n := Nat.mod_eq_of_lt (by omega)
  have converted : Denotes n.toUInt64.toFloat32.toModel.unpack n := by
    show Denotes (UnpackedFloat.unpack _ (UnpackedFloat.pack _
      (UnpackedFloat.ofNat .binary32 n.toUInt64.toNat))) n
    rw [whole]
    exact (ofNat_denotes pos (by omega)).unpack_pack pos (by omega)
  have scaled : Float32.ofNat n = n.toUInt64.toFloat32 * .ofBits 1065353216 := by
    show Float32.ofScientific n false 0 = _
    unfold Float32.ofScientific
    rw [dif_pos ⟨small, by decide⟩]
    rfl
  rw [scaled]
  have product := mul_denotes converted one pos one_pos (by omega)
  rw [mul_one] at product
  exact product.unpack_pack pos (by omega)

/-- A small natural number stands for itself. -/
theorem rational?_ofNat {n : ℕ} (pos : 0 < n) (small : n < 2 ^ 23) :
    rational? (Float32.ofNat n) = some (n : ℚ) :=
  (unpack_ofNat pos small).value? pos (by omega)

/-! ### Quotients -/

theorem divCore_of_full {m₁ m₂ : ℕ} {e₁ e₂ : ℤ} (full₁ : Full m₁) (full₂ : Full m₂)
    (low : -149 ≤ e₁ - e₂ - 24) : divCore .binary32 m₁ e₁ m₂ e₂ =
      (m₁ * 2 ^ 24 / m₂, e₁ - e₂ - 24, accuracyOfFraction (m₁ * 2 ^ 24 % m₂) m₂) := by
  have target : min (e₁ - e₂) (Format.binary32.targetExponent
      (totalExponent m₁ e₁ - totalExponent m₂ e₂)) = e₁ - e₂ - 24 := by
    simp only [Format.targetExponent, totalExponent, Format.mantissaBits, Format.minExponent,
      full₁.log2, full₂.log2]
    push_cast
    omega
  have shift : (e₁ - e₂ - (e₁ - e₂ - 24)).toNat = 24 := by omega
  unfold divCore
  simp only [target, shift, Nat.shiftLeft_eq]

/-- The quotient of two full mantissas is a full one, or one bit too long. -/
theorem log2_quotient {m₁ m₂ : ℕ} (full₁ : Full m₁) (full₂ : Full m₂) :
    ∃ k ≤ 1, (m₁ * 2 ^ 24 / m₂).log2 = 23 + k := by
  have pos := full₂.pos
  obtain ⟨lower₁, upper₁⟩ := full₁
  obtain ⟨lower₂, upper₂⟩ := full₂
  have lower : 2 ^ 23 ≤ m₁ * 2 ^ 24 / m₂ := by
    rw [Nat.le_div_iff_mul_le pos]
    exact Nat.mul_le_mul lower₁ upper₂.le
  have upper : m₁ * 2 ^ 24 / m₂ < 2 ^ 25 := by
    rw [Nat.div_lt_iff_lt_mul pos]
    omega
  have nonzero : m₁ * 2 ^ 24 / m₂ ≠ 0 := by omega
  have short : (m₁ * 2 ^ 24 / m₂).log2 < 25 := (Nat.log2_lt nonzero).2 upper
  have long : 23 ≤ (m₁ * 2 ^ 24 / m₂).log2 := (Nat.le_log2 nonzero).2 lower
  exact ⟨(m₁ * 2 ^ 24 / m₂).log2 - 23, by omega, by omega⟩

/-- A quotient is the floor of the exact one, to 24 bits at least, or is rounded up from that. -/
theorem rational?_div {x y : Float32} {m₁ m₂ : ℕ} {e₁ e₂ : ℤ} {pos₁ : 0 < m₁} {pos₂ : 0 < m₂}
    (hx : x.toModel.unpack = .finite .positive m₁ e₁ pos₁)
    (hy : y.toModel.unpack = .finite .positive m₂ e₂ pos₂) (full₁ : Full m₁) (full₂ : Full m₂)
    (low : -149 ≤ e₁ - e₂ - 24) (high : e₁ - e₂ ≤ 126) :
    ∃ k r : ℕ, k ≤ 1 ∧ m₁ * 2 ^ 24 / m₂ / 2 ^ k ≤ r ∧
      rational? (x / y) = some ((r : ℚ) * 2 ^ (e₁ - e₂ - 24 + k)) := by
  obtain ⟨k, short, length⟩ := log2_quotient full₁ full₂
  let rounded := ExtendedMantissa.ofMantissaAndAccuracy (m₁ * 2 ^ 24 / m₂)
    (accuracyOfFraction (m₁ * 2 ^ 24 % m₂) m₂) >>> k
  have bound := (roundedMantissa_bounds rounded).1
  rw [mantissa_shiftRight, mantissa_ofMantissaAndAccuracy] at bound
  refine ⟨k, rounded.roundedMantissa, short, bound, ?_⟩
  rw [← value?_round_of_long _ length (by omega) (by omega)]
  show value? (UnpackedFloat.unpack _ (UnpackedFloat.pack _
    (UnpackedFloat.div _ x.toModel.unpack y.toModel.unpack))) = _
  rw [hx, hy]
  unfold UnpackedFloat.div
  simp only [divCore_of_full full₁ full₂ low]
  rfl

/-- A quotient of natural numbers is not rounded below a natural number that it is at least. -/
theorem exists_rational?_div {a b h : ℕ} (ha : 0 < a) (hb : 0 < b) (smallA : a < 2 ^ 23)
    (smallB : b < 2 ^ 23) (le : h * b ≤ a) :
    ∃ q, rational? (Float32.ofNat a / Float32.ofNat b) = some q ∧ (h : ℚ) ≤ q := by
  have shortA := log2_le_of_small ha (by omega)
  have shortB := log2_le_of_small hb (by omega)
  obtain ⟨_, unpackedA⟩ := unpack_ofNat ha smallA
  obtain ⟨_, unpackedB⟩ := unpack_ofNat hb smallB
  obtain ⟨k, r, short, bound, quotient⟩ := rational?_div unpackedA unpackedB
    (full_scaled ha (by omega)) (full_scaled hb (by omega)) (by omega) (by omega)
  obtain ⟨j, hj⟩ : ∃ j : ℕ, 24 + b.log2 = a.log2 + k + j := ⟨24 + b.log2 - a.log2 - k, by omega⟩
  refine ⟨_, quotient, ?_⟩
  -- As an integer multiple of the last bit that is kept, the number is not cut by the floor.
  have floor : h * 2 ^ j ≤ r := by
    refine le_trans ?_ bound
    rw [Nat.le_div_iff_mul_le (by positivity), Nat.le_div_iff_mul_le (by positivity)]
    calc h * 2 ^ j * 2 ^ k * (b * 2 ^ (23 - b.log2))
        = h * b * 2 ^ (j + k + (23 - b.log2)) := by ring
      _ = h * b * 2 ^ (23 - a.log2 + 24) := by congr 2; omega
      _ ≤ a * 2 ^ (23 - a.log2 + 24) := Nat.mul_le_mul_right _ le
      _ = a * 2 ^ (23 - a.log2) * 2 ^ 24 := by ring
  have exponent : (a.log2 : ℤ) - 23 - (b.log2 - 23) - 24 + k = -(j : ℤ) := by omega
  rw [exponent, zpow_neg, zpow_natCast, ← div_eq_mul_inv, le_div_iff₀ (by positivity)]
  exact_mod_cast floor

end ECompass
