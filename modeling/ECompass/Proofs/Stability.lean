import ECompass.Proofs.FilterDesigns
import ECompass.Proofs.Rounding

/-!
# Stability of the filter

A Butterworth low-pass is stable if the tangent of its cutoff angle is positive, and the tangent is
positive if the cutoff is below half the sample rate (`stable_exactCoefficients`). A filter whose
cutoff is not below it has coefficients too, so nothing fails when it is designed.

The driver does not compare the cutoff with the rate. Which design a filter has is up to the command
that has asked for it last (`lastDesign`), so a stable one is kept by a session for as long as none
is asked for whose cutoff is half the rate or more. A rate is asked for as a natural number of hertz
and kept as an interval of microseconds. What the filter is designed for is the quotient of a second
by that interval, in single precision. As a quotient is not rounded below a natural number, this is
never less than the rate that was asked for.
-/

namespace ECompass

open Program Operation

/-! ### Exact filters -/

/-- Exact numbers. What is negligible is as in single precision. -/
@[reducible] noncomputable def Scalar.real : Scalar ℝ where
  zero := 0
  one := 1
  decidableLE := inferInstance
  decidableLT := inferInstance
  abs x := |x|
  isFinite _ := true
  negligible := 2⁻¹ ^ 23
  halfTurn := Real.pi
  cosEighthTurn := Real.cos (Real.pi / 4)
  tan := Real.tan

/-- The coefficients lie in the triangle in which both roots of the feedback are inside the unit
circle. -/
def Coefficients.Stable (k : Coefficients ℝ) : Prop := |k.a2| < 1 ∧ |k.a1| < 1 + k.a2

/-- Butterworth coefficients are stable if damping and tangent are positive. -/
theorem Coefficients.stable_butterworth {k w : ℝ} (damped : 0 < k) (pos : 0 < w) :
    (@butterworth ℝ .real k w).Stable := by
  have product : 0 < k * w := mul_pos damped pos
  have square : 0 < w * w := mul_pos pos pos
  have c : 0 < 1 + k * w + w * w := by linarith
  show |(1 - k * w + w * w) / (1 + k * w + w * w)| < 1 ∧
    |((w * w - 1) + (w * w - 1)) / (1 + k * w + w * w)| <
      1 + (1 - k * w + w * w) / (1 + k * w + w * w)
  have sum : 1 + (1 - k * w + w * w) / (1 + k * w + w * w) =
      (2 + 2 * (w * w)) / (1 + k * w + w * w) := by
    field_simp
    ring
  rw [sum, abs_div, abs_div, abs_of_pos c, div_lt_one c]
  refine ⟨abs_lt.2 ⟨by linarith, by linarith⟩, ?_⟩
  exact div_lt_div_of_pos_right (abs_lt.2 ⟨by linarith, by linarith⟩) c

/-- The tangent of the cutoff angle is positive if the cutoff is below half the rate. -/
theorem tan_pos_of_lt {rate cutoff : ℝ} (pos : 0 < cutoff) (below : 2 * cutoff < rate) :
    0 < Real.tan (Real.pi / (rate / cutoff)) := by
  have ratio : 2 < rate / cutoff := by rwa [lt_div_iff₀ pos]
  have angle : 0 < Real.pi / (rate / cutoff) := div_pos Real.pi_pos (by linarith)
  exact Real.tan_pos_of_pos_of_lt_pi_div_two angle
    (div_lt_div_of_pos_left Real.pi_pos two_pos ratio)

/-- The coefficients that a filter of a given design has in exact numbers. -/
noncomputable def exactCoefficients (rate cutoff : ℝ) : Coefficients ℝ :=
  (@LowPass.design ℝ .real rate cutoff).coefficients

/-- So they are stable if the cutoff is below half the rate. -/
theorem stable_exactCoefficients {rate cutoff : ℝ} (pos : 0 < cutoff)
    (below : 2 * cutoff < rate) : (exactCoefficients rate cutoff).Stable := by
  have filters : ¬(cutoff ≤ 0 ∨ rate ≤ 0) := by
    rintro (h | h) <;> linarith
  have damped : 0 < Real.cos (Real.pi / 4) + Real.cos (Real.pi / 4) := by
    rw [Real.cos_pi_div_four]
    positivity
  have butterworth : exactCoefficients rate cutoff =
      @Coefficients.butterworth ℝ .real (Real.cos (Real.pi / 4) + Real.cos (Real.pi / 4))
        (Real.tan (Real.pi / (rate / cutoff))) := if_neg filters
  rw [butterworth]
  exact Coefficients.stable_butterworth damped (tan_pos_of_lt pos below)

/-- A single-precision filter is designed for a cutoff below half its sample rate, as exact numbers,
and the exact filter of that design is stable. -/
def LowPass.StablyDesigned (f : LowPass Float32) : Prop :=
  ∃ rate cutoff : ℚ, rational? f.sampleRate = some rate ∧ rational? f.cutoff = some cutoff ∧
    2 * cutoff < rate ∧ 0 < Real.tan (Real.pi / (rate / cutoff)) ∧
    (exactCoefficients rate cutoff).Stable

/-- A filter with a cutoff below half its rate is stably designed, if it does not pass its input
through. -/
theorem LowPass.passesThrough_or_stablyDesigned {f : LowPass Float32} {rate cutoff : ℚ}
    (sampled : rational? f.sampleRate = some rate) (cut : rational? f.cutoff = some cutoff)
    (below : 2 * cutoff < rate) : f.PassesThrough ∨ f.StablyDesigned := by
  by_cases through : f.PassesThrough
  · exact .inl through
  · have pos : 0 < cutoff := rational?_pos (fun h => through (.inl h)) cut
    have pos : (0 : ℝ) < cutoff := by exact_mod_cast pos
    have below' : 2 * (cutoff : ℝ) < rate := by exact_mod_cast below
    exact .inr ⟨rate, cutoff, sampled, cut, below, tan_pos_of_lt pos below',
      stable_exactCoefficients pos below'⟩

/-! ### Designs that are asked for -/

/-- What the filter is asked to be designed for. -/
structure Design where
  /-- The rate in hertz. -/
  hertz : Nat
  /-- The cutoff in hertz. -/
  cutoff : Float32
  deriving DecidableEq

namespace Design

/-- The design of a new driver. -/
def initial : Design := ⟨AccelRate.hz800.hertz, initialCutoff⟩

/-- The cutoff does not filter, or is below half the rate. -/
def Moderate (design : Design) : Prop :=
  design.cutoff ≤ 0 ∨ ∃ cutoff, rational? design.cutoff = some cutoff ∧ 2 * cutoff < design.hertz

end Design

/-- The design that a command asks for, if it is accepted: a rate of the accelerometer with the
cutoff of the filter, or a cutoff with the output rate of the chip. -/
def Driver.asked? (d : Driver) : Command → Option Design
  | .setPollRate .accel rate => (rate.resolve .accel).bind fun hertz =>
    if 1 ≤ hertz ∧ hertz ≤ Scheduler.maxRate .accel then some ⟨hertz, d.filter.cutoff⟩ else none
  | .setLowPass .accel cutoff => some ⟨d.config.accelRate.hertz, cutoff⟩
  | _ => none

/-- The design that was asked for last in a session. -/
def lastDesign (rig : Rig) (steps : List Step) : Design :=
  (along (fun command rig => (rig.driver.asked? command).toList) rig steps).getLast?.getD .initial

/-- The filter has the cutoff that was asked for, at a rate that is not less than was asked for. -/
def Tuning.Fulfils (t : Tuning) (design : Design) : Prop :=
  t.cutoff = design.cutoff ∧ ∃ rate, rational? t.sampleRate = some rate ∧ design.hertz ≤ rate

/-- Polling is never slower than was asked for. -/
theorem exists_rational?_pollingRate {hertz : Nat} (pos : 1 ≤ hertz)
    (le : hertz ≤ Scheduler.maxRate .accel) :
    ∃ rate, rational? (Driver.pollingRate (Scheduler.second / hertz)) = some rate ∧
      hertz ≤ rate := by
  have second : (1e6 : Float32) = .ofNat Scheduler.second := by decide +kernel
  have short : hertz ≤ Scheduler.second := Scheduler.le_second_of_le_maxRate le
  unfold Driver.pollingRate
  rw [second]
  exact exists_rational?_div (by decide) (Nat.div_pos short pos) (by decide)
    ((Nat.div_le_self _ _).trans_lt (by decide)) (Nat.mul_div_le _ _)

theorem rational?_outputRate (rate : AccelRate) :
    rational? (.ofNat rate.hertz) = some (rate.hertz : ℚ) :=
  rational?_ofNat (by cases rate <;> decide) (by cases rate <;> decide)

theorem fulfils_initial : Tuning.Fulfils ⟨.hz800, 0, 800, 30⟩ .initial :=
  ⟨rfl, _, rational?_outputRate .hz800, le_rfl⟩

section

variable {d : Driver} {command : Command} {design : Design}

theorem Driver.asked?_cases (asked : d.asked? command = some design) :
    (∃ rate hertz, command = .setPollRate .accel rate ∧
      rate.filterInterval? = some (Scheduler.second / hertz) ∧
      (1 ≤ hertz ∧ hertz ≤ Scheduler.maxRate .accel) ∧ design = ⟨hertz, d.filter.cutoff⟩) ∨
    ∃ cutoff, command = .setLowPass .accel cutoff ∧
      design = ⟨d.config.accelRate.hertz, cutoff⟩ := by
  unfold asked? at asked
  split at asked
  · rename_i rate
    obtain ⟨hertz, resolved, asked⟩ := Option.bind_eq_some_iff.1 asked
    split at asked
    · rename_i range
      have followed : rate.filterInterval? = some (Scheduler.second / hertz) := by
        rw [PollRate.filterInterval?, resolved, Option.bind_some, Scheduler.intervalFor_eq,
          if_pos range]
      exact .inl ⟨rate, hertz, rfl, followed, range, (Option.some.inj asked).symm⟩
    · cases asked
  · exact .inr ⟨_, rfl, (Option.some.inj asked).symm⟩
  · cases asked

/-- A command that asks for no design designs nothing. -/
theorem Driver.basis?_of_asked?_eq_none (unasked : d.asked? command = none) :
    command.basis? = none := by
  unfold asked? at unasked
  split at unasked
  · rename_i rate
    show rate.filterInterval?.map _ = none
    rw [Option.map_eq_none_iff, PollRate.filterInterval?]
    cases resolved : rate.resolve .accel with
    | none => rfl
    | some hertz =>
      rw [resolved, Option.bind_some] at unasked
      rw [Option.bind_some, Scheduler.intervalFor_eq]
      split at unasked
      · cases unasked
      · rw [if_neg ‹_›]
  · cases unasked
  · rename_i unpolled uncut
    unfold Command.basis?
    split
    · exact absurd rfl (unpolled _)
    · exact absurd rfl (uncut _)
    · rfl

/-- A command that asks for a design leaves that one, and any other the one that there was. -/
theorem fulfils_runOn {rig : Rig} (command : Command)
    (fulfils : rig.driver.tuning.Fulfils design) :
    (command.runOn rig).2.driver.tuning.Fulfils ((rig.driver.asked? command).getD design) := by
  rw [tuning_runOn]
  cases asked : rig.driver.asked? command with
  | none =>
    have undesigned : (Step.command command).basis? = none := Driver.basis?_of_asked?_eq_none asked
    obtain ⟨rate, cutoff, -⟩ :=
      Tuning.afterStep_of_basis?_eq_none (t := rig.driver.tuning) undesigned
    obtain ⟨cut, sampled⟩ := fulfils
    exact ⟨cutoff.trans cut, rate ▸ sampled⟩
  | some other =>
    obtain ⟨rate, hertz, rfl, followed, range, rfl⟩ | ⟨cutoff, rfl, rfl⟩ :=
      Driver.asked?_cases asked
    · show (rig.driver.tuning.poll rate).Fulfils ⟨hertz, rig.driver.tuning.cutoff⟩
      rw [rig.driver.tuning.poll_of_some followed]
      exact ⟨rfl, exists_rational?_pollingRate range.1 range.2⟩
    · exact ⟨rfl, _, rational?_outputRate _, le_rfl⟩

end

/-- So a session leaves the design that was asked for last. -/
theorem fulfils_runSession {rig : Rig} {design : Design} (steps : List Step)
    (fulfils : rig.driver.tuning.Fulfils design) :
    (runSession rig steps).2.driver.tuning.Fulfils ((along (fun command rig =>
      (rig.driver.asked? command).toList) rig steps).getLast?.getD design) := by
  induction steps generalizing rig design with
  | nil => exact fulfils
  | cons step rest ih =>
    cases step with
    | stimulus s =>
      let next : Rig := { rig with bench := s.act rig.bench }
      have unchanged : next.driver.tuning.Fulfils design := fulfils
      exact ih unchanged
    | command command =>
      have last := ih (fulfils_runOn command fulfils)
      have single (asked : Option Design) : asked.toList.getLast? = asked := by
        cases asked <;> rfl
      rw [along, List.getLast?_append, single, Option.getD_or]
      exact last

/-- The three axes are filtered alike. -/
theorem AxisFilter.design_fed {design : Float32 × Float32} {readings : List (Axes Float32)}
    {f : LowPass Float32} (hf : f ∈ (fed design readings).toList) :
    f.sampleRate = design.1 ∧ f.cutoff = design.2 := by
  have axis (component : Axes Float32 → Float32) :
      let g := ((LowPass.design design.1 design.2).applyAll (readings.map component)).2
      g.sampleRate = design.1 ∧ g.cutoff = design.2 := by
    have emptied := LowPass.emptied_applyAll (.design design.1 design.2) (readings.map component)
    exact ⟨congrArg LowPass.sampleRate emptied, congrArg LowPass.cutoff emptied⟩
  simp only [Axes.toList, fed, List.mem_cons, List.not_mem_nil, or_false] at hf
  rcases hf with rfl | rfl | rfl
  · exact axis Axes.x
  · exact axis Axes.y
  · exact axis Axes.z

/-- The filter of every session is stably designed or passes its input through, if the design that
was asked for last is moderate: its cutoff is not positive or is below half the rate that was asked
for. The last design is that of the last accepted rate of the accelerometer or of the last cutoff
that was set, whatever else was done, or else the one of a new driver. -/
theorem filter_stable_at_moderate_design {bench : Bench} {start : Rig} {steps : List Step}
    (connected : connect { bench } = .ok () start) (moderate : (lastDesign start steps).Moderate) :
    ∀ f ∈ (runSession start steps).2.driver.filter.toList,
      f.PassesThrough ∨ f.StablyDesigned := by
  intro f hf
  have begun : start.driver.tuning.Fulfils .initial := by
    rw [tuning_of_connect connected]
    exact fulfils_initial
  obtain ⟨cutoff, rate, sampled, fast⟩ := fulfils_runSession steps begun
  obtain ⟨bus, rfl⟩ := connect_onBus.of_ok connected
  have run : FilterRun (.design 800 30) _ (runSession _ steps).2.driver.filter :=
    chronicle_filtered.session { bench := { bench with bus } } steps
  have fed := run.eq_fed
  have sampleRate := AxisFilter.sampleRate_fed _ _ ▸ congrArg AxisFilter.sampleRate fed
  have cut := AxisFilter.cutoff_fed _ _ ▸ congrArg AxisFilter.cutoff fed
  rw [fed] at hf
  obtain ⟨fRate, fCutoff⟩ := AxisFilter.design_fed hf
  have fSampled : rational? f.sampleRate = some rate := by
    rw [fRate, ← sampleRate]
    exact sampled
  have fCut : f.cutoff = (lastDesign { bench := { bench with bus } } steps).cutoff := by
    rw [fCutoff, ← cut]
    exact cutoff
  rcases moderate with unfiltered | ⟨c, exact, below⟩
  · exact .inl (.inl (fCut ▸ unfiltered))
  · exact LowPass.passesThrough_or_stablyDesigned fSampled (fCut ▸ exact) (below.trans_le fast)

/-- The filter is stably designed at a slow poll rate, whatever output rate is set after that. -/
theorem filter_stable_at_moderate_design_polled :
    let steps : List Step := [.command (.setLowPass .accel 20), .command .reset,
      .command (.setPollRate .accel (.hertz 41)), .command (.requestSetting .accelRate 3),
      .command (.measure .accel)]
    let f := (runSession (.fresh .spi) steps).2.driver.filter.x
    connect { bench := .fresh .spi } = .ok () (.fresh .spi) ∧
      (lastDesign (.fresh .spi) steps).Moderate ∧ f.StablyDesigned := by
  intro steps f
  have connected := connect_fresh .spi
  have design : lastDesign (.fresh .spi) steps = ⟨41, 20⟩ := by decide +kernel
  have moderate : (lastDesign (.fresh .spi) steps).Moderate := by
    rw [design]
    exact .inr ⟨20, by decide +kernel, by norm_num⟩
  have filters : ¬f.PassesThrough := by decide +kernel
  have stable := @filter_stable_at_moderate_design _ _ steps connected moderate f
    (by simp [f, Axes.toList])
  exact ⟨connected, moderate, stable.resolve_left filters⟩

/-- A cutoff above half the output rate is accepted, and the filter is not stably designed. -/
theorem unstable_cutoff_accepted :
    let session := runSession (.fresh .spi) [.command (.setLowPass .accel 500)]
    let f := session.2.driver.filter.x
    connect { bench := .fresh .spi } = .ok () (.fresh .spi) ∧ session.1 = [.reply .done] ∧
      rational? f.sampleRate = some 800 ∧ rational? f.cutoff = some 500 ∧
      ¬f.PassesThrough ∧ ¬f.StablyDesigned ∧ 1 < f.coefficients.a2 := by
  intro session f
  have sampled : rational? f.sampleRate = some 800 := by decide +kernel
  have cut : rational? f.cutoff = some 500 := by decide +kernel
  refine ⟨connect_fresh .spi, by decide +kernel, sampled, cut, by decide +kernel, ?_,
    by decide +kernel⟩
  rintro ⟨rate, cutoff, hr, hc, below, -⟩
  obtain rfl := Option.some.inj (sampled.symm.trans hr)
  obtain rfl := Option.some.inj (cut.symm.trans hc)
  norm_num at below

end ECompass
