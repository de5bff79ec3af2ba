import ECompass.Proofs.Sessions

/-!
# The health check raises no false alarm

As long as the control register of a channel holds what the driver expects, only an outside write
can change that: each value that the driver writes there, it expects from then on, and a transfer
that fails changes neither side. So it does not matter which transfers of which operations fail, nor
what becomes of the other channel: no measurement of the channel recovers.
-/

namespace ECompass

open Program Operation

/-- The control register of a channel stays as expected, and then no recovery of it is counted. -/
def StaysMatched (c : Channel) (rig next : Rig) : Prop :=
  ¬ rig.Mismatched c → ¬ next.Mismatched c ∧
    next.driver.stats.recoveries.get c = rig.driver.stats.recoveries.get c

instance (c : Channel) : IsPreorder Rig (StaysMatched c) where
  refl _ h := ⟨h, rfl⟩
  trans _ _ _ h h' matched := by
    obtain ⟨mid, count⟩ := h matched
    obtain ⟨final, count'⟩ := h' mid
    exact ⟨final, count'.trans count⟩

theorem StaysMatched.of_iff {c : Channel} {rig next : Rig}
    (h : next.Mismatched c ↔ rig.Mismatched c)
    (recoveries : next.driver.stats.recoveries = rig.driver.stats.recoveries) :
    StaysMatched c rig next := fun matched =>
  ⟨fun mismatched => matched (h.1 mismatched), by rw [recoveries]⟩

/-- Whatever is programmed keeps a control register as expected, at whichever transfer it fails. -/
theorem programs_staysMatched (c : Channel) : Programs (StaysMatched c) where
  calm h := .of_iff (h.mismatched_iff c) h.driver.recoveries
  failed h := .of_iff (h.mismatched_iff c) (by rw [h.driver])
  control {rig next d} h matched := by
    refine ⟨?_, by rw [h.driver]; rfl⟩
    rw [h.mismatched_iff, Driver.expect, PerChannel.get_set]
    by_cases same : c = d
    · rw [if_pos (Channel.control_inj.2 same), if_pos same]
      exact not_not_intro rfl
    · rw [if_neg fun e => same (Channel.control_inj.1 e), if_neg same]
      exact matched
  write unwatched h := .of_iff (h.mismatched_iff_of_unwatched unwatched c) (by rw [h.driver])
  rate {rig next s} h matched := by
    refine ⟨?_, by rw [h.driver]; rfl⟩
    rw [h.mismatched_iff, Driver.track, Expected.get_track]
    cases c with
    | accel =>
      -- the old value was the expected one, so the same update leads to the same new value
      exact not_not_intro (congrArg (RegisterUpdate.program s).apply (Decidable.not_not.1 matched))
    | mag => exact matched

/-- Counting a recovery of the other channel keeps the count. -/
theorem countRecovery_staysMatched {c d : Channel} (h : d ≠ c) :
    Within (StaysMatched c) (onDriver fun driver => driver.countRecovery d) :=
  fun rig matched => ⟨matched, PerChannel.get_set_of_ne rig.driver.stats.recoveries _ h.symm⟩

theorem measure_staysMatched (c d : Channel) : Within (StaysMatched c) (measure d) := by
  by_cases same : d = c
  · subst same
    intro rig
    by_cases mismatched : rig.Mismatched d
    · have vacuous {next : Rig} : StaysMatched d rig next := fun h => absurd mismatched h
      exact Ends.trivial.mono (fun _ _ _ => vacuous) fun _ _ _ => vacuous
    · have calm {next : Rig} (h : rig.Calm next) : StaysMatched d rig next :=
        (programs_staysMatched d).calm h
      exact (measure_of_not_mismatched mismatched).mono (fun _ _ h => calm h.1) fun _ _ => calm
  · exact (programs_staysMatched c).measure (countRecovery_staysMatched same)

theorem operates_staysMatched (c : Channel) : Operates (StaysMatched c) where
  calm := (programs_staysMatched c).calm
  reset := (programs_staysMatched c).reset
  measure := measure_staysMatched c
  request := (programs_staysMatched c).requestSetting fun _ _ matched => ⟨matched, rfl⟩

/-- A stimulus that does not write to a control register keeps it as expected. -/
theorem stimuliWithin_staysMatched {c : Channel} {steps : List Step}
    (untouched : ∀ step ∈ steps, c.control.addr ∉ step.outside) :
    StimuliWithin (StaysMatched c) steps := by
  intro s hs rig matched
  refine ⟨?_, rfl⟩
  rw [Rig.Mismatched, s.read_act rig.bench (untouched _ hs)]
  exact matched

/-- While the control register of a channel is not written from outside, every measurement of the
channel finds it as expected. -/
theorem matched_of_measurement {c : Channel} {rig polled : Rig} {steps : List Step}
    (matched : ¬ rig.Mismatched c) (untouched : ∀ step ∈ steps, c.control.addr ∉ step.outside)
    (hm : .measurement c polled ∈ events rig steps) : ¬ polled.Mismatched c := by
  have moved := (operates_staysMatched c).measurement (stimuliWithin_staysMatched untouched) hm
  exact (moved.1 matched).1

/-- Both control registers hold what the driver expects. -/
def Rig.Synced (rig : Rig) : Prop := ∀ c, ¬ rig.Mismatched c

instance (rig : Rig) : Decidable rig.Synced :=
  decidable_of_iff (¬ rig.Mismatched .accel ∧ ¬ rig.Mismatched .mag)
    ⟨fun h c => by cases c <;> simp [h], fun h => ⟨h .accel, h .mag⟩⟩

/-- The health check raises no false alarm: if both control registers hold what the driver expects,
they still do after any session without an outside write to them, whichever transfers fail in it;
none of its measurements recovers, and no recovery is counted. -/
theorem no_false_alarms {rig : Rig} {steps : List Step} (synced : rig.Synced)
    (untouched : ∀ step ∈ steps, ∀ c : Channel, c.control.addr ∉ step.outside) :
    (runSession rig steps).2.Synced ∧
      (∀ c polled, .measurement c polled ∈ events rig steps →
        ∀ next, measure c polled ≠ .ok .recovered next) ∧
      .reply (.measured .recovered) ∉ (runSession rig steps).1 ∧
      (runSession rig steps).2.driver.stats.recoveries = rig.driver.stats.recoveries := by
  have untouched' (c : Channel) : ∀ step ∈ steps, c.control.addr ∉ step.outside :=
    fun step hs => untouched step hs c
  have moved (c : Channel) : _ ∧ _ :=
    (operates_staysMatched c).session (stimuliWithin_staysMatched (untouched' c)) (synced c)
  have measured (c : Channel) (polled : Rig) (hm : .measurement c polled ∈ events rig steps) :=
    measure_ne_recovered (matched_of_measurement (synced c) (untouched' c) hm)
  refine ⟨fun c => (moved c).1, measured, fun reply => ?_, PerChannel.ext_get fun c => (moved c).2⟩
  rcases measurement_of_reply reply with h | ⟨c, polled, hm, next, recovered⟩
  · cases h
  · exact measured c polled hm next recovered

/-- A reset that stops between the two control registers of a configured chip is no alarm. -/
theorem no_false_alarms_interrupted :
    let rig := (Command.reset.runOn (.fresh .spi)).2
    rig.Synced ∧ .reply (.measured .recovered) ∉ (runSession rig [.stimulus (.writeFault 5),
      .command .reset, .command (.measure .accel), .command (.measure .mag)]).1 := by
  have synced : (Command.reset.runOn (.fresh .spi)).2.Synced := by decide +kernel
  refine ⟨synced, (no_false_alarms synced fun step hs c => ?_).2.2.1⟩
  revert step
  cases c <;> decide

end ECompass
