import ECompass.Proofs.Chronicle
import Mathlib.Data.List.DropRight

/-!
# Filtering

The filter of the accelerometer is hidden state: it is moved on by every sample, designed anew by
two commands and emptied by resets. This module tells what it comes to. A session takes the filter
through steps (`Command.filterSteps`), and after any of them the filter is a fresh one that was fed
the readings since the last step that cleared it (`FilterRun.eq_fed`).

So the reading of each committed sample is what a fresh filter makes of the calibrated readings of
the samples since then, axis by axis (`readings_filtered_afresh`). A measurement that commits no
sample leaves no trace in the filter, unless a reset takes its place.
-/

namespace ECompass

open Program Operation

/-! ### Fresh filters -/

namespace LowPass

variable {α : Type} [Scalar α]

/-- The last of several inputs is filtered by what the others have left of the filter. -/
theorem applyAll_concat (f : LowPass α) (inputs : List α) (input : α) :
    f.applyAll (inputs ++ [input]) =
      ((f.applyAll inputs).1 ++ [((f.applyAll inputs).2.apply input).1],
        ((f.applyAll inputs).2.apply input).2) := by
  induction inputs generalizing f with
  | nil => rfl
  | cons first rest ih => simp only [List.cons_append, applyAll, ih]

/-- Inputs change the line of a filter only. -/
theorem emptied_applyAll (f : LowPass α) (inputs : List α) :
    (f.applyAll inputs).2.emptied = f.emptied := by
  induction inputs generalizing f with
  | nil => rfl
  | cons input rest ih => exact (ih _).trans (f.emptied_apply input)

/-- What a fresh filter makes of the last of several inputs. -/
def lastOutput (design : α × α) (inputs : List α) : Option α :=
  ((LowPass.design design.1 design.2).applyAll inputs).1.getLast?

theorem lastOutput_concat (design : α × α) (inputs : List α) (input : α) :
    lastOutput design (inputs ++ [input]) =
      some (((LowPass.design design.1 design.2).applyAll inputs).2.apply input).1 := by
  rw [lastOutput, applyAll_concat, List.getLast?_concat]

end LowPass

namespace AxisFilter

/-- A fresh filter that was fed readings, each axis on its own. -/
def fed (design : Float32 × Float32) (readings : List (Axes Float32)) : AxisFilter :=
  let axis (component : Axes Float32 → Float32) : LowPass Float32 :=
    ((LowPass.design design.1 design.2).applyAll (readings.map component)).2
  ⟨axis Axes.x, axis Axes.y, axis Axes.z⟩

variable (design : Float32 × Float32) (readings : List (Axes Float32)) (reading : Axes Float32)

theorem sampleRate_fed : (fed design readings).sampleRate = design.1 :=
  congrArg LowPass.sampleRate (LowPass.emptied_applyAll (.design design.1 design.2) _)

theorem cutoff_fed : (fed design readings).cutoff = design.2 :=
  congrArg LowPass.cutoff (LowPass.emptied_applyAll (.design design.1 design.2) _)

/-- One more reading moves the filter on. -/
theorem fed_concat : fed design (readings ++ [reading]) =
    (AxisFilter.apply (fed design readings) reading).2 := by
  simp only [fed, List.map_append, List.map_singleton, LowPass.applyAll_concat]
  rfl

end AxisFilter

/-! ### Steps of the filter -/

/-- What happens to the filter. -/
inductive FilterStep where
  /-- It is designed anew for a poll rate, and keeps its cutoff. -/
  | retuned (sampleRate : Float32)
  /-- It is designed anew. -/
  | designed (sampleRate cutoff : Float32)
  /-- It is emptied. -/
  | emptied
  /-- It is fed a calibrated reading, for a sample. -/
  | fed (reading : Axes Float32) (s : Sample)

namespace FilterStep

/-- The filter after a step. -/
def act (f : AxisFilter) : FilterStep → AxisFilter
  | .retuned sampleRate => .design sampleRate f.cutoff
  | .designed sampleRate cutoff => .design sampleRate cutoff
  | .emptied => .design f.sampleRate f.cutoff
  | .fed reading _ => (AxisFilter.apply f reading).2

/-- A sample holds what the filter makes of its reading. -/
def Fits (f : AxisFilter) : FilterStep → Prop
  | .fed reading s => s.reading = (AxisFilter.apply f reading).1
  | _ => True

/-- The sample rate and the cutoff after a step. -/
def tune (design : Float32 × Float32) : FilterStep → Float32 × Float32
  | .retuned sampleRate => (sampleRate, design.2)
  | .designed sampleRate cutoff => (sampleRate, cutoff)
  | _ => design

/-- Whether a step clears the line of the filter. -/
def clears : FilterStep → Bool
  | .fed _ _ => false
  | _ => true

/-- The reading that the filter is fed, if it is. -/
def reading? : FilterStep → Option (Axes Float32)
  | .fed reading _ => some reading
  | _ => none

/-- The sample for which the filter is fed, if it is. -/
def sample? : FilterStep → Option Sample
  | .fed _ s => some s
  | _ => none

end FilterStep

/-- The sample rate and the cutoff of the filter after steps. -/
def tuning (log : List FilterStep) : Float32 × Float32 := log.foldl FilterStep.tune (800, 30)

/-- The readings that the filter was fed since it was last cleared. -/
def sinceCleared (log : List FilterStep) : List (Axes Float32) :=
  (log.rtakeWhile fun step => !step.clears).filterMap FilterStep.reading?

/-- Steps take the filter from one state to another. -/
inductive FilterRun : AxisFilter → List FilterStep → AxisFilter → Prop where
  /-- No step. -/
  | nil (f : AxisFilter) : FilterRun f [] f
  /-- A step, and others after it. -/
  | cons {f next : AxisFilter} {step : FilterStep} {rest : List FilterStep} (fits : step.Fits f)
    (run : FilterRun (step.act f) rest next) : FilterRun f (step :: rest) next

namespace FilterRun

theorem single {f : AxisFilter} (step : FilterStep) (fits : step.Fits f) :
    FilterRun f [step] (step.act f) := .cons fits (.nil _)

theorem trans {f mid next : AxisFilter} {log more : List FilterStep} (h : FilterRun f log mid)
    (h' : FilterRun mid more next) : FilterRun f (log ++ more) next := by
  induction h with
  | nil => exact h'
  | cons fits _ ih => exact .cons fits (ih h')

/-- Steps in two parts go through the filter between them. -/
theorem exists_mid {f next : AxisFilter} {log more : List FilterStep}
    (h : FilterRun f (log ++ more) next) :
    ∃ mid, FilterRun f log mid ∧ FilterRun mid more next := by
  induction log generalizing f with
  | nil => exact ⟨f, .nil f, h⟩
  | cons step rest ih =>
    obtain _ | ⟨fits, run⟩ := h
    obtain ⟨mid, before, after⟩ := ih run
    exact ⟨mid, .cons fits before, after⟩

/-- After any steps the filter is a fresh one that was fed the readings since it was cleared. -/
theorem eq_fed {next : AxisFilter} {log : List FilterStep}
    (h : FilterRun (.design 800 30) log next) : next = .fed (tuning log) (sinceCleared log) := by
  induction log using List.reverseRecOn generalizing next with
  | nil =>
    cases h
    rfl
  | append_singleton log step ih =>
    obtain ⟨mid, before, _ | ⟨_, _ | _⟩⟩ := h.exists_mid
    rw [ih before]
    simp only [tuning, List.foldl_concat, sinceCleared, List.rtakeWhile_concat]
    cases step with
    | retuned sampleRate =>
      show AxisFilter.design sampleRate (AxisFilter.cutoff _) = _
      rw [AxisFilter.cutoff_fed]
      rfl
    | designed sampleRate cutoff => rfl
    | emptied =>
      show AxisFilter.design (AxisFilter.sampleRate _) (AxisFilter.cutoff _) = _
      rw [AxisFilter.sampleRate_fed, AxisFilter.cutoff_fed]
      rfl
    | fed reading s =>
      refine (AxisFilter.fed_concat _ _ reading).symm.trans (congrArg _ ?_)
      simp [FilterStep.clears, FilterStep.reading?]

end FilterRun

/-! ### What events and commands do to the filter -/

/-- The calibrated reading of raw counts of the accelerometer, which is what its filter is fed: for
each axis the count in physical units, less the offset, times the scale, with the range and the
calibration that are in force. -/
def Rig.calibrated (rig : Rig) (raw : Axes Int16) : Axes Float32 :=
  let lsb := rig.driver.config.scaling .accel
  let cal := rig.driver.config.calibration.accel
  ⟨(.ofInt raw.x.toInt * lsb - cal.offset.x) * cal.scale.x,
    (.ofInt raw.y.toInt * lsb - cal.offset.y) * cal.scale.y,
    (.ofInt raw.z.toInt * lsb - cal.offset.z) * cal.scale.z⟩

/-- What an event does to the filter. A reset empties it if the accelerometer was configured by
then, and a measurement feeds it if it gives a sample of the accelerometer. -/
def Event.filterSteps : Event → List FilterStep
  | .reset start => if succeeds programChip start then [.emptied] else []
  | .measurement c polled =>
    (samplesOn .accel c polled).map fun s => .fed (polled.calibrated s.raw) s

theorem Event.filterSteps_of_sample?_eq_none {c : Channel} {rig : Rig}
    (unsampled : sample? c rig = none) : Event.filterSteps (.measurement c rig) = [] := by
  cases c <;> simp [filterSteps, samplesOn, unsampled]

theorem Event.filterSteps_of_sample? {c : Channel} {rig : Rig} {raw : Axes Int16}
    (sample : sample? c rig = some (rig.sample c raw)) : Event.filterSteps (.measurement c rig) =
      if c = .accel then [.fed (rig.calibrated raw) (rig.sample c raw)] else [] := by
  have same : (rig.sample c raw).raw = raw := by cases c <;> rfl
  cases c <;> simp [filterSteps, samplesOn, sample, same]

/-- The interval for which an accelerometer rate designs the filter: none for manual operation, or
for a rate that is refused. -/
def PollRate.filterInterval? (rate : PollRate) : Option Nat :=
  (rate.resolve .accel).bind (Scheduler.intervalFor .accel)

/-- What a command does to the filter. -/
def Command.filterSteps (command : Command) (rig : Rig) : List FilterStep :=
  match command with
  | .setPollRate .accel rate =>
    rate.filterInterval?.toList.map fun interval => .retuned (Driver.pollingRate interval)
  | .setLowPass .accel cutoff => [.designed rig.driver.outputRate cutoff]
  | _ => (command.events rig).flatMap Event.filterSteps

/-- The steps have taken the filter along, and their samples hold what came out of it. -/
def Rig.Filtered (rig : Rig) (log : List FilterStep) (next : Rig) : Prop :=
  FilterRun rig.driver.filter log next.driver.filter

/-- The filter is as it was. -/
def SameFilter (rig next : Rig) : Prop := next.driver.filter = rig.driver.filter

theorem SameFilter.filtered {rig next : Rig} (h : SameFilter rig next) : rig.Filtered [] next := by
  unfold Rig.Filtered
  rw [h]
  exact .nil _

/-- A reset empties the filter if it gets past the updates of the accelerometer. -/
theorem reset_filtered (rig : Rig) : Ends reset rig
    (fun _ next => rig.Filtered (Event.filterSteps (.reset rig)) next)
    fun _ next => rig.Filtered (Event.filterSteps (.reset rig)) next := by
  rw [reset_eq_programChip]
  cases programmed : programChip rig with
  | error e failed =>
    have steps : Event.filterSteps (.reset rig) = [] := by
      simp [Event.filterSteps, Program.succeeds, programmed]
    rw [Ends, bind_apply, programmed, steps]
    exact SameFilter.filtered (programChip_programs.of_error programmed).steady.filter
  | ok _ mid =>
    have steps : Event.filterSteps (.reset rig) = [.emptied] := by
      simp [Event.filterSteps, Program.succeeds, programmed]
    have same := (programChip_programs.of_ok programmed).steady.filter
    have emptied (next : Rig) (h : next.driver.filter = mid.driver.clearFilter.filter) :
        rig.Filtered [.emptied] next := by
      have run : FilterRun rig.driver.filter _ _ := .single .emptied True.intro
      unfold Rig.Filtered
      rw [h]
      show FilterRun _ _ (AxisFilter.design mid.driver.filter.sampleRate mid.driver.filter.cutoff)
      rw [same]
      exact run
    rw [Ends, bind_apply, programmed, steps]
    have clear : Ends (onDriver Driver.clearFilter) mid
      (fun _ next => next.driver.filter = mid.driver.clearFilter.filter)
      fun _ => rig.Filtered [.emptied] := rfl
    -- what follows leaves the filter alone
    refine clear.bind fun _ cleared kept => ?_
    refine ((programSettings_programs .mag cleared).mono
      (fun _ next h => h.steady.filter.trans kept)
      fun _ next h => emptied next (h.steady.filter.trans kept)).bind fun _ last kept => ?_
    exact emptied _ kept

/-- The filter after a sample of the accelerometer was committed. -/
theorem filter_committed (rig : Rig) (raw : Axes Int16) :
    (rig.committed .accel raw).driver.filter =
      (AxisFilter.apply rig.driver.filter (rig.calibrated raw)).2 := by
  show ((rig.keep .accel raw).driver.observed _).filter = _
  unfold Driver.observed
  split <;> rfl

/-- Committing a sample of the accelerometer feeds the filter; the magnetometer has none. -/
theorem committed_filtered (rig : Rig) (c : Channel) (raw : Axes Int16) :
    rig.Filtered (if c = .accel then [.fed (rig.calibrated raw) (rig.sample c raw)] else [])
      (rig.committed c raw) := by
  cases c with
  | accel =>
    unfold Rig.Filtered
    rw [filter_committed]
    exact FilterRun.single (.fed (rig.calibrated raw) (rig.sample .accel raw)) rfl
  | mag => exact SameFilter.filtered rfl

section Rates

variable {rate : PollRate} {s : Scheduler}

/-- Without an interval to design the filter for, polling can only be stopped. -/
theorem PollRate.outcome_of_filterInterval?_eq_none (h : rate.filterInterval? = none)
    {answer : Reschedule × List TimerCall × Scheduler}
    (answered : s.setPollRate .accel rate = some answer) : answer.1 = .stopped := by
  unfold Scheduler.setPollRate at answered
  unfold filterInterval? at h
  cases resolved : rate.resolve .accel with
  | none =>
    rw [resolved] at answered
    cases answered
    rfl
  | some hertz =>
    rw [resolved, Option.bind_some] at h
    simp only [resolved, h] at answered
    cases answered

/-- The interval to design the filter for is that of an accepted rate. -/
theorem PollRate.answer_of_filterInterval? {interval : Nat}
    (h : rate.filterInterval? = some interval) : ∃ answer, s.setPollRate .accel rate = some answer ∧
      answer.1 ≠ .stopped ∧ answer.2.2.interval.get .accel = interval := by
  unfold filterInterval? at h
  obtain ⟨hertz, resolved, accepted⟩ := Option.bind_eq_some_iff.1 h
  unfold Scheduler.setPollRate
  simp only [resolved, accepted, Option.map_some]
  split
  · exact ⟨_, rfl, Reschedule.noConfusion, rfl⟩
  · exact ⟨_, rfl, Reschedule.noConfusion, rfl⟩

end Rates

/-- A new rate of the accelerometer designs the filter for its interval. -/
theorem setPollRate_filtered (c : Channel) (rate : PollRate) (rig : Rig) :
    rig.Filtered ((Command.setPollRate c rate).filterSteps rig)
      ((Command.setPollRate c rate).runOn rig).2 := by
  rw [Command.runOn_setPollRate]
  have adopts (answer : Reschedule × List TimerCall × Scheduler)
      (unfollowed : ¬ (c = .accel ∧ answer.1 ≠ .stopped)) :
      (rig.driver.adopt c answer.1 answer.2.2).filter = rig.driver.filter :=
    (rig.driver.filter_adopt c answer.1 answer.2.2).trans (if_neg unfollowed)
  cases c with
  | mag =>
    cases rig.driver.scheduler.setPollRate .mag rate with
    | none => exact SameFilter.filtered rfl
    | some answer => exact SameFilter.filtered (adopts answer (by simp))
  | accel =>
    cases follows : rate.filterInterval? with
    | none =>
      have steps : (Command.setPollRate .accel rate).filterSteps rig = [] := by
        simp [Command.filterSteps, follows]
      rw [steps]
      cases answered : rig.driver.scheduler.setPollRate .accel rate with
      | none => exact SameFilter.filtered rfl
      | some answer =>
        have stopped := PollRate.outcome_of_filterInterval?_eq_none follows answered
        exact SameFilter.filtered (adopts answer fun follows => follows.2 stopped)
    | some interval =>
      have steps : (Command.setPollRate .accel rate).filterSteps rig =
          [.retuned (Driver.pollingRate interval)] := by
        simp [Command.filterSteps, follows]
      obtain ⟨answer, answered, unstopped, tuned⟩ :=
        PollRate.answer_of_filterInterval? (s := rig.driver.scheduler) follows
      have filter := (rig.driver.filter_adopt .accel answer.1 answer.2.2).trans
        (if_pos ⟨rfl, unstopped⟩)
      rw [tuned] at filter
      rw [steps, answered]
      show FilterRun rig.driver.filter _ (rig.driver.adopt .accel answer.1 answer.2.2).filter
      rw [filter]
      exact FilterRun.single (.retuned (Driver.pollingRate interval)) True.intro

/-- Commands of other kinds leave the filter alone. -/
theorem Command.other_filtered {command : Command} (acquires : command.acquires = false)
    (rate : ∀ c rate, command ≠ .setPollRate c rate)
    (cutoff : ∀ c cutoff, command ≠ .setLowPass c cutoff) (rig : Rig) :
    rig.Filtered (command.filterSteps rig) (command.runOn rig).2 := by
  have steps : command.filterSteps rig = [] := by
    unfold filterSteps
    split
    · exact absurd rfl (rate _ _)
    · exact absurd rfl (cutoff _ _)
    · rw [command.events_of_not_acquires acquires, List.flatMap_nil]
  have steady {operation : Operation Reply} (h : Within Rig.Steady operation) :
      Within SameFilter operation := h.mono fun _ _ h => h.filter
  rw [steps]
  refine SameFilter.filtered (Command.runOn_within ?_)
  cases command with
  | bringUp | reset | onTimer | measure | readSamples => cases acquires
  | setPollRate c r => exact absurd rfl (rate c r)
  | setLowPass c r => exact absurd rfl (cutoff c r)
  | whoAmI => exact steady (readIdentity_steady.bind fun _ => .pure _)
  | requestSetting field n => exact steady ((requestSetting_steady field n).bind fun _ => .pure _)
  | setCalibration c cal => exact steady ((setCalibration_steady c cal).bind fun _ => .pure _)
  | lowPass c => exact steady ((lowPass_steady c).bind fun _ => .pure _)
  | dumpRegisters => exact steady (dumpRegisters_steady.bind fun _ => .pure _)
  | setQueueDepth c depth =>
    intro rig
    refine Ends.bind (E := fun _ => _) (Q := fun _ next => SameFilter rig next) ?_ fun _ _ h => h
    rw [Ends, setQueueDepth_apply]
    cases (rig.queue c).resize depth <;> exact rfl
  | popQueue | flushQueue | start | stop | setPublishing | selfTest | toggleLogging =>
    exact fun _ => rfl

/-! ### Sessions -/

/-- The filter goes through the steps of the events and commands. -/
theorem chronicle_filtered : Chronicle Event.filterSteps Command.filterSteps Rig.Filtered where
  trans := FilterRun.trans
  requeued := by
    rintro rig _ ⟨_, rfl⟩
    exact SameFilter.filtered rfl
  stimulus s rig := SameFilter.filtered rfl
  reset := reset_filtered
  putOff _ unsampled _ := by
    rw [Event.filterSteps_of_sample?_eq_none unsampled]
    exact SameFilter.filtered rfl
  lost _ unsampled _ := by
    rw [Event.filterSteps_of_sample?_eq_none unsampled]
    exact SameFilter.filtered rfl
  sampled {c rig bus raw} _ sample _ := by
    rw [Event.filterSteps_of_sample? sample]
    exact committed_filtered (rig.withBus bus) c raw
  recovery unsampled _ := by
    rw [Event.filterSteps_of_sample?_eq_none unsampled]
    exact SameFilter.filtered rfl
  acquires command rig acquires := by
    cases command with
    | setPollRate | setLowPass => cases acquires
    | _ => rfl
  other command rig acquires := by
    by_cases rated : ∃ c rate, command = .setPollRate c rate
    · obtain ⟨c, rate, rfl⟩ := rated
      exact setPollRate_filtered c rate rig
    · by_cases cut : ∃ c cutoff, command = .setLowPass c cutoff
      · obtain ⟨c, cutoff, rfl⟩ := cut
        cases c with
        | accel =>
          exact FilterRun.single (.designed rig.driver.outputRate cutoff) True.intro
        | mag => exact SameFilter.filtered rfl
      · exact command.other_filtered acquires (fun c rate is => rated ⟨c, rate, is⟩)
          (fun c cutoff is => cut ⟨c, cutoff, is⟩) rig

/-- The samples for which events feed the filter. -/
theorem Event.samples_filterSteps (event : Event) :
    event.filterSteps.filterMap FilterStep.sample? = match event with
      | .reset _ => []
      | .measurement c polled => samplesOn .accel c polled := by
  cases event with
  | reset start =>
    unfold filterSteps
    dsimp only
    split <;> rfl
  | measurement c polled =>
    simp only [filterSteps, List.filterMap_map]
    exact List.filterMap_some

/-- The samples for which the filter is fed are those that the accelerometer commits. -/
theorem Command.samples_filterSteps (command : Command) (rig : Rig) :
    (command.filterSteps rig).filterMap FilterStep.sample? = command.committed .accel rig := by
  unfold filterSteps
  split
  · rename_i rate
    have unmeasured : (Command.setPollRate .accel rate).committed .accel rig = [] := rfl
    rw [unmeasured]
    cases rate.filterInterval? <;> rfl
  · rfl
  · unfold events committed
    rw [List.filterMap_flatMap, List.flatMap_append]
    simp only [Event.samples_filterSteps]
    cases command.measurement? rig with
    | none => split <;> rfl
    | some taken =>
      obtain ⟨d, polled⟩ := taken
      cases recovery? d polled <;> split <;> simp

/-- The filter of every session is a fresh one that was fed the readings since it was cleared.

Its steps are told by `Command.filterSteps`: it is designed for an accepted poll rate of the
accelerometer, with the cutoff it has, or for the output rate of the chip, with a cutoff that is
set; it is emptied by a reset that gets past the settings of the accelerometer; and it is fed the
calibrated readings of the samples that the accelerometer commits, and of no others.

The reading of each of these samples is, axis by axis, the last output of a fresh filter that is
given the readings since the last step that cleared it, that of the sample included. -/
theorem readings_filtered_afresh {bench : Bench} {start : Rig} {steps : List Step}
    (connected : connect { bench } = .ok () start) :
    let log := along Command.filterSteps start steps
    log.filterMap FilterStep.sample? = along (Command.committed .accel) start steps ∧
      (runSession start steps).2.driver.filter = .fed (tuning log) (sinceCleared log) ∧
      ∀ before reading s after, log = before ++ .fed reading s :: after →
        let output (component : Axes Float32 → Float32) : Option Float32 :=
          LowPass.lastOutput (tuning before) ((sinceCleared before ++ [reading]).map component)
        output Axes.x = some s.reading.x ∧ output Axes.y = some s.reading.y ∧
          output Axes.z = some s.reading.z := by
  intro log
  obtain ⟨bus, rfl⟩ := connect_onBus.of_ok connected
  have run : FilterRun (.design 800 30) log (runSession _ steps).2.driver.filter :=
    chronicle_filtered.session { bench := { bench with bus } } steps
  refine ⟨?_, run.eq_fed, ?_⟩
  · have samples : (fun command rig =>
        (Command.filterSteps command rig).flatMap fun step => step.sample?.toList) =
        Command.committed .accel := funext fun command => funext fun rig => by
      rw [← List.filterMap_eq_flatMap_toList, command.samples_filterSteps]
    rw [List.filterMap_eq_flatMap_toList, along_flatMap, samples]
  · intro before reading s after split
    rw [split] at run
    obtain ⟨mid, earlier, _ | ⟨fits, -⟩⟩ := run.exists_mid
    have reads : s.reading = (AxisFilter.apply mid reading).1 := fits
    rw [earlier.eq_fed] at reads
    simp only [List.map_append, List.map_singleton, LowPass.lastOutput_concat, reads]
    exact ⟨rfl, rfl, rfl⟩

/-- Of three readings the first was fed before the cutoff was set, so it has left no trace. -/
theorem readings_filtered_afresh_tuned :
    let steps : List Step := [.command .reset, .command (.setPollRate .accel (.hertz 400)),
      .command (.measure .accel), .command (.setLowPass .accel 20), .command (.measure .accel),
      .stimulus (.outputs .accel ⟨100, -200, 8000⟩), .command (.measure .accel)]
    let log := along Command.filterSteps (.fresh .spi) steps
    connect { bench := .fresh .spi } = .ok () (.fresh .spi) ∧
      (log.filterMap FilterStep.sample?).length = 3 ∧ (sinceCleared log).length = 2 ∧
      (runSession (.fresh .spi) steps).2.driver.filter = .fed (800, 20) (sinceCleared log) := by
  intro steps log
  have connected := connect_fresh .spi
  have three : (log.filterMap FilterStep.sample?).length = 3 := by decide +kernel
  have two : (sinceCleared log).length = 2 := by decide +kernel
  have tuned : tuning log = (800, 20) := by decide +kernel
  obtain ⟨-, filter, -⟩ := @readings_filtered_afresh _ _ steps connected
  exact ⟨connected, three, two, tuned ▸ filter⟩

end ECompass
