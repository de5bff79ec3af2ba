import ECompass.Proofs.Filtering
import ECompass.Proofs.PollRates

/-!
# What the filter is designed for

There are two notions of the rate at which accelerometer samples come in: the output rate of the
chip, and the rate at which the channel is polled. The filter is designed for the one or for the
other, depending on the command that designs it, and nothing is written down about which it was.

The rate and the cutoff of the filter, together with the two rates it may be designed for, form the
tuning of a driver (`Tuning`). A session changes the tuning by its commands alone, whatever fails in
it: `Command.tune` says what each of them does, without looking at the rig. So the tuning of every
driver is told by the commands that it was given (`tuning_runSession`), and what the filter runs at
by the last of them that has designed it.
-/

namespace ECompass

open Program Operation

/-! ### Tunings -/

/-- The rate and the cutoff of the accelerometer filter, and the rates to design it for. -/
structure Tuning where
  /-- The output rate of the chip. -/
  outputRate : AccelRate
  /-- The poll interval of the accelerometer. -/
  interval : Nat
  /-- The rate that the filter was designed for. -/
  sampleRate : Float32
  /-- The cutoff that the filter was designed for. -/
  cutoff : Float32
  deriving DecidableEq

/-- The tuning of a driver. -/
def Driver.tuning (d : Driver) : Tuning where
  outputRate := d.config.accelRate
  interval := d.scheduler.interval.get .accel
  sampleRate := d.filter.sampleRate
  cutoff := d.filter.cutoff

/-- The tuning after an accelerometer rate was asked for. -/
def Tuning.poll (t : Tuning) : PollRate → Tuning
  | .manual => { t with interval := 0 }
  | rate =>
    match rate.filterInterval? with
    | none => t
    | some interval => { t with interval, sampleRate := Driver.pollingRate interval }

/-- A rate that gives an interval is followed by the filter. -/
theorem Tuning.poll_of_some (t : Tuning) {rate : PollRate} {interval : Nat}
    (h : rate.filterInterval? = some interval) :
    t.poll rate = { t with interval, sampleRate := Driver.pollingRate interval } := by
  unfold poll
  split
  · cases h
  · rw [h]

/-- Another rate ends the polling, or is refused. -/
theorem Tuning.poll_of_none (t : Tuning) {rate : PollRate} (h : rate.filterInterval? = none) :
    t.poll rate = if rate = .manual then { t with interval := 0 } else t := by
  unfold poll
  split
  · rfl
  · rename_i unmanual
    rw [h, if_neg unmanual]

/-- The output rate after a setting was asked for. -/
def AccelRate.requested (current : AccelRate) (field : Field) (n : Nat) : AccelRate :=
  match field with
  | .accelRate => (Setting.select n).getD current
  | _ => current

/-- The tuning after a command. -/
def Tuning.after (t : Tuning) : Command → Tuning
  | .setPollRate .accel rate => t.poll rate
  | .setLowPass .accel cutoff => { t with sampleRate := .ofNat t.outputRate.hertz, cutoff }
  | .requestSetting field n => { t with outputRate := t.outputRate.requested field n }
  | _ => t

/-- The tuning after a step of a session. -/
def Tuning.afterStep (t : Tuning) : Step → Tuning
  | .command c => t.after c
  | .stimulus _ => t

/-! ### Commands -/

/-- Commands have taken the tuning from one rig to another. -/
def Rig.Tuned (rig : Rig) (commands : List Command) (next : Rig) : Prop :=
  next.driver.tuning = commands.foldl Tuning.after rig.driver.tuning

theorem Tuning.after_of_acquires {command : Command} (h : command.acquires) (t : Tuning) :
    t.after command = t := by
  cases command with
  | bringUp | reset | onTimer | measure | readSamples => rfl
  | _ => cases h

/-- A reset keeps the tuning. -/
theorem reset_tuned (rig : Rig) :
    Ends reset rig (fun _ next => rig.Tuned [] next) fun _ next => rig.Tuned [] next := by
  refine (reset_programs rig).mono (fun _ next h => ?_) fun _ next h => ?_
  · obtain ⟨_, _, -, rfl⟩ := h
    rfl
  · rcases h with h | h <;> obtain ⟨_, _, -, rfl⟩ := h <;> rfl

/-- Filtering a reading keeps the design of the filter. -/
theorem AxisFilter.design_apply (f : AxisFilter) (reading : Axes Float32) :
    (AxisFilter.apply f reading).2.sampleRate = f.sampleRate ∧
      (AxisFilter.apply f reading).2.cutoff = f.cutoff := by
  have same := f.emptied_apply reading
  have rate := congrArg sampleRate same
  have cutoff := congrArg cutoff same
  exact ⟨rate, cutoff⟩

/-- So does a sample. -/
theorem tuning_committed (rig : Rig) (c : Channel) (raw : Axes Int16) :
    (rig.committed c raw).driver.tuning = rig.driver.tuning := by
  obtain ⟨scheduler, config⟩ := driver_committed rig c raw
  unfold Driver.tuning
  rw [scheduler, config]
  cases c with
  | accel =>
    obtain ⟨rate, cutoff⟩ := rig.driver.filter.design_apply (rig.calibrated raw)
    rw [filter_committed, rate, cutoff]
  | mag => rfl

/-- Taking over an answer of the scheduler takes over its interval, and the filter may follow. -/
theorem Driver.tuning_adopt (d : Driver) (c : Channel) (outcome : Reschedule)
    (scheduler : Scheduler) : (d.adopt c outcome scheduler).tuning = { d.tuning with
      interval := scheduler.interval.get .accel
      sampleRate := if c = .accel ∧ outcome ≠ .stopped then
          pollingRate (scheduler.interval.get .accel)
        else d.filter.sampleRate } := by
  unfold adopt
  dsimp only
  split <;> split <;> rfl

/-- A rate of the magnetometer leaves the interval of the accelerometer alone. -/
theorem Scheduler.interval_of_setPollRate_mag {s : Scheduler} {rate : PollRate}
    {answer : Reschedule × List TimerCall × Scheduler}
    (accepted : s.setPollRate .mag rate = some answer) :
    answer.2.2.interval.get .accel = s.interval.get .accel := by
  rcases setPollRate_cases accepted with rfl | ⟨hertz, -, rfl⟩
  · rfl
  · rw [interval_retime]
    rfl

/-- A rate of the accelerometer that gives no interval is refused, if it is not manual. -/
theorem PollRate.refused_of_filterInterval?_eq_none {rate : PollRate} {s : Scheduler}
    (manual : rate ≠ .manual) (h : rate.filterInterval? = none) :
    s.setPollRate .accel rate = none := by
  unfold filterInterval? at h
  rw [Scheduler.setPollRate]
  cases resolved : rate.resolve .accel with
  | none =>
    cases rate with
    | manual => exact absurd rfl manual
    | max | default | hertz => cases resolved
  | some hertz =>
    rw [resolved, Option.bind_some] at h
    simp only [h, Option.map_none]

theorem tuned_setPollRate (c : Channel) (rate : PollRate) (rig : Rig) :
    rig.Tuned [.setPollRate c rate] ((Command.setPollRate c rate).runOn rig).2 := by
  rw [Rig.Tuned, Command.runOn_setPollRate]
  cases c with
  | mag =>
    cases answered : rig.driver.scheduler.setPollRate .mag rate with
    | none => rfl
    | some answer =>
      refine (rig.driver.tuning_adopt .mag answer.1 answer.2.2).trans ?_
      rw [Scheduler.interval_of_setPollRate_mag answered]
      rfl
  | accel =>
    show _ = rig.driver.tuning.poll rate
    cases followed : rate.filterInterval? with
    | none =>
      rw [rig.driver.tuning.poll_of_none followed]
      by_cases manual : rate = .manual
      · subst manual
        exact rig.driver.tuning_adopt ..
      · rw [PollRate.refused_of_filterInterval?_eq_none manual followed, if_neg manual]
    | some interval =>
      obtain ⟨answer, answered, unstopped, tuned⟩ :=
        PollRate.answer_of_filterInterval? (s := rig.driver.scheduler) followed
      rw [answered, rig.driver.tuning.poll_of_some followed]
      refine (rig.driver.tuning_adopt .accel answer.1 answer.2.2).trans ?_
      rw [tuned, if_pos ⟨rfl, unstopped⟩]

/-- An answered request puts the output rate into force that was asked for. -/
theorem Config.accelRate_of_request {config next : Config} {field : Field} {n : Nat}
    (accepted : config.request field n = some next) :
    next.accelRate = config.accelRate.requested field n := by
  cases field with
  | accelRate =>
    obtain ⟨s, selected, rfl⟩ := Option.map_eq_some_iff.1 accepted
    rw [AccelRate.requested, selected]
    rfl
  | accelRange | antiAlias | magRange | magRate =>
    obtain ⟨s, -, rfl⟩ := Option.map_eq_some_iff.1 accepted
    rfl

/-- A request that is refused does not. -/
theorem Config.requested_of_request_eq_none {config : Config} {field : Field} {n : Nat}
    (refused : config.request field n = none) :
    config.accelRate.requested field n = config.accelRate := by
  cases field with
  | accelRate => rw [AccelRate.requested, Option.map_eq_none_iff.1 refused, Option.getD_none]
  | accelRange | antiAlias | magRange | magRate => rfl

theorem requestSetting_tuned (field : Field) (n : Nat) (rig : Rig) : Ends (requestSetting field n)
    rig (fun _ next => rig.Tuned [.requestSetting field n] next)
    fun _ next => rig.Tuned [.requestSetting field n] next := by
  refine driver_bind_ends ?_
  cases asked : rig.driver.config.request field n with
  | none =>
    show rig.driver.tuning =
      { rig.driver.tuning with outputRate := rig.driver.config.accelRate.requested field n }
    rw [Config.requested_of_request_eq_none asked]
    rfl
  | some config =>
    let configured : Rig := { rig with driver := { rig.driver with config } }
    have programmed {next : Rig} (h : configured.Programmed next) :
        rig.Tuned [.requestSetting field n] next := by
      obtain ⟨_, _, -, rfl⟩ := h
      show _ = { rig.driver.tuning with
        outputRate := rig.driver.config.accelRate.requested field n }
      rw [← Config.accelRate_of_request asked]
      rfl
    exact (applyUpdate_programs (config.update field) configured).mono (fun _ _ => programmed)
      fun _ _ => programmed

/-- Commands that neither reset nor measure tune the filter as told. -/
theorem Command.tuned_of_not_acquires {command : Command} (h : command.acquires = false)
    (rig : Rig) : rig.Tuned [command] (command.runOn rig).2 := by
  have onBus {α : Type} (program : BusM α) (rig : Rig) : Ends (Operation.onBus program) rig
      (fun _ next => rig.Tuned [] next) fun _ next => rig.Tuned [] next :=
    onBus_ends (Ends.trivial.mono (fun _ _ _ => rfl) fun _ _ _ => rfl)
  cases command with
  | bringUp | reset | onTimer | measure | readSamples => cases h
  | setPollRate c rate => exact tuned_setPollRate c rate rig
  | requestSetting field n =>
    exact runOn_of_ends ((requestSetting_tuned field n rig).bind fun _ _ tuned => tuned)
  | setQueueDepth c depth =>
    have quiet : Ends (ECompass.setQueueDepth c depth) rig (fun _ next => rig.Tuned [] next)
        fun _ next => rig.Tuned [] next := by
      rw [Ends, setQueueDepth_apply]
      cases (rig.queue c).resize depth <;> rfl
    exact runOn_of_ends (quiet.bind fun _ _ tuned => tuned)
  | setCalibration c cal =>
    have quiet : Ends (ECompass.setCalibration c cal) rig (fun _ next => rig.Tuned [] next)
        fun _ next => rig.Tuned [] next := by
      refine driver_bind_ends ?_
      cases accepted : rig.driver.config.calibrate c cal with
      | none => rfl
      | some config =>
        rw [Config.eq_of_calibrate accepted]
        rfl
    exact runOn_of_ends (quiet.bind fun _ _ tuned => tuned)
  | whoAmI => exact runOn_of_ends ((onBus _ rig).bind fun _ _ tuned => tuned)
  | dumpRegisters => exact runOn_of_ends ((onBus _ rig).bind fun _ _ tuned => tuned)
  | setLowPass c cutoff | lowPass c => cases c <;> rfl
  | popQueue | flushQueue | start | stop | setPublishing | selfTest | toggleLogging => rfl

/-- The tuning goes the way of the commands. -/
theorem account_tuned : Account (fun _ => [])
    (fun command _ => if command.acquires then [] else [command]) Rig.Tuned where
  trans h h' := by rw [Rig.Tuned, h', h, List.foldl_append]
  requeued := by
    rintro rig _ ⟨_, rfl⟩
    rfl
  reset := reset_tuned
  putOff _ _ _ := rfl
  lost _ _ _ := rfl
  sampled {c rig bus raw} _ _ _ := tuning_committed (rig.withBus bus) c raw
  recovery _ _ := rfl
  acquires command rig acquires := by
    rw [if_pos acquires]
    exact (List.flatMap_eq_nil_iff.2 fun _ _ => rfl).symm
  other command rig acquires := by
    rw [acquires]
    exact command.tuned_of_not_acquires acquires rig

/-- A command changes the tuning of a driver by itself, whatever fails. -/
theorem tuning_runOn (command : Command) (rig : Rig) :
    (command.runOn rig).2.driver.tuning = rig.driver.tuning.after command := by
  have tuned := account_tuned.command command rig
  cases acquires : command.acquires with
  | true =>
    rw [acquires] at tuned
    exact tuned.trans (Tuning.after_of_acquires acquires _).symm
  | false =>
    rw [acquires] at tuned
    exact tuned

/-- The tuning after a session is told by its commands. -/
theorem tuning_runSession (rig : Rig) (steps : List Step) :
    (runSession rig steps).2.driver.tuning = steps.foldl Tuning.afterStep rig.driver.tuning := by
  induction steps generalizing rig with
  | nil => rfl
  | cons step rest ih =>
    cases step with
    | command command =>
      rw [List.foldl_cons, Tuning.afterStep, ← tuning_runOn]
      exact ih _
    | stimulus s => exact ih _

/-- The tuning of a new driver. -/
theorem tuning_of_connect {bench : Bench} {start : Rig}
    (connected : connect { bench } = .ok () start) :
    start.driver.tuning = ⟨.hz800, 0, 800, 30⟩ := by
  obtain ⟨_, rfl⟩ := connect_onBus.of_ok connected
  rfl

/-! ### The last design -/

/-- The rate that the filter is designed for. -/
inductive Basis where
  /-- The output rate of the chip. -/
  | output
  /-- The rate at which the accelerometer is polled. -/
  | polling
  deriving DecidableEq

/-- What a command designs the filter for, if it does: an accepted rate of the accelerometer for
that rate, and a cutoff for the output rate. -/
def Command.basis? : Command → Option Basis
  | .setPollRate .accel rate => rate.filterInterval?.map fun _ => .polling
  | .setLowPass .accel _ => some .output
  | _ => none

theorem Command.basis?_cases {command : Command} {basis : Basis}
    (h : command.basis? = some basis) :
    (∃ rate interval, command = .setPollRate .accel rate ∧ rate.filterInterval? = some interval ∧
      basis = .polling) ∨ ∃ cutoff, command = .setLowPass .accel cutoff ∧ basis = .output := by
  unfold basis? at h
  split at h
  · rename_i rate
    obtain ⟨interval, followed, rfl⟩ := Option.map_eq_some_iff.1 h
    exact .inl ⟨rate, interval, rfl, followed, rfl⟩
  · cases h
    exact .inr ⟨_, rfl, rfl⟩
  · cases h

/-- What a step designs the filter for, if it does. -/
def Step.basis? : Step → Option Basis
  | .command c => c.basis?
  | .stimulus _ => none

/-- Whether a step puts an output rate of the accelerometer into force. -/
def Step.ratesOutput : Step → Bool
  | .command (.requestSetting .accelRate n) => (Setting.select n : Option AccelRate).isSome
  | _ => false

/-- What the filter was designed for last in a session, if it was. -/
def lastBasis? (steps : List Step) : Option Basis := (steps.filterMap Step.basis?).getLast?

/-- The steps of a session since the filter was last designed. -/
def sinceDesigned (steps : List Step) : List Step :=
  steps.rtakeWhile fun step => step.basis?.isNone

theorem lastBasis?_concat (steps : List Step) (step : Step) :
    lastBasis? (steps ++ [step]) = step.basis?.or (lastBasis? steps) := by
  rw [lastBasis?, List.filterMap_append]
  cases h : step.basis? with
  | none => simp [h, lastBasis?]
  | some basis => simp [h]

namespace Tuning

variable {t : Tuning} {step : Step}

/-- The filter runs at the rate that it was designed for, as that rate is now. -/
def Keeps (t : Tuning) : Basis → Prop
  | .output => t.sampleRate = .ofNat t.outputRate.hertz
  | .polling => 0 < t.interval → t.sampleRate = Driver.pollingRate t.interval

/-- A step that designs the filter designs it for the rate as it is after the step. -/
theorem keeps_of_basis? {basis : Basis} (h : step.basis? = some basis) :
    (t.afterStep step).Keeps basis := by
  cases step with
  | stimulus s => cases h
  | command command =>
    obtain ⟨rate, interval, rfl, followed, rfl⟩ | ⟨cutoff, rfl, rfl⟩ := Command.basis?_cases h
    · show 0 < (t.poll rate).interval → (t.poll rate).sampleRate =
        Driver.pollingRate (t.poll rate).interval
      rw [t.poll_of_some followed]
      exact fun _ => rfl
    · rfl

/-- Other steps leave the design as it is, and the interval too, unless they end the polling. -/
theorem afterStep_of_basis?_eq_none (h : step.basis? = none) :
    (t.afterStep step).sampleRate = t.sampleRate ∧ (t.afterStep step).cutoff = t.cutoff ∧
      ((t.afterStep step).interval = t.interval ∨ (t.afterStep step).interval = 0) := by
  cases step with
  | stimulus s => exact ⟨rfl, rfl, .inl rfl⟩
  | command command =>
    unfold afterStep after
    dsimp only
    split
    · rename_i rate
      rw [t.poll_of_none (Option.map_eq_none_iff.1 h)]
      split
      · exact ⟨rfl, rfl, .inr rfl⟩
      · exact ⟨rfl, rfl, .inl rfl⟩
    · cases h
    · exact ⟨rfl, rfl, .inl rfl⟩
    · exact ⟨rfl, rfl, .inl rfl⟩

/-- Only requests for it change the output rate. -/
theorem outputRate_afterStep (h : step.ratesOutput = false) :
    (t.afterStep step).outputRate = t.outputRate := by
  cases step with
  | stimulus s => rfl
  | command command =>
    unfold afterStep after
    dsimp only
    split
    · rename_i rate
      cases followed : rate.filterInterval? with
      | none =>
        rw [t.poll_of_none followed]
        split <;> rfl
      | some interval => rw [t.poll_of_some followed]
    · rfl
    · rename_i field n
      cases field with
      | accelRate =>
        have refused : (Setting.select n : Option AccelRate) = none :=
          Option.isSome_eq_false_iff.1 h |> Option.isNone_iff_eq_none.1
        show (Setting.select n).getD t.outputRate = _
        rw [refused, Option.getD_none]
      | accelRange | antiAlias | magRange | magRate => rfl
    · rfl

end Tuning

/-- Unless the filter was last designed for the output rate, it keeps to the rate of polling. -/
theorem keeps_polling {t : Tuning} (unpolled : t.interval = 0) {steps : List Step}
    (last : lastBasis? steps ≠ some .output) :
    (steps.foldl Tuning.afterStep t).Keeps .polling := by
  induction steps using List.reverseRecOn with
  | nil => exact fun polled => absurd unpolled (Nat.ne_of_gt polled)
  | append_singleton steps step ih =>
    rw [lastBasis?_concat] at last
    rw [List.foldl_concat]
    cases h : step.basis? with
    | some basis =>
      rw [h, Option.some_or] at last
      cases basis with
      | output => exact absurd rfl last
      | polling => exact Tuning.keeps_of_basis? h
    | none =>
      rw [h, Option.none_or] at last
      obtain ⟨rate, -, interval⟩ := Tuning.afterStep_of_basis?_eq_none h
      intro polled
      rcases interval with same | ended
      · rw [rate, same]
        exact ih last (same ▸ polled)
      · exact absurd ended (Nat.ne_of_gt polled)

/-- Unless the filter was last designed for polling, it keeps to the output rate for as long as no
other is asked for. -/
theorem keeps_output {t : Tuning} (begun : t.Keeps .output) {steps : List Step}
    (last : lastBasis? steps ≠ some .polling)
    (unrated : ∀ step ∈ sinceDesigned steps, step.ratesOutput = false) :
    (steps.foldl Tuning.afterStep t).Keeps .output := by
  induction steps using List.reverseRecOn with
  | nil => exact begun
  | append_singleton steps step ih =>
    rw [lastBasis?_concat] at last
    rw [List.foldl_concat]
    cases h : step.basis? with
    | some basis =>
      rw [h, Option.some_or] at last
      cases basis with
      | output => exact Tuning.keeps_of_basis? h
      | polling => exact absurd rfl last
    | none =>
      rw [h, Option.none_or] at last
      have since : sinceDesigned (steps ++ [step]) = sinceDesigned steps ++ [step] := by
        simp [sinceDesigned, h]
      rw [since] at unrated
      obtain ⟨rate, -, -⟩ := Tuning.afterStep_of_basis?_eq_none h
      show _ = _
      rw [rate, Tuning.outputRate_afterStep (unrated step (by simp))]
      exact ih last fun earlier he => unrated earlier (List.mem_append_left _ he)

theorem FilterRun.eq_of_single {f next : AxisFilter} {step : FilterStep}
    (h : FilterRun f [step] next) : next = step.act f := by
  cases h with
  | cons _ run =>
    cases run
    rfl

/-- A command that designs the filter leaves it empty. -/
theorem filter_of_basis? {command : Command} (h : command.basis?.isSome) (rig : Rig) :
    let filter := (command.runOn rig).2.driver.filter
    filter = .design filter.sampleRate filter.cutoff := by
  obtain ⟨basis, h⟩ := Option.isSome_iff_exists.1 h
  obtain ⟨rate, interval, rfl, followed, -⟩ | ⟨cutoff, rfl, -⟩ := Command.basis?_cases h
  · have run := setPollRate_filtered .accel rate rig
    have steps : (Command.setPollRate .accel rate).filterSteps rig =
        [.retuned (Driver.pollingRate interval)] := by
      simp [Command.filterSteps, followed]
    rw [steps] at run
    intro filter
    have designed : filter = .design (Driver.pollingRate interval) rig.driver.filter.cutoff :=
      run.eq_of_single
    rw [designed]
    rfl
  · rfl

/-- What the filter runs at depends on the command that designed it last, in every session of a
driver, whatever polling was stopped, started or reset in between.

While the accelerometer is polled, the filter runs at the rate of its poll interval, unless a cutoff
was set after the last rate that was accepted. Unless a rate was accepted after the last cutoff that
was set, it runs at the output rate of the chip, for as long as no other output rate is put into
force. An accepted rate and a cutoff each leave the filter empty. -/
theorem filter_runs_at_last_design {bench : Bench} {start : Rig} {steps : List Step}
    (connected : connect { bench } = .ok () start) :
    let rig := (runSession start steps).2
    let d := rig.driver
    (lastBasis? steps ≠ some .output → d.scheduler.isActive .accel →
      d.filter.sampleRate = Driver.pollingRate (d.scheduler.interval.get .accel)) ∧
    (lastBasis? steps ≠ some .polling →
      (∀ step ∈ sinceDesigned steps, step.ratesOutput = false) →
      d.filter.sampleRate = d.outputRate) ∧
    ∀ command : Command, command.basis?.isSome →
      let filter := (command.runOn rig).2.driver.filter
      filter = .design filter.sampleRate filter.cutoff := by
  intro rig d
  have begun := tuning_of_connect connected
  have tuned : d.tuning = steps.foldl Tuning.afterStep start.driver.tuning :=
    tuning_runSession start steps
  refine ⟨fun last active => ?_, fun last unrated => ?_, fun command designs => ?_⟩
  · have keeps : d.tuning.Keeps .polling := by
      rw [tuned]
      exact keeps_polling (by rw [begun]) last
    exact keeps (of_decide_eq_true (Bool.and_eq_true_iff.1 active).2)
  · have keeps : d.tuning.Keeps .output := by
      rw [tuned]
      exact keeps_output (by rw [begun]; rfl) last unrated
    exact keeps
  · exact filter_of_basis? designs rig

/-- The filter follows the rate of polling through a change of the output rate, a reset and a new
start, and the output rate once the accelerometer is measured on demand and a cutoff is set. -/
theorem filter_runs_at_last_design_followed :
    let polled : List Step := [.command (.setLowPass .accel 20),
      .command (.setPollRate .accel (.hertz 400)), .command (.requestSetting .accelRate 100),
      .command .stop, .command .reset, .command .start]
    let manual := polled ++ [.command (.setPollRate .accel .manual),
      .command (.setLowPass .accel 10), .command .reset]
    let d := (runSession (.fresh .spi) polled).2.driver
    let e := (runSession (.fresh .spi) manual).2.driver
    connect { bench := .fresh .spi } = .ok () (.fresh .spi) ∧
      d.scheduler.isActive .accel ∧ d.filter.sampleRate = Driver.pollingRate 2500 ∧
      e.filter.sampleRate = 100 := by
  intro polled manual d e
  have connected := connect_fresh .spi
  have active : d.scheduler.isActive .accel := by decide +kernel
  have interval : d.scheduler.interval.get .accel = 2500 := by decide +kernel
  have rate : e.outputRate = 100 := by decide +kernel
  obtain ⟨polling, -, -⟩ := @filter_runs_at_last_design _ _ polled connected
  obtain ⟨-, output, -⟩ := @filter_runs_at_last_design _ _ manual connected
  refine ⟨connected, active, ?_, ?_⟩
  · rw [← interval]
    exact polling (by decide) active
  · rw [← rate]
    exact output (by decide) (by decide)

/-- A cutoff that is set while the accelerometer is polled designs the filter for another rate than
it runs at. -/
theorem cutoff_set_while_polled :
    let d := (runSession (.fresh .spi) [.command (.setPollRate .accel (.hertz 400)),
      .command (.setLowPass .accel 20)]).2.driver
    connect { bench := .fresh .spi } = .ok () (.fresh .spi) ∧ d.scheduler.isActive .accel ∧
      d.filter.sampleRate = 800 ∧ Driver.pollingRate (d.scheduler.interval.get .accel) = 400 ∧
      d.filter.sampleRate ≠ Driver.pollingRate (d.scheduler.interval.get .accel) := by
  exact ⟨connect_fresh .spi, by decide +kernel, by decide +kernel, by decide +kernel,
    by decide +kernel⟩

end ECompass
