import ECompass.Proofs.Commitment
import ECompass.Proofs.Delivery

/-!
# Chronicles

Much of what a rig shows is the sum of what has happened to it: the notices that the sink was given,
the counters, the line of the filter. All of it happens in resets and in measurements, so a list of
entries that tells it can be written event by event. `Account` says what has to be known of single
events for that, and a `Chronicle` is an account that stimuli do not disturb; what a whole session
brings about is then told by the entries of its commands (`Chronicle.session`).

A measurement takes one of four courses (`Course`): there is no data, a transfer fails, a sample is
committed, or a reset takes its place. Each course is told exactly.
-/

namespace ECompass

open Program Operation

/-! ### The courses of a measurement -/

/-- The rig after a transfer. -/
def Rig.withBus (rig : Rig) (bus : Bus) : Rig := { rig with bench.bus := bus }

@[simp] theorem Rig.driver_withBus (rig : Rig) (bus : Bus) :
    (rig.withBus bus).driver = rig.driver := rfl

/-- A sample depends on its raw counts and the driver, and not on the transfers for it. -/
@[simp] theorem Rig.sample_withBus (rig : Rig) (bus : Bus) (c : Channel) (raw : Axes Int16) :
    (rig.withBus bus).sample c raw = rig.sample c raw := rfl

/-- The rig after a measurement was put off. -/
def Rig.deferred (rig : Rig) (calls : List TimerCall) : Rig :=
  { driver := rig.driver.countReschedule, bench := { rig.bench with timer.calls := calls } }

/-- The rig on which a reset begins in place of a measurement. -/
def Rig.alarmed (rig : Rig) (c : Channel) (bus : Bus) : Rig :=
  { driver := rig.driver.countRecovery c, bench := { rig.bench with bus } }

/-- The course of a measurement of a channel that begins on a rig. -/
inductive Course (c : Channel) (rig : Rig) : Prop where
  /-- There is no data, and the measurement is put off. -/
  | putOff {calls : List TimerCall} (ends : measure c rig = .ok .notReady (rig.deferred calls))
      (sample : sample? c rig = none) (recovery : recovery? c rig = none)
  /-- The control register or the burst cannot be read. -/
  | lost {e : Error} {bus : Bus} (ends : measure c rig = .error e (rig.withBus bus))
      (sample : sample? c rig = none) (recovery : recovery? c rig = none)
  /-- A burst is read, and the sample that it gives is committed. -/
  | sampled {bus : Bus} {raw : Axes Int16}
      (ends : measure c rig = .ok .sampled ((rig.withBus bus).committed c raw))
      (sample : sample? c rig = some (rig.sample c raw)) (recovery : recovery? c rig = none)
  /-- The control register is not as expected, and a reset begins. -/
  | recovery {bus : Bus} (sample : sample? c rig = none)
      (recovery : recovery? c rig = some (rig.alarmed c bus))

/-- Every measurement takes one of the four courses. -/
theorem measure_course (c : Channel) (rig : Rig) : Course c rig := by
  by_cases ready : rig.Ready c
  · cases check : isHealthy c rig with
    | error e next =>
      obtain ⟨bus, rfl⟩ := (isHealthy_onBus c).of_error check
      exact .lost (measure_of_isHealthy_error ready check) (by simp [sample?, check])
        (by simp [recovery?, check])
    | ok healthy checked =>
      obtain ⟨bus, rfl⟩ := (isHealthy_onBus c).of_ok check
      cases healthy with
      | false =>
        exact .recovery (by simp [sample?, check])
          (recovery?_eq_some_iff.2 ⟨ready, _, check, rfl⟩)
      | true =>
        have unrecovered : recovery? c rig = none := by simp [recovery?, check]
        have goesOn := measure_of_isHealthy ready check
        rw [if_pos rfl] at goesOn
        cases read : readBurst c { rig with bench.bus := bus } with
        | error e next =>
          rw [acquire_eq_error read] at goesOn
          obtain ⟨bus, rfl⟩ := (readBurst_onBus c).of_error read
          exact .lost goesOn (by simp [sample?, check, read]) unrecovered
        | ok burst mid =>
          rw [acquire_eq_ok read] at goesOn
          obtain ⟨bus, rfl⟩ := (readBurst_onBus c).of_ok read
          refine .sampled goesOn ?_ unrecovered
          simp only [sample?, if_pos ready, check, read]
          rfl
  · have goesOn : measure c rig = .ok .notReady (rig.deferred (rig.bench.timer.calls ++
        if rig.driver.scheduler.isActive c then Scheduler.retry c retryDelay else [])) := by
      rw [measure_of_not_ready ready, bind_apply, putOff_apply]
      rfl
    exact .putOff goesOn (by simp [sample?, ready]) (by simp [recovery?, ready])

/-! ### What is neither reset nor measured -/

/-- Whether a command may configure the chip or take a measurement. -/
def Command.acquires : Command → Bool
  | .bringUp => true
  | .reset => true
  | .onTimer _ => true
  | .measure _ => true
  | .readSamples _ _ => true
  | _ => false

/-- Commands of other kinds have no events. -/
theorem Command.events_of_not_acquires {command : Command} (h : command.acquires = false)
    (rig : Rig) : command.events rig = [] := by
  cases command with
  | bringUp => cases h
  | reset => cases h
  | onTimer c => cases h
  | measure c => cases h
  | readSamples c room => cases h
  | _ => rfl

/-- Nothing was counted, and the sink was told nothing. -/
structure Rig.Idle (rig next : Rig) : Prop where
  /-- The counters. -/
  stats : next.driver.stats = rig.driver.stats
  /-- The count of the monitor. -/
  extremes : next.driver.monitor.extremes = rig.driver.monitor.extremes
  /-- What the sink was told. -/
  notices : next.bench.notices = rig.bench.notices

instance : IsPreorder Rig Rig.Idle where
  refl _ := ⟨rfl, rfl, rfl⟩
  trans _ _ _ h h' := ⟨h'.stats.trans h.stats, h'.extremes.trans h.extremes,
    h'.notices.trans h.notices⟩

theorem Rig.Programmed.idle {rig next : Rig} (h : rig.Programmed next) : rig.Idle next := by
  obtain ⟨_, _, -, rfl⟩ := h
  exact ⟨rfl, rfl, rfl⟩

/-- A reset that completes starts to count samples from zero; apart from that a reset counts
nothing and tells the sink nothing. -/
theorem reset_idle (rig : Rig) : Ends reset rig
    (fun _ next => Rig.Idle { rig with driver := rig.driver.restartReads } next)
    fun _ next => rig.Idle next := by
  refine (reset_programs rig).mono (fun _ _ h => ?_) fun _ _ h => ?_
  · have cleared : Rig.Idle { rig with driver := rig.driver.restartReads }
      { rig with driver := rig.driver.clearFilter.restartReads } := ⟨rfl, rfl, rfl⟩
    exact trans_of Rig.Idle cleared h.idle
  · rcases h with h | h
    · exact h.idle
    · have cleared : rig.Idle { rig with driver := rig.driver.clearFilter } := ⟨rfl, rfl, rfl⟩
      exact trans_of Rig.Idle cleared h.idle

theorem onBus_idle {α : Type} (program : BusM α) : Within Rig.Idle (onBus program) := fun _ =>
  onBus_ends (Ends.trivial.mono (fun _ _ _ => ⟨rfl, rfl, rfl⟩) fun _ _ _ => ⟨rfl, rfl, rfl⟩)

theorem driver_idle : Within Rig.Idle driver := fun rig => refl_of Rig.Idle rig

theorem now_idle : Within Rig.Idle now := fun rig => refl_of Rig.Idle rig

theorem setPollRate_idle (c : Channel) (rate : PollRate) :
    Within Rig.Idle (setPollRate c rate) := by
  intro rig
  rw [Ends, setPollRate_apply]
  cases rig.driver.scheduler.setPollRate c rate with
  | none => exact refl_of Rig.Idle rig
  | some accepted =>
    obtain ⟨outcome, calls, scheduler⟩ := accepted
    cases c <;> cases outcome <;> exact ⟨rfl, rfl, rfl⟩

theorem setQueueDepth_idle (c : Channel) (depth : Nat) :
    Within Rig.Idle (setQueueDepth c depth) := by
  intro rig
  rw [Ends, setQueueDepth_apply]
  cases (rig.queue c).resize depth with
  | none => exact refl_of Rig.Idle rig
  | some queue => exact ⟨rfl, rfl, rfl⟩

theorem requestSetting_idle (field : Field) (request : Nat) :
    Within Rig.Idle (requestSetting field request) := by
  refine driver_idle.bind fun d => ?_
  split
  · exact .throw _
  · exact Within.bind (fun _ => ⟨rfl, rfl, rfl⟩) fun _ =>
      (applyUpdate_programs _).mono fun _ _ => Rig.Programmed.idle

theorem setCalibration_idle (c : Channel) (cal : Calibration) :
    Within Rig.Idle (setCalibration c cal) := by
  refine driver_idle.bind fun d => ?_
  split
  · exact .throw _
  · exact fun _ => ⟨rfl, rfl, rfl⟩

/-- Such commands count nothing, and tell the sink nothing. -/
theorem Command.run_idle {command : Command} (h : command.acquires = false) :
    Within Rig.Idle command.run := by
  cases command with
  | bringUp => cases h
  | reset => cases h
  | onTimer c => cases h
  | measure c => cases h
  | readSamples c room => cases h
  | whoAmI => exact (onBus_idle _).bind fun _ => .pure _
  | setPollRate c rate => exact (setPollRate_idle c rate).bind fun _ => .pure _
  | setQueueDepth c depth => exact (setQueueDepth_idle c depth).bind fun _ => .pure _
  | requestSetting field n => exact (requestSetting_idle field n).bind fun _ => .pure _
  | setCalibration c cal => exact (setCalibration_idle c cal).bind fun _ => .pure _
  | dumpRegisters =>
    exact (driver_idle.bind fun _ => now_idle.bind fun _ => onBus_idle _).bind fun _ => .pure _
  | setLowPass c cutoff =>
    cases c
    · exact fun _ => ⟨rfl, rfl, rfl⟩
    · exact (Within.throw _).bind fun _ => .pure _
  | lowPass c =>
    cases c
    · exact fun _ => ⟨rfl, rfl, rfl⟩
    · exact (Within.throw _).bind fun _ => .pure _
  | _ => exact fun _ => ⟨rfl, rfl, rfl⟩

/-- A driver that is made reaches the bus alone. -/
theorem connect_onBus : Within OnBus connect := by
  refine (onBus_within _).bind fun _ => (onBus_within _).bind fun _ => ?_
  split
  · exact .throw _
  · exact .pure _

/-! ### Chronicles -/

/-- The entries of a command, told by `post`, account for all that `T` watches: whatever the command
does takes the rig along its entries. If the command configures the chip or measures, they are the
entries of its events. -/
structure Account {γ : Type} (entries : Event → List γ) (post : Command → Rig → List γ)
    (T : Rig → List γ → Rig → Prop) : Prop where
  /-- What follows upon one another adds up. -/
  trans : ∀ {rig mid next l l'}, T rig l mid → T mid l' next → T rig (l ++ l') next
  /-- The queues are not watched. -/
  requeued : ∀ {rig next}, Rig.Requeued rig next → T rig [] next
  /-- A reset. -/
  reset : ∀ rig, Ends reset rig (fun _ next => T rig (entries (.reset rig)) next)
    fun _ next => T rig (entries (.reset rig)) next
  /-- A measurement that is put off. -/
  putOff : ∀ {c rig calls}, recovery? c rig = none → sample? c rig = none →
    ECompass.measure c rig = .ok .notReady (rig.deferred calls) →
    T rig (entries (.measurement c rig)) (rig.deferred calls)
  /-- A measurement that fails before there is a burst. -/
  lost : ∀ {c rig e bus}, recovery? c rig = none → sample? c rig = none →
    ECompass.measure c rig = .error e (rig.withBus bus) →
    T rig (entries (.measurement c rig)) (rig.withBus bus)
  /-- A measurement that commits a sample. -/
  sampled : ∀ {c rig bus raw}, recovery? c rig = none → sample? c rig = some (rig.sample c raw) →
    ECompass.measure c rig = .ok .sampled ((rig.withBus bus).committed c raw) →
    T rig (entries (.measurement c rig)) ((rig.withBus bus).committed c raw)
  /-- A measurement in whose place a reset begins, up to there. -/
  recovery : ∀ {c rig bus}, sample? c rig = none → recovery? c rig = some (rig.alarmed c bus) →
    T rig (entries (.measurement c rig)) (rig.alarmed c bus)
  /-- A command that has events. -/
  acquires : ∀ command rig, command.acquires = true →
    post command rig = (command.events rig).flatMap entries
  /-- A command that has none. -/
  other : ∀ command rig, command.acquires = false →
    T rig (post command rig) (command.runOn rig).2

/-- An account of commands of which stimuli are no part. -/
structure Chronicle {γ : Type} (entries : Event → List γ) (post : Command → Rig → List γ)
    (T : Rig → List γ → Rig → Prop) : Prop extends Account entries post T where
  /-- The surroundings are not watched. -/
  stimulus : ∀ s rig, T rig [] { rig with bench := Stimulus.act s rig.bench }

namespace Account

variable {γ : Type} {entries : Event → List γ} {post : Command → Rig → List γ}
  {T : Rig → List γ → Rig → Prop}

/-- The events of a measurement. -/
def measured (c : Channel) (rig : Rig) : List Event :=
  .measurement c rig :: (recovery? c rig).toList.map .reset

theorem measure (h : Account entries post T) (c : Channel) (rig : Rig) :
    Ends (ECompass.measure c) rig (fun _ next => T rig ((measured c rig).flatMap entries) next)
      fun _ next => T rig ((measured c rig).flatMap entries) next := by
  unfold measured
  cases measure_course c rig with
  | putOff ends unsampled unrecovered =>
    rw [unrecovered, Option.toList_none, List.map_nil, List.flatMap_singleton, Ends, ends]
    exact h.putOff unrecovered unsampled ends
  | lost ends unsampled unrecovered =>
    rw [unrecovered, Option.toList_none, List.map_nil, List.flatMap_singleton, Ends, ends]
    exact h.lost unrecovered unsampled ends
  | sampled ends sample unrecovered =>
    rw [unrecovered, Option.toList_none, List.map_nil, List.flatMap_singleton, Ends, ends]
    exact h.sampled unrecovered sample ends
  | recovery unsampled recovers =>
    have begun := h.recovery unsampled recovers
    rw [recovers, Option.toList_some, List.map_singleton, List.flatMap_cons,
      List.flatMap_singleton, Ends, measure_of_recovery? recovers]
    exact ((h.reset _).mono (fun _ _ done => h.trans begun done)
      fun _ _ done => h.trans begun done).bind fun _ _ done => done

/-- What a command that measures does from there on. -/
theorem measurement? (h : Account entries post T) {command : Command} {rig polled : Rig}
    {c : Channel} (hm : command.measurement? rig = some (c, polled)) :
    T polled ((measured c polled).flatMap entries) (command.runOn rig).2 := by
  obtain ⟨rest, requeues, run⟩ := command.run_of_measurement? hm
  have told : Ends (ECompass.measure c >>= rest) polled
      (fun _ next => T polled ((measured c polled).flatMap entries) next)
      fun _ next => T polled ((measured c polled).flatMap entries) next := by
    refine (h.measure c polled).bind fun outcome mid before => ?_
    have still (next : Rig) (moved : mid.Requeued next) :
        T polled ((measured c polled).flatMap entries) next := by
      have whole := h.trans before (h.requeued moved)
      rwa [List.append_nil] at whole
    exact (requeues outcome mid).mono (fun _ => still) fun _ => still
  rw [Ends, ← run] at told
  exact Command.runOn_of_ends told

/-- Reading a channel takes from its queue at most, if it does not measure. -/
theorem requeues_of_measurement?_eq_none {c : Channel} {room : Nat} {rig : Rig}
    (h : (Command.readSamples c room).measurement? rig = none) :
    rig.Requeued ((Command.readSamples c room).runOn rig).2 := by
  refine Command.runOn_of_ends ?_
  refine Ends.bind (Q := fun _ next => rig.Requeued next) ?_ fun _ _ moved => moved
  by_cases none : room = 0
  · rw [Ends, readSamples_eq, sampling, if_pos none]
    exact refl_of Rig.Requeued rig
  · by_cases active : rig.driver.scheduler.isActive c
    · rw [Ends, readSamples_of_active none active, drain_apply]
      split
      · rename_i taken
        split at taken <;> cases taken
        exact ⟨_, rfl⟩
      · rename_i blocked
        split at blocked <;> cases blocked
        exact refl_of Rig.Requeued rig
    · simp [Command.measurement?, none, active] at h

/-- A command that configures the chip or measures takes the rig along its events. -/
theorem events (h : Account entries post T) {command : Command}
    (acquires : command.acquires = true) (rig : Rig) :
    T rig ((command.events rig).flatMap entries) (command.runOn rig).2 := by
  have quiet {next : Rig} (moved : rig.Requeued next) : T rig [] next := h.requeued moved
  cases command with
  | reset =>
    show T rig (List.flatMap entries [.reset rig]) _
    rw [List.flatMap_singleton]
    exact Command.runOn_of_ends ((h.reset rig).bind fun _ _ done => done)
  | bringUp =>
    have run : Command.bringUp.run rig = (do ECompass.bringUp; return Reply.done) rig := rfl
    rw [ECompass.bringUp, bind_assoc, bind_apply] at run
    cases configured : ECompass.reset rig with
    | error e failed =>
      have done := (h.reset rig).of_error configured
      have alone : Command.bringUp.events rig = [.reset rig] := by
        simp [Command.events, Command.configures, Command.measurement?, configured]
      rw [configured] at run
      rw [alone, List.flatMap_singleton, Command.runOn, run]
      exact done
    | ok _ polled =>
      have done := (h.reset rig).of_ok configured
      have measures : Command.bringUp.measurement? rig = some (.accel, polled) := by
        simp [Command.measurement?, configured]
      have both : Command.bringUp.events rig = .reset rig :: measured .accel polled := by
        simp [Command.events, Command.configures, measures, measured]
      rw [both, List.flatMap_cons]
      exact h.trans done (h.measurement? measures)
  | measure c => exact h.measurement? rfl
  | onTimer c =>
    by_cases active : rig.driver.scheduler.isActive c
    · have measures : (Command.onTimer c).measurement? rig = some (c, rig) := if_pos active
      have same : (Command.onTimer c).events rig = measured c rig := by
        simp [Command.events, Command.configures, measures, measured]
      rw [same]
      exact h.measurement? measures
    · have nothing : (Command.onTimer c).events rig = [] := by
        simp [Command.events, Command.configures, Command.measurement?, active]
      have run : (Command.onTimer c).run rig =
          (do return Reply.measured (← ECompass.onTimer c)) rig := rfl
      rw [bind_apply, onTimer_of_not_active active] at run
      rw [nothing, Command.runOn, run]
      exact quiet (refl_of Rig.Requeued rig)
  | readSamples c room =>
    cases measures : (Command.readSamples c room).measurement? rig with
    | none =>
      have nothing : (Command.readSamples c room).events rig = [] := by
        simp [Command.events, Command.configures, measures]
      rw [nothing]
      exact quiet (requeues_of_measurement?_eq_none measures)
    | some taken =>
      obtain ⟨d, polled⟩ := taken
      have same : (Command.readSamples c room).events rig = measured d polled := by
        simp [Command.events, Command.configures, measures, measured]
      -- the queue is flushed before the measurement
      obtain ⟨⟨⟩, -, -⟩ | ⟨⟨⟩, -⟩ | ⟨⟨⟩, -, -⟩ | ⟨_, ⟨⟩, -, rfl⟩ :=
        Command.measurement?_cases measures
      have flushed : rig.Requeued
          { rig with driver := rig.driver.onQueue c SampleQueue.flush } := ⟨_, rfl⟩
      rw [same, ← List.nil_append ((measured _ _).flatMap entries)]
      exact h.trans (quiet flushed) (h.measurement? measures)
  | _ => cases acquires

/-- Every command takes the rig along its entries. -/
theorem command (h : Account entries post T) (command : Command) (rig : Rig) :
    T rig (post command rig) (command.runOn rig).2 := by
  cases acquires : command.acquires with
  | true =>
    rw [h.acquires command rig acquires]
    exact h.events acquires rig
  | false => exact h.other command rig acquires

end Account

/-- A session takes the rig along the entries of its commands. -/
theorem Chronicle.session {γ : Type} {entries : Event → List γ} {post : Command → Rig → List γ}
    {T : Rig → List γ → Rig → Prop} (h : Chronicle entries post T) (rig : Rig) (steps : List Step) :
    T rig (along post rig steps) (runSession rig steps).2 := by
  induction steps generalizing rig with
  | nil => exact h.requeued (refl_of Rig.Requeued rig)
  | cons step rest ih =>
    cases step with
    | command command => exact h.trans (h.command command rig) (ih _)
    | stimulus s => exact h.trans (h.stimulus s rig) (ih _)

/-- The events of a session are those of its commands. -/
theorem events_eq_along (rig : Rig) (steps : List Step) :
    events rig steps = along Command.events rig steps := by
  induction steps generalizing rig with
  | nil => rfl
  | cons step rest ih =>
    cases step with
    | command command => exact congrArg (command.events rig ++ ·) (ih _)
    | stimulus s => exact ih _

/-- What each of the values along a session gives is given along the session. -/
theorem along_flatMap {α γ : Type} (f : Command → Rig → List α) (g : α → List γ) (rig : Rig)
    (steps : List Step) : (along f rig steps).flatMap g =
      along (fun command rig => (f command rig).flatMap g) rig steps := by
  induction steps generalizing rig with
  | nil => rfl
  | cons step rest ih =>
    cases step with
    | command command => simp only [along, List.flatMap_append, ih]
    | stimulus s => exact ih _

end ECompass
