import ECompass.Proofs.Readers
import ECompass.Proofs.Transfers
import ECompass.Tuning

/-!
# Operations that only read

Most operations of the driver write nothing to the chip and change neither the settings in force
nor the expected control values: `Rig.Calm` relates the rigs before and after such an operation.
What the driver may program is then left to three operations, `reset`, `requestSetting` and a
measurement that recovers, and everything else is calm, whatever fails on the way.
-/

namespace ECompass

open Program Operation

/-- The driver programs and expects the same, and has recovered as often as before. -/
structure Driver.Calm (d next : Driver) : Prop where
  /-- The settings in force are the same; the calibrations may differ. -/
  settings : next.config = { d.config with calibration := next.config.calibration }
  /-- The expected control values are the same. -/
  expected : next.expected = d.expected
  /-- No recovery was counted. -/
  recoveries : next.stats.recoveries = d.stats.recoveries

/-- From one rig to the other the driver only read. -/
structure Rig.Calm (rig next : Rig) : Prop where
  /-- The chip was only read. -/
  bus : rig.bench.bus.Reads next.bench.bus
  /-- The driver programs and expects the same. -/
  driver : rig.driver.Calm next.driver

instance : IsPreorder Driver Driver.Calm where
  refl _ := ⟨rfl, rfl, rfl⟩
  trans a b c h h' := by
    refine ⟨?_, h'.expected.trans h.expected, h'.recoveries.trans h.recoveries⟩
    rw [h'.settings, h.settings]

instance : IsPreorder Rig Rig.Calm where
  refl _ := ⟨refl_of Bus.Reads _, refl_of Driver.Calm _⟩
  trans _ _ _ h h' := ⟨trans_of Bus.Reads h.bus h'.bus, trans_of Driver.Calm h.driver h'.driver⟩

namespace Operation

variable {α : Type}

/-! ### Parts of operations -/

/-- An operation on the bus ends as its program does. -/
theorem onBus_ends {program : BusM α} {rig : Rig} {Q : α → Rig → Prop} {E : Error → Rig → Prop}
    (h : Ends program rig.bench.bus (fun a bus => Q a { rig with bench.bus := bus })
      (fun cause bus => E (.bus cause) { rig with bench.bus := bus })) :
    Ends (onBus program) rig Q E := by
  unfold Ends onBus at *
  cases hp : program rig.bench.bus <;> rw [hp] at h <;> exact h

/-- An attempt succeeds whether or not its program does. -/
theorem attempt_ends {program : BusM α} {rig : Rig} {Q : Option α → Rig → Prop}
    {E : Error → Rig → Prop}
    (h : Ends program rig.bench.bus (fun a bus => Q (some a) { rig with bench.bus := bus })
      (fun _ bus => Q none { rig with bench.bus := bus })) :
    Ends (attempt program) rig Q E := by
  unfold Ends attempt at *
  cases hp : program rig.bench.bus <;> rw [hp] at h <;> exact h

theorem onBus_calm {program : BusM α} (h : Within Bus.Reads program) :
    Within Rig.Calm (onBus program) := fun rig =>
  onBus_ends <| (h rig.bench.bus).mono (fun _ _ bus => ⟨bus, refl_of Driver.Calm _⟩)
    fun _ _ bus => ⟨bus, refl_of Driver.Calm _⟩

theorem attempt_calm {program : BusM α} (h : Within Bus.Reads program) :
    Within Rig.Calm (attempt program) := fun rig =>
  attempt_ends <| (h rig.bench.bus).mono (fun _ _ bus => ⟨bus, refl_of Driver.Calm _⟩)
    fun _ _ bus => ⟨bus, refl_of Driver.Calm _⟩

/-- What depends on the driver is carried out for the driver as it is. -/
theorem driver_bind_ends {f : Driver → Operation α} {rig : Rig} {Q : α → Rig → Prop}
    {E : Error → Rig → Prop} (h : Ends (f rig.driver) rig Q E) : Ends (driver >>= f) rig Q E := h

theorem onDriver_calm {f : Driver → Driver} (h : ∀ d : Driver, d.Calm (f d)) :
    Within Rig.Calm (onDriver f) := fun rig => ⟨refl_of Bus.Reads _, h rig.driver⟩

theorem driver_calm : Within Rig.Calm driver := fun rig => refl_of Rig.Calm rig

theorem now_calm : Within Rig.Calm now := fun rig => refl_of Rig.Calm rig

theorem callTimer_calm (calls : List TimerCall) : Within Rig.Calm (callTimer calls) :=
  fun _ => ⟨refl_of Bus.Reads _, refl_of Driver.Calm _⟩

theorem tell_calm (n : Notice) : Within Rig.Calm (tell n) :=
  fun _ => ⟨refl_of Bus.Reads _, refl_of Driver.Calm _⟩

end Operation

/-! ### Measurements up to the point where they recover -/

theorem isReady_calm (c : Channel) : Within Rig.Calm (isReady c) := by
  cases c <;> exact fun rig => refl_of Rig.Calm rig

theorem isHealthy_calm (c : Channel) : Within Rig.Calm (isHealthy c) :=
  (onBus_calm (Bus.readRegister_reads _)).bind fun _ => driver_calm.bind fun _ => .pure _

/-- A burst leaves the driver as it is. -/
theorem readBurst_ends (c : Channel) (rig : Rig) : Ends (readBurst c) rig
    (fun _ next => next.driver = rig.driver ∧ rig.Calm next) (fun _ next => rig.Calm next) := by
  refine Ends.bind (Q := fun _ next => next.driver = rig.driver ∧ rig.Calm next) ?_
    fun _ _ h => ⟨h.1, h.2⟩
  exact onBus_ends <| (Bus.readBurst_reads c rig.bench.bus).mono
    (fun _ _ bus => ⟨rfl, bus, refl_of Driver.Calm _⟩) fun _ _ bus => ⟨bus, refl_of Driver.Calm _⟩

theorem readBurst_calm (c : Channel) : Within Rig.Calm (readBurst c) := fun rig =>
  (readBurst_ends c rig).mono (fun _ _ h => h.2) fun _ _ h => h

theorem putOff_calm (c : Channel) : Within Rig.Calm (putOff c) := by
  refine Within.bind ?_ fun _ => driver_calm.bind fun d => ?_
  · exact onDriver_calm fun _ => ⟨rfl, rfl, rfl⟩
  · split
    · exact callTimer_calm _
    · exact .pure _

theorem watch_calm (s : Sample) : Within Rig.Calm (watch s) := by
  refine driver_calm.bind fun d => Within.bind ?_ fun _ => ?_
  · exact onDriver_calm fun _ => ⟨rfl, rfl, rfl⟩
  · split
    · exact .pure _
    · refine Within.bind ?_ fun _ => ?_
      · exact onDriver_calm fun _ => ⟨rfl, rfl, rfl⟩
      · split
        · exact driver_calm.bind fun _ => (attempt_calm (Bus.capture_reads _ _)).bind fun _ =>
            tell_calm _
        · exact tell_calm _

/-- Makes a queued sample known. -/
def announce (c : Channel) (s : Sample) (publish : Bool) : Operation Unit := do
  tell (.queued c)
  if publish then tell (.published c s)
  match c with
  | .accel => watch s
  | .mag => return ()

theorem announce_calm (c : Channel) (s : Sample) (publish : Bool) :
    Within Rig.Calm (announce c s publish) := by
  cases c <;> cases publish
  · exact (tell_calm _).bind fun _ => watch_calm s
  · exact (tell_calm _).bind fun _ => (tell_calm _).bind fun _ => watch_calm s
  · exact (tell_calm _).bind fun _ => .pure _
  · exact (tell_calm _).bind fun _ => (tell_calm _).bind fun _ => .pure _

/-- The queues hold the same samples. -/
def SameQueues (rig next : Rig) : Prop := next.driver.queue = rig.driver.queue

instance : IsPreorder Rig SameQueues where
  refl _ := rfl
  trans _ _ _ h h' := Eq.trans h' h

/-- Making a sample known cannot fail, and takes nothing from the queues. -/
theorem announce_total (c : Channel) (s : Sample) (publish : Bool) :
    Total SameQueues (announce c s publish) := by
  have tell (n : Notice) : Total SameQueues (tell n) := fun _ => rfl
  have watch : Total SameQueues (watch s) := by
    refine Total.bind (fun _ => rfl) fun d => Total.bind (fun _ => rfl) fun _ => ?_
    split
    · exact .pure _
    · refine Total.bind (fun _ => rfl) fun _ => ?_
      split
      · refine Total.bind (fun _ => rfl) fun d => Total.bind (fun rig => ?_) fun _ => tell _
        exact attempt_ends (Ends.trivial.mono (fun _ _ _ => rfl) fun _ _ _ => rfl)
      · exact tell _
  cases c <;> cases publish
  · exact (tell _).bind fun _ => watch
  · exact (tell _).bind fun _ => (tell _).bind fun _ => watch
  · exact (tell _).bind fun _ => .pure _
  · exact (tell _).bind fun _ => (tell _).bind fun _ => .pure _

/-- The sample that raw counts give on a rig. -/
def Rig.sample (rig : Rig) (c : Channel) (raw : Axes Int16) : Sample :=
  (rig.driver.convert c raw rig.bench.timer.now).1

/-- The rig after a sample from raw counts was queued and counted. -/
def Rig.keep (rig : Rig) (c : Channel) (raw : Axes Int16) : Rig :=
  { rig with driver := (rig.driver.convert c raw rig.bench.timer.now).2.keep c (rig.sample c raw) }

/-- A sample is kept first and made known then. -/
theorem commit_apply (c : Channel) (raw : Axes Int16) (rig : Rig) :
    commit c raw rig =
      announce c (rig.sample c raw) (rig.driver.publishing.get c) (rig.keep c raw) := by
  cases c <;> rfl

theorem queue_keep (rig : Rig) (c : Channel) (raw : Axes Int16) :
    (rig.keep c raw).driver.queue.get c = ((rig.driver.queue.get c).push (rig.sample c raw)).2 := by
  cases c <;> rfl

/-- A new sample changes the filter, its queue and its counter. -/
theorem calm_keep (rig : Rig) (c : Channel) (raw : Axes Int16) : rig.Calm (rig.keep c raw) := by
  cases c <;> exact ⟨refl_of Bus.Reads _, rfl, rfl, rfl⟩

theorem commit_calm (c : Channel) (raw : Axes Int16) : Within Rig.Calm (commit c raw) := by
  intro rig
  rw [Ends, commit_apply]
  exact (announce_calm c _ _ _).mono (fun _ _ h => trans_of Rig.Calm (calm_keep rig c raw) h)
    fun _ _ h => trans_of Rig.Calm (calm_keep rig c raw) h

/-! ### The health check -/

/-- The control register of a channel differs from the expected value. -/
def Rig.Mismatched (rig : Rig) (c : Channel) : Prop :=
  rig.bench.bus.chip.read c.control.addr ≠ rig.driver.expected.get c

instance (rig : Rig) (c : Channel) : Decidable (rig.Mismatched c) :=
  inferInstanceAs (Decidable (_ ≠ _))

/-- The control registers are no outputs. -/
theorem control_not_mem_outputs (c d : Channel) : c.control.addr ∉ d.outputs := by
  cases c <;> cases d <;> decide

theorem Rig.Calm.mismatched_iff {rig next : Rig} (h : rig.Calm next) (c : Channel) :
    next.Mismatched c ↔ rig.Mismatched c := by
  rw [Mismatched, Mismatched, h.bus.chip _ fun d => control_not_mem_outputs c d, h.driver.expected]

/-- The health check succeeds with whether the control register holds the expected value. -/
theorem isHealthy_ends (c : Channel) (rig : Rig) :
    Ends (isHealthy c) rig (fun healthy next => (healthy = true ↔ ¬ rig.Mismatched c) ∧
      next.driver = rig.driver ∧ rig.Calm next) fun _ next => rig.Calm next := by
  refine Ends.bind (Q := fun value next => value = rig.bench.bus.chip.read c.control.addr ∧
    next.driver = rig.driver ∧ rig.Calm next) ?_ ?_
  · have read := (Bus.readRegister_ends c.control rig.bench.bus).and
      (Bus.readRegister_reads c.control rig.bench.bus)
    exact onBus_ends <| read.mono (fun _ _ h => ⟨h.1.1, rfl, h.2, refl_of Driver.Calm _⟩)
      fun _ _ h => ⟨h.2, refl_of Driver.Calm _⟩
  · rintro value next ⟨rfl, same, calm⟩
    refine ⟨?_, same, calm⟩
    rw [Rig.Mismatched, ← same, Decidable.not_not]
    exact decide_eq_true_iff

/-- A channel has data: the magnetometer always, the accelerometer if its line is high. -/
def Rig.Ready (rig : Rig) (c : Channel) : Prop := c = .accel → rig.bench.dataReady = .high

instance (rig : Rig) (c : Channel) : Decidable (rig.Ready c) :=
  inferInstanceAs (Decidable (_ → _))

theorem isReady_apply (c : Channel) (rig : Rig) :
    isReady c rig = .ok (decide (rig.Ready c)) rig := by
  cases c
  · have high : decide (rig.Ready .accel) = decide (rig.bench.dataReady = .high) := by
      simp [Rig.Ready]
    rw [high]
    rfl
  · rfl

/-- Reads a burst, and makes a sample of it. -/
def acquire (c : Channel) : Operation Measurement := do
  let burst ← readBurst c
  commit c burst.raw
  return .sampled

theorem acquire_calm (c : Channel) : Within Rig.Calm (acquire c) :=
  (readBurst_calm c).bind fun _ => (commit_calm c _).bind fun _ => .pure _

/-- A burst that was read gives a sample. -/
theorem acquire_ends (c : Channel) (rig : Rig) :
    Ends (acquire c) rig (fun outcome next => rig.Calm next ∧ outcome = .sampled)
      fun _ next => rig.Calm next := by
  have outcome : Ends (acquire c) rig (fun outcome _ => outcome = .sampled) fun _ _ => True :=
    Ends.trivial.bind fun _ _ _ => Ends.trivial.bind fun _ _ _ => rfl
  exact ((acquire_calm c rig).and outcome).mono (fun _ _ h => h) fun _ _ h => h.1

/-- A burst that was read is made a sample, which is queued and made known. -/
theorem acquire_of_burst {c : Channel} {rig mid : Rig} {burst : Burst}
    (read : readBurst c rig = .ok burst mid) :
    ∃ next, acquire c rig = .ok .sampled next ∧ SameQueues (mid.keep c burst.raw) next := by
  obtain ⟨_, next, announced, same⟩ := (announce_total c (mid.sample c burst.raw)
    (mid.driver.publishing.get c)).exists_ok (mid.keep c burst.raw)
  refine ⟨next, ?_, same⟩
  rw [acquire, bind_apply, read]
  show (commit c burst.raw >>= fun _ => pure Measurement.sampled) mid = _
  rw [bind_apply, commit_apply, announced]
  rfl

section Measure

variable {c : Channel} {rig next : Rig}

theorem measure_of_not_ready (h : ¬ rig.Ready c) :
    measure c rig = (do putOff c; return Measurement.notReady) rig := by
  rw [measure, bind_apply, isReady_apply, decide_eq_false h]
  rfl

/-- A measurement goes on as the health check tells. -/
theorem measure_of_isHealthy (ready : rig.Ready c) {healthy : Bool}
    (h : isHealthy c rig = .ok healthy next) :
    measure c rig =
      (if healthy then acquire c else do recover c; return Measurement.recovered) next := by
  rw [measure, bind_apply, isReady_apply, decide_eq_true ready]
  show (do if ← isHealthy c then acquire c else do recover c; return Measurement.recovered) rig = _
  rw [bind_apply, h]

theorem measure_of_isHealthy_error (ready : rig.Ready c) {e : Error}
    (h : isHealthy c rig = .error e next) : measure c rig = .error e next := by
  rw [measure, bind_apply, isReady_apply, decide_eq_true ready]
  show (do if ← isHealthy c then acquire c else do recover c; return Measurement.recovered) rig = _
  rw [bind_apply, h]

/-- A channel whose control register is as expected is measured without a recovery. -/
theorem measure_of_not_mismatched (h : ¬ rig.Mismatched c) :
    Ends (measure c) rig (fun outcome next => rig.Calm next ∧ outcome ≠ .recovered)
      fun _ next => rig.Calm next := by
  by_cases ready : rig.Ready c
  · cases check : isHealthy c rig with
    | error e mid =>
      rw [Ends, measure_of_isHealthy_error ready check]
      exact (isHealthy_calm c).of_error check
    | ok healthy mid =>
      obtain ⟨iff, -, calm⟩ := (isHealthy_ends c rig).of_ok check
      rw [Ends, measure_of_isHealthy ready check, if_pos (iff.2 h)]
      refine (acquire_ends c mid).mono (fun _ _ end' => ⟨trans_of Rig.Calm calm end'.1, ?_⟩)
        fun _ _ end' => trans_of Rig.Calm calm end'
      rw [end'.2]
      exact Measurement.noConfusion
  · rw [Ends, measure_of_not_ready ready]
    have outcome : Ends (do putOff c; return Measurement.notReady) rig
        (fun outcome _ => outcome ≠ .recovered) fun _ _ => True :=
      Ends.trivial.bind fun _ _ _ => Measurement.noConfusion
    have calm : Within Rig.Calm (do putOff c; return Measurement.notReady) :=
      (putOff_calm c).bind fun _ => .pure _
    exact ((calm rig).and outcome).mono (fun _ _ h => h) fun _ _ h => h.1

theorem measure_ne_recovered (h : ¬ rig.Mismatched c) (next : Rig) :
    measure c rig ≠ .ok .recovered next := fun recovered =>
  ((measure_of_not_mismatched h).of_ok recovered).2 rfl

/-- A measurement that gives a sample has found the channel healthy, and has read the burst that
the new sample in its queue is made of. -/
theorem exists_burst_of_sampled (h : measure c rig = .ok .sampled next) :
    ¬ rig.Mismatched c ∧ ∃ checked mid burst, isHealthy c rig = .ok true checked ∧
      readBurst c checked = .ok burst mid ∧ rig.Calm mid ∧ mid.driver = rig.driver ∧
      next.driver.queue.get c = ((rig.driver.queue.get c).push (mid.sample c burst.raw)).2 := by
  by_cases ready : rig.Ready c
  · cases check : isHealthy c rig with
    | error e checked =>
      rw [measure_of_isHealthy_error ready check] at h
      cases h
    | ok healthy checked =>
      obtain ⟨iff, same, calm⟩ := (isHealthy_ends c rig).of_ok check
      rw [measure_of_isHealthy ready check] at h
      cases healthy with
      | false =>
        obtain ⟨_, _, -, ⟨⟩⟩ := bind_eq_ok_iff.1 h
      | true =>
        obtain ⟨burst, mid, read, h⟩ := bind_eq_ok_iff.1 h
        obtain ⟨_, _, committed, ⟨⟩⟩ := bind_eq_ok_iff.1 h
        obtain ⟨same', calm'⟩ := (readBurst_ends c checked).of_ok read
        have driver : mid.driver = rig.driver := same'.trans same
        refine ⟨iff.1 rfl, checked, mid, burst, rfl, read, trans_of Rig.Calm calm calm', driver, ?_⟩
        rw [commit_apply] at committed
        have queues : SameQueues _ next := (announce_total c _ _ _).of_ok committed
        rw [queues, queue_keep, driver]
  · rw [measure_of_not_ready ready] at h
    obtain ⟨_, _, -, ⟨⟩⟩ := bind_eq_ok_iff.1 h

/-- A healthy channel whose burst can be read gives a sample. -/
theorem exists_sampled_of_burst (ready : rig.Ready c) (matched : ¬ rig.Mismatched c)
    {healthy : Bool} {checked mid : Rig} {burst : Burst}
    (check : isHealthy c rig = .ok healthy checked) (read : readBurst c checked = .ok burst mid) :
    ∃ next, measure c rig = .ok .sampled next := by
  have iff := ((isHealthy_ends c rig).of_ok check).1
  obtain ⟨next, acquired, -⟩ := acquire_of_burst read
  exact ⟨next, by rw [measure_of_isHealthy ready check, if_pos (iff.2 matched), acquired]⟩

end Measure

/-! ### Reading samples and tuning -/

theorem readIdentity_calm : Within Rig.Calm readIdentity := onBus_calm (Bus.readRegister_reads _)

theorem connect_calm : Within Rig.Calm connect := by
  refine readIdentity_calm.bind fun _ => readIdentity_calm.bind fun _ => ?_
  split
  · exact .throw _
  · exact .pure _

theorem drain_calm (c : Channel) (room : Nat) : Within Rig.Calm (drain c room) := by
  refine driver_calm.bind fun d => ?_
  have rest (samples : List Sample) (queue : SampleQueue Sample) : Within Rig.Calm (do
      onDriver fun d => d.onQueue c fun _ => queue
      return samples) := by
    refine Within.bind ?_ fun _ => .pure _
    exact onDriver_calm fun _ => ⟨rfl, rfl, rfl⟩
  split
  split
  · exact (Within.throw _).bind fun _ => rest _ _
  · exact rest _ _

theorem popQueue_calm (c : Channel) : Within Rig.Calm (popQueue c) := by
  refine driver_calm.bind fun d => Within.bind ?_ fun _ => .pure _
  exact onDriver_calm fun _ => ⟨rfl, rfl, rfl⟩

theorem flushQueue_calm (c : Channel) : Within Rig.Calm (flushQueue c) :=
  onDriver_calm fun _ => ⟨rfl, rfl, rfl⟩

theorem start_calm : Within Rig.Calm start := by
  refine driver_calm.bind fun d => Within.bind ?_ fun _ => callTimer_calm _
  exact onDriver_calm fun _ => ⟨rfl, rfl, rfl⟩

theorem stop_calm : Within Rig.Calm stop := by
  refine driver_calm.bind fun d => Within.bind ?_ fun _ => callTimer_calm _
  exact onDriver_calm fun _ => ⟨rfl, rfl, rfl⟩

theorem setPollRate_calm (c : Channel) (rate : PollRate) :
    Within Rig.Calm (setPollRate c rate) := by
  refine driver_calm.bind fun d => ?_
  have flush : Within Rig.Calm (onDriver Driver.flushAll) := onDriver_calm fun _ => ⟨rfl, rfl, rfl⟩
  have follow : Within Rig.Calm (onDriver Driver.followPolling) :=
    onDriver_calm fun _ => ⟨rfl, rfl, rfl⟩
  split
  · exact .throw _
  · refine (callTimer_calm _).bind fun _ => Within.bind ?_ fun _ => ?_
    · exact onDriver_calm fun _ => ⟨rfl, rfl, rfl⟩
    · -- whether the filter follows is decided last, but splits first
      split
      · split
        · exact flush.bind fun _ => follow
        · exact follow
      · split
        · exact flush.bind fun _ => .pure _
        · exact .pure _

theorem setQueueDepth_calm (c : Channel) (depth : Nat) :
    Within Rig.Calm (setQueueDepth c depth) := by
  refine driver_calm.bind fun d => ?_
  split
  · exact .throw _
  · exact onDriver_calm fun _ => ⟨rfl, rfl, rfl⟩

theorem setPublishing_calm (c : Channel) (enable : Bool) :
    Within Rig.Calm (setPublishing c enable) :=
  onDriver_calm fun _ => ⟨rfl, rfl, rfl⟩

/-- A calibration changes no setting. -/
theorem Config.eq_of_calibrate {config next : Config} {c : Channel} {cal : Calibration}
    (h : config.calibrate c cal = some next) :
    next = { config with calibration := next.calibration } := by
  unfold calibrate at h
  split at h
  · cases h
  · cases h
    rfl

theorem setCalibration_calm (c : Channel) (cal : Calibration) :
    Within Rig.Calm (setCalibration c cal) := by
  refine fun rig => driver_bind_ends ?_
  split
  · exact refl_of Rig.Calm rig
  · rename_i config accepted
    exact ⟨refl_of Bus.Reads _, Config.eq_of_calibrate accepted, rfl, rfl⟩

theorem setLowPass_calm (c : Channel) (cutoff : Float32) :
    Within Rig.Calm (setLowPass c cutoff) := by
  cases c
  · exact fun _ => ⟨refl_of Bus.Reads _, rfl, rfl, rfl⟩
  · exact .throw _

theorem lowPass_calm (c : Channel) : Within Rig.Calm (lowPass c) := by
  cases c
  · exact driver_calm.bind fun _ => .pure _
  · exact .throw _

theorem dumpRegisters_calm : Within Rig.Calm dumpRegisters :=
  driver_calm.bind fun _ => now_calm.bind fun _ => onBus_calm (Bus.capture_reads _ _)

theorem toggleLogging_calm : Within Rig.Calm toggleLogging := by
  refine Within.bind ?_ fun _ => driver_calm.bind fun _ => .pure _
  exact onDriver_calm fun _ => ⟨rfl, rfl, rfl⟩

end ECompass
