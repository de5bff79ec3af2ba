import ECompass.Proofs.Queues
import ECompass.Proofs.Recovery

/-!
# Measurements are all or nothing

A measurement has one point of no return: the burst. What can fail comes before it, and leaves the
surroundings alone but for the bus, and the driver alone but for the marks of a recovery that was
begun (`FailedMeasurement`). What comes after it cannot fail, and is told exactly
(`Rig.committed`): the register dump that a diagnostic record may ask for is tried, and if it fails
the record goes without.

So a caller that is given an error may try again. No sample was lost by it and none is doubled.
-/

namespace ECompass

open Program Operation

/-! ### Notices -/

/-- The rig after the sink was told more. -/
def Rig.told (rig : Rig) (more : List Notice) : Rig :=
  { rig with bench.notices := rig.bench.notices ++ more }

@[simp] theorem Rig.told_nil (rig : Rig) : rig.told [] = rig := by
  rw [told, List.append_nil]

@[simp] theorem Rig.told_told (rig : Rig) (first second : List Notice) :
    (rig.told first).told second = rig.told (first ++ second) := by
  rw [told, told, told, List.append_assoc]

/-! ### Watching a sample -/

/-- The record that the monitor makes of a sample, if the log is on. -/
def Driver.record? (d : Driver) (s : Sample) : Option DiagnosticRecord :=
  (d.monitor.observe s s.timestamp).1

/-- The driver after a sample was shown to the monitor. The count of extreme samples is brought up
to date with every record. -/
def Driver.observed (d : Driver) (s : Sample) : Driver :=
  let monitor := (d.monitor.observe s s.timestamp).2
  if (d.record? s).isSome then { d with monitor, stats.extremes := monitor.extremes }
  else { d with monitor }

/-- A record comes without a register dump from the monitor. -/
theorem Driver.registers_of_record? {d : Driver} {s : Sample} {record : DiagnosticRecord}
    (h : d.record? s = some record) : record.registers = none := by
  unfold record? Monitor.observe at h
  dsimp only at h
  split at h
  · cases h
    rfl
  · cases h

/-- The register dump that goes with the record of a sample, if one is asked for and can be taken,
and the bus after it. -/
def Rig.dump (rig : Rig) (s : Sample) : Option RegisterDump × Bus :=
  if (rig.driver.record? s).any fun record => record.actions.registers then
    match RegisterDump.capture rig.driver.expected s.timestamp rig.bench.bus with
    | .ok dump bus => (some dump, bus)
    | .error _ bus => (none, bus)
  else (none, rig.bench.bus)

/-- If the dump cannot be taken, there is none. -/
theorem Rig.dump_of_error {rig : Rig} {s : Sample} {cause : BusError} {lost : Bus}
    (failed : RegisterDump.capture rig.driver.expected s.timestamp rig.bench.bus =
      .error cause lost) : (rig.dump s).1 = none := by
  unfold dump
  rw [failed]
  split <;> rfl

/-- What the sink is told of the record of a sample, with the register dump that was taken. -/
def Driver.recordNotices (d : Driver) (s : Sample) (registers : Option RegisterDump) :
    List Notice :=
  (d.record? s).toList.map fun record => .diagnostic { record with registers }

/-- The rig after a sample was watched. -/
def Rig.watched (rig : Rig) (s : Sample) : Rig :=
  { driver := rig.driver.observed s
    bench := { rig.bench with
      bus := (rig.dump s).2
      notices := rig.bench.notices ++ rig.driver.recordNotices s (rig.dump s).1 } }

/-- Takes over what the monitor has made of a sample, and passes on the record. -/
def followUp (s : Sample) (record : Option DiagnosticRecord) (monitor : Monitor) :
    Operation Unit := do
  onDriver fun d => { d with monitor }
  match record with
  | none => return ()
  | some record =>
    onDriver fun d => { d with stats.extremes := monitor.extremes }
    if record.actions.registers then
      let registers ← attempt (RegisterDump.capture (← driver).expected s.timestamp)
      tell (.diagnostic { record with registers })
    else tell (.diagnostic record)

/-- Watching a sample cannot fail. -/
theorem watch_apply (s : Sample) (rig : Rig) : watch s rig = .ok () (rig.watched s) := by
  have eq : watch s rig = followUp s (rig.driver.record? s)
    (rig.driver.monitor.observe s s.timestamp).2 rig := rfl
  rw [eq]
  unfold Rig.watched Driver.recordNotices Rig.dump Driver.observed
  cases made : rig.driver.record? s with
  | none =>
    let monitor := (rig.driver.monitor.observe s s.timestamp).2
    let observed : Rig := { rig with driver := { rig.driver with monitor } }
    exact congrArg (EStateM.Result.ok ()) observed.told_nil.symm
  | some record =>
    let monitor := (rig.driver.monitor.observe s s.timestamp).2
    -- the extreme samples are counted before the record is passed on
    let counted : Rig :=
      { rig with driver := { rig.driver with monitor, stats.extremes := monitor.extremes } }
    have passes : followUp s (some record) monitor rig =
        (if record.actions.registers then do
          let registers ← attempt (RegisterDump.capture (← driver).expected s.timestamp)
          tell (.diagnostic { record with registers })
        else tell (.diagnostic record) : Operation Unit) counted := rfl
    rw [passes, Option.any_some]
    cases record.actions.registers with
    | false =>
      have bare : { record with registers := none } = record := by
        rw [← Driver.registers_of_record? made]
      show EStateM.Result.ok () (counted.told [.diagnostic record]) =
        .ok () (counted.told [.diagnostic { record with registers := none }])
      rw [bare]
    | true =>
      show (attempt (RegisterDump.capture rig.driver.expected s.timestamp) >>= fun registers =>
        tell (.diagnostic { record with registers })) counted = _
      rw [bind_apply]
      unfold attempt
      have same : counted.bench.bus = rig.bench.bus := rfl
      rw [same]
      cases RegisterDump.capture rig.driver.expected s.timestamp rig.bench.bus <;> rfl

/-! ### Committing a sample -/

/-- What the sink is told first of a sample. -/
def Driver.sampleNotices (d : Driver) (c : Channel) (s : Sample) : List Notice :=
  .queued c :: if d.publishing.get c then [.published c s] else []

/-- The rig after a queued sample was made known; only those of the accelerometer are watched. -/
def Rig.announced (rig : Rig) (c : Channel) (s : Sample) : Rig :=
  let told := rig.told (rig.driver.sampleNotices c s)
  match c with
  | .accel => told.watched s
  | .mag => told

/-- The rig after a sample from raw counts was committed. -/
def Rig.committed (rig : Rig) (c : Channel) (raw : Axes Int16) : Rig :=
  (rig.keep c raw).announced c (rig.sample c raw)

theorem announce_apply (c : Channel) (s : Sample) (rig : Rig) :
    announce c s (rig.driver.publishing.get c) rig = .ok () (rig.announced c s) := by
  unfold Rig.announced Driver.sampleNotices
  cases c with
  | accel =>
    cases rig.driver.publishing.get .accel with
    | false => exact watch_apply s (rig.told [.queued .accel])
    | true =>
      show watch s ((rig.told [.queued .accel]).told [.published .accel s]) = _
      rw [Rig.told_told]
      exact watch_apply s _
  | mag =>
    cases rig.driver.publishing.get .mag with
    | false => rfl
    | true => exact congrArg (EStateM.Result.ok ()) (Rig.told_told _ _ _)

/-- Committing a sample cannot fail. -/
theorem commit_eq_ok (c : Channel) (raw : Axes Int16) (rig : Rig) :
    commit c raw rig = .ok () (rig.committed c raw) := by
  have same : (rig.keep c raw).driver.publishing = rig.driver.publishing := by
    cases c <;> rfl
  rw [commit_apply, ← same]
  exact announce_apply c _ _

section Committed

variable (rig : Rig) (c : Channel) (raw : Axes Int16)

/-- The sample is queued on its channel. -/
theorem queue_committed : (rig.committed c raw).driver.queue =
    rig.driver.queue.modify c fun queue => (queue.push (rig.sample c raw)).2 := by
  have watched (rig : Rig) (s : Sample) : (rig.watched s).driver.queue = rig.driver.queue := by
    show (rig.driver.observed s).queue = _
    unfold Driver.observed
    split <;> rfl
  cases c with
  | accel => exact watched _ _
  | mag => rfl

/-- The scheduler and the settings are left as they are. -/
theorem driver_committed : (rig.committed c raw).driver.scheduler = rig.driver.scheduler ∧
    (rig.committed c raw).driver.config = rig.driver.config := by
  have observed (d : Driver) (s : Sample) :
      (d.observed s).scheduler = d.scheduler ∧ (d.observed s).config = d.config := by
    unfold Driver.observed
    dsimp only
    split <;> exact ⟨rfl, rfl⟩
  cases c with
  | accel => exact observed _ _
  | mag => exact ⟨rfl, rfl⟩

/-- What the sink is told of a sample, with the register dump that was taken. -/
def Driver.notices (d : Driver) (c : Channel) (s : Sample) (registers : Option RegisterDump) :
    List Notice :=
  d.sampleNotices c s ++
    match c with
    | .accel => d.recordNotices s registers
    | .mag => []

/-- The sink is told of the sample. If the register dump of its record fails, the record goes
without one, and that is all. -/
theorem bench_committed : ∃ bus registers,
    (rig.committed c raw).bench = { rig.bench with
      bus, notices := rig.bench.notices ++ rig.driver.notices c (rig.sample c raw) registers } ∧
    ∀ cause lost, RegisterDump.capture rig.driver.expected (rig.sample c raw).timestamp
      rig.bench.bus = .error cause lost → registers = none := by
  cases c with
  | accel =>
    let dump := (rig.keep .accel raw).dump (rig.sample .accel raw)
    refine ⟨dump.2, dump.1, ?_, fun _ _ failed => Rig.dump_of_error failed⟩
    exact congrArg (fun notices => { rig.bench with bus := dump.2, notices })
      (List.append_assoc _ _ _)
  | mag =>
    refine ⟨rig.bench.bus, none, ?_, fun _ _ _ => rfl⟩
    unfold Driver.notices
    rw [List.append_nil]
    rfl

end Committed

/-- A burst that was read is made a sample, and that cannot fail. -/
theorem acquire_eq_ok {c : Channel} {rig mid : Rig} {burst : Burst}
    (read : readBurst c rig = .ok burst mid) :
    acquire c rig = .ok .sampled (mid.committed c burst.raw) := by
  rw [acquire, bind_apply, read]
  show (commit c burst.raw >>= fun _ => pure Measurement.sampled) mid = _
  rw [bind_apply, commit_eq_ok]
  rfl

/-! ### Failures -/

/-- Only the bus has changed. -/
def OnBus (rig next : Rig) : Prop := ∃ bus, next = { rig with bench.bus := bus }

instance : IsPreorder Rig OnBus where
  refl rig := ⟨rig.bench.bus, rfl⟩
  trans := by
    rintro rig mid next ⟨_, rfl⟩ ⟨bus, rfl⟩
    exact ⟨bus, rfl⟩

theorem onBus_within {α : Type} (program : BusM α) : Within OnBus (onBus program) := fun _ =>
  onBus_ends (Ends.trivial.mono (fun _ bus _ => ⟨bus, rfl⟩) fun _ bus _ => ⟨bus, rfl⟩)

theorem isHealthy_onBus (c : Channel) : Within OnBus (isHealthy c) :=
  (onBus_within _).bind fun _ => Within.bind (fun rig => refl_of OnBus rig) fun _ => .pure _

theorem readBurst_onBus (c : Channel) : Within OnBus (readBurst c) :=
  (onBus_within _).bind fun _ => .pure _

theorem acquire_eq_error {c : Channel} {rig next : Rig} {e : Error}
    (read : readBurst c rig = .error e next) : acquire c rig = .error e next := by
  rw [acquire, bind_apply, read]

/-- A measurement that starts a reset fails as the reset does. -/
theorem reset_of_recovery?_error {c : Channel} {rig begun next : Rig} {e : Error}
    (started : recovery? c rig = some begun) (fails : measure c rig = .error e next) :
    reset begun = .error e next := by
  rw [measure_of_recovery? started] at fails
  exact bind_pure_eq_error_iff.1 fails

/-- How a measurement of a channel fails that begins on one rig and ends on the other. -/
inductive FailedMeasurement (c : Channel) (rig : Rig) (e : Error) (next : Rig) : Prop where
  /-- The control register could not be read. -/
  | check (failed : isHealthy c rig = .error e next) (driver : next.driver = rig.driver)
  /-- The control register was as expected, but the burst could not be read. -/
  | burst {checked : Rig} (passed : isHealthy c rig = .ok true checked)
    (failed : readBurst c checked = .error e next) (driver : next.driver = rig.driver)
  /-- The control register was not as expected, but the chip could not be configured anew. The
  recovery is counted, control values may be expected, and the line of the filter may be empty. -/
  | recovery {begun : Rig} (started : recovery? c rig = some begun)
    (failed : reset begun = .error e next) {expected : Expected} {filter : AxisFilter}
    (line : filter = rig.driver.filter ∨ filter = rig.driver.filter.emptied)
    (driver : next.driver = { rig.driver.countRecovery c with expected, filter })

/-- A measurement that fails leaves all of its surroundings but the bus alone, and of the driver no
more than a recovery has changed that was begun. -/
theorem failedMeasurement_of_error {c : Channel} {rig next : Rig} {e : Error}
    (designed : rig.FilterDesigned) (fails : measure c rig = .error e next) :
    (∃ bus, next.bench = { rig.bench with bus }) ∧ FailedMeasurement c rig e next := by
  by_cases ready : rig.Ready c
  · cases check : isHealthy c rig with
    | error e' next' =>
      rw [measure_of_isHealthy_error ready check] at fails
      cases fails
      obtain ⟨bus, rfl⟩ := (isHealthy_onBus c).of_error check
      exact ⟨⟨bus, rfl⟩, .check check rfl⟩
    | ok healthy checked =>
      obtain ⟨bus, rfl⟩ := (isHealthy_onBus c).of_ok check
      cases healthy with
      | true =>
        rw [measure_of_isHealthy ready check, if_pos rfl] at fails
        cases read : readBurst c { rig with bench.bus := bus } with
        | error e' next' =>
          rw [acquire_eq_error read] at fails
          cases fails
          obtain ⟨bus, rfl⟩ := (readBurst_onBus c).of_error read
          exact ⟨⟨bus, rfl⟩, .burst check read rfl⟩
        | ok burst mid =>
          rw [acquire_eq_ok read] at fails
          cases fails
      | false =>
        have started := recovery?_eq_some_iff.2 ⟨ready, _, check, rfl⟩
        have failed := reset_of_recovery?_error started fails
        -- the filter is emptied before the last transfers of a reset, so it depends on which failed
        rcases (reset_programs _).of_error failed with programmed | programmed
        · obtain ⟨expected, bus, -, rfl⟩ := programmed
          exact ⟨⟨bus, rfl⟩, .recovery started failed (.inl rfl) rfl⟩
        · obtain ⟨expected, bus, -, rfl⟩ := programmed
          have line : AxisFilter.design rig.driver.filter.sampleRate rig.driver.filter.cutoff =
              rig.driver.filter.emptied := designed.symm
          exact ⟨⟨bus, rfl⟩, .recovery started failed (.inr line) rfl⟩
  · rw [measure_of_not_ready ready, bind_apply, putOff_apply] at fails
    cases fails

/-! ### Commands that measure -/

/-- A command that measures takes the measurement, unless it answers a trigger of a channel that is
not polled. -/
theorem Command.run_of_measures {command : Command} {c : Channel}
    (measures : command = .measure c ∨ command = .onTimer c) (rig : Rig) :
    (command.measurement? rig = some (c, rig) ∧
      command.run rig = (do return Reply.measured (← ECompass.measure c)) rig) ∨
    (command.measurement? rig = none ∧ command.run rig = .ok (.measured .inactive) rig) := by
  rcases measures with rfl | rfl
  · exact .inl ⟨rfl, rfl⟩
  · by_cases active : rig.driver.scheduler.isActive c
    · refine .inl ⟨if_pos active, ?_⟩
      show (ECompass.onTimer c >>= _) rig = (ECompass.measure c >>= _) rig
      rw [bind_apply, bind_apply, onTimer_of_active active]
    · refine .inr ⟨if_neg active, ?_⟩
      show (ECompass.onTimer c >>= _) rig = _
      rw [bind_apply, onTimer_of_not_active active]
      rfl

section Measures

variable {command : Command} {c : Channel} {rig next : Rig}

/-- Such a command fails as its measurement does. -/
theorem Command.measure_of_failure (measures : command = .measure c ∨ command = .onTimer c)
    {e : Error} (fails : command.runOn rig = (.failure e, next)) :
    ECompass.measure c rig = .error e next := by
  have failed := command.run_of_failure (congrArg Prod.fst fails)
  rw [fails] at failed
  rcases command.run_of_measures measures rig with ⟨-, run⟩ | ⟨-, run⟩
  · rw [run] at failed
    exact bind_pure_eq_error_iff.1 failed
  · rw [run] at failed
    cases failed

/-- Such a command reports the outcome of its measurement. -/
theorem Command.runOn_of_measure_ok (measures : command = .measure c ∨ command = .onTimer c)
    (polled : command.measurement? rig = some (c, rig)) {outcome : Measurement}
    (ok : ECompass.measure c rig = .ok outcome next) :
    command.runOn rig = (.reply (.measured outcome), next) := by
  rcases command.run_of_measures measures rig with ⟨-, run⟩ | ⟨unpolled, -⟩
  · rw [runOn, run, bind_apply, ok]
    rfl
  · rw [unpolled] at polled
    cases polled

/-- The queues after such a command. -/
theorem Command.queue_runOn (measures : command = .measure c ∨ command = .onTimer c) (rig : Rig) :
    (command.runOn rig).1 = .reply (.measured .sampled) ∨ SameQueues rig (command.runOn rig).2 := by
  rcases command.run_of_measures measures rig with ⟨polled, run⟩ | ⟨-, run⟩
  · cases committed : sample? c rig with
    | some s =>
      obtain ⟨mid, sampled, -⟩ := measure_of_sample? committed
      rw [Command.runOn_of_measure_ok measures polled sampled]
      exact .inl rfl
    | none =>
      refine .inr (Command.runOn_of_ends ?_)
      rw [Ends, run]
      exact ((measure_of_sample?_eq_none committed).mono (fun _ _ same => same.2)
        fun _ _ same => same).bind fun _ _ same => same
  · rw [runOn, run]
    exact .inr rfl

end Measures

/-- Measurements are all or nothing, for every driver that a session reaches, in whatever
surroundings.

If a measurement fails, then nothing but the bus has changed of the surroundings: the timer was not
called, and the sink was told nothing. The driver is as before if the control register or the burst
could not be read; if a recovery failed, then it was counted, control values may be expected, and
the line of the filter may be empty.

Whenever a queue changes, the answer is that there is a sample. And once the burst has been read,
the sample is queued and the sink is told, whatever becomes of a register dump: if it fails, the
record goes without one. -/
theorem measurements_all_or_nothing {bench : Bench} {start rig : Rig} {before : List Step}
    {c : Channel} {command : Command} (connected : connect { bench } = .ok () start)
    (reached : rig.driver = (runSession start before).2.driver)
    (measures : command = .measure c ∨ command = .onTimer c) :
    (∀ e next, command.runOn rig = (.failure e, next) →
      (∃ bus, next.bench = { rig.bench with bus }) ∧ FailedMeasurement c rig e next) ∧
    ((command.runOn rig).2.driver.queue ≠ rig.driver.queue →
      (command.runOn rig).1 = .reply (.measured .sampled)) ∧
    ∀ checked burst mid, command.measurement? rig = some (c, rig) → rig.Ready c →
      isHealthy c rig = .ok true checked → readBurst c checked = .ok burst mid →
        let s := mid.sample c burst.raw
        ∃ next bus registers, command.runOn rig = (.reply (.measured .sampled), next) ∧
          next.driver.queue = rig.driver.queue.modify c (fun queue => (queue.push s).2) ∧
          next.bench = { rig.bench with
            bus, notices := rig.bench.notices ++ rig.driver.notices c s registers } ∧
          ∀ cause lost, RegisterDump.capture rig.driver.expected s.timestamp mid.bench.bus =
            .error cause lost → registers = none := by
  have designed : rig.FilterDesigned := by
    rw [Rig.FilterDesigned, reached]
    exact filterDesigned_of_connect connected before
  refine ⟨fun e next fails => ?_, fun changed => ?_,
    fun checked burst mid polled ready check read => ?_⟩
  · exact failedMeasurement_of_error designed (command.measure_of_failure measures fails)
  · exact (command.queue_runOn measures rig).resolve_right changed
  · have sampled : measure c rig = .ok .sampled (mid.committed c burst.raw) := by
      rw [measure_of_isHealthy ready check, if_pos rfl, acquire_eq_ok read]
    obtain ⟨_, rfl⟩ := (isHealthy_onBus c).of_ok check
    obtain ⟨_, rfl⟩ := (readBurst_onBus c).of_ok read
    obtain ⟨bus, registers, told, lost⟩ := bench_committed _ c burst.raw
    exact ⟨_, bus, registers, command.runOn_of_measure_ok measures polled sampled,
      queue_committed _ c burst.raw, told, lost⟩

/-- A burst that cannot be read costs nothing, and the next try gives a sample. -/
theorem measurements_all_or_nothing_retried :
    let rig := (runSession (.fresh .spi) [.command .reset, .stimulus (.readFault 1)]).2
    let failed := (Command.measure .accel).runOn rig
    failed.1 = .failure (.bus .communication) ∧ (∃ bus, failed.2.bench = { rig.bench with bus }) ∧
      failed.2.driver = rig.driver ∧
      ∃ next s bus registers,
        (Command.measure .accel).runOn failed.2 = (.reply (.measured .sampled), next) ∧
        next.bench = { failed.2.bench with
          bus
          notices := failed.2.bench.notices ++ failed.2.driver.notices .accel s registers } := by
  have connected := connect_fresh .spi
  have failure : ((Command.measure .accel).runOn (runSession (.fresh .spi)
      [.command .reset, .stimulus (.readFault 1)]).2).1 = .failure (.bus .communication) := by
    decide +kernel
  have matched : ¬ (runSession (.fresh .spi)
      [.command .reset, .stimulus (.readFault 1)]).2.Mismatched .accel := by
    decide +kernel
  have sampled : ((Command.measure .accel).runOn ((Command.measure .accel).runOn (runSession
      (.fresh .spi) [.command .reset, .stimulus (.readFault 1)]).2).2).1 =
      .reply (.measured .sampled) := by
    decide +kernel
  have ready : Rig.Ready ((Command.measure .accel).runOn (runSession
      (.fresh .spi) [.command .reset, .stimulus (.readFault 1)]).2).2 .accel := by
    decide +kernel
  obtain ⟨fails, -, -⟩ := measurements_all_or_nothing connected rfl (.inl rfl)
  obtain ⟨bench, how⟩ := fails _ _ (Prod.ext failure rfl)
  refine ⟨failure, bench, ?_, ?_⟩
  · cases how with
    | check _ driver => exact driver
    | burst _ _ driver => exact driver
    | recovery started =>
      rw [recovery?_eq_none matched] at started
      cases started
  · obtain ⟨_, run⟩ := Command.run_of_reply sampled
    obtain ⟨_, _, measured, ⟨⟩⟩ := bind_eq_ok_iff.1 run
    obtain ⟨-, checked, mid, burst, check, read, -⟩ := exists_burst_of_sampled measured
    obtain ⟨-, -, commits⟩ := @measurements_all_or_nothing _ _ ((Command.measure .accel).runOn
      (runSession (.fresh .spi) [.command .reset, .stimulus (.readFault 1)]).2).2
      [.command .reset, .stimulus (.readFault 1), .command (.measure .accel)] .accel _ connected
      rfl (.inl rfl)
    obtain ⟨next, bus, registers, ran, -, told, -⟩ := commits checked burst mid rfl ready check read
    exact ⟨next, _, bus, registers, ran, told⟩

end ECompass
