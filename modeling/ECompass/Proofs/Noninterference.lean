import ECompass.Proofs.Abreast
import ECompass.Proofs.Ledger

/-!
# Reports do not interfere

Publishing samples and keeping the diagnostic log have no influence on what is measured. Two
sessions that differ only in the commands for them (`Command.reports`) give the same answers to all
others, as long as no transfer fails, and leave the same driver but for what concerns reports, the
same chip, the same calls on the timer and the same wake-ups (`reports_never_interfere`).

The sessions are gone through side by side (`Interspersed`). A reporting step of either leaves the
rigs abreast, and any other step is taken on both sides at once. One counter has to be looked at
besides: the count of extreme samples is copied when a record is made, and records are reports. The
copy is never behind (`Driver.InTouch`), so it is the same on both sides.
-/

namespace ECompass

open Program

/-! ### Sessions side by side -/

/-- Whether a step only changes how samples are reported. -/
def Step.reports : Step → Bool
  | .command given => given.reports
  | .stimulus _ => false

/-- The answers of the other steps of a session, each with the rig after it. -/
def responses (rig : Rig) : List Step → List (Answer × Rig)
  | [] => []
  | step :: rest =>
    if step.reports then responses (step.run rig).2 rest
    else step.run rig :: responses (step.run rig).2 rest

/-- Two rigs are the same but for the reports that were made, how they are made, and the dumps of
the registers that were made for them. -/
structure Rig.SameButReports (rig other : Rig) : Prop where
  /-- The queues are the same. -/
  queue : rig.driver.queue = other.driver.queue
  /-- The counters are the same. -/
  stats : rig.driver.stats = other.driver.stats
  /-- The same control values are expected. -/
  expected : rig.driver.expected = other.driver.expected
  /-- The settings and the calibrations are the same. -/
  config : rig.driver.config = other.driver.config
  /-- The filters are the same. -/
  filter : rig.driver.filter = other.driver.filter
  /-- The poll intervals are the same, and the triggers are armed on both sides or on neither. -/
  scheduler : rig.driver.scheduler = other.driver.scheduler
  /-- The monitors have counted the same. -/
  extremes : rig.driver.monitor.extremes = other.driver.monitor.extremes
  /-- The monitors have both seen a sane sample, or neither has. -/
  bootOk : rig.driver.monitor.bootOk = other.driver.monitor.bootOk
  /-- The clocks are the same, and the same calls were made on the triggers. -/
  timer : rig.bench.timer = other.bench.timer
  /-- The data-ready lines are the same. -/
  dataReady : rig.bench.dataReady = other.bench.dataReady
  /-- The chips are the same, and the same measurements wait. -/
  chip : rig.bench.bus.SameChip other.bench.bus
  /-- The transfers differ in dumps only. -/
  transfers : SameButDumps rig.bench.bus.transfers other.bench.bus.transfers
  /-- The sinks were told the same of what is queued. -/
  queued : rig.bench.notices.filter Notice.isQueued = other.bench.notices.filter Notice.isQueued

/-- Two sessions differ in reporting steps only. -/
inductive Interspersed : List Step → List Step → Prop where
  /-- No step. -/
  | nil : Interspersed [] []
  /-- A reporting step of the first session. -/
  | first {step : Step} {l m : List Step} (reports : step.reports) (h : Interspersed l m) :
      Interspersed (step :: l) m
  /-- A reporting step of the second session. -/
  | second {step : Step} {l m : List Step} (reports : step.reports) (h : Interspersed l m) :
      Interspersed l (step :: m)
  /-- Another step of both. -/
  | both {step : Step} {l m : List Step} (quiet : step.reports = false) (h : Interspersed l m) :
      Interspersed (step :: l) (step :: m)

/-- Sessions whose other steps are the same differ in reporting steps only. -/
theorem interspersed_of_filter_eq {first second : List Step}
    (same : first.filter (fun step => !step.reports) = second.filter fun step => !step.reports) :
    Interspersed first second := by
  induction first generalizing second with
  | nil =>
    induction second with
    | nil => exact .nil
    | cons step rest ih =>
      cases reports : step.reports with
      | true => exact .second reports (ih (by simpa [reports] using same))
      | false => simp [reports] at same
  | cons step rest ih =>
    cases reports : step.reports with
    | true => exact .first reports (ih (by simpa [reports] using same))
    | false =>
      induction second with
      | nil => simp [reports] at same
      | cons step' rest' ih' =>
        cases reports' : step'.reports with
        | true => exact .second reports' (ih' (by simpa [reports'] using same))
        | false =>
          rw [List.filter_cons_of_pos (by simp [reports]),
            List.filter_cons_of_pos (by simp [reports'])] at same
          obtain ⟨rfl, others⟩ := List.cons_eq_cons.1 same
          exact .both reports (ih others)

section Steps

variable {n : Nat} {rig other : Rig}

/-- A reporting step leaves the rig abreast with what it was. -/
theorem Rig.Abreast.report (h : rig.Abreast n other) {step : Step} (reports : step.reports) :
    (step.run rig).2.Abreast n other := by
  cases step with
  | stimulus s => cases reports
  | command command =>
    cases command with
    | setPublishing c enable => exact { h with driver := h.driver }
    | toggleLogging => exact { h with driver := h.driver }
    | _ => cases reports

/-- The surroundings change in the same way. -/
theorem Rig.Abreast.act (h : rig.Abreast n other) (s : Stimulus) :
    Rig.Abreast n { rig with bench := s.act rig.bench }
      { other with bench := s.act other.bench } := by
  have timer (t : Nat → Nat) : { rig.bench.timer with now := t rig.bench.timer.now } =
      { other.bench.timer with now := t other.bench.timer.now } := by rw [h.timer]
  cases s with
  | register address value =>
    exact { h with bus := h.bus.write fun chip => chip.write address value }
  | outputs c raw => exact { h with bus := h.bus.present c raw }
  | waiting c raws =>
    exact { h with bus := { h.bus with chip := { h.bus.chip with
      waiting := congrArg (·.set c raws) h.bus.chip.waiting } } }
  | brownout =>
    exact { h with bus := h.bus.write fun chip => chip.writeEach RegisterFile.powerOnControl }
  | readFault after => exact { h with bus := { h.bus with chip := { h.bus.chip with } } }
  | writeFault after => exact { h with bus := { h.bus with chip := { h.bus.chip with } } }
  | dataReady level => exact { h with dataReady := rfl }
  | clock now => exact { h with timer := timer fun _ => now }
  | advance microseconds =>
    exact { h with timer := timer fun now => (now + microseconds) % clockPeriod }

/-- Another step gives the same answer on both sides and leaves them abreast, if no transfer has
failed after it. -/
theorem Rig.Abreast.run (h : rig.Abreast n other) {step : Step} (quiet : step.reports = false)
    (first : (step.run rig).2.failures ≤ n) (second : (step.run other).2.failures ≤ n) :
    (step.run rig).1 = (step.run other).1 ∧ (step.run rig).2.Abreast n (step.run other).2 := by
  cases step with
  | stimulus s => exact ⟨rfl, h.act s⟩
  | command command =>
    have ends := (parallel_abreast n).command quiet rig other h
    have unfailed {rig : Rig} (few : (command.runOn rig).2.failures ≤ n) :
        ¬ FailsIn (fun rig => n < rig.failures) (command.run rig) := by
      unfold Command.runOn at few
      revert few
      cases command.run rig with
      | ok _ _ => exact fun _ => id
      | error _ _ => exact fun few many => absurd few (Nat.not_le.2 many)
    exact Command.runOn_of_alike
      (ends.resolve_right fun fails => fails.elim (unfailed first) (unfailed second))

/-- Rigs that are abreast are the same but for reports, if the copied counts are up to date and no
transfer has failed. -/
theorem Rig.Abreast.sameButReports (h : rig.Abreast n other) (inTouch : rig.driver.InTouch)
    (inTouch' : other.driver.InTouch) (first : rig.failures ≤ n) (second : other.failures ≤ n) :
    rig.SameButReports other := by
  have same {α : Type} (look : Driver → α) (muted : ∀ d : Driver, look d = look d.muted) :
      look rig.driver = look other.driver := by
    rw [muted rig.driver, h.driver, ← muted]
  have counted := same (fun d => { d.stats with extremes := d.monitor.extremes }) fun _ => rfl
  have upToDate {d : Driver} (inTouch : d.InTouch) :
      { d.stats with extremes := d.monitor.extremes } = d.stats := by rw [← inTouch]
  exact {
    queue := same Driver.queue fun _ => rfl
    stats := (upToDate inTouch).symm.trans (counted.trans (upToDate inTouch'))
    expected := same Driver.expected fun _ => rfl
    config := same Driver.config fun _ => rfl
    filter := same Driver.filter fun _ => rfl
    scheduler := same Driver.scheduler fun _ => rfl
    extremes := same (fun d => d.monitor.extremes) fun _ => rfl
    bootOk := same (fun d => d.monitor.bootOk) fun _ => rfl
    timer := h.timer
    dataReady := h.dataReady
    chip := h.bus.chip
    transfers := by
      rcases h.bus.transfers with failed | failed | same
      · exact absurd failed (Nat.not_lt.2 first)
      · exact absurd failed (Nat.not_lt.2 second)
      · exact same
    queued := h.queued }

theorem Step.run_inTouch (inTouch : rig.driver.InTouch) (step : Step) :
    (step.run rig).2.driver.InTouch := by
  cases step with
  | command command => exact (chronicle_posted.command command rig inTouch).1
  | stimulus s => exact inTouch

/-- The transfers that have failed after a step are among those that have after the session. -/
theorem failures_run_le (rig : Rig) (step : Step) (rest : List Step) :
    (step.run rig).2.failures ≤ (runSession rig (step :: rest)).2.failures :=
  operates_failures.session (stimuliWithin_failures rest)

/-- Two responses give the same answer, and leave rigs that are the same but for reports. -/
def SameResponse (response other : Answer × Rig) : Prop :=
  response.1 = other.1 ∧ response.2.SameButReports other.2

/-- Sessions that differ in reporting steps only have the same responses on rigs that are
abreast. -/
theorem Rig.Abreast.session {first second : List Step} (h : rig.Abreast n other)
    (inTouch : rig.driver.InTouch) (inTouch' : other.driver.InTouch)
    (interspersed : Interspersed first second)
    (few : (runSession rig first).2.failures ≤ n)
    (few' : (runSession other second).2.failures ≤ n) :
    List.Forall₂ SameResponse (responses rig first) (responses other second) ∧
      (runSession rig first).2.SameButReports (runSession other second).2 := by
  induction interspersed generalizing rig other with
  | nil => exact ⟨.nil, h.sameButReports inTouch inTouch' few few'⟩
  | @first step l m reports _ ih =>
    rw [responses, if_pos reports]
    exact ih (h.report reports) (step.run_inTouch inTouch) inTouch' few few'
  | @second step l m reports _ ih =>
    rw [responses.eq_2 other, if_pos reports]
    exact ih (h.symm.report reports).symm inTouch (step.run_inTouch inTouch') few few'
  | @both step l m quiet _ ih =>
    have soFar := (failures_run_le rig step l).trans few
    have soFar' := (failures_run_le other step m).trans few'
    obtain ⟨answer, abreast⟩ := h.run quiet soFar soFar'
    have kept := step.run_inTouch inTouch
    have kept' := step.run_inTouch inTouch'
    obtain ⟨others, final⟩ := ih abreast kept kept' few few'
    simp only [responses, quiet, Bool.false_eq_true, if_false]
    exact ⟨.cons ⟨answer, abreast.sameButReports kept kept' soFar soFar'⟩ others, final⟩

end Steps

/-- Publishing and the diagnostic log never interfere with acquisition. Take two sessions of one
driver in the same surroundings that differ only in the commands for these, and in neither of which
a transfer fails. Every other step gives the same answer in both and leaves rigs that are the same
but for reports, and so do the sessions as a whole. To choose what is published is also answered
alike. -/
theorem reports_never_interfere {bench : Bench} {start : Rig} {first second : List Step}
    (connected : connect { bench } = .ok () start)
    (same : first.filter (fun step => !step.reports) = second.filter fun step => !step.reports)
    (unfailed : (runSession start first).2.failures = start.failures)
    (unfailed' : (runSession start second).2.failures = start.failures) :
    List.Forall₂ SameResponse (responses start first) (responses start second) ∧
      (runSession start first).2.SameButReports (runSession start second).2 ∧
      ∀ c enable, ((Command.setPublishing c enable).runOn (runSession start first).2).1 =
        ((Command.setPublishing c enable).runOn (runSession start second).2).1 := by
  have inTouch : start.driver.InTouch := by
    obtain ⟨bus, rfl⟩ := connect_onBus.of_ok connected
    rfl
  have abreast : start.Abreast start.failures start :=
    { bus := ⟨refl_of Bus.SameChip _, Nat.le_refl _, Nat.le_refl _,
        .inr (.inr ⟨_, .refl _, .refl _⟩)⟩
      driver := rfl, timer := rfl, dataReady := rfl, queued := rfl }
  obtain ⟨alike, final⟩ := abreast.session inTouch inTouch (interspersed_of_filter_eq same)
    unfailed.le unfailed'.le
  exact ⟨alike, final, fun _ _ => rfl⟩

/-- In one of the sessions the log is switched on and publishing goes on and off, so there are
records, dumps and published samples; in the other an extreme sample switches the log on. -/
theorem reports_never_interfere_logged :
    let plain : List Step := [.command .reset, .command (.measure .accel),
      .stimulus (.outputs .accel ⟨32000, 32000, 32000⟩), .command (.measure .accel),
      .command (.measure .mag)]
    let reported : List Step := [.command .toggleLogging, .command .reset,
      .command (.measure .accel), .command (.setPublishing .mag false),
      .stimulus (.outputs .accel ⟨32000, 32000, 32000⟩), .command (.measure .accel),
      .command .toggleLogging, .command (.measure .mag)]
    connect { bench := .fresh .spi } = .ok () (.fresh .spi) ∧
      List.Forall₂ SameResponse (responses (.fresh .spi) plain)
        (responses (.fresh .spi) reported) ∧
      (runSession (.fresh .spi) plain).2.SameButReports (runSession (.fresh .spi) reported).2 ∧
      (runSession (.fresh .spi) plain).2.bench.bus.transfers.length <
        (runSession (.fresh .spi) reported).2.bench.bus.transfers.length := by
  intro plain reported
  have connected := connect_fresh .spi
  obtain ⟨alike, final, -⟩ := @reports_never_interfere _ _ plain reported connected rfl
    (by decide +kernel) (by decide +kernel)
  exact ⟨connected, alike, final, by decide +kernel⟩

end ECompass
