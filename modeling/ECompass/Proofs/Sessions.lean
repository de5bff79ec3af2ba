import ECompass.Proofs.Programming

/-!
# Sessions

What a session does to a rig follows from what its steps do. A preorder that everything a command
is made of moves within (`Operates`), and the stimuli of a session too, is one that the session
moves within.

Two things are watched inside the commands of a session: when a measurement is taken, and when a
reset begins, be it called for or started by the health check. `events` lists both with the rigs
on which they begin, and a session passes through these rigs.
-/

namespace ECompass

open Program Operation

/-! ### Stimuli -/

/-- The addresses that a stimulus writes. -/
def Stimulus.outside : Stimulus → List UInt8
  | .register address _ => [address]
  | .outputs c _ => c.outputs
  | .brownout => RegisterFile.powerOnControl.map Prod.fst
  | _ => []

/-- The addresses that a step writes from outside; the driver's own transfers do not count. -/
def Step.outside : Step → List UInt8
  | .command _ => []
  | .stimulus s => s.outside

/-- Addresses that are not listed keep their values. -/
theorem RegisterFile.read_writeEach_of_not_mem (f : RegisterFile) {values : List (UInt8 × UInt8)}
    {a : UInt8} (h : a ∉ values.map Prod.fst) : (f.writeEach values).read a = f.read a := by
  induction values generalizing f with
  | nil => rfl
  | cons value rest ih =>
    rw [List.map_cons, List.mem_cons, not_or] at h
    exact (ih _ h.2).trans (read_write_of_ne f _ h.1)

/-- A stimulus changes the registers that it writes. -/
theorem Stimulus.read_act (s : Stimulus) (bench : Bench) {a : UInt8} (h : a ∉ s.outside) :
    (s.act bench).bus.chip.read a = bench.bus.chip.read a := by
  cases s with
  | register address value =>
    exact RegisterFile.read_write_of_ne _ _ fun eq => h (List.mem_singleton.2 eq)
  | outputs c raw => exact Bus.chip_present _ raw h
  | brownout => exact RegisterFile.read_writeEach_of_not_mem _ h
  | _ => rfl

/-- A stimulus is no transfer. -/
theorem Stimulus.transfers_act (s : Stimulus) (bench : Bench) :
    (s.act bench).bus.transfers = bench.bus.transfers := by
  cases s <;> rfl

theorem Stimulus.failures_act (s : Stimulus) (bench : Bench) :
    (s.act bench).bus.failures = bench.bus.failures := by
  rw [Bus.failures, Bus.failures, s.transfers_act]

/-! ### Events -/

/-- What is watched inside a command, with the rig on which it begins. -/
inductive Event where
  /-- The chip is configured anew. -/
  | reset (start : Rig)
  /-- A measurement of a channel is taken. -/
  | measurement (c : Channel) (start : Rig)

/-- The rig on which a measurement starts a reset, if it does. -/
def recovery? (c : Channel) (rig : Rig) : Option Rig :=
  if rig.Ready c then
    match isHealthy c rig with
    | .ok false next => some { next with driver := next.driver.countRecovery c }
    | _ => none
  else none

namespace Command

/-- Whether a command begins with a reset. -/
def configures (command : Command) : Bool := command = .reset ∨ command = .bringUp

/-- The channel that a command measures and the rig on which it does, if it does. -/
def measurement? (command : Command) (rig : Rig) : Option (Channel × Rig) :=
  match command with
  | .bringUp => match ECompass.reset rig with
    | .ok _ next => some (.accel, next)
    | .error _ _ => none
  | .measure c => some (c, rig)
  | .onTimer c => if rig.driver.scheduler.isActive c then some (c, rig) else none
  | .readSamples c room =>
    if room = 0 ∨ rig.driver.scheduler.isActive c then none
    else some (c, { rig with driver := rig.driver.onQueue c SampleQueue.flush })
  | _ => none

/-- The events of a command. -/
def events (command : Command) (rig : Rig) : List Event :=
  (if command.configures then [.reset rig] else []) ++
    match command.measurement? rig with
    | some (c, polled) => .measurement c polled :: (recovery? c polled).toList.map .reset
    | none => []

end Command

/-- The events of a step. -/
def Step.events : Step → Rig → List Event
  | .command c, rig => c.events rig
  | .stimulus _, _ => []

/-- The events of a session, in the order in which they begin. -/
def events (rig : Rig) : List Step → List Event
  | [] => []
  | step :: rest => step.events rig ++ events (step.run rig).2 rest

/-! ### Commands pass through their events -/

theorem recovery?_eq_some_iff {c : Channel} {rig start : Rig} : recovery? c rig = some start ↔
    rig.Ready c ∧ ∃ next, isHealthy c rig = .ok false next ∧
      start = { next with driver := next.driver.countRecovery c } := by
  unfold recovery?
  split
  · split
    · rename_i ready _ next check
      constructor
      · rintro ⟨⟩
        exact ⟨ready, next, check, rfl⟩
      · rintro ⟨-, _, check', rfl⟩
        rw [check] at check'
        cases check'
        rfl
    · rename_i other
      constructor
      · intro h
        cases h
      · rintro ⟨-, next, check, -⟩
        exact absurd check (other next)
  · rename_i h
    simp [h]

/-- A channel whose control register is as expected starts no reset. -/
theorem recovery?_eq_none {c : Channel} {rig : Rig} (h : ¬ rig.Mismatched c) :
    recovery? c rig = none := by
  rw [Option.eq_none_iff_forall_ne_some]
  intro start recovers
  obtain ⟨-, next, check, -⟩ := recovery?_eq_some_iff.1 recovers
  exact Bool.false_ne_true (((isHealthy_ends c rig).of_ok check).1.2 h)

/-- A channel whose control register is not as expected starts a reset, if it has data and the
register can be read. -/
theorem recovery?_of_mismatched {c : Channel} {rig checked : Rig} {healthy : Bool}
    (ready : rig.Ready c) (mismatched : rig.Mismatched c)
    (check : isHealthy c rig = .ok healthy checked) :
    recovery? c rig = some { checked with driver := checked.driver.countRecovery c } := by
  have alarmed : healthy = false :=
    Bool.eq_false_iff.2 fun h => ((isHealthy_ends c rig).of_ok check).1.1 h mismatched
  exact recovery?_eq_some_iff.2 ⟨ready, checked, alarmed ▸ check, rfl⟩

/-- A measurement that starts a reset is that reset, from there on. -/
theorem measure_of_recovery? {c : Channel} {rig start : Rig} (h : recovery? c rig = some start) :
    measure c rig = (do reset; return Measurement.recovered) start := by
  obtain ⟨ready, next, check, rfl⟩ := recovery?_eq_some_iff.1 h
  rw [measure_of_isHealthy ready check]
  rfl

theorem onTimer_of_active {c : Channel} {rig : Rig} (h : rig.driver.scheduler.isActive c) :
    onTimer c rig = measure c rig := by
  rw [onTimer, bind_apply]
  exact congrFun (if_pos h) rig

theorem onTimer_of_not_active {c : Channel} {rig : Rig} (h : ¬ rig.driver.scheduler.isActive c) :
    onTimer c rig = .ok .inactive rig := by
  rw [onTimer, bind_apply]
  exact congrFun (if_neg h) rig

/-- The part of `measureAndTake` that follows the measurement. -/
def takeSampled (c : Channel) : Measurement → Operation (List Sample)
  | .sampled => return (← popQueue c).toList
  | _ => return []

/-- Only the queues have changed. -/
def Rig.Requeued (rig next : Rig) : Prop := ∃ queue, next = { rig with driver.queue := queue }

instance : IsPreorder Rig Rig.Requeued where
  refl rig := ⟨rig.driver.queue, rfl⟩
  trans := by
    rintro rig mid next ⟨_, rfl⟩ ⟨queue, rfl⟩
    exact ⟨queue, rfl⟩

theorem Rig.Requeued.calm {rig next : Rig} (h : rig.Requeued next) : rig.Calm next := by
  obtain ⟨_, rfl⟩ := h
  exact ⟨refl_of Bus.Reads _, rfl, rfl, rfl⟩

theorem takeSampled_requeues (c : Channel) (outcome : Measurement) :
    Within Rig.Requeued (takeSampled c outcome) := by
  cases outcome
  case sampled => exact fun _ => ⟨_, rfl⟩
  all_goals exact .pure _

theorem measureAndTake_apply (c : Channel) (rig : Rig) :
    measureAndTake c rig = (measure c >>= takeSampled c)
      { rig with driver := rig.driver.onQueue c SampleQueue.flush } := by
  have eq : measureAndTake c = (do flushQueue c; measure c >>= takeSampled c) := by
    unfold measureAndTake
    congr 1
  rw [eq]
  rfl

/-- Samples of a polled channel are read from its queue. -/
theorem readSamples_of_active {c : Channel} {rig : Rig} {room : Nat} (some : room ≠ 0)
    (active : rig.driver.scheduler.isActive c) : readSamples c room rig = drain c room rig := by
  rw [readSamples_eq, sampling, if_neg some, bind_apply]
  exact congrFun (if_pos active) rig

/-- A channel that is not polled is measured to read it. -/
theorem readSamples_of_not_active {c : Channel} {rig : Rig} {room : Nat} (some : room ≠ 0)
    (inactive : ¬ rig.driver.scheduler.isActive c) :
    readSamples c room rig = (measure c >>= takeSampled c)
      { rig with driver := rig.driver.onQueue c SampleQueue.flush } := by
  rw [← measureAndTake_apply, readSamples_eq, sampling, if_neg some, bind_apply]
  exact congrFun (if_neg inactive) rig

namespace Command

variable {command : Command} {rig start polled : Rig} {c : Channel}

theorem mem_events_measurement :
    .measurement c polled ∈ command.events rig ↔ command.measurement? rig = some (c, polled) := by
  unfold events
  cases command.measurement? rig with
  | none => cases command.configures <;> simp
  | some taken => cases command.configures <;> simp [eq_comm, Prod.ext_iff]

theorem mem_events_reset : .reset start ∈ command.events rig ↔
    command.configures ∧ start = rig ∨ ∃ c polled,
      command.measurement? rig = some (c, polled) ∧ recovery? c polled = some start := by
  unfold events
  cases command.measurement? rig with
  | none => cases command.configures <;> simp
  | some taken =>
    obtain ⟨d, polled⟩ := taken
    cases command.configures <;> simp [Option.mem_toList, and_assoc]

/-- A command that begins with a reset goes on from it. -/
theorem run_of_configures (h : command.configures) :
    ∃ rest : Unit → Operation Reply, command.run = ECompass.reset >>= rest := by
  rcases of_decide_eq_true h with rfl | rfl
  · exact ⟨_, rfl⟩
  · exact ⟨_, bind_assoc _ _ _⟩

/-- The commands that measure, and the rigs on which they do. -/
theorem measurement?_cases (h : command.measurement? rig = some (c, polled)) :
    (command = .bringUp ∧ c = .accel ∧ ECompass.reset rig = .ok () polled) ∨
      (command = .measure c ∧ polled = rig) ∨
      (command = .onTimer c ∧ rig.driver.scheduler.isActive c ∧ polled = rig) ∨
      ∃ room, command = .readSamples c room ∧
        (room ≠ 0 ∧ ¬ rig.driver.scheduler.isActive c) ∧
        polled = { rig with driver := rig.driver.onQueue c SampleQueue.flush } := by
  cases command with
  | bringUp =>
    simp only [measurement?] at h
    split at h
    · rename_i next ok
      cases h
      exact .inl ⟨rfl, rfl, ok⟩
    · cases h
  | measure d =>
    cases h
    exact .inr (.inl ⟨rfl, rfl⟩)
  | onTimer d =>
    simp only [measurement?] at h
    split at h
    · rename_i active
      cases h
      exact .inr (.inr (.inl ⟨rfl, active, rfl⟩))
    · cases h
  | readSamples d room =>
    simp only [measurement?] at h
    split at h
    · cases h
    · rename_i free
      cases h
      exact .inr (.inr (.inr ⟨room, rfl, not_or.1 free, rfl⟩))
  | _ => cases h

/-- A command that measures goes on as the measurement does, and takes from a queue at most after
it. -/
theorem run_of_measurement? (h : command.measurement? rig = some (c, polled)) :
    ∃ rest : Measurement → Operation Reply, (∀ outcome, Within Rig.Requeued (rest outcome)) ∧
      command.run rig = (ECompass.measure c >>= rest) polled := by
  rcases measurement?_cases h with ⟨rfl, rfl, ok⟩ | ⟨rfl, rfl⟩ | ⟨rfl, active, rfl⟩ |
    ⟨room, rfl, ⟨some, inactive⟩, rfl⟩
  · refine ⟨fun _ => return .done, fun _ => .pure _, ?_⟩
    show (ECompass.bringUp >>= _) rig = _
    rw [ECompass.bringUp, bind_assoc, bind_apply, ok, bind_assoc]
    rfl
  · exact ⟨fun outcome => return .measured outcome, fun _ => .pure _, rfl⟩
  · refine ⟨fun outcome => return .measured outcome, fun _ => .pure _, ?_⟩
    show (ECompass.onTimer c >>= _) polled = (ECompass.measure c >>= _) polled
    rw [bind_apply, bind_apply, onTimer_of_active active]
  · refine ⟨fun outcome => do return .samples (← takeSampled c outcome), fun outcome =>
      (takeSampled_requeues c outcome).bind fun _ => .pure _, ?_⟩
    show (ECompass.readSamples c room >>= _) rig = _
    rw [bind_apply, readSamples_of_not_active some inactive, ← bind_apply, bind_assoc]

theorem runOn_of_ends {Q : Rig → Prop} (h : Ends command.run rig (fun _ => Q) fun _ => Q) :
    Q (command.runOn rig).2 := by
  unfold Ends at h
  unfold runOn
  cases run : command.run rig <;> rw [run] at h <;> exact h

/-- A command leaves the rig within `R` if its operation moves within `R`. -/
theorem runOn_within {R : Rig → Rig → Prop} (h : Within R command.run) :
    R rig (command.runOn rig).2 := runOn_of_ends (h rig)

theorem run_of_reply {reply : Reply} (h : (command.runOn rig).1 = .reply reply) :
    ∃ next, command.run rig = .ok reply next := by
  unfold runOn at h
  split at h
  · rename_i next run
    cases h
    exact ⟨next, run⟩
  · cases h

theorem run_of_failure {e : Error} (h : (command.runOn rig).1 = .failure e) :
    command.run rig = .error e (command.runOn rig).2 := by
  unfold runOn at h ⊢
  split at h
  · cases h
  · cases h
    assumption

/-- The outcome that a command reports is that of its measurement, if it took one. -/
theorem measurement?_of_reply {outcome : Measurement} {next : Rig}
    (h : command.run rig = .ok (.measured outcome) next) :
    outcome = .inactive ∨ ∃ c polled, command.measurement? rig = some (c, polled) ∧
      ∃ mid, ECompass.measure c polled = .ok outcome mid := by
  cases command with
  | measure c =>
    obtain ⟨_, _, ok, ⟨⟩⟩ := bind_eq_ok_iff.1 h
    exact .inr ⟨c, rig, rfl, next, ok⟩
  | onTimer c =>
    obtain ⟨_, _, ok, ⟨⟩⟩ := bind_eq_ok_iff.1 h
    by_cases active : rig.driver.scheduler.isActive c
    · rw [onTimer_of_active active] at ok
      exact .inr ⟨c, rig, if_pos active, next, ok⟩
    · rw [onTimer_of_not_active active] at ok
      cases ok
      exact .inl rfl
  | _ =>
    obtain ⟨_, _, _, ⟨⟩⟩ := bind_eq_ok_iff.1 h

/-- A reset that fails is the end of its command. -/
theorem runOn_of_reset_error {e : Error} {failed : Rig} (hr : .reset start ∈ command.events rig)
    (fails : ECompass.reset start = .error e failed) :
    command.runOn rig = (.failure e, failed) := by
  have run : command.run rig = .error e failed := by
    rcases mem_events_reset.1 hr with ⟨configures, rfl⟩ | ⟨c, polled, hm, recovers⟩
    · obtain ⟨rest, run⟩ := command.run_of_configures configures
      rw [run, bind_apply, fails]
    · obtain ⟨rest, -, run⟩ := command.run_of_measurement? hm
      rw [run, bind_apply, measure_of_recovery? recovers, bind_apply, fails]
  rw [runOn, run]

end Command

/-! ### Where sessions begin -/

/-- Surroundings in which power has just come on and nothing has happened yet. -/
def Bench.fresh (transport : Transport) : Bench where
  bus := { transport }
  timer := { now := 1000 }

/-- A new driver in fresh surroundings. -/
def Rig.fresh (transport : Transport) : Rig :=
  match connect { bench := .fresh transport } with
  | .ok _ rig => rig
  | .error _ rig => rig

/-- A chip on which power has just come on is recognized. -/
theorem connect_fresh (transport : Transport) :
    connect { bench := .fresh transport } = .ok () (.fresh transport) := by
  have ok : succeeds connect { bench := .fresh transport } := by
    cases transport <;> decide +kernel
  obtain ⟨_, new, run⟩ := exists_ok_of_succeeds ok
  unfold Rig.fresh
  rw [run]

theorem reset_of_reply {rig : Rig} (h : (Command.reset.runOn rig).1 = .reply .done) :
    reset rig = .ok () (Command.reset.runOn rig).2 := by
  have run : Command.reset.run rig = (do reset; return Reply.done) rig := rfl
  rw [Command.runOn, run, bind_apply] at h ⊢
  revert h
  cases reset rig with
  | ok _ _ =>
    intro
    rfl
  | error _ _ =>
    intro h
    cases h

/-- A command that only puts the result of an operation into its reply fails as the operation
does. -/
theorem error_of_failure {α : Type} {command : Command} {operation : Operation α}
    {reply : α → Reply} (eq : command.run = (do return reply (← operation))) {rig : Rig} {e : Error}
    (h : (command.runOn rig).1 = .failure e) : operation rig = .error e (command.runOn rig).2 := by
  have run : command.run rig = .error e (command.runOn rig).2 := command.run_of_failure h
  rw [eq] at run
  exact bind_pure_eq_error_iff.1 run

theorem reset_of_failure {rig : Rig} {e : Error} (h : (Command.reset.runOn rig).1 = .failure e) :
    reset rig = .error e (Command.reset.runOn rig).2 := error_of_failure rfl h

/-! ### Runs -/

/-- The measurement of a command, and what is left of it, move within `R`. -/
theorem Operates.measurement? {R : Rig → Rig → Prop} [IsPreorder Rig R] (h : Operates R)
    {command : Command} {rig polled : Rig} {c : Channel}
    (hm : command.measurement? rig = some (c, polled)) :
    R rig polled ∧ R polled (command.runOn rig).2 := by
  constructor
  · rcases command.measurement?_cases hm with ⟨-, -, ok⟩ | ⟨-, rfl⟩ | ⟨-, -, rfl⟩ | ⟨_, -, -, rfl⟩
    · exact h.reset.of_ok ok
    · exact refl_of R _
    · exact refl_of R _
    · exact h.calm ((flushQueue_calm c).of_ok rfl)
  · obtain ⟨rest, requeues, run⟩ := command.run_of_measurement? hm
    have within : Within R (ECompass.measure c >>= rest) :=
      (h.measure c).bind fun outcome =>
        (requeues outcome).mono fun _ _ moved => h.calm moved.calm
    have ends := within polled
    rw [Ends, ← run] at ends
    exact Command.runOn_of_ends ends

/-- What leads up to a reset moves within `R`, if counting a recovery does. -/
theorem Operates.start_of_reset {R : Rig → Rig → Prop} [IsPreorder Rig R] (h : Operates R)
    (count : ∀ c, Within R (onDriver fun d => d.countRecovery c)) {command : Command}
    {rig start : Rig} (hr : .reset start ∈ command.events rig) : R rig start := by
  rcases Command.mem_events_reset.1 hr with ⟨-, rfl⟩ | ⟨c, polled, hm, recovers⟩
  · exact refl_of R _
  · obtain ⟨-, checked, check, rfl⟩ := recovery?_eq_some_iff.1 recovers
    have looked : R polled checked := h.calm ((isHealthy_calm c).of_ok check)
    exact trans_of R (h.measurement? hm).1 (trans_of R looked ((count c).of_ok rfl))

/-- A command moves the rig within `R`. -/
theorem Operates.runOn {R : Rig → Rig → Prop} [IsPreorder Rig R] (h : Operates R)
    (command : Command) (rig : Rig) : R rig (command.runOn rig).2 :=
  Command.runOn_within (h.command command)

/-- The stimuli of a session move the rig within `R`. -/
def StimuliWithin (R : Rig → Rig → Prop) (steps : List Step) : Prop :=
  ∀ s, .stimulus s ∈ steps → ∀ rig : Rig, R rig { rig with bench := s.act rig.bench }

section Runs

theorem StimuliWithin.tail {R : Rig → Rig → Prop} {step : Step} {steps : List Step}
    (h : StimuliWithin R (step :: steps)) : StimuliWithin R steps :=
  fun s hs => h s (List.mem_cons_of_mem _ hs)

theorem runStep_within {R : Rig → Rig → Prop} {step : Step} {steps : List Step}
    (commands : ∀ command : Command, Within R command.run)
    (stimuli : StimuliWithin R (step :: steps)) (rig : Rig) : R rig (step.run rig).2 := by
  cases step with
  | command c => exact Command.runOn_within (commands c)
  | stimulus s => exact stimuli s List.mem_cons_self rig

variable {R : Rig → Rig → Prop} [IsPreorder Rig R] {step : Step} {steps : List Step} {rig : Rig}

/-- A session moves the rig within `R` if commands and its stimuli do. -/
theorem runSession_within (commands : ∀ command : Command, Within R command.run)
    (stimuli : StimuliWithin R steps) : R rig (runSession rig steps).2 := by
  induction steps generalizing rig with
  | nil => exact refl_of R rig
  | cons step rest ih => exact trans_of R (runStep_within commands stimuli rig) (ih stimuli.tail)

theorem Operates.runStep (h : Operates R) (stimuli : StimuliWithin R (step :: steps)) (rig : Rig) :
    R rig (step.run rig).2 := runStep_within h.command stimuli rig

/-- A session moves the rig within `R` if its stimuli do. -/
theorem Operates.session (h : Operates R) (stimuli : StimuliWithin R steps) :
    R rig (runSession rig steps).2 := runSession_within h.command stimuli

/-- A session passes through the rigs on which its measurements begin. -/
theorem Operates.measurement (h : Operates R) (stimuli : StimuliWithin R steps) {c : Channel}
    {polled : Rig} (hm : .measurement c polled ∈ events rig steps) :
    R rig polled ∧ R polled (runSession rig steps).2 := by
  induction steps generalizing rig with
  | nil => cases hm
  | cons step rest ih =>
    rcases List.mem_append.1 hm with hm | hm
    · cases step with
      | command command =>
        obtain ⟨before, after⟩ := h.measurement? (Command.mem_events_measurement.1 hm)
        exact ⟨before, trans_of R after (h.session stimuli.tail)⟩
      | stimulus s => cases hm
    · obtain ⟨before, after⟩ := ih stimuli.tail hm
      exact ⟨trans_of R (h.runStep stimuli rig) before, after⟩

/-- The outcomes that a session reports are those of its measurements. -/
theorem measurement_of_reply {outcome : Measurement}
    (h : .reply (.measured outcome) ∈ (runSession rig steps).1) : outcome = .inactive ∨
      ∃ c polled, .measurement c polled ∈ events rig steps ∧
        ∃ next, measure c polled = .ok outcome next := by
  induction steps generalizing rig with
  | nil => cases h
  | cons step rest ih =>
    rcases List.mem_cons.1 h with h | h
    · cases step with
      | command command =>
        obtain ⟨next, run⟩ := Command.run_of_reply h.symm
        rcases command.measurement?_of_reply run with h | ⟨c, polled, hm, ok⟩
        · exact .inl h
        · exact .inr ⟨c, polled, List.mem_append_left _ (Command.mem_events_measurement.2 hm), ok⟩
      | stimulus s => cases h
    · rcases ih h with h | ⟨c, polled, hm, ok⟩
      · exact .inl h
      · exact .inr ⟨c, polled, List.mem_append_right _ hm, ok⟩

end Runs

end ECompass
