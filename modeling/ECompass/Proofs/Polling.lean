import ECompass.Proofs.Effects

/-!
# Triggers of the timer

The calls that the driver makes on the timer say which triggers are armed, and at which interval
each of them fires (`Triggers.after`). What the scheduler remembers says the same: exactly the
polled channels have an armed trigger, at their poll interval (`Scheduler.triggers`).

An operation of the scheduler leads the triggers from what it was to what it becomes, whatever the
other channel does, and delays or retunes armed triggers only (`Triggers.Leads`). So the two sides
stay in step along every session.
-/

namespace ECompass

open Program Operation

/-! ### Calls on the timer -/

/-- The interval of each armed trigger. -/
abbrev Triggers := PerChannel (Option Nat)

/-- The triggers after a call. A new interval reaches an armed trigger only, and a delay keeps the
interval. -/
def TimerCall.act (call : TimerCall) (armed : Triggers) : Triggers :=
  match call with
  | .every c _ period => armed.set c (some period)
  | .delay _ _ => armed
  | .interval c period => armed.modify c fun trigger => trigger.map fun _ => period
  | .cancel c => armed.set c none

/-- A call that presumes an armed trigger finds it armed. -/
def TimerCall.Permitted (call : TimerCall) (armed : Triggers) : Prop :=
  match call with
  | .every _ _ _ => True
  | .delay c _ => armed.get c ≠ none
  | .interval c _ => armed.get c ≠ none
  | .cancel _ => True

namespace Triggers

/-- No trigger is armed. -/
def idle : Triggers := .both none

/-- The triggers after some calls. -/
def after (armed : Triggers) (calls : List TimerCall) : Triggers :=
  calls.foldl (fun armed call => call.act armed) armed

/-- Every call that presumes an armed trigger finds it armed when it is made. -/
def Permits (armed : Triggers) : List TimerCall → Prop
  | [] => True
  | call :: rest => call.Permitted armed ∧ Permits (call.act armed) rest

/-- Some calls lead from triggers to others, and each is permitted when it is made. -/
structure Leads (armed : Triggers) (calls : List TimerCall) (next : Triggers) : Prop where
  /-- The calls are permitted. -/
  permits : armed.Permits calls
  /-- The triggers after the calls. -/
  after_eq : armed.after calls = next

theorem permits_append {armed : Triggers} {calls more : List TimerCall} (h : armed.Permits calls)
    (h' : (armed.after calls).Permits more) : armed.Permits (calls ++ more) := by
  induction calls generalizing armed with
  | nil => exact h'
  | cons call rest ih => exact ⟨h.1, ih h.2 h'⟩

theorem Leads.nil (armed : Triggers) : armed.Leads [] armed := ⟨True.intro, rfl⟩

theorem Leads.append {armed mid next : Triggers} {calls more : List TimerCall}
    (h : armed.Leads calls mid) (h' : mid.Leads more next) : armed.Leads (calls ++ more) next := by
  obtain ⟨permits, rfl⟩ := h
  obtain ⟨permits', rfl⟩ := h'
  exact ⟨permits_append permits permits', List.foldl_append⟩

end Triggers

/-! ### The scheduler -/

namespace Scheduler

/-- The triggers that a scheduler keeps armed: those of the polled channels, at their intervals. -/
def triggers (s : Scheduler) : Triggers :=
  .ofFn fun c => if s.isActive c then some (s.interval.get c) else none

theorem get_triggers (s : Scheduler) (c : Channel) :
    s.triggers.get c = if s.isActive c then some (s.interval.get c) else none :=
  PerChannel.get_ofFn _ c

theorem triggers_initial : initial.triggers = Triggers.idle := rfl

/-- The poll rate of a channel is read off its trigger. -/
theorem pollRate_eq (s : Scheduler) (c : Channel) :
    s.pollRate c = match s.triggers.get c with
      | some interval => .hertz (second / interval)
      | none => .manual := by
  rw [get_triggers, pollRate]
  cases s.isActive c <;> rfl

variable (s : Scheduler) (armed : Triggers)

/-- A stop disarms whatever was armed. -/
theorem stop_leads : armed.Leads s.stop.1 s.stop.2.triggers := by
  refine ⟨⟨True.intro, True.intro, True.intro⟩, PerChannel.ext_get fun c => ?_⟩
  cases c <;> rfl

/-- The calls for one channel arm its trigger if it has an interval, and leave the other alone. -/
theorem arm_leads (c : Channel) : armed.Leads (s.arm c)
    (if 0 < s.interval.get c then armed.set c (some (s.interval.get c)) else armed) := by
  unfold arm
  split
  · exact ⟨⟨True.intro, True.intro⟩, rfl⟩
  · exact .nil armed

/-- A start arms the triggers of the channels with an interval, whatever was armed before. -/
theorem start_leads : armed.Leads s.start.1 s.start.2.triggers := by
  have leads := ((s.stop_leads armed).append (s.arm_leads _ .accel)).append (s.arm_leads _ .mag)
  refine ⟨leads.permits, leads.after_eq.trans (PerChannel.ext_get fun c => ?_)⟩
  have stopped : s.stop.2.triggers.get c = none := by
    rw [get_triggers]
    rfl
  have polled : s.start.2.isActive c = decide (0 < s.interval.get c) := Bool.true_and _
  have interval : s.start.2.interval = s.interval := rfl
  rw [get_triggers, polled, interval]
  cases c with
  | accel =>
    split <;> split <;> simp_all [PerChannel.get_set]
  | mag =>
    split <;> split <;> simp_all [PerChannel.get_set]

/-- Only a trigger that is armed is put off. -/
theorem retry_leads {c : Channel} (active : s.isActive c) (delay : Nat) :
    s.triggers.Leads (retry c delay) s.triggers := by
  refine ⟨⟨?_, True.intro⟩, rfl⟩
  show s.triggers.get c ≠ none
  rw [get_triggers, if_pos active]
  exact Option.some_ne_none _

/-- An interval that is given for a rate is not zero. -/
theorem intervalFor_pos {c : Channel} {rate interval : Nat}
    (h : intervalFor c rate = some interval) : 0 < interval := by
  unfold intervalFor at h
  split at h
  · cases h
  · rename_i accepted
    cases h
    have least : 0 < minInterval c := by
      cases c <;> decide
    omega

variable {s}

/-- An interval that is put down for a channel is that of its trigger while the scheduler runs, and
zero stands for none. -/
theorem triggers_tuned (c : Channel) (interval : Nat) :
    ({ s with interval := s.interval.set c interval } : Scheduler).triggers =
      s.triggers.set c (if s.running ∧ 0 < interval then some interval else none) := by
  refine PerChannel.ext_get fun d => ?_
  rw [get_triggers, PerChannel.get_set s.triggers, get_triggers s]
  by_cases same : d = c
  · simp [same, isActive]
  · simp [same, isActive, PerChannel.get_set]

/-- An accepted poll rate leads the triggers to the ones that are kept from then on. -/
theorem setPollRate_leads {c : Channel} {rate : PollRate} {outcome : Reschedule}
    {calls : List TimerCall} {next : Scheduler}
    (h : s.setPollRate c rate = some (outcome, calls, next)) :
    s.triggers.Leads calls next.triggers := by
  unfold setPollRate at h
  split at h
  · cases h
    refine ⟨⟨True.intro, True.intro⟩, ?_⟩
    rw [triggers_tuned, if_neg fun positive => Nat.lt_irrefl 0 positive.2]
    rfl
  · obtain ⟨interval, accepted, tuned⟩ := Option.map_eq_some_iff.1 h
    have pos := intervalFor_pos accepted
    by_cases active : s.isActive c
    · simp only [active, if_true] at tuned
      cases tuned
      have armed : s.triggers.get c = some (s.interval.get c) := by
        rw [get_triggers, if_pos active]
      refine ⟨⟨?_, True.intro⟩, ?_⟩
      · show s.triggers.get c ≠ none
        rw [armed]
        exact Option.some_ne_none _
      · have running : s.running = true := (Bool.and_eq_true_iff.1 active).1
        show s.triggers.modify c _ = _
        rw [PerChannel.modify, armed, triggers_tuned, if_pos ⟨running, pos⟩]
        rfl
    · simp only [active] at tuned
      cases tuned
      exact start_leads _ _

end Scheduler

/-! ### Operations -/

/-- The calls made from one rig to the other lead the triggers as the schedulers tell. -/
def Rig.InStep (rig next : Rig) : Prop :=
  ∃ calls, next.bench.timer.calls = rig.bench.timer.calls ++ calls ∧
    rig.driver.scheduler.triggers.Leads calls next.driver.scheduler.triggers

instance : IsPreorder Rig Rig.InStep where
  refl _ := ⟨[], (List.append_nil _).symm, .nil _⟩
  trans := by
    rintro rig mid next ⟨calls, eq, leads⟩ ⟨more, eq', leads'⟩
    exact ⟨calls ++ more, by rw [eq', eq, List.append_assoc], leads.append leads'⟩

theorem Rig.InStep.of_eq {rig next : Rig}
    (scheduler : next.driver.scheduler = rig.driver.scheduler)
    (calls : next.bench.timer.calls = rig.bench.timer.calls) : rig.InStep next :=
  ⟨[], by rw [calls, List.append_nil], by rw [scheduler]; exact .nil _⟩

theorem putOff_inStep (c : Channel) : Within Rig.InStep (putOff c) := by
  intro rig
  rw [Ends, putOff_apply]
  refine ⟨_, rfl, ?_⟩
  split
  · exact rig.driver.scheduler.retry_leads ‹_› _
  · exact .nil _

theorem start_inStep : Within Rig.InStep start := fun rig =>
  ⟨_, rfl, rig.driver.scheduler.start_leads _⟩

theorem stop_inStep : Within Rig.InStep stop := fun rig =>
  ⟨_, rfl, rig.driver.scheduler.stop_leads _⟩

theorem setPollRate_inStep (c : Channel) (rate : PollRate) :
    Within Rig.InStep (setPollRate c rate) := by
  intro rig
  rw [Ends, setPollRate_apply]
  cases answer : rig.driver.scheduler.setPollRate c rate with
  | none => exact refl_of Rig.InStep rig
  | some accepted =>
    obtain ⟨outcome, calls, scheduler⟩ := accepted
    refine ⟨calls, rfl, ?_⟩
    rw [Driver.scheduler_adopt]
    exact Scheduler.setPollRate_leads answer

theorem drives_inStep : Drives Rig.InStep where
  steady h := .of_eq h.scheduler h.calls
  design _ _ _ := .of_eq rfl rfl
  keep _ c _ := by cases c <;> exact .of_eq rfl rfl
  queue _ _ := .of_eq rfl rfl
  putOff := putOff_inStep
  start := start_inStep
  stop := stop_inStep
  setPollRate := setPollRate_inStep

/-- A stimulus makes no call on the timer. -/
theorem Stimulus.calls_act (s : Stimulus) (bench : Bench) :
    (s.act bench).timer.calls = bench.timer.calls := by
  cases s <;> rfl

/-- A new driver keeps no trigger armed, and has made no call. -/
theorem triggers_of_connect {bench : Bench} {start : Rig}
    (connected : connect { bench } = .ok () start) :
    start.driver.scheduler.triggers = Triggers.idle ∧
      start.bench.timer.calls = bench.timer.calls := by
  have steady := connect_steady.of_ok connected
  exact ⟨by rw [steady.scheduler]; exact Scheduler.triggers_initial, steady.calls⟩

/-- A trigger is armed exactly while its channel is polled, at the poll interval, after any session
with a new driver and whatever fails in it; so the poll rate that the driver reports is that of the
trigger. No trigger is delayed or retuned unless it is armed. A channel without an armed trigger
answers a firing by doing nothing at all, and a driver that is released leaves nothing armed. -/
theorem armed_exactly_while_polled {bench : Bench} {start : Rig}
    (connected : connect { bench } = .ok () start) (steps : List Step) :
    let rig := (runSession start steps).2
    let scheduler := rig.driver.scheduler
    ∃ calls, rig.bench.timer.calls = bench.timer.calls ++ calls ∧
      Triggers.idle.Permits calls ∧
      (∀ c, (Triggers.idle.after calls).get c =
        if scheduler.isActive c then some (scheduler.interval.get c) else none) ∧
      (∀ c, scheduler.pollRate c = match (Triggers.idle.after calls).get c with
        | some interval => .hertz (1000000 / interval)
        | none => .manual) ∧
      (∀ c, (Triggers.idle.after calls).get c = none → onTimer c rig = .ok .inactive rig) ∧
      ∃ released final last, release rig = .ok released final ∧
        released.timer.calls = rig.bench.timer.calls ++ last ∧
          ∀ c, ((Triggers.idle.after calls).after last).get c = none := by
  intro rig scheduler
  obtain ⟨idle, unused⟩ := triggers_of_connect connected
  have stimuli : StimuliWithin Rig.InStep steps := fun s _ rig =>
    .of_eq rfl (s.calls_act rig.bench)
  obtain ⟨calls, made, leads⟩ := drives_inStep.session stimuli start
  rw [idle] at leads
  have armed (c : Channel) : (Triggers.idle.after calls).get c = scheduler.triggers.get c := by
    rw [leads.after_eq]
  refine ⟨calls, by rw [← unused]; exact made, leads.permits, fun c => ?_, fun c => ?_,
    fun c disarmed => ?_, ?_⟩
  · rw [armed, Scheduler.get_triggers]
  · rw [armed]
    exact scheduler.pollRate_eq c
  · have inactive : ¬ scheduler.isActive c := by
      intro active
      rw [armed, Scheduler.get_triggers, if_pos active] at disarmed
      cases disarmed
    exact onTimer_of_not_active inactive
  · refine ⟨_, _, scheduler.stop.1, rfl, rfl, fun c => ?_⟩
    rw [(scheduler.stop_leads _).after_eq, Scheduler.get_triggers]
    rfl

/-- Both channels are polled, one of them is retuned, and a measurement is put off. -/
theorem armed_exactly_while_polled_retuned :
    let steps : List Step := [.command (.setPollRate .accel .default),
      .command (.setPollRate .mag (.hertz 50)), .command (.setPollRate .accel (.hertz 400)),
      .stimulus (.dataReady .low), .command (.onTimer .accel)]
    let rig := (runSession (.fresh .direct) steps).2
    connect { bench := .fresh .direct } = .ok () (.fresh .direct) ∧
      ∃ calls, rig.bench.timer.calls = calls ∧ Triggers.idle.Permits calls ∧
        (Triggers.idle.after calls).get .accel = some 2500 := by
  intro steps rig
  have connected := connect_fresh .direct
  obtain ⟨calls, made, permits, armed, -⟩ := armed_exactly_while_polled connected steps
  refine ⟨connected, calls, made, permits, (armed .accel).trans ?_⟩
  decide +kernel

end ECompass
