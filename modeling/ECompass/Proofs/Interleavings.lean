import ECompass.Proofs.ChannelParts
import ECompass.Proofs.HealthCheck

/-!
# The channels in any order

Each channel has a trigger of its own, and the two fire in whatever order their timers bring about.
As long as the chip holds its control values and no transfer fails, that order does not matter
(`channels_commute`): a channel answers its firings as if there were no others, and in the end the
driver and the chip are the same.

A firing takes one of three courses then: the channel is not polled, it has no data, or a sample is
committed. Each is gone through twice, for a channel that finds two rigs alike
(`Rig.AlikeTo.fires`) and for the other channel, which finds its rig as it was
(`Firing.alikeTo_run`). Two schedules in which a channel has the same firings are then the same to
it, by induction on these; what either schedule has in between passes it by.
-/

namespace ECompass

open Program Operation

/-! ### Firings -/

/-- A trigger fires. -/
structure Firing where
  /-- The channel of the trigger. -/
  channel : Channel
  /-- What the clock shows then. -/
  now : Nat
  /-- What the data-ready line shows then. -/
  dataReady : DataReady
  deriving DecidableEq

namespace Firing

/-- The steps of a session that it takes. -/
def steps (f : Firing) : List Step :=
  [.stimulus (.clock f.now), .stimulus (.dataReady f.dataReady), .command (.onTimer f.channel)]

/-- The rig when the trigger fires. -/
def meet (f : Firing) (rig : Rig) : Rig :=
  { rig with bench := { rig.bench with timer.now := f.now, dataReady := f.dataReady } }

/-- The answer of the driver, and the rig after it. -/
def run (f : Firing) (rig : Rig) : Answer × Rig := (Command.onTimer f.channel).runOn (f.meet rig)

end Firing

/-- The session in which triggers fire in order. -/
def schedule (firings : List Firing) : List Step := firings.flatMap Firing.steps

/-- The answers to the firings of a channel in a session. -/
def answered (c : Channel) (rig : Rig) (steps : List Step) : List Answer :=
  along (fun command rig => if command = .onTimer c then [(command.runOn rig).1] else []) rig steps

section Schedules

variable {c : Channel} {rig other : Rig} {f : Firing} {rest : List Firing}

/-- A firing is answered first, and the others on the rig after it. -/
theorem answered_schedule (c : Channel) (rig : Rig) (f : Firing) (rest : List Firing) :
    answered c rig (schedule (f :: rest)) =
      (if f.channel = c then [(f.run rig).1] else []) ++
        answered c (f.run rig).2 (schedule rest) := by
  show (if Command.onTimer f.channel = .onTimer c then _ else _) ++ _ = _
  simp only [Command.onTimer.injEq]
  rfl

/-- The transfers that have failed after a firing are among those that have after the schedule. -/
theorem failures_schedule_le (rig : Rig) (f : Firing) (rest : List Firing) :
    rig.failures ≤ (f.run rig).2.failures ∧
      (f.run rig).2.failures ≤ (runSession rig (schedule (f :: rest))).2.failures :=
  ⟨operates_failures.runOn _ (f.meet rig), operates_failures.session (stimuliWithin_failures _)⟩

/-- A firing keeps the control registers as expected. -/
theorem Rig.Synced.fires (synced : rig.Synced) (f : Firing) : (f.run rig).2.Synced := fun c =>
  ((operates_staysMatched c).runOn (.onTimer f.channel) (f.meet rig) (synced c)).1

/-! ### The courses of a firing -/

theorem onTimer_idle (inactive : ¬ rig.driver.scheduler.isActive c) :
    (Command.onTimer c).runOn rig = (.reply (.measured .inactive), rig) := by
  have run : (Command.onTimer c).run rig = .ok (.measured .inactive) rig := by
    show (ECompass.onTimer c >>= _) rig = _
    rw [bind_apply, onTimer_of_not_active inactive]
    rfl
  rw [Command.runOn, run]

/-- A channel that is polled is measured. -/
theorem onTimer_polled (active : rig.driver.scheduler.isActive c) :
    (Command.onTimer c).runOn rig = (Command.measure c).runOn rig := by
  have run : (Command.onTimer c).run rig = (Command.measure c).run rig := by
    show (ECompass.onTimer c >>= _) rig = (ECompass.measure c >>= _) rig
    rw [bind_apply, bind_apply, onTimer_of_active active]
  rw [Command.runOn, Command.runOn, run]

theorem onTimer_putOff (active : rig.driver.scheduler.isActive c) (waits : ¬ rig.Ready c) :
    (Command.onTimer c).runOn rig = (.reply (.measured .notReady),
      rig.deferred (rig.bench.timer.calls ++ Scheduler.retry c retryDelay)) := by
  rw [onTimer_polled active]
  refine Command.runOn_of_measure_ok (.inl rfl) rfl ?_
  rw [measure_of_not_ready waits, bind_apply, putOff_apply, if_pos active]
  rfl

/-- The counts of the chip are committed, once waiting ones have come up. -/
theorem onTimer_commits (active : rig.driver.scheduler.isActive c) (ready : rig.Ready c)
    (matched : ¬ rig.Mismatched c) (unfailed : (Command.onTimer c).Unfailed rig) :
    let filled := rig.bench.bus.refill c.status.addr
    ∃ bus, filled.SameChip bus ∧
      ((rig.withBus bus).committed c (filled.chip.counts c)).failures ≤ bus.failures ∧
      (Command.onTimer c).runOn rig =
        (.reply (.measured .sampled), (rig.withBus bus).committed c (filled.chip.counts c)) := by
  intro filled
  rw [Command.Unfailed, onTimer_polled active] at *
  -- the health check and the burst have not failed, so neither has the dump that may follow
  obtain ⟨_, next, measured, rfl⟩ :=
    exists_ok_of_unfailed (measure_of_matched ready matched) unfailed
  obtain ⟨checked, burst, mid, check, read, rfl⟩ := measure_eq_committed measured
  have counts : burst.raw = filled.chip.counts c := readBurst_counts_of_checked check read
  have looked := (sameChip_of_isHealthy check).refill c.status.addr
  have taken := trans_of Bus.SameChip looked (readBurst_counts read).2
  have few : rig.failures ≤ mid.failures :=
    Nat.le_trans ((isHealthy_failures c rig).of_ok check)
      ((readBurst_failures c checked).of_ok read)
  have run := Command.runOn_of_measure_ok (.inl rfl) rfl measured
  rw [run] at unfailed
  obtain ⟨_, rfl⟩ := (isHealthy_onBus c).of_ok check
  obtain ⟨bus, rfl⟩ := (readBurst_onBus c).of_ok read
  rw [counts] at unfailed run
  exact ⟨bus, taken, unfailed.le.trans few, run⟩

/-! ### One firing -/

/-- A channel that finds two rigs alike answers a firing alike on both, and finds them alike
afterwards. -/
theorem Rig.AlikeTo.fires (h : rig.AlikeTo f.channel other) (synced : rig.Synced)
    (synced' : other.Synced) (unfailed : (f.run rig).2.failures = rig.failures)
    (unfailed' : (f.run other).2.failures = other.failures) :
    (f.run rig).1 = (f.run other).1 ∧ (f.run rig).2.AlikeTo f.channel (f.run other).2 := by
  have met : (f.meet rig).AlikeTo f.channel (f.meet other) := { h with }
  unfold Firing.run at *
  by_cases active : (f.meet rig).driver.scheduler.isActive f.channel
  · have active' := active
    rw [met.isActive_eq] at active'
    by_cases ready : (f.meet rig).Ready f.channel
    · obtain ⟨bus, filled, few, run⟩ := onTimer_commits active ready (synced _) unfailed
      obtain ⟨bus', filled', few', run'⟩ := onTimer_commits active' ready (synced' _) unfailed'
      have read : ((f.meet rig).withBus bus).AlikeTo f.channel ((f.meet other).withBus bus') := by
        have refilled := trans_of (Bus.AlikeTo f.channel) met.bus.refill (filled'.alikeTo _)
        exact { met with bus := trans_of (Bus.AlikeTo f.channel) (filled.symm.alikeTo _) refilled }
      rw [run, run', met.bus.refill.counts] at *
      exact ⟨rfl, read.committed rfl _ few few'⟩
    · rw [onTimer_putOff active ready, onTimer_putOff active' ready]
      exact ⟨rfl, met.deferred fun makes => congrArg (· ++ _) (met.calls makes)⟩
  · have inactive := active
    rw [met.isActive_eq] at inactive
    rw [onTimer_idle active, onTimer_idle inactive]
    exact ⟨rfl, met⟩

/-- A firing leaves its rig as it was to the other channel. -/
theorem Firing.alikeTo_run (ne : f.channel ≠ c) (synced : rig.Synced)
    (unfailed : (f.run rig).2.failures = rig.failures) : rig.AlikeTo c (f.run rig).2 := by
  obtain rfl := Channel.eq_other_of_ne ne.symm
  have met : rig.AlikeTo f.channel.other (f.meet rig) :=
    ⟨rfl, refl_of (Bus.AlikeTo _) _, fun _ => rfl, rfl⟩
  refine trans_of (Rig.AlikeTo f.channel.other) met ?_
  unfold Firing.run at *
  by_cases active : (f.meet rig).driver.scheduler.isActive f.channel
  · by_cases ready : (f.meet rig).Ready f.channel
    · obtain ⟨bus, filled, -, run⟩ := onTimer_commits active ready (synced _) unfailed
      have refilled := trans_of (Bus.AlikeTo f.channel.other)
        ((f.meet rig).bench.bus.alikeTo_refill f.channel) (filled.alikeTo _)
      have read : (f.meet rig).AlikeTo f.channel.other ((f.meet rig).withBus bus) :=
        ⟨rfl, refilled, fun _ => rfl, rfl⟩
      rw [run]
      exact trans_of (Rig.AlikeTo f.channel.other) read (Rig.alikeTo_committed _ _ _)
    · have accel : f.channel = .accel := (Classical.not_imp.1 ready).1
      rw [onTimer_putOff active ready, accel]
      exact Rig.alikeTo_deferred _ _
  · rw [onTimer_idle active]
    exact refl_of (Rig.AlikeTo f.channel.other) _

/-! ### Schedules -/

/-- Firings of the other channel pass a channel by: the schedule goes on from a rig that it finds
alike. -/
theorem exists_alikeTo_after {passing : List Firing} (others : ∀ f ∈ passing, f.channel ≠ c)
    (synced : rig.Synced)
    (few : (runSession rig (schedule (passing ++ rest))).2.failures ≤ rig.failures) :
    ∃ mid, rig.AlikeTo c mid ∧ mid.Synced ∧ rig.failures ≤ mid.failures ∧
      (runSession rig (schedule (passing ++ rest))).2 = (runSession mid (schedule rest)).2 ∧
      answered c rig (schedule (passing ++ rest)) = answered c mid (schedule rest) := by
  induction passing generalizing rig with
  | nil => exact ⟨rig, refl_of (Rig.AlikeTo c) rig, synced, Nat.le_refl _, rfl, rfl⟩
  | cons f passing ih =>
    obtain ⟨ne, others⟩ := List.forall_mem_cons.1 others
    obtain ⟨first, later⟩ := failures_schedule_le rig f (passing ++ rest)
    have alike := f.alikeTo_run ne synced (Nat.le_antisymm (later.trans few) first)
    obtain ⟨mid, alike', synced', least, final, answers⟩ :=
      ih others (synced.fires f) (few.trans first)
    refine ⟨mid, trans_of (Rig.AlikeTo c) alike alike', synced', first.trans least, final, ?_⟩
    rw [List.cons_append, answered_schedule, if_neg ne, List.nil_append, answers]

/-- Two schedules with the same firings of a channel are answered alike to it, and leave rigs that
are alike to it. -/
theorem Rig.AlikeTo.schedules {own first second : List Firing} (h : rig.AlikeTo c other)
    (synced : rig.Synced) (synced' : other.Synced)
    (same : first.filter (fun f => f.channel = c) = own)
    (same' : second.filter (fun f => f.channel = c) = own)
    (few : (runSession rig (schedule first)).2.failures ≤ rig.failures)
    (few' : (runSession other (schedule second)).2.failures ≤ other.failures) :
    answered c rig (schedule first) = answered c other (schedule second) ∧
      (runSession rig (schedule first)).2.AlikeTo c (runSession other (schedule second)).2 := by
  -- on the common list of own firings: what either schedule has before the next one passes by
  induction own generalizing first second rig other with
  | nil =>
    have others {firings : List Firing} (same : firings.filter (fun f => f.channel = c) = []) :
        ∀ f ∈ firings, f.channel ≠ c := fun f hf => by
      simpa using List.filter_eq_nil_iff.1 same f hf
    rw [← List.append_nil first] at few ⊢
    rw [← List.append_nil second] at few' ⊢
    obtain ⟨mid, before, -, -, final, answers⟩ := exists_alikeTo_after (others same) synced few
    obtain ⟨mid', before', -, -, final', answers'⟩ :=
      exists_alikeTo_after (others same') synced' few'
    rw [final, final', answers, answers']
    exact ⟨rfl, trans_of (Rig.AlikeTo c) before.symm (trans_of (Rig.AlikeTo c) h before')⟩
  | cons f own ih =>
    obtain ⟨passing, rest, rfl, others, mine, same⟩ := List.filter_eq_cons_iff.1 same
    obtain ⟨passing', rest', rfl, others', -, same'⟩ := List.filter_eq_cons_iff.1 same'
    obtain rfl : f.channel = c := of_decide_eq_true mine
    obtain ⟨mid, before, synced, least, final, answers⟩ :=
      exists_alikeTo_after (by simpa using others) synced few
    obtain ⟨mid', before', synced', least', final', answers'⟩ :=
      exists_alikeTo_after (by simpa using others') synced' few'
    have met := trans_of (Rig.AlikeTo f.channel) before.symm (trans_of (Rig.AlikeTo _) h before')
    rw [final] at few ⊢
    rw [final'] at few' ⊢
    obtain ⟨first, later⟩ := failures_schedule_le mid f rest
    obtain ⟨first', later'⟩ := failures_schedule_le mid' f rest'
    have few := few.trans least
    have few' := few'.trans least'
    obtain ⟨answer, alike⟩ := met.fires synced synced' (Nat.le_antisymm (later.trans few) first)
      (Nat.le_antisymm (later'.trans few') first')
    obtain ⟨others, final⟩ := ih alike (synced.fires f) (synced'.fires f) same same'
      (few.trans first) (few'.trans first')
    rw [answers, answers', answered_schedule, answered_schedule, answer, others]
    exact ⟨rfl, final⟩

end Schedules

/-- The channels commute while the chip is healthy. Let both control registers hold what the driver
expects. Take any two schedules in which each channel has the same firings in the same order, every
one with its clock and its data-ready level, and in neither of which a transfer fails. Then each
channel gives the same answers in both and tells the sink the same, but for the outputs of the
magnetometer in register dumps, and both end with the same driver, the same chip, the same counts
waiting and the same calls on the timer. -/
theorem channels_commute {rig : Rig} {first second : List Firing} (synced : rig.Synced)
    (same : ∀ c, first.filter (fun f => f.channel = c) = second.filter fun f => f.channel = c)
    (unfailed : (runSession rig (schedule first)).2.failures = rig.failures)
    (unfailed' : (runSession rig (schedule second)).2.failures = rig.failures) :
    let final := (runSession rig (schedule first)).2
    let final' := (runSession rig (schedule second)).2
    final.driver = final'.driver ∧ final.bench.bus.SameChip final'.bench.bus ∧
      final.bench.timer.calls = final'.bench.timer.calls ∧
      ∀ c, answered c rig (schedule first) = answered c rig (schedule second) ∧
        heard c final.bench.notices = heard c final'.bench.notices := by
  intro final final'
  have alike (c : Channel) : _ ∧ final.AlikeTo c final' :=
    (refl_of (Rig.AlikeTo c) rig).schedules synced synced (same c) rfl unfailed.le unfailed'.le
  exact ⟨Driver.eq_of_parts fun c => (alike c).2.driver,
    Bus.sameChip_of_alikeTo fun c => (alike c).2.bus, (alike .accel).2.calls rfl,
    fun c => ⟨(alike c).1, (alike c).2.told⟩⟩

/-- Both channels are polled and have counts waiting. The accelerometer sees an extreme sample, so a
register dump is taken, and is put off after that; the magnetometer fires later in one schedule and
earlier in the other. -/
theorem channels_commute_dumped :
    let rig := (runSession (.fresh .spi) [.command .reset,
      .command (.setPollRate .accel (.hertz 100)), .command (.setPollRate .mag (.hertz 50)),
      .command .start, .stimulus (.waiting .accel [⟨32000, 32000, 32000⟩, ⟨1, 2, 3⟩]),
      .stimulus (.waiting .mag [⟨4, 5, 6⟩, ⟨7, 8, 9⟩])]).2
    let accel : List Firing := [⟨.accel, 1000, .high⟩, ⟨.accel, 2000, .low⟩]
    let mag : List Firing := [⟨.mag, 1500, .low⟩, ⟨.mag, 1800, .unreadable⟩]
    let final := (runSession rig (schedule (accel ++ mag))).2
    let final' := (runSession rig (schedule (mag ++ accel))).2
    rig.Synced ∧ final.driver = final'.driver ∧ final.bench.bus.SameChip final'.bench.bus ∧
      heard .accel final.bench.notices = heard .accel final'.bench.notices ∧
      answered .accel rig (schedule (accel ++ mag)) =
        [.reply (.measured .sampled), .reply (.measured .notReady)] ∧
      final.bench.notices.any fun
        | .diagnostic r => r.registers.isSome
        | _ => false := by
  intro rig accel mag final final'
  have synced : rig.Synced := by decide +kernel
  obtain ⟨driver, chip, -, each⟩ := @channels_commute rig (accel ++ mag) (mag ++ accel) synced
    (fun c => by cases c <;> decide) (by decide +kernel) (by decide +kernel)
  exact ⟨synced, driver, chip, (each .accel).2, by decide +kernel, by decide +kernel⟩

end ECompass
