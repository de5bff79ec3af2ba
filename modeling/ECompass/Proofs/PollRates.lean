import ECompass.Proofs.Polling

/-!
# Poll rates

A poll rate is asked for in hertz, kept as an interval, and reported in hertz again. Both ways
divide a second and round down, so the rate that is reported may be another one than was asked for.
The two divisions are adjoint to each other (`le_div_comm`): a rate is at most what an interval
gives exactly if the interval is at most what the rate gives. So the rate that is reported is never
the slower one (`le_div_div_self`), and asking for it changes nothing (`div_div_div_self`).

What a rate is read from is known of all schedulers that the driver can have (`Reachable`): an
interval that is zero, and then nothing is divided by it, or one between the shortest of its channel
and a second.
-/

namespace ECompass

open Program Operation

/-! ### Dividing twice -/

theorem le_div_comm {n a b : Nat} (ha : 0 < a) (hb : 0 < b) : a ≤ n / b ↔ b ≤ n / a := by
  rw [Nat.le_div_iff_mul_le hb, Nat.le_div_iff_mul_le ha, Nat.mul_comm]

/-- A number divided by its quotient gives at least the divisor. -/
theorem le_div_div_self {n d : Nat} (pos : 0 < d) (le : d ≤ n) : d ≤ n / (n / d) :=
  (le_div_comm pos (Nat.div_pos le pos)).mpr (Nat.le_refl _)

/-- A third division undoes the second. -/
theorem div_div_div_self {n d : Nat} (pos : 0 < d) (le : d ≤ n) : n / (n / (n / d)) = n / d := by
  apply Nat.le_antisymm
  · exact Nat.div_le_div_left (le_div_div_self pos le) pos
  · exact le_div_div_self (Nat.div_pos le pos) (Nat.div_le_self n d)

/-- A larger divisor gives no less once its quotient is divided by in turn. -/
theorem div_div_mono {n d d' : Nat} (pos : 0 < d) (le : d ≤ d') (le' : d' ≤ n) :
    n / (n / d) ≤ n / (n / d') :=
  Nat.div_le_div_left (Nat.div_le_div_left le pos) (Nat.div_pos le' (by omega))

namespace Scheduler

/-! ### Rates and intervals -/

/-- The fastest rate that a channel can be polled at, in hertz. -/
def maxRate : Channel → Nat
  | .accel => 2000
  | .mag => 1000

theorem maxRate_eq (c : Channel) : maxRate c = second / minInterval c := by
  cases c <;> rfl

theorem le_second_of_le_maxRate {c : Channel} {rate : Nat} (slow : rate ≤ maxRate c) :
    rate ≤ second := by
  have : maxRate c ≤ second := by
    cases c <;> decide
  omega

theorem minInterval_pos (c : Channel) : 0 < minInterval c := by
  cases c <;> decide

/-- An interval is long enough exactly if its rate is slow enough. -/
theorem minInterval_le_iff {c : Channel} {rate : Nat} (pos : 0 < rate) :
    minInterval c ≤ second / rate ↔ rate ≤ maxRate c := by
  rw [maxRate_eq]
  exact le_div_comm (minInterval_pos c) pos

/-- A rate has an interval if it is not zero and not faster than the fastest one. -/
theorem intervalFor_eq (c : Channel) (rate : Nat) : intervalFor c rate =
    if 1 ≤ rate ∧ rate ≤ maxRate c then some (second / rate) else none := by
  unfold intervalFor
  rcases Nat.eq_zero_or_pos rate with rfl | pos
  · rfl
  · have slow := minInterval_le_iff (c := c) pos
    split <;> split <;> first | rfl | omega

/-! ### Requests -/

variable {s next : Scheduler} {c : Channel}

/-- The answer to a request that is given an interval. -/
def retime (s : Scheduler) (c : Channel) (interval : Nat) :
    Reschedule × List TimerCall × Scheduler :=
  let tuned := { s with interval := s.interval.set c interval }
  if s.isActive c then (.retuned, [.interval c interval], tuned) else (.started, tuned.start)

theorem setPollRate_hertz (s : Scheduler) (c : Channel) (rate : Nat) :
    s.setPollRate c (.hertz rate) =
      if 1 ≤ rate ∧ rate ≤ maxRate c then some (s.retime c (second / rate)) else none := by
  show (intervalFor c rate).map (s.retime c) = _
  rw [intervalFor_eq]
  split <;> rfl

theorem interval_retime (s : Scheduler) (c : Channel) (interval : Nat) :
    (s.retime c interval).2.2.interval = s.interval.set c interval := by
  unfold retime
  dsimp only
  split <;> rfl

/-- Whatever interval a channel is given, it is polled at it from then on. -/
theorem isActive_retime {interval : Nat} (pos : 0 < interval) :
    (s.retime c interval).2.2.isActive c := by
  have running : (s.retime c interval).2.2.running := by
    unfold retime
    dsimp only
    split
    · exact (Bool.and_eq_true_iff.1 ‹_›).1
    · rfl
  simp [isActive, running, interval_retime, pos]

/-- A channel that is polled and is given the interval that it has stays as it is. -/
theorem retime_self (active : s.isActive c) : s.retime c (s.interval.get c) =
    (.retuned, [.interval c (s.interval.get c)], s) := by
  have same : s.interval.set c (s.interval.get c) = s.interval := by
    cases c <;> rfl
  rw [retime, if_pos active, same]

/-- A request that is accepted ends the polling of the channel, or gives it the interval of a rate
that it can be polled at. -/
theorem setPollRate_cases {rate : PollRate} {answer : Reschedule × List TimerCall × Scheduler}
    (accepted : s.setPollRate c rate = some answer) :
    answer = (.stopped, [.cancel c], { s with interval := s.interval.set c 0 }) ∨
      ∃ hertz, (1 ≤ hertz ∧ hertz ≤ maxRate c) ∧ answer = s.retime c (second / hertz) := by
  cases resolved : rate.resolve c with
  | none =>
    rw [setPollRate, resolved] at accepted
    exact .inl (Option.some.inj accepted).symm
  | some hertz =>
    have asked : s.setPollRate c rate = s.setPollRate c (.hertz hertz) := by
      rw [setPollRate, resolved]
      rfl
    rw [asked, setPollRate_hertz] at accepted
    split at accepted
    · exact .inr ⟨hertz, ‹_›, (Option.some.inj accepted).symm⟩
    · cases accepted

/-! ### Schedulers that can be reached -/

/-- The schedulers that come about by what can be done to one. -/
inductive Reachable : Scheduler → Prop where
  /-- The one of a new driver. -/
  | initial : Reachable initial
  /-- The triggers are armed. -/
  | start {s : Scheduler} : Reachable s → Reachable s.start.2
  /-- The triggers are disarmed. -/
  | stop {s : Scheduler} : Reachable s → Reachable s.stop.2
  /-- A poll rate is accepted. -/
  | setPollRate {s next : Scheduler} {c : Channel} {rate : PollRate} {outcome : Reschedule}
      {calls : List TimerCall} : Reachable s →
      s.setPollRate c rate = some (outcome, calls, next) → Reachable next

/-- An interval that a channel can have. -/
def Possible (c : Channel) (interval : Nat) : Prop :=
  interval = 0 ∨ minInterval c ≤ interval ∧ interval ≤ second

/-- Every interval of a scheduler that can be reached is possible. -/
theorem Reachable.possible (reachable : s.Reachable) (c : Channel) :
    Possible c (s.interval.get c) := by
  induction reachable with
  | initial => exact .inl (PerChannel.get_both 0 c)
  | start _ ih => exact ih
  | stop _ ih => exact ih
  | @setPollRate s next d rate outcome calls _ accepted ih =>
    have set : ∃ interval, next.interval = s.interval.set d interval ∧ Possible d interval := by
      rcases setPollRate_cases accepted with manual | ⟨hertz, range, tuned⟩
      · cases manual
        exact ⟨0, rfl, .inl rfl⟩
      · have long := (minInterval_le_iff range.1).mpr range.2
        refine ⟨second / hertz, ?_, .inr ⟨long, Nat.div_le_self _ _⟩⟩
        rw [← interval_retime, ← tuned]
    obtain ⟨interval, isSet, possible⟩ := set
    rw [isSet, PerChannel.get_set]
    split
    · rename_i same
      rwa [same]
    · exact ih

/-- A possible interval that is not zero gives a rate that the channel can be polled at. -/
theorem rate_of_possible {interval : Nat} (possible : Possible c interval) (pos : 0 < interval) :
    1 ≤ second / interval ∧ second / interval ≤ maxRate c := by
  rcases possible with rfl | ⟨long, short⟩
  · cases pos
  · rw [maxRate_eq]
    exact ⟨Nat.div_pos short pos, Nat.div_le_div_left long (minInterval_pos c)⟩

theorem pollRate_of_active (active : s.isActive c) :
    s.pollRate c = .hertz (second / s.interval.get c) := if_pos active

/-- A channel whose rate was accepted is polled, at the interval of the rate. -/
theorem polled_of_accepted {hertz : Nat} {outcome : Reschedule} {calls : List TimerCall}
    (accepted : s.setPollRate c (.hertz hertz) = some (outcome, calls, next)) :
    (1 ≤ hertz ∧ hertz ≤ maxRate c) ∧ next.isActive c ∧
      next.interval.get c = second / hertz := by
  rw [setPollRate_hertz] at accepted
  split at accepted
  · rename_i range
    have pos : 0 < second / hertz := Nat.div_pos (le_second_of_le_maxRate range.2) range.1
    have retimed : s.retime c (second / hertz) = (outcome, calls, next) :=
      Option.some.inj accepted
    have interval := s.interval_retime c (second / hertz)
    have active := isActive_retime (s := s) (c := c) pos
    rw [retimed] at interval active
    exact ⟨range, active, by rw [interval, PerChannel.get_set_self]⟩
  · cases accepted

end Scheduler

/-! ### Sessions -/

/-- The scheduler of the driver can be reached. -/
def Rig.SchedulerReachable (rig : Rig) : Prop := rig.driver.scheduler.Reachable

theorem setPollRate_schedulerReachable (c : Channel) (rate : PollRate) :
    Within (Kept Rig.SchedulerReachable) (setPollRate c rate) := by
  intro rig
  rw [Ends, setPollRate_apply]
  cases answer : rig.driver.scheduler.setPollRate c rate with
  | none => exact refl_of (Kept Rig.SchedulerReachable) rig
  | some accepted =>
    intro reachable
    rw [Rig.SchedulerReachable, Driver.scheduler_adopt]
    exact reachable.setPollRate answer

theorem drives_schedulerReachable : Drives (Kept Rig.SchedulerReachable) where
  steady h reachable := by
    rw [Rig.SchedulerReachable, h.scheduler]
    exact reachable
  design _ _ _ reachable := reachable
  keep _ c _ reachable := by
    cases c <;> exact reachable
  queue _ _ reachable := reachable
  putOff c rig := by
    rw [Ends, putOff_apply]
    exact fun reachable => reachable
  start _ reachable := reachable.start
  stop _ reachable := reachable.stop
  setPollRate := setPollRate_schedulerReachable

/-- The scheduler of every driver that a session reaches can be reached. -/
theorem schedulerReachable_of_connect {bench : Bench} {start : Rig}
    (connected : connect { bench } = .ok () start) (steps : List Step) :
    (runSession start steps).2.SchedulerReachable := by
  have begun : start.SchedulerReachable := by
    rw [Rig.SchedulerReachable, (connect_steady.of_ok connected).scheduler]
    exact .initial
  exact drives_schedulerReachable.session (fun _ _ _ reachable => reachable) start begun

/-! ### Rates that are reported -/

namespace Scheduler

/-- In every scheduler that can be reached, an interval is zero or lies between the shortest one of
its channel and a second. So nothing is divided by zero for a poll rate, and the rate is one that
the channel can be polled at.

A rate is accepted exactly if it is one that the channel can be polled at. The rate that is reported
from then on is at least as fast, no slower than what any slower request would have given, and
settled: asking for it is accepted and leaves the scheduler as it is. -/
theorem poll_rates_settle {s : Scheduler} (reachable : s.Reachable) (c : Channel) :
    (s.interval.get c = 0 ∨ minInterval c ≤ s.interval.get c ∧ s.interval.get c ≤ 1000000) ∧
      (s.pollRate c = .manual ∨ s.interval.get c ≠ 0 ∧ ∃ rate, s.pollRate c = .hertz rate ∧
        rate = 1000000 / s.interval.get c ∧ 1 ≤ rate ∧ rate ≤ maxRate c) ∧
      ∀ h, ((s.setPollRate c (.hertz h)).isSome ↔ 1 ≤ h ∧ h ≤ maxRate c) ∧
        ∀ outcome calls next, s.setPollRate c (.hertz h) = some (outcome, calls, next) →
          ∃ rate, next.pollRate c = .hertz rate ∧ h ≤ rate ∧
            next.setPollRate c (.hertz rate) =
              some (.retuned, [.interval c (next.interval.get c)], next) ∧
            ∀ (t next' : Scheduler) h' outcome' calls', h ≤ h' →
              t.setPollRate c (.hertz h') = some (outcome', calls', next') →
              ∃ rate', next'.pollRate c = .hertz rate' ∧ rate ≤ rate' := by
  have possible := reachable.possible c
  refine ⟨possible, ?_, fun h => ⟨?_, fun outcome calls next accepted => ?_⟩⟩
  · by_cases active : s.isActive c
    · have pos : 0 < s.interval.get c := of_decide_eq_true (Bool.and_eq_true_iff.1 active).2
      exact .inr ⟨Nat.ne_of_gt pos, _, pollRate_of_active active, rfl,
        rate_of_possible possible pos⟩
    · exact .inl (if_neg active)
  · rw [setPollRate_hertz]
    split <;> simp_all
  · obtain ⟨⟨pos, slow⟩, active, interval⟩ := polled_of_accepted accepted
    have le : h ≤ second := le_second_of_le_maxRate slow
    have reported := pollRate_of_active active
    rw [interval] at reported
    refine ⟨_, reported, le_div_div_self pos le, ?_, ?_⟩
    · have long := (minInterval_le_iff pos).mpr slow
      have range := rate_of_possible (.inr ⟨long, Nat.div_le_self second h⟩) (Nat.div_pos le pos)
      rw [setPollRate_hertz, if_pos range, div_div_div_self pos le, ← interval,
        retime_self active]
    · intro t next' h' outcome' calls' faster accepted'
      obtain ⟨⟨-, slow'⟩, active', interval'⟩ := polled_of_accepted accepted'
      have reported' := pollRate_of_active active'
      rw [interval'] at reported'
      exact ⟨_, reported', div_div_mono pos faster (le_second_of_le_maxRate slow')⟩

/-- Fifteen hundred hertz are asked for while the other channel is polled, and one more reported. -/
theorem poll_rates_settle_rounded :
    let steps : List Step := [.command (.setPollRate .mag .default)]
    let s := (runSession (.fresh .direct) steps).2.driver.scheduler
    connect { bench := .fresh .direct } = .ok () (.fresh .direct) ∧ s.Reachable ∧
      s.setPollRate .accel (.hertz 2001) = none ∧
      ∃ outcome calls next, s.setPollRate .accel (.hertz 1500) = some (outcome, calls, next) ∧
        next.pollRate .accel = .hertz 1501 ∧
        next.setPollRate .accel (.hertz 1501) = some (.retuned, [.interval .accel 666], next) := by
  intro steps s
  have connected := connect_fresh .direct
  have reachable : s.Reachable := schedulerReachable_of_connect connected steps
  obtain ⟨-, -, requests⟩ := poll_rates_settle reachable .accel
  obtain ⟨answered, -⟩ := requests 2001
  have refused : s.setPollRate .accel (.hertz 2001) = none := by
    rw [← Option.not_isSome_iff_eq_none, answered]
    decide
  obtain ⟨answered, settles⟩ := requests 1500
  obtain ⟨⟨outcome, calls, next⟩, accepted⟩ := Option.isSome_iff_exists.1 (answered.mpr (by decide))
  obtain ⟨rate, reported, -, settled, -⟩ := settles outcome calls next accepted
  obtain ⟨-, active, interval⟩ := polled_of_accepted accepted
  rw [pollRate_of_active active, interval] at reported
  cases reported
  refine ⟨connected, reachable, refused, outcome, calls, next, accepted, ?_, ?_⟩
  · rw [pollRate_of_active active, interval]
    rfl
  · rw [interval] at settled
    exact settled

end Scheduler

end ECompass
