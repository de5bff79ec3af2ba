import ECompass.Proofs.BurstCounts
import ECompass.Proofs.Requests

/-!
# Reading a channel that is not polled

Such a channel is measured when it is read. The reader discards what is queued, measures, and takes
the sample that the measurement has pushed into the empty queue. So the answer is that of the
measurement, in all of its courses, and what a queue was left with is never in it.

This needs every push into an empty queue to find room, and so the bounds of the queue. No command
breaks them, not even one that reaches straight into the queue (`bounded_of_connect`).
-/

namespace ECompass

open Program Operation

/-! ### Queues are bounded -/

/-- Every command leaves a bounded queue bounded. -/
theorem Command.bounded {c : Channel} {rig : Rig} (bounded : (rig.queue c).Bounded)
    (command : Command) : ((command.runOn rig).2.queue c).Bounded := by
  cases handles : command.handles c with
  | false => exact (Command.flows bounded handles).bounded
  | true =>
    rcases of_decide_eq_true handles with rfl | rfl
    · show (Rig.queue { rig with driver := rig.driver.onQueue c fun _ => (rig.queue c).pop.2 }
        c).Bounded
      rw [queue_onQueue]
      exact bounded.pop
    · show (Rig.queue { rig with driver := rig.driver.onQueue c SampleQueue.flush } c).Bounded
      rw [queue_onQueue]
      exact bounded.flush

theorem bounded_along {c : Channel} {rig : Rig} (bounded : (rig.queue c).Bounded)
    (steps : List Step) : ((runSession rig steps).2.queue c).Bounded := by
  induction steps generalizing rig with
  | nil => exact bounded
  | cons step rest ih =>
    cases step with
    | command command => exact ih (command.bounded bounded)
    | stimulus s => exact @ih { rig with bench := s.act rig.bench } bounded

/-- The queues of every driver that a session reaches are bounded. -/
theorem bounded_of_connect {bench : Bench} {start : Rig}
    (connected : connect { bench } = .ok () start) (steps : List Step) (c : Channel) :
    ((runSession start steps).2.queue c).Bounded :=
  bounded_along (queue_of_connect connected c ▸ SampleQueue.bounded_empty) steps

/-! ### The timer -/

/-- Data is never missed on a channel that has it. -/
theorem not_ready_of_notReady {c : Channel} {rig next : Rig}
    (h : measure c rig = .ok .notReady next) : ¬ rig.Ready c := by
  intro ready
  by_cases mismatched : rig.Mismatched c
  · cases ((measure_of_mismatched ready mismatched).of_ok h).1
  · cases (measure_of_matched ready mismatched).of_ok h

/-- A measurement of a channel that is not polled makes no call on the timer. -/
theorem measure_timer (c : Channel) (rig : Rig) (unpolled : ¬ rig.driver.scheduler.isActive c) :
    Ends (measure c) rig (fun _ next => next.bench.timer = rig.bench.timer)
      fun _ next => next.bench.timer = rig.bench.timer := by
  cases measure_course c rig with
  | putOff ends =>
    rw [Ends, measure_of_not_ready (not_ready_of_notReady ends), bind_apply, putOff_apply,
      if_neg unpolled, List.append_nil]
    rfl
  | lost ends =>
    rw [Ends, ends]
    rfl
  | @sampled bus raw ends =>
    obtain ⟨_, _, bench, -⟩ := bench_committed (rig.withBus bus) c raw
    have same := congrArg Bench.timer bench
    rw [Ends, ends]
    exact same
  | @recovery bus _ recovers =>
    rw [Ends, measure_of_recovery? recovers]
    refine ((reset_programs _).mono (fun _ _ programmed => ?_) fun _ _ programmed => ?_).bind
      fun _ _ same => same
    · obtain ⟨_, _, -, rfl⟩ := programmed
      rfl
    · rcases programmed with ⟨_, _, -, rfl⟩ | ⟨_, _, -, rfl⟩ <;> rfl

/-! ### Reading -/

/-- The rig with nothing queued on a channel. -/
def Rig.flushed (rig : Rig) (c : Channel) : Rig :=
  { rig with driver := rig.driver.onQueue c SampleQueue.flush }

@[simp] theorem Rig.queue_flushed (rig : Rig) (c : Channel) :
    (rig.flushed c).queue c = (rig.queue c).flush := queue_onQueue rig c _

/-- What was queued is no part of a sample. -/
@[simp] theorem Rig.sample_flushed (rig : Rig) (c : Channel) (raw : Axes Int16) :
    (rig.flushed c).sample c raw = rig.sample c raw := by
  cases c <;> rfl

/-- The answer of a reader, and the rig after it. -/
theorem Command.runOn_readSamples (c : Channel) (room : Nat) (rig : Rig) :
    (readSamples c room).runOn rig = match ECompass.readSamples c room rig with
      | .ok samples next => (.reply (.samples samples), next)
      | .error e next => (.failure e, next) := by
  rw [runOn, run_readSamples, bind_apply]
  cases ECompass.readSamples c room rig <;> rfl

/-- A measurement is answered with one of three outcomes. -/
theorem measure_outcome (c : Channel) (rig : Rig) : Ends (measure c) rig
    (fun outcome _ => outcome = .sampled ∨ outcome = .notReady ∨ outcome = .recovered)
    fun _ _ => True := by
  cases measure_course c rig with
  | putOff ends =>
    rw [Ends, ends]
    exact .inr (.inl rfl)
  | lost ends =>
    rw [Ends, ends]
    exact True.intro
  | sampled ends =>
    rw [Ends, ends]
    exact .inl rfl
  | recovery _ recovers =>
    rw [Ends, measure_of_recovery? recovers]
    exact Ends.trivial.bind fun _ _ _ => .inr (.inr rfl)

section Readers

variable {c : Channel} {rig mid : Rig} {room : Nat}

/-- A measurement that gives no sample leaves the queues alone, and nothing is queued on a channel
that was flushed before. -/
theorem measure_flushed (c : Channel) (rig : Rig) : Ends (measure c) (rig.flushed c)
    (fun outcome mid => outcome ≠ .sampled → (mid.queue c).samples = [])
    fun _ mid => (mid.queue c).samples = [] := by
  have empty {mid : Rig} (same : SameQueues (rig.flushed c) mid) :
      (mid.queue c).samples = [] := by
    rw [same.sameQueue c, Rig.queue_flushed, SampleQueue.samples_flush]
  cases committed : sample? c (rig.flushed c) with
  | none =>
    exact (measure_of_sample?_eq_none committed).mono (fun _ _ ended _ => empty ended.2)
      fun _ _ same => empty same
  | some s =>
    obtain ⟨mid, sampled, -⟩ := measure_of_sample? committed
    rw [Ends, sampled]
    exact fun unsampled => absurd rfl unsampled

/-- A reader goes on as the measurement of the flushed channel does. -/
theorem readSamples_eq_flushed (unpolled : ¬ rig.driver.scheduler.isActive c) (some : room ≠ 0) :
    readSamples c room rig = (measure c >>= takeSampled c) (rig.flushed c) :=
  readSamples_of_not_active some unpolled

/-- A reader fails as its measurement does. -/
theorem runOn_readSamples_of_error (unpolled : ¬ rig.driver.scheduler.isActive c)
    (some : room ≠ 0) {e : Error} (failed : measure c (rig.flushed c) = .error e mid) :
    (Command.readSamples c room).runOn rig = (.failure e, mid) ∧ (mid.queue c).samples = [] := by
  refine ⟨?_, (measure_flushed c rig).of_error failed⟩
  rw [Command.runOn_readSamples, readSamples_eq_flushed unpolled some, bind_apply, failed]

/-- A reader whose measurement gives no sample is given nothing. -/
theorem runOn_readSamples_of_unsampled (unpolled : ¬ rig.driver.scheduler.isActive c)
    (some : room ≠ 0) {outcome : Measurement} (unsampled : outcome ≠ .sampled)
    (measured : measure c (rig.flushed c) = .ok outcome mid) :
    (Command.readSamples c room).runOn rig = (.reply (.samples []), mid) ∧
      (mid.queue c).samples = [] := by
  refine ⟨?_, (measure_flushed c rig).of_ok measured unsampled⟩
  rw [Command.runOn_readSamples, readSamples_eq_flushed unpolled some, bind_apply, measured]
  cases outcome
  case sampled => exact absurd rfl unsampled
  all_goals rfl

/-- A measurement of a flushed channel leaves its sample, which is made of the burst that was read,
alone in the queue. -/
theorem exists_burst_of_flushed (bounded : (rig.queue c).Bounded)
    (sampled : measure c (rig.flushed c) = .ok .sampled mid) :
    ∃ checked burst after, isHealthy c (rig.flushed c) = .ok true checked ∧
      readBurst c checked = .ok burst after ∧
      (mid.queue c).samples = [rig.sample c burst.raw] := by
  obtain ⟨-, checked, after, burst, check, read, -, -, pushed⟩ := exists_burst_of_sampled sampled
  have same : after.sample c burst.raw = rig.sample c burst.raw := by
    obtain ⟨_, rfl⟩ := (isHealthy_onBus c).of_ok check
    obtain ⟨_, rfl⟩ := (readBurst_onBus c).of_ok read
    exact rig.sample_flushed c burst.raw
  have queue : mid.queue c = ((rig.queue c).flush.push (rig.sample c burst.raw)).2 := by
    rw [← same, ← Rig.queue_flushed]
    exact pushed
  exact ⟨checked, burst, after, check, read, by rw [queue, bounded.push_flush]⟩

/-- A reader whose measurement gives a sample is given this sample, which was alone in the queue. -/
theorem runOn_readSamples_of_sampled (bounded : (rig.queue c).Bounded)
    (unpolled : ¬ rig.driver.scheduler.isActive c) (some : room ≠ 0)
    (sampled : measure c (rig.flushed c) = .ok .sampled mid) :
    ∃ checked burst after next, isHealthy c (rig.flushed c) = .ok true checked ∧
      readBurst c checked = .ok burst after ∧
      (Command.readSamples c room).runOn rig =
        (.reply (.samples [rig.sample c burst.raw]), next) ∧
      (next.queue c).samples = [] ∧ next.bench = mid.bench := by
  obtain ⟨checked, burst, after, check, read, alone⟩ := exists_burst_of_flushed bounded sampled
  let next : Rig := { mid with driver := mid.driver.onQueue c fun _ => (mid.queue c).pop.2 }
  have taken : takeSampled c .sampled mid = .ok [rig.sample c burst.raw] next := by
    rw [takeSampled_sampled, alone]
    rfl
  refine ⟨checked, burst, after, next, check, read, ?_, ?_, rfl⟩
  · rw [Command.runOn_readSamples, readSamples_eq_flushed unpolled some, bind_apply, sampled]
    dsimp only
    rw [taken]
  · rw [show next.queue c = (mid.queue c).pop.2 from queue_onQueue mid c _, SampleQueue.pop, alone]
    rfl

/-- Whatever becomes of the measurement, the reader leaves nothing queued, and the timer alone. -/
theorem runOn_readSamples_leaves (bounded : (rig.queue c).Bounded)
    (unpolled : ¬ rig.driver.scheduler.isActive c) (some : room ≠ 0) :
    let next := ((Command.readSamples c room).runOn rig).2
    (next.queue c).samples = [] ∧ next.bench.timer = rig.bench.timer := by
  intro next
  have timer := measure_timer c (rig.flushed c) unpolled
  cases measured : measure c (rig.flushed c) with
  | error e mid =>
    obtain ⟨ran, empty⟩ := runOn_readSamples_of_error unpolled some measured
    have isNext : next = mid := congrArg Prod.snd ran
    rw [isNext]
    exact ⟨empty, timer.of_error measured⟩
  | ok outcome mid =>
    by_cases unsampled : outcome = .sampled
    · subst unsampled
      obtain ⟨_, _, _, popped, -, -, ran, empty, bench⟩ :=
        runOn_readSamples_of_sampled bounded unpolled some measured
      have isNext : next = popped := congrArg Prod.snd ran
      rw [isNext, bench]
      exact ⟨empty, timer.of_ok measured⟩
    · obtain ⟨ran, empty⟩ := runOn_readSamples_of_unsampled unpolled some unsampled measured
      have isNext : next = mid := congrArg Prod.snd ran
      rw [isNext]
      exact ⟨empty, timer.of_ok measured⟩

end Readers

/-- A reader that is answered with samples has put them into the first slots. -/
theorem readInto_of_reply {c : Channel} {rig : Rig} {slots taken : List Sample}
    (answer : ((Command.readSamples c slots.length).runOn rig).1 = .reply (.samples taken)) :
    Reader.readInto c ⟨rig, slots⟩ = .ok taken.length
      ⟨((Command.readSamples c slots.length).runOn rig).2, taken ++ slots.drop taken.length⟩ := by
  rw [Reader.readInto_eq_readSamples]
  rw [Command.runOn_readSamples] at answer ⊢
  cases read : readSamples c slots.length rig with
  | ok samples next =>
    rw [read] at answer
    cases answer
    rfl
  | error e next =>
    rw [read] at answer
    cases answer

/-- Reading a channel that is not polled, for every driver that a session reaches, in whatever
surroundings, and for all slots with room for a sample.

Whatever was queued and however deep the queue is, the reader leaves it empty, and makes no call on
the timer. Its answer is that of its own measurement: if this gives a sample, the reader fills one
slot, the first, with the sample that is made of the burst that was read for it; if there was no
data, or the chip was configured anew, it fills none; and it fails only with the error of a transfer
with which the measurement fails. No other slot is touched. -/
theorem manual_reads_are_fresh {bench : Bench} {start rig : Rig} {before : List Step} {c : Channel}
    {slots : List Sample} (connected : connect { bench } = .ok () start)
    (reached : rig.driver = (runSession start before).2.driver)
    (unpolled : ¬ rig.driver.scheduler.isActive c) (room : slots ≠ []) :
    let read := (Command.readSamples c slots.length).runOn rig
    (read.2.queue c).samples = [] ∧ read.2.bench.timer = rig.bench.timer ∧
      match measure c (rig.flushed c) with
      | .ok .sampled _ => ∃ s checked burst after, read.1 = .reply (.samples [s]) ∧
          isHealthy c (rig.flushed c) = .ok true checked ∧ readBurst c checked = .ok burst after ∧
          s = rig.sample c burst.raw ∧
          Reader.readInto c ⟨rig, slots⟩ = .ok 1 ⟨read.2, s :: slots.tail⟩
      | .ok outcome _ => (outcome = .notReady ∨ outcome = .recovered) ∧
          read.1 = .reply (.samples []) ∧ Reader.readInto c ⟨rig, slots⟩ = .ok 0 ⟨read.2, slots⟩
      | .error e _ => read.1 = .failure e ∧ e.IsBus ∧
          Reader.readInto c ⟨rig, slots⟩ = .error e ⟨read.2, slots⟩ := by
  intro read
  have bounded : (rig.queue c).Bounded := by
    rw [Rig.queue, reached]
    exact bounded_of_connect connected before c
  have some : slots.length ≠ 0 := fun none => room (List.length_eq_zero_iff.mp none)
  obtain ⟨empty, timer⟩ := runOn_readSamples_leaves bounded unpolled some
  refine ⟨empty, timer, ?_⟩
  cases measured : measure c (rig.flushed c) with
  | error e mid =>
    have answer : read.1 = .failure e :=
      congrArg Prod.fst (runOn_readSamples_of_error unpolled some measured).1
    exact ⟨answer, (measure_failsByBus c _).of_error measured,
      readInto_of_failure (Command.run_of_failure answer)⟩
  | ok outcome mid =>
    have nothing (unsampled : outcome ≠ .sampled) : read.1 = .reply (.samples []) ∧
        Reader.readInto c ⟨rig, slots⟩ = .ok 0 ⟨read.2, slots⟩ := by
      have answer : read.1 = .reply (.samples []) :=
        congrArg Prod.fst (runOn_readSamples_of_unsampled unpolled some unsampled measured).1
      exact ⟨answer, readInto_of_reply answer⟩
    rcases (measure_outcome c _).of_ok measured with rfl | rfl | rfl
    · obtain ⟨checked, burst, after, _, check, burstRead, ran, -⟩ :=
        runOn_readSamples_of_sampled bounded unpolled some measured
      have answer : read.1 = .reply (.samples [rig.sample c burst.raw]) := congrArg Prod.fst ran
      refine ⟨_, checked, burst, after, answer, check, burstRead, rfl, ?_⟩
      rw [readInto_of_reply answer, List.length_singleton, List.drop_one]
      rfl
    · exact ⟨.inl rfl, nothing Measurement.noConfusion⟩
    · exact ⟨.inr rfl, nothing Measurement.noConfusion⟩

/-- A sample is left over from polling. The reader is given what the chip holds then. -/
theorem manual_reads_are_fresh_left_over :
    let steps : List Step := [.command .reset, .command (.setPollRate .accel .default),
      .command (.onTimer .accel), .command (.setPollRate .accel .manual),
      .stimulus (.outputs .accel ⟨3, 0, 0⟩)]
    let rig := (runSession (.fresh .spi) steps).2
    let slots := [Sample.blank, Sample.blank]
    connect { bench := .fresh .spi } = .ok () (.fresh .spi) ∧
      (rig.queue .accel).samples.map Sample.raw = [⟨0, 0, 0⟩] ∧
      ¬ rig.driver.scheduler.isActive .accel ∧ slots ≠ [] ∧
      ∃ s next, Reader.readInto .accel ⟨rig, slots⟩ = .ok 1 ⟨next, [s, .blank]⟩ ∧
        s.raw = ⟨3, 0, 0⟩ ∧ (next.queue .accel).samples = [] := by
  intro steps rig slots
  have connected := connect_fresh .spi
  have queued : (rig.queue .accel).samples.map Sample.raw = [⟨0, 0, 0⟩] := by
    decide +kernel
  have unpolled : ¬ rig.driver.scheduler.isActive .accel := by
    decide +kernel
  have answered : ((Command.measure .accel).runOn (rig.flushed .accel)).1 =
      .reply (.measured .sampled) := by
    decide +kernel
  have counts : ((rig.flushed .accel).bench.bus.refill
      Channel.accel.status.addr).chip.counts .accel = ⟨3, 0, 0⟩ := by
    decide +kernel
  have room : slots ≠ [] := List.cons_ne_nil _ _
  obtain ⟨empty, -, course⟩ := manual_reads_are_fresh connected rfl unpolled room
  obtain ⟨_, run⟩ := Command.run_of_reply answered
  obtain ⟨_, _, sampled, ⟨⟩⟩ := bind_eq_ok_iff.1 run
  rw [sampled] at course
  obtain ⟨s, checked, burst, after, -, check, burstRead, rfl, filled⟩ := course
  exact ⟨connected, queued, unpolled, room, _, _, filled,
    (readBurst_counts_of_checked check burstRead).trans counts, empty⟩

end ECompass
