import ECompass.Proofs.Effects
import ECompass.Proofs.QueueHistory

/-!
# The queues of the channels

What is put into a queue and what leaves it at its front add up (`SampleQueue.Flow`), for every
single call and so for calls in a row.

Few parts of operations reach a queue. A measurement that finds data on a healthy chip commits one
sample (`sample?`) and pushes it into the queue of its channel; one that does not leaves all queues
alone, however it ends. Whatever reaches the queue of one channel leaves that of the other alone
(`SameQueue`).
-/

namespace ECompass

open Program Operation

/-! ### Flow through a queue -/

namespace SampleQueue

variable {α : Type} {q mid next : SampleQueue α} {new new' gone gone' : List α}

/-- The values `new` were put into a queue, and `gone` left it at the front. -/
structure Flow (q next : SampleQueue α) (new gone : List α) : Prop where
  /-- Nothing is lost unseen, doubled or reordered. -/
  conserved : q.samples ++ new = gone ++ next.samples
  /-- The bounds are kept. -/
  bounded : next.Bounded

/-- What a queue gives up for a new value: its oldest sample, if the push displaces one. -/
def displaced (q : SampleQueue α) : List α → List α
  | [] => []
  | a :: _ => if (q.push a).1 then q.samples.take 1 else []

theorem Flow.trans (h : q.Flow mid new gone) (h' : mid.Flow next new' gone') :
    q.Flow next (new ++ new') (gone ++ gone') := by
  refine ⟨?_, h'.bounded⟩
  rw [← List.append_assoc, h.conserved, List.append_assoc, h'.conserved, List.append_assoc]

theorem Bounded.stays (h : q.Bounded) : q.Flow q [] [] := ⟨by simp, h⟩

/-- A bounded queue gives up what a push drops. -/
theorem Bounded.displaced_eq (h : q.Bounded) (a : α) :
    q.displaced [a] = q.samples.take (q.size + 1 - q.depth) := by
  rw [h.excess_eq a, displaced]
  split <;> rfl

theorem Bounded.flow_push (h : q.Bounded) (a : α) : q.Flow (q.push a).2 [a] (q.displaced [a]) := by
  refine ⟨?_, h.push a⟩
  rw [h.displaced_eq]
  exact h.append_eq a

theorem Bounded.flow_take (h : q.Bounded) (n : Nat) : q.Flow (q.take n).2 [] (q.take n).1 :=
  ⟨by simp [SampleQueue.take], h.take n⟩

theorem Bounded.flow_flush (h : q.Bounded) : q.Flow q.flush [] q.samples := ⟨by simp, h.flush⟩

theorem flow_resize {depth : Nat} (h : q.resize depth = some next) :
    q.Flow next [] (q.samples.take (q.size - depth)) := by
  refine ⟨?_, bounded_of_resize h⟩
  obtain ⟨-, rfl⟩ := resize_eq_some_iff.1 h
  simp

/-- A value that is put into an empty queue is alone in it. -/
theorem Bounded.push_flush (h : q.Bounded) (a : α) : (q.flush.push a).2.samples = [a] := by
  have eq := h.flush.append_eq a
  simpa using eq.symm

end SampleQueue

/-! ### The queue of a channel -/

/-- The queue of a channel is as it was. -/
def SameQueue (c : Channel) (rig next : Rig) : Prop := next.queue c = rig.queue c

instance (c : Channel) : IsPreorder Rig (SameQueue c) where
  refl _ := rfl
  trans _ _ _ h h' := Eq.trans h' h

theorem SameQueues.sameQueue {rig next : Rig} (h : SameQueues rig next) (c : Channel) :
    SameQueue c rig next := congrArg (fun queues => PerChannel.get queues c) h

section Parts

variable {α : Type} {operation : Operation α} {c d : Channel}

theorem within_sameQueues (h : Within Rig.Steady operation) : Within SameQueues operation :=
  h.mono fun _ _ steady => steady.queue

theorem within_sameQueue (h : Within SameQueues operation) (c : Channel) :
    Within (SameQueue c) operation := h.mono fun _ _ same => same.sameQueue c

theorem reset_sameQueues : Within SameQueues reset := fun rig =>
  (reset_programs rig).mono (fun _ _ h => h.steady.queue) fun _ _ h =>
    h.elim (fun h => h.steady.queue) fun h => h.steady.queue

theorem isHealthy_sameQueues (c : Channel) : Within SameQueues (isHealthy c) :=
  within_sameQueues (within_steady_of_programs (isHealthy_programs c))

theorem putOff_sameQueues (c : Channel) : Within SameQueues (putOff c) := by
  intro rig
  rw [Ends, putOff_apply]
  exact rfl

/-- Reaching the queue of another channel leaves a queue as it is. -/
theorem onQueue_sameQueue (ne : c ≠ d) (f : SampleQueue Sample → SampleQueue Sample) :
    Within (SameQueue c) (onDriver fun driver => driver.onQueue d f) := fun rig =>
  (PerChannel.get_modify rig.driver.queue d c f).trans (if_neg ne)

theorem popQueue_sameQueue (ne : c ≠ d) : Within (SameQueue c) (popQueue d) :=
  Within.bind (fun _ => rfl) fun _ => (onQueue_sameQueue ne _).bind fun _ => .pure _

end Parts

/-! ### Measurements -/

/-- The sample that a measurement commits, if it does. -/
def sample? (c : Channel) (rig : Rig) : Option Sample :=
  if rig.Ready c then
    match isHealthy c rig with
    | .ok true checked =>
      match readBurst c checked with
      | .ok burst mid => some (mid.sample c burst.raw)
      | .error _ _ => none
    | _ => none
  else none

/-- What a measurement of the channel `d` commits on the channel `c`. -/
def samplesOn (c d : Channel) (rig : Rig) : List Sample :=
  if d = c then (sample? c rig).toList else []

section Measure

variable {c : Channel} {rig : Rig}

/-- Queueing a sample reaches the queue of its channel alone. -/
theorem queues_keep (rig : Rig) (c : Channel) (raw : Axes Int16) : (rig.keep c raw).driver.queue =
    rig.driver.queue.modify c fun queue => (queue.push (rig.sample c raw)).2 := by
  cases c <;> rfl

/-- A measurement that commits a sample succeeds, and pushes it. -/
theorem measure_of_sample? {s : Sample} (h : sample? c rig = some s) :
    ∃ next, measure c rig = .ok .sampled next ∧
      next.driver.queue = rig.driver.queue.modify c fun queue => (queue.push s).2 := by
  unfold sample? at h
  split at h
  · rename_i ready
    split at h
    · rename_i checked check
      split at h
      · rename_i burst mid read
        cases h
        obtain ⟨next, acquired, same⟩ := acquire_of_burst read
        refine ⟨next, ?_, ?_⟩
        · rw [measure_of_isHealthy ready check, if_pos rfl, acquired]
        · have looked : SameQueues rig mid := trans_of SameQueues
            ((isHealthy_sameQueues c).of_ok check)
            ((within_sameQueues (readBurst_steady c)).of_ok read)
          rw [same, queues_keep, looked]
      · cases h
    · cases h
  · cases h

theorem queue_of_pushed {next : Rig} {s : Sample}
    (h : next.driver.queue = rig.driver.queue.modify c fun queue => (queue.push s).2) :
    next.queue c = ((rig.queue c).push s).2 := by
  rw [Rig.queue, h, PerChannel.get_modify, if_pos rfl]
  rfl

/-- A measurement that commits no sample leaves the queues alone. -/
theorem measure_of_sample?_eq_none (h : sample? c rig = none) : Ends (measure c) rig
    (fun outcome next => outcome ≠ .sampled ∧ SameQueues rig next)
    fun _ next => SameQueues rig next := by
  by_cases ready : rig.Ready c
  · cases check : isHealthy c rig with
    | error e next =>
      rw [Ends, measure_of_isHealthy_error ready check]
      exact (isHealthy_sameQueues c).of_error check
    | ok healthy checked =>
      have looked : SameQueues rig checked := (isHealthy_sameQueues c).of_ok check
      rw [Ends, measure_of_isHealthy ready check]
      cases healthy with
      | false =>
        have recovery : Within SameQueues (recover c) :=
          Within.bind (fun _ => rfl) fun _ => reset_sameQueues
        refine ((recovery checked).mono (fun _ _ moved => trans_of SameQueues looked moved)
          fun _ _ moved => trans_of SameQueues looked moved).bind fun _ _ moved => ?_
        exact ⟨Measurement.noConfusion, moved⟩
      | true =>
        cases read : readBurst c checked with
        | ok burst mid => simp [sample?, ready, check, read] at h
        | error e next =>
          show Ends (acquire c) checked _ _
          rw [Ends, acquire, bind_apply, read]
          exact trans_of SameQueues looked ((within_sameQueues (readBurst_steady c)).of_error read)
  · rw [Ends, measure_of_not_ready ready]
    exact (putOff_sameQueues c rig).bind fun _ _ moved => ⟨Measurement.noConfusion, moved⟩

/-- Measuring another channel leaves a queue as it is. -/
theorem measure_sameQueue {d : Channel} (ne : c ≠ d) : Within (SameQueue c) (measure d) := by
  intro rig
  cases committed : sample? d rig with
  | none =>
    exact (measure_of_sample?_eq_none committed).mono (fun _ _ h => h.2.sameQueue c)
      fun _ _ h => h.sameQueue c
  | some s =>
    obtain ⟨next, sampled, queues⟩ := measure_of_sample? committed
    rw [Ends, sampled]
    show next.queue c = rig.queue c
    rw [Rig.queue, queues, PerChannel.get_modify, if_neg ne]
    rfl

/-- A measurement pushes what it commits, and a full queue gives up its oldest sample for it. -/
theorem measure_flow (bounded : (rig.queue c).Bounded) (d : Channel) :
    let flows (next : Rig) := (rig.queue c).Flow (next.queue c) (samplesOn c d rig)
      ((rig.queue c).displaced (samplesOn c d rig))
    Ends (measure d) rig (fun _ next => flows next) fun _ next => flows next := by
  have stays (next : Rig) (same : SameQueue c rig next) :
      (rig.queue c).Flow (next.queue c) [] ((rig.queue c).displaced []) := by
    rw [same]
    exact bounded.stays
  by_cases same : d = c
  · subst same
    rw [samplesOn, if_pos rfl]
    cases committed : sample? d rig with
    | none =>
      exact (measure_of_sample?_eq_none committed).mono
        (fun _ next h => stays next (h.2.sameQueue d)) fun _ next h => stays next (h.sameQueue d)
    | some s =>
      obtain ⟨next, sampled, queues⟩ := measure_of_sample? committed
      rw [Ends, sampled]
      show (rig.queue d).Flow (next.queue d) [s] _
      rw [queue_of_pushed queues]
      exact bounded.flow_push s
  · rw [samplesOn, if_neg same]
    exact (measure_sameQueue (Ne.symm same) rig).mono (fun _ => stays) fun _ => stays

end Measure

/-! ### Readers -/

/-- After a measurement that gives a sample, the oldest sample of the queue is taken. -/
theorem takeSampled_sampled (c : Channel) (rig : Rig) :
    takeSampled c .sampled rig = .ok (rig.queue c).samples.head?.toList
      { rig with driver := rig.driver.onQueue c fun _ => (rig.queue c).pop.2 } := rfl

section Readers

variable {c : Channel} {rig : Rig} {room : Nat}

/-- A reader of a channel that is not polled is given the sample that its measurement commits, which
was in the queue alone. -/
theorem readSamples_of_sample? {s : Sample} (bounded : (rig.queue c).Bounded)
    (inactive : ¬ rig.driver.scheduler.isActive c) (some : room ≠ 0)
    (h : sample? c { rig with driver := rig.driver.onQueue c SampleQueue.flush } =
      Option.some s) :
    ∃ next, readSamples c room rig = .ok [s] next ∧
      (rig.queue c).Flow (next.queue c) [s] ((rig.queue c).samples ++ [s]) := by
  obtain ⟨mid, sampled, queues⟩ := measure_of_sample? h
  -- the reader pops the very sample that was pushed into the empty queue
  have pushed : mid.queue c = ((rig.queue c).flush.push s).2 := by
    rw [queue_of_pushed queues, queue_onQueue]
  have alone : (mid.queue c).samples = [s] := by rw [pushed, bounded.push_flush]
  have pops := takeSampled_sampled c mid
  have reads := readSamples_of_not_active some inactive
  rw [bind_apply, sampled] at reads
  rw [alone] at pops
  refine ⟨_, reads.trans pops, ?_⟩
  rw [queue_onQueue]
  refine ⟨?_, ?_⟩
  · simp [SampleQueue.pop, alone]
  · rw [pushed]
    exact (bounded.flush.push s).pop

/-- If the measurement commits none, the reader is given nothing, and the queue is empty. -/
theorem readSamples_of_sample?_eq_none (bounded : (rig.queue c).Bounded)
    (inactive : ¬ rig.driver.scheduler.isActive c) (some : room ≠ 0)
    (h : sample? c { rig with driver := rig.driver.onQueue c SampleQueue.flush } = none) :
    let flows (next : Rig) := (rig.queue c).Flow (next.queue c) [] (rig.queue c).samples
    Ends (readSamples c room) rig (fun samples next => samples = [] ∧ flows next)
      fun _ next => flows next := by
  have discarded {next : Rig} (same : SameQueues
      { rig with driver := rig.driver.onQueue c SampleQueue.flush } next) :
      (rig.queue c).Flow (next.queue c) [] (rig.queue c).samples := by
    rw [same.sameQueue c, queue_onQueue]
    exact bounded.flow_flush
  rw [Ends, readSamples_of_not_active some inactive]
  refine ((measure_of_sample?_eq_none h).mono (fun _ _ ended => ended)
    fun _ _ same => discarded same).bind fun outcome next ended => ?_
  obtain ⟨unsampled, same⟩ := ended
  cases outcome
  case sampled => exact absurd rfl unsampled
  all_goals exact ⟨rfl, discarded same⟩

/-- Reading another channel leaves a queue as it is. -/
theorem readSamples_sameQueue {d : Channel} (ne : c ≠ d) (room : Nat) :
    Within (SameQueue c) (readSamples d room) := by
  intro rig
  by_cases none : room = 0
  · rw [Ends, readSamples_eq, sampling, if_pos none]
    exact refl_of (SameQueue c) rig
  · by_cases active : rig.driver.scheduler.isActive d
    · rw [Ends, readSamples_of_active none active, drain_apply]
      by_cases empty : (rig.queue d).samples.take room = []
      · rw [if_pos empty]
        exact refl_of (SameQueue c) rig
      · rw [if_neg empty]
        exact (onQueue_sameQueue ne _).of_ok rfl
    · rw [Ends, readSamples_of_not_active none active]
      have flushed : SameQueue c rig
          { rig with driver := rig.driver.onQueue d SampleQueue.flush } :=
        (onQueue_sameQueue ne _).of_ok rfl
      have takes (outcome : Measurement) : Within (SameQueue c) (takeSampled d outcome) := by
        cases outcome
        case sampled => exact (popQueue_sameQueue ne).bind fun _ => .pure _
        all_goals exact .pure _
      exact (((measure_sameQueue ne).bind takes) _).mono
        (fun _ _ moved => trans_of (SameQueue c) flushed moved)
        fun _ _ moved => trans_of (SameQueue c) flushed moved

end Readers

/-! ### Depths -/

theorem setQueueDepth_apply (c : Channel) (depth : Nat) (rig : Rig) : setQueueDepth c depth rig =
    match (rig.queue c).resize depth with
    | none => .error .invalidConfig rig
    | some queue => .ok () { rig with driver := rig.driver.onQueue c fun _ => queue } := by
  show (match (rig.queue c).resize depth with
    | none => _
    | some queue => _ : Operation Unit) rig = _
  cases (rig.queue c).resize depth <;> rfl

end ECompass
