import ECompass.Proofs.Program
import ECompass.Reader

/-!
# Readers and their slots

What a reader does to the rig can be told apart from what it does to the slots that it is lent.
`sampling c room` brings the samples as a list. A reader with `room` slots does the same to the rig,
fails alike, and has the list in its first slots then (`readInto_eq`); the other slots keep what
they held, and if it fails, all of them do. The heart of it is the loop that pops one sample for
each slot, which takes the oldest ones all together (`popInto_apply`).

What the slots held before plays no part, so `readSamples` is this list (`readSamples_eq`), and a
reader of any slots is told by it (`readInto_eq_readSamples`).
-/

namespace ECompass

open Program Operation

/-! ### Samples as a list -/

/-- Takes up to `room` queued samples of a polled channel. -/
def drain (c : Channel) (room : Nat) : Operation (List Sample) := do
  let (samples, rest) := ((← driver).queue.get c).take room
  if samples = [] then throw .wouldBlock
  onDriver fun d => d.onQueue c fun _ => rest
  return samples

/-- Discards what is queued on a channel that is not polled, measures it, and takes the new sample,
if there is one. -/
def measureAndTake (c : Channel) : Operation (List Sample) := do
  flushQueue c
  match ← measure c with
  | .sampled => return (← popQueue c).toList
  | _ => return []

/-- Brings samples of a channel for up to `room` slots. -/
def sampling (c : Channel) (room : Nat) : Operation (List Sample) := do
  if room = 0 then throw .bufferTooSmall
  else if (← driver).scheduler.isActive c then drain c room
  else measureAndTake c

/-- The end of a reader, told by the samples that were read: the first slots hold them. -/
def Loan.settle (slots : List Sample) :
    EStateM.Result Error Rig (List Sample) → EStateM.Result Error Loan Nat
  | .ok taken rig => .ok taken.length ⟨rig, taken ++ slots.drop taken.length⟩
  | .error e rig => .error e ⟨rig, slots⟩

/-! ### The queue of a channel -/

/-- The queue of a channel. -/
def Rig.queue (rig : Rig) (c : Channel) : SampleQueue Sample := rig.driver.queue.get c

theorem queue_onQueue (rig : Rig) (c : Channel)
    (f : SampleQueue Sample → SampleQueue Sample) :
    Rig.queue { rig with driver := rig.driver.onQueue c f } c = f (rig.queue c) :=
  (PerChannel.get_modify rig.driver.queue c c f).trans (if_pos rfl)

theorem onQueue_congr {rig : Rig} {c : Channel} {f g : SampleQueue Sample → SampleQueue Sample}
    (same : f (rig.queue c) = g (rig.queue c)) :
    rig.driver.onQueue c f = rig.driver.onQueue c g := by
  rw [Rig.queue] at same
  rw [Driver.onQueue, Driver.onQueue, PerChannel.modify, PerChannel.modify, same]

theorem SampleQueue.take_of_nil {α : Type} {q : SampleQueue α} {n : Nat}
    (h : q.samples.take n = []) : (q.take n).2 = q := by
  rw [SampleQueue.take]
  rcases List.take_eq_nil_iff.1 h with rfl | empty
  · rfl
  · rw [empty, List.drop_nil, ← empty]

theorem Driver.onQueue_onQueue (d : Driver) (c : Channel)
    (f g : SampleQueue Sample → SampleQueue Sample) :
    (d.onQueue c f).onQueue c g = d.onQueue c fun q => g (f q) := by
  cases c <;> rfl

/-- A polled channel is drained, as far as there is room. -/
theorem drain_apply (c : Channel) (room : Nat) (rig : Rig) : drain c room rig =
    if (rig.queue c).samples.take room = [] then .error .wouldBlock rig
    else .ok ((rig.queue c).samples.take room)
      { rig with driver := rig.driver.onQueue c fun _ => ((rig.queue c).take room).2 } := by
  show (if (rig.queue c).samples.take room = [] then _ else _ : Operation (List Sample)) rig = _
  split <;> rfl

/-! ### Popping into slots -/

namespace Reader

/-- The slots from one on take the oldest samples, as many as there are and as there is room for. -/
theorem popInto_apply (c : Channel) (rig : Rig) (front : List Sample) {back : List Sample}
    {room : Nat} (fits : room ≤ back.length) :
    let taken := (rig.queue c).samples.take room
    popInto c front.length room ⟨rig, front ++ back⟩ = .ok (front.length + taken.length)
      ⟨{ rig with driver := rig.driver.onQueue c fun q => (q.take room).2 },
        front ++ taken ++ back.drop taken.length⟩ := by
  induction room generalizing rig front back with
  | zero =>
    intro taken
    have same : (rig.driver.onQueue c fun q => (q.take 0).2) = rig.driver := by cases c <;> rfl
    rw [same]
    show EStateM.Result.ok front.length (Loan.mk rig (front ++ back)) = _
    simp [taken]
  | succ room ih =>
    obtain ⟨slot, back, rfl⟩ :=
      List.exists_cons_of_length_pos (Nat.lt_of_lt_of_le room.succ_pos fits)
    let popped : Rig := { rig with driver := rig.driver.onQueue c fun q => q.pop.2 }
    have pops : onRig (popQueue c) ⟨rig, front ++ slot :: back⟩ =
        .ok (rig.queue c).samples.head? ⟨popped, front ++ slot :: back⟩ := rfl
    rw [popInto, bind_apply, pops]
    cases queued : (rig.queue c).samples with
    | nil =>
      have unchanged : popped.driver = rig.driver.onQueue c fun q => (q.take (room + 1)).2 :=
        onQueue_congr (by simp [SampleQueue.pop, SampleQueue.take, queued])
      show EStateM.Result.ok front.length (Loan.mk { rig with driver := popped.driver } _) = _
      simp [unchanged]
    | cons oldest others =>
      -- the slot that was filled goes with those before it
      have filled : (front ++ slot :: back).set front.length oldest =
          (front ++ [oldest]) ++ back := by
        simp
      have left : (popped.queue c).samples = others := by
        rw [queue_onQueue, SampleQueue.pop, queued]
        rfl
      have rest : (popped.driver.onQueue c fun q => (q.take room).2) =
          rig.driver.onQueue c fun q => (q.take (room + 1)).2 := by
        rw [Driver.onQueue_onQueue]
        exact onQueue_congr (by simp [SampleQueue.take, SampleQueue.pop])
      have goes := ih popped (front ++ [oldest]) (Nat.le_of_succ_le_succ fits)
      rw [left, rest, ← filled, List.length_append] at goes
      refine goes.trans ?_
      simp [popped, Nat.add_assoc, Nat.add_comm 1]

/-- From the first slot on there is room for as many samples as there are slots. -/
theorem popInto_zero (c : Channel) (rig : Rig) {slots : List Sample} {room : Nat}
    (fits : room ≤ slots.length) :
    let taken := (rig.queue c).samples.take room
    popInto c 0 room ⟨rig, slots⟩ = .ok taken.length
      ⟨{ rig with driver := rig.driver.onQueue c fun q => (q.take room).2 },
        taken ++ slots.drop taken.length⟩ := by
  simpa using popInto_apply c rig [] fits

/-! ### Reading into slots -/

theorem drainInto_eq (c : Channel) (rig : Rig) (slots : List Sample) :
    drainInto c ⟨rig, slots⟩ = Loan.settle slots (drain c slots.length rig) := by
  have moved : (rig.driver.onQueue c fun _ => ((rig.queue c).take slots.length).2) =
      rig.driver.onQueue c fun q => (q.take slots.length).2 := onQueue_congr rfl
  show (popInto c 0 slots.length >>= _) ⟨rig, slots⟩ = _
  rw [bind_apply, popInto_zero c rig (Nat.le_refl _), drain_apply, moved]
  by_cases empty : (rig.queue c).samples.take slots.length = []
  · have untouched : (rig.driver.onQueue c fun q => (q.take slots.length).2) = rig.driver := by
      rw [← moved, SampleQueue.take_of_nil empty]
      cases c <;> rfl
    rw [if_pos empty, empty, untouched]
    rfl
  · rw [if_neg empty]
    show (if ((rig.queue c).samples.take slots.length).length = 0 then _ else _ : Reader Nat) _ = _
    rw [if_neg (mt List.length_eq_zero_iff.1 empty)]
    rfl

/-- A sample that was measured goes to the first slot. -/
theorem measureInto_eq (c : Channel) (rig : Rig) {slots : List Sample} (some : slots.length ≠ 0) :
    measureInto c ⟨rig, slots⟩ = Loan.settle slots (measureAndTake c rig) := by
  let flushed : Rig := { rig with driver := rig.driver.onQueue c SampleQueue.flush }
  show (onRig (measure c) >>= _) ⟨flushed, slots⟩ = Loan.settle slots ((measure c >>= _) flushed)
  rw [bind_apply, bind_apply, onRig]
  cases measured : measure c flushed with
  | error e next => rfl
  | ok outcome next =>
    cases outcome with
    | sampled =>
      have popped : (next.driver.onQueue c fun q => (q.take 1).2) =
          next.driver.onQueue c fun _ => (next.queue c).pop.2 :=
        onQueue_congr (by rw [SampleQueue.take, SampleQueue.pop, List.drop_one])
      show popInto c 0 1 ⟨next, slots⟩ = _
      rw [popInto_zero c next (Nat.pos_of_ne_zero some), popped, List.take_one]
      rfl
    | notReady | recovered | inactive => rfl

/-- A reader does with the slots that it is lent what `sampling` says it brings for them. -/
theorem readInto_eq (c : Channel) (rig : Rig) (slots : List Sample) :
    readInto c ⟨rig, slots⟩ = Loan.settle slots (sampling c slots.length rig) := by
  show (if slots.length = 0 then throw .bufferTooSmall
    else (onRig driver >>= _) : Reader Nat) ⟨rig, slots⟩ = _
  by_cases none : slots.length = 0
  · rw [if_pos none, sampling, if_pos none]
    rfl
  · rw [if_neg none, sampling, if_neg none]
    show (if rig.driver.scheduler.isActive c then drainInto c else measureInto c) ⟨rig, slots⟩ =
      Loan.settle slots ((if rig.driver.scheduler.isActive c then drain c slots.length
        else measureAndTake c) rig)
    split
    · exact drainInto_eq c rig slots
    · exact measureInto_eq c rig none

end Reader

/-- Reading into fresh slots brings the samples that `sampling` does. -/
theorem readSamples_eq (c : Channel) (room : Nat) : readSamples c room = sampling c room := by
  funext rig
  rw [readSamples, Reader.readInto_eq, List.length_replicate]
  cases sampling c room rig with
  | error e next => rfl
  | ok taken next => simp [Loan.settle]

/-- A reader has put the samples that are read into its first slots, whatever the slots held before.
The other slots, and all of them if it fails, keep what they held. -/
theorem Reader.readInto_eq_readSamples (c : Channel) (rig : Rig) (slots : List Sample) :
    readInto c ⟨rig, slots⟩ = Loan.settle slots (readSamples c slots.length rig) := by
  rw [readInto_eq, readSamples_eq]

end ECompass
