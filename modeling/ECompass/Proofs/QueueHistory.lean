import ECompass.SampleQueue

/-!
# Histories of a queue

A queue may be pushed to, popped, flushed and resized in any order. Its depth always lies within the
store and is never exceeded (`SampleQueue.Bounded`), so there is a free slot for every push, and a
push displaces at most the oldest sample.

Samples leave a queue at its front only. So what is queued is always the end of the list of all
values that were ever pushed, whatever the order of the calls (`Retains`).
-/

namespace ECompass

namespace SampleQueue

variable {α : Type}

/-! ### Bounds -/

/-- The depth is within the store, and no more samples are queued than it allows. -/
structure Bounded (q : SampleQueue α) : Prop where
  /-- There is room for a sample. -/
  depth_pos : 0 < q.depth
  /-- The store has a slot for every sample. -/
  depth_le : q.depth ≤ slots
  /-- The depth is not exceeded. -/
  size_le : q.size ≤ q.depth

theorem bounded_empty : (empty : SampleQueue α).Bounded where
  depth_pos := Nat.zero_lt_two
  depth_le := by
    show 2 ≤ slots
    decide
  size_le := Nat.zero_le 2

section Calls

variable {q next : SampleQueue α}

/-- What a push leaves in front of its value was queued before, and what was in front of that is
displaced. -/
theorem Bounded.append_eq (h : q.Bounded) (a : α) :
    q.samples ++ [a] = q.samples.take (q.size + 1 - q.depth) ++ (q.push a).2.samples := by
  rw [samples_push q a h.depth_pos h.depth_le, ← List.append_assoc, List.take_append_drop]

theorem Bounded.push (h : q.Bounded) (a : α) : (q.push a).2.Bounded := by
  have pos := h.depth_pos
  refine ⟨pos, h.depth_le, ?_⟩
  show (q.push a).2.samples.length ≤ q.depth
  rw [samples_push q a pos h.depth_le, List.length_append, List.length_drop, List.length_singleton]
  have size : q.samples.length = q.size := rfl
  omega

/-- There is one sample too many if the push tells that it displaces any, and none otherwise. -/
theorem Bounded.excess_eq (h : q.Bounded) (a : α) :
    q.size + 1 - q.depth = if (q.push a).1 then 1 else 0 := by
  have le := h.size_le
  rw [displaces_push q a h.depth_pos]
  by_cases full : q.depth ≤ q.size
  · rw [decide_eq_true full, if_pos rfl]
    omega
  · rw [decide_eq_false full, if_neg Bool.false_ne_true]
    omega

/-- A push that tells that it displaces samples displaces the oldest one, any other one nothing. -/
theorem Bounded.length_displaced (h : q.Bounded) (a : α) :
    (q.samples.take (q.size + 1 - q.depth)).length = if (q.push a).1 then 1 else 0 := by
  have pos := h.depth_pos
  have size : q.samples.length = q.size := rfl
  rw [List.length_take, ← h.excess_eq a]
  omega

/-- A queue of which only the end is left is bounded as before. -/
theorem Bounded.of_suffix (h : q.Bounded) (depth : next.depth = q.depth)
    (suffix : next.samples <:+ q.samples) : next.Bounded := by
  refine ⟨depth ▸ h.depth_pos, depth ▸ h.depth_le, ?_⟩
  rw [depth]
  exact Nat.le_trans suffix.length_le h.size_le

theorem Bounded.pop (h : q.Bounded) : q.pop.2.Bounded := h.of_suffix rfl (List.tail_suffix _)

theorem Bounded.take (h : q.Bounded) (n : Nat) : (q.take n).2.Bounded :=
  h.of_suffix rfl (List.drop_suffix n _)

theorem Bounded.flush (h : q.Bounded) : q.flush.Bounded := h.of_suffix rfl List.nil_suffix

/-- A depth is accepted if it is not zero and fits the store; then the newest samples are kept. -/
theorem resize_eq_some_iff {depth : Nat} : q.resize depth = some next ↔
    (0 < depth ∧ depth ≤ slots) ∧ next = ⟨q.samples.drop (q.size - depth), depth⟩ := by
  unfold resize
  split
  · rename_i refused
    constructor
    · intro h
      cases h
    · rintro ⟨accepted, -⟩
      omega
  · rename_i accepted
    constructor
    · rintro ⟨⟩
      exact ⟨by omega, rfl⟩
    · rintro ⟨-, rfl⟩
      rfl

theorem resize_eq_none_iff {depth : Nat} :
    q.resize depth = none ↔ ¬ (0 < depth ∧ depth ≤ slots) := by
  rw [Option.eq_none_iff_forall_ne_some]
  constructor
  · intro h accepted
    exact h _ (resize_eq_some_iff.2 ⟨accepted, rfl⟩)
  · intro refused next h
    exact refused (resize_eq_some_iff.1 h).1

theorem size_drop_newest (q : SampleQueue α) (depth : Nat) :
    (q.samples.drop (q.size - depth)).length = min q.size depth := by
  have size : q.samples.length = q.size := rfl
  rw [List.length_drop]
  omega

theorem bounded_of_resize {depth : Nat} (h : q.resize depth = some next) : next.Bounded := by
  obtain ⟨⟨pos, le⟩, rfl⟩ := resize_eq_some_iff.1 h
  refine ⟨pos, le, ?_⟩
  show (q.samples.drop (q.size - depth)).length ≤ depth
  rw [size_drop_newest]
  exact Nat.min_le_right _ _

end Calls

/-! ### Histories -/

/-- What can be done to a queue. -/
inductive Call (α : Type) where
  /-- Put a value in. -/
  | push (a : α)
  /-- Take the oldest sample out. -/
  | pop
  /-- Discard every sample. -/
  | flush
  /-- Change the depth, if the new one is acceptable. -/
  | resize (depth : Nat)

/-- The queue after a call. -/
def Call.act (call : Call α) (q : SampleQueue α) : SampleQueue α :=
  match call with
  | .push a => (q.push a).2
  | .pop => q.pop.2
  | .flush => q.flush
  | .resize depth => (q.resize depth).getD q

/-- The value that a call pushes, if it does. -/
def Call.pushed? : Call α → Option α
  | .push a => some a
  | _ => none

/-- A new queue after some calls. -/
def after (calls : List (Call α)) : SampleQueue α := calls.foldl (fun q call => call.act q) empty

/-- The values that some calls push, in order. -/
def pushed (calls : List (Call α)) : List α := calls.filterMap Call.pushed?

/-- The queue is bounded, and it holds the newest of the values that were pushed. -/
structure Retains (q : SampleQueue α) (values : List α) : Prop where
  /-- The bounds. -/
  bounded : q.Bounded
  /-- What is queued was pushed last, in the same order. -/
  suffix : q.samples <:+ values

theorem Retains.of_suffix {q next : SampleQueue α} {values : List α} (h : q.Retains values)
    (bounded : next.Bounded) (suffix : next.samples <:+ q.samples) : next.Retains values :=
  ⟨bounded, suffix.trans h.suffix⟩

/-- A call keeps the newest values, with the one that it pushes. -/
theorem Retains.act {q : SampleQueue α} {values : List α} (h : q.Retains values) (call : Call α) :
    (call.act q).Retains (values ++ call.pushed?.toList) := by
  cases call with
  | push a =>
    refine ⟨h.bounded.push a, ?_⟩
    have kept : (q.push a).2.samples <:+ q.samples ++ [a] := ⟨_, (h.bounded.append_eq a).symm⟩
    obtain ⟨older, rfl⟩ := h.suffix
    exact kept.trans ⟨older, (List.append_assoc ..).symm⟩
  | pop =>
    show q.pop.2.Retains (values ++ [])
    rw [List.append_nil]
    exact h.of_suffix h.bounded.pop (List.tail_suffix _)
  | flush =>
    show q.flush.Retains (values ++ [])
    rw [List.append_nil]
    exact h.of_suffix h.bounded.flush List.nil_suffix
  | resize depth =>
    show ((q.resize depth).getD q).Retains (values ++ [])
    rw [List.append_nil]
    cases resized : q.resize depth with
    | none => exact h
    | some next =>
      refine h.of_suffix (bounded_of_resize resized) ?_
      obtain ⟨-, rfl⟩ := resize_eq_some_iff.1 resized
      exact List.drop_suffix _ _

/-- After any calls a queue retains what they have pushed. -/
theorem retains_after (calls : List (Call α)) : (after calls).Retains (pushed calls) := by
  suffices ∀ (q : SampleQueue α) (values : List α), q.Retains values →
      (calls.foldl (fun q call => call.act q) q).Retains (values ++ pushed calls) from
    this empty [] ⟨bounded_empty, List.suffix_refl _⟩
  induction calls with
  | nil =>
    intro q values h
    rw [pushed, List.filterMap_nil, List.append_nil]
    exact h
  | cons call rest ih =>
    intro q values h
    have values_eq : values ++ pushed (call :: rest) =
        values ++ call.pushed?.toList ++ pushed rest := by
      cases pushes : call.pushed? <;> simp [pushed, pushes]
    rw [values_eq, List.foldl_cons]
    exact ih _ _ (h.act call)

/-- After any calls on a new queue, refused ones among them: the depth is between one and a hundred
and is not exceeded, and what is queued is the end of the list of all values ever pushed.

From there a pop takes the oldest of these values, and finds none only if nothing is queued; a push
leaves its value as the newest, displaces one sample at most, and tells that it has exactly if it
displaces one; and a new depth is either accepted, and keeps the newest samples that fit, or
refused, and changes nothing. -/
theorem newest_retained (calls : List (Call α)) :
    let q := after calls
    let newest := (pushed calls).drop ((pushed calls).length - q.size)
    (1 ≤ q.depth ∧ q.depth ≤ 100 ∧ q.size ≤ q.depth) ∧ q.samples = newest ∧
      (q.pop.1 = newest.head? ∧ newest = q.pop.1.toList ++ q.pop.2.samples ∧
        (q.pop.1 = none ↔ q.size = 0)) ∧
      (∀ a, (q.push a).2.samples.getLast? = some a ∧ ∃ displaced,
        newest ++ [a] = displaced ++ (q.push a).2.samples ∧ displaced.length ≤ 1 ∧
          ((q.push a).1 = true ↔ displaced.length = 1)) ∧
      ∀ depth, (1 ≤ depth ∧ depth ≤ 100 ∧ ∃ next, q.resize depth = some next ∧
          next.depth = depth ∧ next.size = min q.size depth ∧
            next.samples = newest.drop (newest.length - min q.size depth)) ∨
        (¬ (1 ≤ depth ∧ depth ≤ 100) ∧ q.resize depth = none ∧ (Call.resize depth).act q = q) := by
  intro q newest
  obtain ⟨bounded, suffix⟩ := retains_after calls
  have queued : q.samples = newest := List.suffix_iff_eq_drop.1 suffix
  refine ⟨⟨bounded.depth_pos, bounded.depth_le, bounded.size_le⟩, queued, ?_, ?_, ?_⟩
  · rw [← queued]
    refine ⟨rfl, ?_, ?_⟩
    · show q.samples = q.samples.head?.toList ++ q.samples.tail
      cases q.samples <;> rfl
    · show q.samples.head? = none ↔ q.samples.length = 0
      rw [List.head?_eq_none_iff, List.length_eq_zero_iff]
  · intro a
    rw [← queued]
    constructor
    · rw [samples_push q a bounded.depth_pos bounded.depth_le]
      exact List.getLast?_concat
    · refine ⟨_, bounded.append_eq a, ?_⟩
      rw [bounded.length_displaced a]
      cases (q.push a).1 <;> simp
  · intro depth
    rw [← queued]
    by_cases accepted : 0 < depth ∧ depth ≤ slots
    · have resized := (resize_eq_some_iff (q := q)).2 ⟨accepted, rfl⟩
      refine .inl ⟨accepted.1, accepted.2, _, resized, rfl, size_drop_newest q depth, ?_⟩
      have size : q.samples.length = q.size := rfl
      show q.samples.drop (q.size - depth) = q.samples.drop (q.samples.length - min q.size depth)
      congr 1
      omega
    · have refused := (resize_eq_none_iff (q := q)).2 accepted
      refine .inr ⟨accepted, refused, ?_⟩
      show (q.resize depth).getD q = q
      rw [refused]
      rfl

end SampleQueue

end ECompass
