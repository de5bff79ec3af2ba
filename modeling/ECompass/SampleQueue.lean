/-!
# Sample queues

Each channel has a queue between the timer, which puts samples in, and the reader, which takes them
out. The queue keeps at most its depth of samples; when it is full, the oldest ones make room. The
store behind it has a fixed number of slots, and the depth says how many of them are used; a value
put into a store without a free slot is lost.

The samples are listed oldest first. A push makes room one sample at a time, which comes to dropping
those in excess (`makeRoom_eq_drop`), and tells whether any had to go. For a depth that `resize`
accepts, the queue ends with the pushed value then (`samples_push`).
-/

namespace ECompass

/-- A queue in which the newest samples displace the oldest. -/
structure SampleQueue (α : Type) where
  /-- The queued samples, oldest first. -/
  samples : List α
  /-- How many samples are kept. -/
  depth : Nat
  deriving DecidableEq

namespace SampleQueue

variable {α : Type}

/-- The slots of the store, and so the largest depth. -/
def slots : Nat := 100

/-- An empty queue of the initial depth. -/
def empty : SampleQueue α := ⟨[], 2⟩

/-- The number of queued samples. -/
def size (q : SampleQueue α) : Nat := q.samples.length

/-- Whether nothing is queued. -/
def isEmpty (q : SampleQueue α) : Bool := q.samples.isEmpty

/-- Puts a value behind the others, if there is a free slot. -/
def store (samples : List α) (a : α) : List α :=
  if samples.length < slots then samples ++ [a] else samples

/-- Removes the oldest samples, one by one, while there are as many as the depth or more. Tells
whether any was removed, and what is left. -/
def makeRoom (depth : Nat) : List α → Bool × List α
  | [] => (false, [])
  | a :: rest =>
    if depth ≤ (a :: rest).length then (true, (makeRoom depth rest).2) else (false, a :: rest)

/-- Appends a value; if the queue is full, the oldest samples make room. Tells whether any had to,
and gives the queue. -/
def push (q : SampleQueue α) (a : α) : Bool × SampleQueue α :=
  let (displaced, left) := makeRoom q.depth q.samples
  (displaced, { q with samples := store left a })

/-- Removes up to `n` samples, oldest first. -/
def take (q : SampleQueue α) (n : Nat) : List α × SampleQueue α :=
  (q.samples.take n, { q with samples := q.samples.drop n })

/-- Removes the oldest sample. -/
def pop (q : SampleQueue α) : Option α × SampleQueue α :=
  (q.samples.head?, { q with samples := q.samples.tail })

/-- Discards every sample. -/
def flush (q : SampleQueue α) : SampleQueue α := { q with samples := [] }

/-- Changes the depth and keeps the newest samples that fit, or nothing if the depth is zero or
larger than the store. -/
def resize (q : SampleQueue α) (depth : Nat) : Option (SampleQueue α) :=
  if depth = 0 ∨ slots < depth then none
  else some ⟨q.samples.drop (q.size - depth), depth⟩

@[simp] theorem samples_flush (q : SampleQueue α) : q.flush.samples = [] := rfl

/-- Removing samples one by one comes to dropping those in excess of a new one's room. -/
theorem makeRoom_eq_drop (depth : Nat) (samples : List α) :
    (makeRoom depth samples).2 = samples.drop (samples.length + 1 - depth) := by
  induction samples with
  | nil => exact List.drop_nil.symm
  | cons a rest ih =>
    rw [makeRoom]
    by_cases full : depth ≤ (a :: rest).length
    · have excess : (a :: rest).length + 1 - depth = (rest.length + 1 - depth) + 1 := by
        rw [List.length_cons] at full ⊢
        omega
      rw [if_pos full, excess, List.drop_succ_cons, ih]
    · have none : (a :: rest).length + 1 - depth = 0 := by omega
      rw [if_neg full, none, List.drop_zero]

/-- A push tells that it displaces samples if the queue is as full as its depth allows. -/
theorem displaces_push (q : SampleQueue α) (a : α) (pos : 0 < q.depth) :
    (q.push a).1 = decide (q.depth ≤ q.size) := by
  show (makeRoom q.depth q.samples).1 = decide (q.depth ≤ q.samples.length)
  cases q.samples with
  | nil => exact (decide_eq_false (Nat.not_le.2 pos)).symm
  | cons oldest rest =>
    rw [makeRoom]
    split
    · rename_i full
      exact (decide_eq_true full).symm
    · rename_i fits
      exact (decide_eq_false fits).symm

/-- While the depth fits the store, a push appends its value to the samples that stay. -/
theorem samples_push (q : SampleQueue α) (a : α) (pos : 0 < q.depth) (fits : q.depth ≤ slots) :
    (q.push a).2.samples = q.samples.drop (q.size + 1 - q.depth) ++ [a] := by
  have room : (q.samples.drop (q.size + 1 - q.depth)).length < slots := by
    simp only [List.length_drop, size]
    omega
  show store (makeRoom q.depth q.samples).2 a = _
  rw [makeRoom_eq_drop]
  exact if_pos room

end SampleQueue

end ECompass
