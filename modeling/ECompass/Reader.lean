import ECompass.Acquisition

/-!
# Readers

A caller lends slots to a reader, which fills some of them with samples, from the first one on, and
tells how many. A channel that is polled is drained into the slots. One that is not is measured, and
the new sample goes to the first slot.

Readers are state transformers on the rig and the slots. They keep both when they fail, so that what
an error has left in the slots can be told.
-/

namespace ECompass

/-- A rig, and the slots that a caller lends to a reader. -/
structure Loan where
  /-- The rig. -/
  rig : Rig
  /-- What the slots hold. -/
  slots : List Sample

/-- Operations that may fill slots. -/
abbrev Reader := EStateM Error Loan

namespace Reader

/-- Carries out an operation, which does not reach the slots. -/
def onRig {α : Type} (operation : Operation α) : Reader α := fun loan =>
  match operation loan.rig with
  | .ok a rig => .ok a { loan with rig }
  | .error e rig => .error e { loan with rig }

/-- Puts a sample into slot `i`. -/
def put (i : Nat) (s : Sample) : Reader Unit :=
  modify fun loan => { loan with slots := loan.slots.set i s }

/-- Moves queued samples of a channel, oldest first, to up to `room` slots from slot `i` on, as long
as there are any. Gives the number of the next slot. -/
def popInto (c : Channel) (i : Nat) : Nat → Reader Nat
  | 0 => return i
  | room + 1 => do
    match ← onRig (popQueue c) with
    | none => return i
    | some s =>
      put i s
      popInto c (i + 1) room

/-- Moves queued samples of a polled channel to the slots. -/
def drainInto (c : Channel) : Reader Nat := do
  let count ← popInto c 0 (← get).slots.length
  if count = 0 then throw .wouldBlock
  return count

/-- Discards what is queued on a channel that is not polled, and measures it. The new sample goes to
the first slot; there is none if there was no data or the chip had to be configured anew. -/
def measureInto (c : Channel) : Reader Nat := do
  onRig (flushQueue c)
  match ← onRig (measure c) with
  | .sampled => popInto c 0 1
  | _ => return 0

/-- Reads samples of a channel into the slots, and tells how many were filled. -/
def readInto (c : Channel) : Reader Nat := do
  if (← get).slots.length = 0 then throw .bufferTooSmall
  else if (← onRig Operation.driver).scheduler.isActive c then drainInto c
  else measureInto c

end Reader

/-- Reads samples of a channel into `room` fresh slots, and gives what was put into them. -/
def readSamples (c : Channel) (room : Nat) : Operation (List Sample) := fun rig =>
  match Reader.readInto c ⟨rig, .replicate room .blank⟩ with
  | .ok count loan => .ok (loan.slots.take count) loan.rig
  | .error e loan => .error e loan.rig

end ECompass
