/-!
# Channels

The chip measures acceleration and magnetic field on two acquisition channels which share one
bus, one scheduler and one set of control registers. Nearly everything the driver keeps, it keeps
once for each channel, so the module also holds `PerChannel`, a pair indexed by `Channel`.

A pair is read by `get` and changed by `set`; `get_set` says how the two meet, and two pairs that
agree at both channels are equal (`PerChannel.ext_get`).
-/

namespace ECompass

/-- The acquisition channels of the chip. -/
inductive Channel where
  /-- Accelerometer. -/
  | accel
  /-- Magnetometer. -/
  | mag
  deriving DecidableEq

/-- One value for each channel. -/
structure PerChannel (α : Type) where
  /-- The value of the accelerometer channel. -/
  accel : α
  /-- The value of the magnetometer channel. -/
  mag : α
  deriving DecidableEq

namespace PerChannel

variable {α β : Type}

/-- The value of one channel. -/
def get (p : PerChannel α) : Channel → α
  | .accel => p.accel
  | .mag => p.mag

/-- Replaces the value of one channel. -/
def set (p : PerChannel α) (c : Channel) (a : α) : PerChannel α :=
  match c with
  | .accel => { p with accel := a }
  | .mag => { p with mag := a }

/-- Changes the value of one channel. -/
def modify (p : PerChannel α) (c : Channel) (f : α → α) : PerChannel α :=
  p.set c (f (p.get c))

/-- The same value for both channels. -/
def both (a : α) : PerChannel α := ⟨a, a⟩

/-- The value that `f` gives for each channel. -/
def ofFn (f : Channel → α) : PerChannel α := ⟨f .accel, f .mag⟩

/-- Changes both values. -/
def map (f : α → β) (p : PerChannel α) : PerChannel β := ⟨f p.accel, f p.mag⟩

/-- A channel holds what was last put there, and the other one keeps its value. -/
theorem get_set (p : PerChannel α) (c d : Channel) (a : α) :
    (p.set c a).get d = if d = c then a else p.get d := by
  cases c <;> cases d <;> rfl

@[simp] theorem get_set_self (p : PerChannel α) (c : Channel) (a : α) : (p.set c a).get c = a := by
  cases c <;> rfl

theorem get_set_of_ne (p : PerChannel α) {c d : Channel} (a : α) (h : d ≠ c) :
    (p.set c a).get d = p.get d := by
  rw [get_set, if_neg h]

/-- A change of one channel leaves the other as it is. -/
theorem get_modify (p : PerChannel α) (c d : Channel) (f : α → α) :
    (p.modify c f).get d = if d = c then f (p.get d) else p.get d := by
  cases c <;> cases d <;> rfl

@[simp] theorem get_both (a : α) (c : Channel) : (both a).get c = a := by
  cases c <;> rfl

@[simp] theorem get_ofFn (f : Channel → α) (c : Channel) : (ofFn f).get c = f c := by
  cases c <;> rfl

@[simp] theorem get_map (f : α → β) (p : PerChannel α) (c : Channel) :
    (p.map f).get c = f (p.get c) := by
  cases c <;> rfl

/-- Pairs that agree at both channels are equal. -/
theorem ext_get {p q : PerChannel α} (h : ∀ c, p.get c = q.get c) : p = q := by
  cases p
  cases q
  have ha := h .accel
  have hm := h .mag
  simp only [get] at ha hm
  rw [ha, hm]

end PerChannel

end ECompass
