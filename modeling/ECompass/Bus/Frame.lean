/-!
# SPI frames

On SPI an exchange with the chip is a frame: one command byte and the data bytes. The command holds
six address bits, a bit that makes the frame a read, and a bit that makes the address advance with
every byte. The driver sets the last one for every frame of more than one byte.

The chip knows a frame by its command alone. It takes from the bits of the command which way the
data moves (`direction`) and where byte `i` of it goes (`place`). Long writes are split into frames
of at most sixteen bytes (`split`), each of which starts at the register after the last one of the
frame before.
-/

namespace ECompass

/-- Which way the data of a transfer moves. -/
inductive Direction where
  /-- From the chip to the driver. -/
  | read
  /-- From the driver to the chip. -/
  | write
  deriving DecidableEq

namespace Frame

/-- The bit of a command that makes the frame a read. -/
def readBit : UInt8 := 0x80

/-- The bit of a command that makes the address advance. -/
def advanceBit : UInt8 := 0x40

/-- The address bits of a command. -/
def addressMask : UInt8 := 0x3F

/-- The command of a frame with `length` data bytes. -/
def command (direction : Direction) (address : UInt8) (length : Nat) : UInt8 :=
  (address &&& addressMask) |||
    (if direction = .read then readBit else 0) ||| (if 1 < length then advanceBit else 0)

/-- The direction in which the chip moves the data of a frame: bit 7 of the command makes it a
read. -/
def direction (command : UInt8) : Direction := if command &&& 0x80 = 0 then .write else .read

/-- The address at which the chip starts: bits 0 to 5 of the command. -/
def address (command : UInt8) : UInt8 := command &&& 0x3F

/-- Whether the chip advances the address: bit 6 of the command. -/
def advances (command : UInt8) : Bool := command &&& 0x40 ≠ 0

/-- Where byte `i` of a frame goes: addresses wrap around within the six address bits, and without
advance every byte goes to the same one. -/
def place (command : UInt8) (i : Nat) : UInt8 :=
  if advances command then (address command + .ofNat i) &&& 0x3F else address command

/-- The most data bytes in a written frame. -/
def maxLength : Nat := 16

/-- The frames of a write: where each starts, and its data. -/
def split (start : UInt8) (data : List UInt8) : List (UInt8 × List UInt8) :=
  if data = [] then []
  else (start, data.take maxLength) :: split (start + .ofNat maxLength) (data.drop maxLength)
termination_by data.length
decreasing_by
  have := List.length_pos_iff.2 ‹_›
  simp only [List.length_drop, maxLength]
  omega

/-- Nothing to write takes no frame. -/
@[simp] theorem split_nil (start : UInt8) : split start [] = [] := by
  rw [split, if_pos rfl]

/-- The frames carry the data in order, without loss. -/
theorem flatten_split (start : UInt8) (data : List UInt8) :
    ((split start data).map Prod.snd).flatten = data := by
  fun_induction split start data with
  | case1 => rfl
  | case2 start data _ ih => simp [ih]

/-- No frame carries more than sixteen bytes. -/
theorem length_le_of_mem_split {start : UInt8} {data : List UInt8} {frame : UInt8 × List UInt8}
    (h : frame ∈ split start data) : frame.2.length ≤ maxLength := by
  fun_induction split start data with
  | case1 => simp at h
  | case2 start data _ ih =>
    rcases List.mem_cons.1 h with rfl | h
    · simp only [List.length_take]
      omega
    · exact ih h

end Frame

end ECompass
