import ECompass.Bus.Frame
import ECompass.Config

/-!
# Bit fields

Two things are packed into bytes: settings into fields of control registers, and the address and
direction of a frame into its command. An update leaves its own field with its own bits and leaves
every disjoint field alone, and the chip finds in a command what the driver has put there.
-/

namespace ECompass

theorem byte_or_and (a b c : UInt8) : (a ||| b) &&& c = (a &&& c) ||| (b &&& c) :=
  UInt8.toBitVec_inj.1 BitVec.and_or_distrib_right

/-- A byte is put together from the bits under a mask and the bits outside it. -/
theorem byte_eq_or (a mask : UInt8) : a = (a &&& ~~~mask) ||| (a &&& mask) := by
  rw [UInt8.and_comm a, UInt8.and_comm a, ← byte_or_and, UInt8.not_or_self, UInt8.neg_one_and]

/-- Setting the bits under a mask makes it all the same what they were. -/
theorem byte_and_not_or (a mask : UInt8) : (a &&& ~~~mask) ||| mask = a ||| mask := by
  rw [← UInt8.toBitVec_inj]
  ext i hi
  simp only [UInt8.toBitVec_or, UInt8.toBitVec_and, UInt8.toBitVec_not, BitVec.getElem_or,
    BitVec.getElem_and, BitVec.getElem_not]
  cases mask.toBitVec[i] <;> simp

/-- Bits that a mask does not leave out are the bits under it. -/
theorem byte_and_of_within {b mask : UInt8} (within : b &&& ~~~mask = 0) : b &&& mask = b := by
  rw [← UInt8.toBitVec_inj] at within ⊢
  ext i hi
  have bit := congrArg (·[i]) within
  simp only [UInt8.toBitVec_and, UInt8.toBitVec_not, BitVec.getElem_and,
    BitVec.getElem_not] at bit ⊢
  simp at bit
  cases hb : b.toBitVec[i] <;> simp_all

namespace RegisterUpdate

/-- The bits that an update sets lie in the field that it clears. -/
def Fits (u : RegisterUpdate) : Prop := u.set &&& ~~~u.clear = 0

/-- After an update its field holds its bits. -/
theorem apply_and_clear {u : RegisterUpdate} (fits : u.Fits) (value : UInt8) :
    u.apply value &&& u.clear = u.set := by
  rw [apply, byte_or_and, UInt8.and_assoc, UInt8.not_and_self, UInt8.and_zero, UInt8.zero_or,
    byte_and_of_within fits]

/-- An update leaves the bits alone that it neither clears nor sets. -/
theorem apply_and_of_apart {u : RegisterUpdate} {mask : UInt8} (clear : u.clear &&& mask = 0)
    (set : u.set &&& mask = 0) (value : UInt8) : u.apply value &&& mask = value &&& mask := by
  have keep : ~~~u.clear &&& mask = mask := by
    have whole : (~~~u.clear ||| u.clear) &&& mask = mask := by
      rw [UInt8.not_or_self, UInt8.neg_one_and]
    rwa [byte_or_and, clear, UInt8.or_zero] at whole
  rw [apply, byte_or_and, set, UInt8.or_zero, UInt8.and_assoc, keep]

/-- An update leaves the bits under a disjoint mask alone. -/
theorem apply_and_of_disjoint {u : RegisterUpdate} (fits : u.Fits) {mask : UInt8}
    (disjoint : u.clear &&& mask = 0) (value : UInt8) :
    u.apply value &&& mask = value &&& mask := by
  have set : u.set &&& mask = 0 := by
    rw [← byte_and_of_within fits, UInt8.and_assoc, disjoint, UInt8.and_zero]
  exact apply_and_of_apart disjoint set value

/-- The bits of a setting lie in its field. -/
theorem fits_program {σ : Type} [Setting σ] [LawfulSetting σ] (s : σ) : (program s).Fits :=
  LawfulSetting.bits_within_mask s

end RegisterUpdate

/-- The bits of every setting in force lie in its field. -/
theorem Config.fits_update (config : Config) (field : Field) : (config.update field).Fits := by
  cases field <;> exact RegisterUpdate.fits_program _

namespace Frame

theorem address_command (direction : Direction) (a : UInt8) (n : Nat) :
    address (command direction a n) = a &&& addressMask := by
  have own : a &&& addressMask &&& 0x3F = a &&& addressMask := by
    rw [UInt8.and_assoc]
    rfl
  have read : (if direction = .read then readBit else 0) &&& 0x3F = 0 := by
    split <;> decide
  have advance : (if 1 < n then advanceBit else 0) &&& 0x3F = 0 := by
    split <;> decide
  rw [address, command, byte_or_and, byte_or_and, own, read, advance, UInt8.or_zero, UInt8.or_zero]

/-- An address of six bits comes back from a command. -/
theorem and_addressMask {a : UInt8} (h : a < 0x40) : a &&& addressMask = a := by
  apply UInt8.toNat_inj.1
  rw [UInt8.toNat_and]
  exact (Nat.and_two_pow_sub_one_eq_mod _ 6).trans (Nat.mod_eq_of_lt h)

/-- A command advances the address exactly if it carries more than one byte. -/
theorem advances_command (direction : Direction) (a : UInt8) (n : Nat) :
    advances (command direction a n) = decide (1 < n) := by
  have low : a &&& addressMask &&& 0x40 = 0 := by
    rw [UInt8.and_assoc]
    exact UInt8.and_zero
  have read : (if direction = .read then readBit else 0) &&& 0x40 = 0 := by
    split <;> decide
  rw [advances, command, byte_or_and, byte_or_and, low, read]
  by_cases h : 1 < n
  · simp only [h, decide_true]
    decide
  · simp only [h, decide_false]
    decide

/-- The chip moves the data in the direction that a command was made for. -/
theorem direction_command (d : Direction) (a : UInt8) (n : Nat) :
    direction (command d a n) = d := by
  have low : a &&& addressMask &&& 0x80 = 0 := by
    rw [UInt8.and_assoc]
    exact UInt8.and_zero
  have advance : (if 1 < n then advanceBit else 0) &&& 0x80 = 0 := by
    split <;> decide
  rw [direction, command, byte_or_and, byte_or_and, low, advance, UInt8.zero_or, UInt8.or_zero]
  cases d <;> decide

/-- The bytes of a frame that stays within the six address bits go to consecutive addresses. -/
theorem place_command {direction : Direction} {a : UInt8} {n i : Nat} (fits : a.toNat + n ≤ 0x40)
    (hi : i < n) : place (command direction a n) i = a + .ofNat i := by
  have low : a < 0x40 := UInt8.lt_iff_toNat_lt.2 (by simp; omega)
  rw [place, advances_command, address_command, and_addressMask low]
  split
  · apply and_addressMask
    apply UInt8.lt_iff_toNat_lt.2
    simp
    omega
  · have : i = 0 := by simp_all; omega
    simp [this]

end Frame

end ECompass
