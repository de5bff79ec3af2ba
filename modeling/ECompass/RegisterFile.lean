import ECompass.Register

/-!
# Register file

The chip as its bus sees it: two hundred and fifty-six byte registers. A transfer of several bytes
reaches the registers at the places `place 0`, `place 1`, …, where `place` depends on how the
transfer was framed; a byte written later overrides one written earlier to the same place.

The file is known by what it reads: `read_write` says what a write does to every read, and files
that read the same everywhere are equal (`ext_read`).
-/

namespace ECompass

/-- The byte registers of the chip. -/
structure RegisterFile where
  /-- The bytes in the order of the addresses. -/
  bytes : Vector UInt8 256
  deriving DecidableEq

namespace RegisterFile

/-- An address is an index of the file. -/
theorem toNat_lt (a : UInt8) : a.toNat < 256 := a.toNat_lt

/-- The byte at an address. -/
def read (f : RegisterFile) (a : UInt8) : UInt8 :=
  have := toNat_lt a
  f.bytes[a.toNat]

/-- Replaces the byte at an address. -/
def write (f : RegisterFile) (a : UInt8) (value : UInt8) : RegisterFile :=
  ⟨f.bytes.set a.toNat value (toNat_lt a)⟩

/-- The bytes at the places `place 0`, …, `place (n - 1)`. -/
def readRun (f : RegisterFile) (place : Nat → UInt8) (n : Nat) : Vector UInt8 n :=
  .ofFn fun i => f.read (place i)

/-- Writes bytes in order to the places `place 0`, `place 1`, …. -/
def writeRun (f : RegisterFile) (place : Nat → UInt8) : List UInt8 → RegisterFile
  | [] => f
  | value :: rest => (f.write (place 0) value).writeRun (fun i => place (i + 1)) rest

/-- Writes single bytes in order, each to its address. -/
def writeEach (f : RegisterFile) (values : List (UInt8 × UInt8)) : RegisterFile :=
  values.foldl (fun f v => f.write v.1 v.2) f

/-- Every register zero. -/
def zero : RegisterFile := ⟨.replicate 256 0⟩

/-- The values of the control registers after power has come on. -/
def powerOnControl : List (UInt8 × UInt8) :=
  [(Register.ctrl1.addr, 0x07), (Register.ctrl7.addr, 0x02)]

/-- The registers after power has come on. -/
def powerOn : RegisterFile :=
  (zero.writeEach powerOnControl).writeEach
    [(Register.whoAmI.addr, 0x49), (Register.statusA.addr, 0x0F), (Register.statusM.addr, 0x0F)]

/-- An address reads what was last written to it. -/
theorem read_write (f : RegisterFile) (a b : UInt8) (value : UInt8) :
    (f.write a value).read b = if b = a then value else f.read b := by
  unfold read write
  simp only [Vector.getElem_set, UInt8.toNat_inj]
  by_cases h : a = b <;> simp [h, Ne.symm]

@[simp] theorem read_write_self (f : RegisterFile) (a value : UInt8) :
    (f.write a value).read a = value := by
  simp [read_write]

theorem read_write_of_ne (f : RegisterFile) {a b : UInt8} (value : UInt8) (h : b ≠ a) :
    (f.write a value).read b = f.read b := by
  simp [read_write, h]

/-- Files that read the same at every address are equal. -/
theorem ext_read {f g : RegisterFile} (h : ∀ a, f.read a = g.read a) : f = g := by
  obtain ⟨f⟩ := f
  obtain ⟨g⟩ := g
  congr 1
  apply Vector.ext
  intro i hi
  have := h (UInt8.ofNat i)
  simpa [read, UInt8.toNat_ofNat', Nat.mod_eq_of_lt hi] using this

@[simp] theorem getElem_readRun (f : RegisterFile) (place : Nat → UInt8) (n i : Nat) (hi : i < n) :
    (f.readRun place n)[i] = f.read (place i) := by
  simp [readRun]

/-- A run of writes leaves every address alone that is none of its places. -/
theorem read_writeRun_of_ne (f : RegisterFile) (place : Nat → UInt8) (values : List UInt8)
    {b : UInt8} (h : ∀ i < values.length, b ≠ place i) :
    (f.writeRun place values).read b = f.read b := by
  induction values generalizing f place with
  | nil => rfl
  | cons value rest ih =>
    rw [writeRun, ih _ _ fun i hi => h (i + 1) (by simpa using hi),
      read_write_of_ne _ _ (h 0 (by simp))]

end RegisterFile

end ECompass
