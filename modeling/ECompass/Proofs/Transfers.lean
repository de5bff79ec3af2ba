import ECompass.Diagnostics.Dump
import ECompass.Proofs.Bits
import ECompass.Proofs.Program

/-!
# Transfers

What one access to the registers does to the bus, whichever way the chip is reached. A read or a
single-byte write within the six address bits is one transfer at consecutive addresses
(`read_apply`, `write_apply`); the two transports differ in the header only.

From there on a bus is judged by what moved. `Bus.failures` counts the transfers that failed, and
`Bus.writes` those that have written to an address. `Bus.Reads` says that the chip was only read, so
that it has changed in the output registers of the channels at most, which waiting measurements
fill; `Bus.Wrote` says that one register was written, and `Bus.Failed` that a transfer failed.
-/

namespace ECompass

open Program

/-! ### Headers -/

/-- The direction that a header announces. -/
def Header.direction : Header → Direction
  | .direct direction _ _ => direction
  | .framed command => Frame.direction command

/-- The address that a header starts at. -/
def Header.address : Header → UInt8
  | .direct _ address _ => address
  | .framed command => Frame.address command

/-- The addresses of the output registers of a channel. -/
def Channel.outputs (c : Channel) : List UInt8 :=
  (List.range 6).map fun i => c.firstOutput.addr + .ofNat i

namespace Bus

/-- The header of a transfer of `n` bytes from an address on. -/
def header (bus : Bus) (direction : Direction) (address : UInt8) (n : Nat) : Header :=
  match bus.transport with
  | .direct => .direct direction address n
  | .spi => .framed (Frame.command direction address n)

@[simp] theorem direction_header (bus : Bus) (direction : Direction) (address : UInt8) (n : Nat) :
    (bus.header direction address n).direction = direction := by
  unfold header
  split
  · rfl
  · exact Frame.direction_command direction address n

theorem address_header (bus : Bus) (direction : Direction) {address : UInt8} (n : Nat)
    (h : address < 0x40) : (bus.header direction address n).address = address := by
  unfold header
  split
  · rfl
  · rw [Header.address, Frame.address_command, Frame.and_addressMask h]

/-! ### One transfer -/

/-- Whether the next transfer in a direction fails. -/
def fails (bus : Bus) : Direction → Bool
  | .read => (countdown bus.readFault).1
  | .write => (countdown bus.writeFault).1

/-- The bus after a transfer in a direction was counted. -/
def counted (bus : Bus) : Direction → Bus
  | .read => { bus with readFault := (countdown bus.readFault).2 }
  | .write => { bus with writeFault := (countdown bus.writeFault).2 }

theorem transferIn_apply (header : Header) (place : Nat → UInt8) (n : Nat) (bus : Bus) :
    transferIn header place n bus =
      let bytes := ((bus.counted .read).prepare (place 0) n).chip.readRun place n
      if bus.fails .read then .error .communication ((bus.counted .read).record ⟨header, none⟩)
      else
        .ok bytes (((bus.counted .read).prepare (place 0) n).record ⟨header, some bytes.toList⟩) :=
  rfl

theorem transferOut_apply (header : Header) (place : Nat → UInt8) (data : List UInt8) (bus : Bus) :
    transferOut header place data bus =
      if bus.fails .write then .error .communication ((bus.counted .write).record ⟨header, none⟩)
      else
        .ok () ({ bus.counted .write with chip := bus.chip.writeRun place data }.record
          ⟨header, some data⟩) :=
  rfl

theorem transferIn_congr (header : Header) {place place' : Nat → UInt8} {n : Nat} (pos : 0 < n)
    (same : ∀ i < n, place i = place' i) :
    transferIn header place n = transferIn header place' n := by
  have run (f : RegisterFile) : f.readRun place n = f.readRun place' n :=
    Vector.ext fun i hi => by simp [same i hi]
  funext bus
  simp only [transferIn, run, same 0 pos]

/-- The chip answers a frame that is made for a read with its registers. -/
theorem readFrame_eq (address : UInt8) (n : Nat) :
    let command := Frame.command .read address n
    readFrame address n = transferIn (.framed command) (Frame.place command) n := by
  rw [readFrame, exchange, Frame.direction_command]

/-- The chip takes the bytes of a frame that is made for a write. -/
theorem writeFrame_eq (address : UInt8) (data : List UInt8) :
    let command := Frame.command .write address data.length
    writeFrame address data = transferOut (.framed command) (Frame.place command) data := by
  intro command
  funext bus
  rw [writeFrame, exchange, Frame.direction_command]
  show ((transferOut (.framed command) (Frame.place command) data >>= fun _ => Pure.pure _) >>=
    fun _ => Pure.pure ()) bus = _
  rw [bind_apply, bind_apply]
  cases transferOut (.framed command) (Frame.place command) data bus <;> rfl

theorem directPlace_lt {address : UInt8} {n i : Nat} (fits : address.toNat + n ≤ 0x40)
    (hi : i < n) : directPlace address i < 0x40 := by
  rw [directPlace, UInt8.lt_iff_toNat_lt]
  simp
  omega

/-- A read within the six address bits takes consecutive bytes in one transfer. -/
theorem read_apply {address : UInt8} {n : Nat} (pos : 0 < n) (fits : address.toNat + n ≤ 0x40)
    (bus : Bus) :
    Bus.read address n bus =
      transferIn (bus.header .read address n) (directPlace address) n bus := by
  have run : Bus.read address n bus = (match bus.transport with
    | .direct => readDirect address n
    | .spi => readFrame address n) bus := rfl
  rw [run]
  unfold header
  cases bus.transport with
  | direct => rfl
  | spi =>
    rw [readFrame_eq]
    exact congrFun (transferIn_congr _ pos fun i hi => Frame.place_command fits hi) bus

theorem writeRun_singleton (f : RegisterFile) (place : Nat → UInt8) (value : UInt8) :
    f.writeRun place [value] = f.write (place 0) value := rfl

/-- A write of one byte within the six address bits is one transfer to its address. -/
theorem write_apply {address : UInt8} (fits : address < 0x40) (value : UInt8) (bus : Bus) :
    Bus.write address [value] bus =
      transferOut (bus.header .write address 1) (directPlace address) [value] bus := by
  have run : Bus.write address [value] bus = (match bus.transport with
    | .direct => writeDirect address [value]
    | .spi => writeFrames address [value]) bus := rfl
  rw [run]
  unfold header
  cases bus.transport with
  | direct => rfl
  | spi =>
    have frames : Frame.split address [value] = [(address, [value])] := by
      rw [Frame.split]
      simp [Frame.maxLength]
    have place : Frame.place (Frame.command .write address 1) 0 = directPlace address 0 :=
      Frame.place_command (Nat.succ_le_of_lt (UInt8.lt_iff_toNat_lt.1 fits)) Nat.zero_lt_one
    have frame : writeFrames address [value] bus = writeFrame address [value] bus := by
      rw [writeFrames, frames]
      show (writeFrame address [value] >>= fun _ => Pure.pure ()) bus = _
      rw [bind_apply]
      cases writeFrame address [value] bus <;> rfl
    refine frame.trans ?_
    rw [writeFrame_eq]
    simp only [transferOut, writeRun_singleton, List.length_singleton, place]

/-! ### Accesses to registers -/

/-- The bus after a transfer was counted and noted, with the bytes that moved. -/
def noted (bus : Bus) (direction : Direction) (address : UInt8) (n : Nat)
    (data : Option (List UInt8)) : Bus :=
  (bus.counted direction).record ⟨bus.header direction address n, data⟩

section Noted

variable (bus : Bus) (direction : Direction) (address : UInt8) (n : Nat)
  (data : Option (List UInt8))

@[simp] theorem chip_noted : (bus.noted direction address n data).chip = bus.chip := by
  cases direction <;> rfl

@[simp] theorem waiting_noted : (bus.noted direction address n data).waiting = bus.waiting := by
  cases direction <;> rfl

@[simp] theorem transport_noted :
    (bus.noted direction address n data).transport = bus.transport := by
  cases direction <;> rfl

@[simp] theorem transfers_noted : (bus.noted direction address n data).transfers =
    bus.transfers ++ [⟨bus.header direction address n, data⟩] := by
  cases direction <;> rfl

end Noted

/-- A read of a register brings its value, or fails and brings nothing. -/
theorem readRegister_apply (r : Register) (bus : Bus) :
    readRegister r bus =
      if bus.fails .read then .error .communication (bus.noted .read r.addr 1 none)
      else .ok (bus.chip.read r.addr) (bus.noted .read r.addr 1 (some [bus.chip.read r.addr])) := by
  have fits : r.addr.toNat + 1 ≤ 0x40 := Nat.succ_le_of_lt (UInt8.lt_iff_toNat_lt.1 r.addr_lt)
  rw [readRegister, readAddress, bind_apply, read_apply Nat.zero_lt_one fits, transferIn_apply]
  have start : directPlace r.addr 0 = r.addr := UInt8.add_zero _
  have one : (bus.chip.readRun (directPlace r.addr) 1).toList = [bus.chip.read r.addr] := by
    simp [RegisterFile.readRun, Vector.toList_ofFn, start]
  have first : (bus.chip.readRun (directPlace r.addr) 1)[0] = bus.chip.read r.addr := by
    simp [start]
  cases bus.fails .read
  · show EStateM.Result.ok (bus.chip.readRun (directPlace r.addr) 1)[0]
      (bus.noted .read r.addr 1 (some (bus.chip.readRun (directPlace r.addr) 1).toList)) = _
    rw [one, first]
    rfl
  · rfl

/-- A write of a register replaces its value, or fails and replaces nothing. -/
theorem writeRegister_apply (r : Register) (value : UInt8) (bus : Bus) :
    writeRegister r value bus =
      if bus.fails .write then .error .communication (bus.noted .write r.addr 1 none)
      else
        let written := { bus with chip := bus.chip.write r.addr value }
        .ok () (written.noted .write r.addr 1 (some [value])) := by
  rw [writeRegister, writeAddress, write_apply r.addr_lt, transferOut_apply]
  have start : directPlace r.addr 0 = r.addr := UInt8.add_zero _
  rw [writeRun_singleton, start]
  cases bus.fails .write <;> rfl

/-- The measurements that wait tell what a read from an address on brings up: nothing, or the next
one of a channel. -/
theorem refill_cases (waiting : PerChannel (List (Axes Int16))) (address : UInt8) :
    (∀ bus : Bus, bus.waiting = waiting → bus.refill address = bus) ∨
      ∃ c raw rest, ∀ bus : Bus, bus.waiting = waiting →
        bus.refill address = { bus.present c raw with waiting := rest } := by
  unfold refill
  cases channelAt? address with
  | none => exact .inl fun _ _ => rfl
  | some c =>
    cases left : waiting.get c with
    | nil =>
      refine .inl fun bus same => ?_
      simp only [same, left]
    | cons raw rest =>
      refine .inr ⟨c, raw, waiting.set c rest, fun bus same => ?_⟩
      simp only [same, left]

@[simp] theorem transport_refill (bus : Bus) (address : UInt8) :
    (bus.refill address).transport = bus.transport := by
  obtain none | ⟨c, raw, rest, some⟩ := refill_cases bus.waiting address
  · rw [none bus rfl]
  · rw [some bus rfl]
    rfl

@[simp] theorem transfers_refill (bus : Bus) (address : UInt8) :
    (bus.refill address).transfers = bus.transfers := by
  obtain none | ⟨c, raw, rest, some⟩ := refill_cases bus.waiting address
  · rw [none bus rfl]
  · rw [some bus rfl]
    rfl

theorem refill_counted (bus : Bus) (direction : Direction) (address : UInt8) :
    (bus.counted direction).refill address = (bus.refill address).counted direction := by
  have same : (bus.counted direction).waiting = bus.waiting := by
    cases direction <;> rfl
  obtain none | ⟨c, raw, rest, some⟩ := refill_cases bus.waiting address
  · rw [none bus rfl, none _ same]
  · rw [some bus rfl, some _ same]
    cases direction <;> rfl

/-- A burst of a channel first brings up the next waiting measurement; or it fails, and nothing is
brought up. -/
theorem readBurst_apply (c : Channel) (bus : Bus) :
    readBurst c.status Burst.length bus =
      let start := c.status.addr
      if bus.fails .read then .error .communication (bus.noted .read start Burst.length none)
      else
        let filled := bus.refill start
        let bytes := filled.chip.readRun (directPlace start) Burst.length
        .ok bytes (filled.noted .read start Burst.length (some bytes.toList)) := by
  rw [readBurst, read_apply (by decide) (by cases c <;> decide), transferIn_apply]
  have start : directPlace c.status.addr 0 = c.status.addr := by
    cases c <;> rfl
  have prepared : (bus.counted .read).prepare (directPlace c.status.addr 0) Burst.length =
      (bus.refill c.status.addr).counted .read := by
    rw [prepare, if_pos (by decide), start, refill_counted]
  have header : (bus.refill c.status.addr).header .read c.status.addr Burst.length =
      bus.header .read c.status.addr Burst.length := by
    rw [Bus.header, Bus.header, transport_refill]
  rw [prepared, ← header]
  cases bus.fails .read
  · rfl
  · rw [header]
    rfl

/-! ### Counting transfers -/

/-- Whether a transfer wrote to an address: it started there, and it did not fail. -/
def Writes (address : UInt8) (t : Transfer) : Bool :=
  t.header.direction = .write ∧ t.header.address = address ∧ t.data.isSome

/-- How many transfers failed so far. -/
def failures (bus : Bus) : Nat := bus.transfers.countP fun t => t.data.isNone

/-- How many transfers wrote to an address so far. -/
def writes (bus : Bus) (address : UInt8) : Nat := bus.transfers.countP (Writes address)

theorem failures_noted (bus : Bus) (direction : Direction) (address : UInt8) (n : Nat)
    (data : Option (List UInt8)) : (bus.noted direction address n data).failures =
      bus.failures + if data.isNone then 1 else 0 := by
  rw [failures, transfers_noted, List.countP_append, List.countP_singleton]
  rfl

theorem writes_noted_read (bus : Bus) (address : UInt8) (n : Nat) (data : Option (List UInt8)) :
    (bus.noted .read address n data).writes = bus.writes := by
  funext a
  rw [writes, writes, transfers_noted, List.countP_append, List.countP_singleton]
  simp [Writes]

theorem writes_noted_write (bus : Bus) {address : UInt8} (h : address < 0x40) (n : Nat)
    (data : Option (List UInt8)) (a : UInt8) : (bus.noted .write address n data).writes a =
      bus.writes a + if address = a ∧ data.isSome then 1 else 0 := by
  rw [writes, transfers_noted, List.countP_append, List.countP_singleton]
  simp [writes, Writes, address_header _ _ _ h]

/-! ### Reading -/

/-- From one bus to the other the chip was only read: its registers have changed in the outputs at
most, and nothing was written. -/
structure Reads (bus next : Bus) : Prop where
  /-- Registers that are no outputs keep their values. -/
  chip : ∀ a, (∀ c : Channel, a ∉ c.outputs) → next.chip.read a = bus.chip.read a
  /-- Some more transfers may have failed. -/
  failures : bus.failures ≤ next.failures
  /-- No transfer has written. -/
  writes : next.writes = bus.writes

instance : IsPreorder Bus Reads where
  refl _ := ⟨fun _ _ => rfl, Nat.le_refl _, rfl⟩
  trans _ _ _ h h' :=
    ⟨fun a ha => (h'.chip a ha).trans (h.chip a ha), Nat.le_trans h.failures h'.failures,
      h'.writes.trans h.writes⟩

theorem reads_noted (bus : Bus) (address : UInt8) (n : Nat) (data : Option (List UInt8)) :
    bus.Reads (bus.noted .read address n data) where
  chip _ _ := by rw [chip_noted]
  failures := by
    rw [failures_noted]
    exact Nat.le_add_right ..
  writes := writes_noted_read ..

theorem chip_present (bus : Bus) {c : Channel} (raw : Axes Int16) {a : UInt8} (h : a ∉ c.outputs) :
    (bus.present c raw).chip.read a = bus.chip.read a :=
  RegisterFile.read_writeRun_of_ne _ _ _ fun i hi e =>
    h (List.mem_map.2 ⟨i, List.mem_range.2 hi, e.symm⟩)

theorem reads_refill (bus : Bus) (address : UInt8) : bus.Reads (bus.refill address) := by
  obtain none | ⟨c, raw, rest, some⟩ := refill_cases bus.waiting address
  · rw [none bus rfl]
    exact refl_of Reads bus
  · rw [some bus rfl]
    exact ⟨fun a ha => chip_present bus raw (ha c), Nat.le_refl _, rfl⟩

/-- A transfer failed, and nothing else has happened. -/
structure Failed (bus next : Bus) : Prop where
  /-- The chip is as it was. -/
  chip : next.chip = bus.chip
  /-- One more transfer has failed. -/
  failures : next.failures = bus.failures + 1
  /-- No transfer has written. -/
  writes : next.writes = bus.writes

/-- Reading a register brings its value and leaves the chip as it is. -/
theorem readRegister_ends (r : Register) (bus : Bus) :
    Ends (readRegister r) bus
      (fun value next => value = bus.chip.read r.addr ∧ next.chip = bus.chip ∧
        next.failures = bus.failures ∧ next.writes = bus.writes)
      (fun _ next => bus.Failed next) := by
  rw [Ends, readRegister_apply]
  cases bus.fails .read
  · exact ⟨rfl, chip_noted .., failures_noted .., writes_noted_read ..⟩
  · exact ⟨chip_noted .., failures_noted .., writes_noted_read ..⟩

theorem readRegister_reads (r : Register) : Within Reads (readRegister r) := by
  intro bus
  rw [Ends, readRegister_apply]
  cases bus.fails .read <;> exact reads_noted ..

theorem readBurst_reads (c : Channel) : Within Reads (readBurst c.status Burst.length) := by
  intro bus
  rw [Ends, readBurst_apply]
  cases bus.fails .read
  · exact trans_of Reads (reads_refill ..) (reads_noted ..)
  · exact reads_noted ..

theorem readAll_reads (registers : List Register) :
    Within Reads (RegisterDump.readAll registers) := by
  induction registers with
  | nil => exact .pure _
  | cons r rest ih => exact (readRegister_reads r).bind fun _ => ih.bind fun _ => .pure _

theorem capture_reads (expected : Expected) (now : Nat) :
    Within Reads (RegisterDump.capture expected now) :=
  (readAll_reads _).bind fun _ => .pure _

/-! ### Writing -/

/-- One register was written. -/
structure Wrote (bus : Bus) (r : Register) (value : UInt8) (next : Bus) : Prop where
  /-- The register holds the value, and the others are as they were. -/
  chip : next.chip = bus.chip.write r.addr value
  /-- No transfer has failed. -/
  failures : next.failures = bus.failures
  /-- One more transfer has written to the register. -/
  writes : ∀ a, next.writes a = bus.writes a + if r.addr = a then 1 else 0

/-- Writing a register replaces its value; if the transfer fails, the chip stays as it is. -/
theorem writeRegister_ends (r : Register) (value : UInt8) (bus : Bus) :
    Ends (writeRegister r value) bus (fun _ next => bus.Wrote r value next)
      (fun _ next => bus.Failed next) := by
  rw [Ends, writeRegister_apply]
  cases bus.fails .write
  · refine ⟨chip_noted .., failures_noted .., fun a => ?_⟩
    rw [writes_noted_write _ r.addr_lt]
    simp [writes]
  · refine ⟨chip_noted .., failures_noted .., funext fun a => ?_⟩
    rw [writes_noted_write _ r.addr_lt]
    simp

/-- An update writes back what it has read and changed. -/
theorem update_ends (u : RegisterUpdate) (bus : Bus) :
    Ends (update u) bus
      (fun _ next => bus.Wrote u.register (u.apply (bus.chip.read u.register.addr)) next)
      (fun _ next => bus.Failed next) := by
  refine (readRegister_ends u.register bus).bind ?_
  rintro value mid ⟨rfl, chip, failures, writes⟩
  refine (writeRegister_ends u.register _ mid).mono (fun _ next h => ?_) fun _ next h => ?_
  · exact ⟨by rw [h.chip, chip], h.failures.trans failures, fun a => by rw [h.writes, writes]⟩
  · exact ⟨h.chip.trans chip, by rw [h.failures, failures], h.writes.trans writes⟩

end Bus

end ECompass
