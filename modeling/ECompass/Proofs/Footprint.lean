import ECompass.Proofs.Chronicle
import ECompass.Proofs.PowerLoss

/-!
# The footprint of the driver

The driver writes to nine of the registers, one byte at a time, and of some of them it drives only a
few bits (`drivenBits`): it reads the register, changes these bits and writes the others back. All
other bits are the outside world's. To tell what that means over a whole run, the transfers of the
driver are played on a second bus, on which its reads bring up waiting measurements as they do on
the first one and its writes have no effect (`Bus.observe`). Such a bus shadows the first one if the
two chips differ in driven bits at most (`Bus.Shadows`), and it does so after every transfer of the
driver if it did before (`Bus.Made`).

A bus program is judged by the transfers it makes: they only look, or they also write in this way.
From there on this is said of the parts of operations, of reset, of measurements that start none,
and of requests.
-/

namespace ECompass

open Program Operation

/-! ### Driven bits -/

/-- The addresses that the driver writes to. -/
def drivenAddresses : List UInt8 := [0x02, 0x15, 0x20, 0x21, 0x22, 0x23, 0x24, 0x25, 0x26]

/-- The bits of the byte at an address that the driver gives values of its own. -/
def drivenBits (a : UInt8) : UInt8 :=
  if a = 0x02 then 0x18
  else if a = 0x15 then 0x80
  else if a = 0x21 then 0xF8
  else if a = 0x25 then 0x60
  else if a ∈ drivenAddresses then 0xFF
  else 0

theorem mem_drivenAddresses_iff {a : UInt8} : a ∈ drivenAddresses ↔
    a = 0x02 ∨ a = 0x15 ∨ a = 0x20 ∨ a = 0x21 ∨ a = 0x22 ∨ a = 0x23 ∨ a = 0x24 ∨ a = 0x25 ∨
      a = 0x26 := by
  simp [drivenAddresses]

/-- No bit is driven of a register that the driver does not write to. -/
theorem drivenBits_of_not_mem {a : UInt8} (h : a ∉ drivenAddresses) : drivenBits a = 0 := by
  have others := h
  simp only [mem_drivenAddresses_iff, not_or] at others
  simp [drivenBits, others, h]

/-- Two files hold the same bits, but for driven ones. -/
def RegisterFile.SameUndriven (f g : RegisterFile) : Prop :=
  ∀ a, f.read a &&& ~~~drivenBits a = g.read a &&& ~~~drivenBits a

namespace RegisterFile.SameUndriven

variable {f g h : RegisterFile}

theorem refl (f : RegisterFile) : f.SameUndriven f := fun _ => rfl

theorem trans (first : f.SameUndriven g) (second : g.SameUndriven h) : f.SameUndriven h :=
  fun a => (first a).trans (second a)

/-- The same byte may be put into both files. -/
theorem write (same : f.SameUndriven g) (a value : UInt8) :
    (f.write a value).SameUndriven (g.write a value) := by
  intro b
  rw [read_write, read_write]
  split
  · rfl
  · exact same b

theorem writeRun (same : f.SameUndriven g) (place : Nat → UInt8) (values : List UInt8) :
    (f.writeRun place values).SameUndriven (g.writeRun place values) := by
  induction values generalizing f g place with
  | nil => exact same
  | cons value rest ih => exact ih (same.write _ value) _

theorem writeEach (same : f.SameUndriven g) (values : List (UInt8 × UInt8)) :
    (f.writeEach values).SameUndriven (g.writeEach values) := by
  induction values generalizing f g with
  | nil => exact same
  | cons value rest ih => exact ih (same.write value.1 value.2)

/-- A byte that keeps the bits that are not driven may be put into one of them. -/
theorem write_right (same : f.SameUndriven g) {a value : UInt8}
    (keeps : value &&& ~~~drivenBits a = g.read a &&& ~~~drivenBits a) :
    f.SameUndriven (g.write a value) := by
  intro b
  rw [read_write]
  split
  · subst b
    exact (same a).trans keeps.symm
  · exact same b

end RegisterFile.SameUndriven

/-- An update is the driver's own: of a register that it writes to it changes driven bits. -/
structure RegisterUpdate.Own (u : RegisterUpdate) : Prop where
  /-- The driver writes to the register. -/
  address : u.register.addr ∈ drivenAddresses
  /-- The bits that are cleared are driven. -/
  clear : u.clear &&& ~~~drivenBits u.register.addr = 0
  /-- The bits that are set are driven. -/
  set : u.set &&& ~~~drivenBits u.register.addr = 0

instance (u : RegisterUpdate) : Decidable u.Own :=
  decidable_of_iff (u.register.addr ∈ drivenAddresses ∧
      u.clear &&& ~~~drivenBits u.register.addr = 0 ∧ u.set &&& ~~~drivenBits u.register.addr = 0)
    ⟨fun h => ⟨h.1, h.2.1, h.2.2⟩, fun h => ⟨h.address, h.clear, h.set⟩⟩

theorem own_of_mem_interfaceUpdates : ∀ u ∈ interfaceUpdates, u.Own := by decide

/-- An update that sets bits of its field changes no bits outside. -/
theorem RegisterUpdate.own_of_fits {u : RegisterUpdate} (fits : u.Fits)
    (address : u.register.addr ∈ drivenAddresses)
    (clear : u.clear &&& ~~~drivenBits u.register.addr = 0) : u.Own where
  address := address
  clear := clear
  set := by rw [← byte_and_of_within fits, UInt8.and_assoc, clear, UInt8.and_zero]

/-- The settings lie in driven bits. -/
theorem Config.own_update (config : Config) (field : Field) : (config.update field).Own := by
  refine RegisterUpdate.own_of_fits (config.fits_update field) ?_ ?_
  · cases field <;> exact of_decide_eq_true rfl
  · have accelRange : Setting.mask AccelRange &&& ~~~drivenBits Register.ctrl2.addr = 0 := by decide
    have accelRate : Setting.mask AccelRate &&& ~~~drivenBits Register.ctrl1.addr = 0 := by decide
    have antiAlias : Setting.mask AntiAlias &&& ~~~drivenBits Register.ctrl2.addr = 0 := by decide
    have magRange : Setting.mask MagRange &&& ~~~drivenBits Register.ctrl6.addr = 0 := by decide
    have magRate : Setting.mask MagRate &&& ~~~drivenBits Register.ctrl5.addr = 0 := by decide
    cases field with
    | accelRange => exact accelRange
    | accelRate => exact accelRate
    | antiAlias => exact antiAlias
    | magRange => exact magRange
    | magRate => exact magRate

/-! ### Shadows -/

namespace Bus

/-- A second bus has the same measurements waiting and a chip with the same bits, but for driven
ones. -/
structure Shadows (world bus : Bus) : Prop where
  /-- The chips. -/
  chip : world.chip.SameUndriven bus.chip
  /-- The measurements that wait. -/
  waiting : world.waiting = bus.waiting

theorem Shadows.refl (bus : Bus) : bus.Shadows bus := ⟨.refl _, rfl⟩

theorem Shadows.refill {world bus : Bus} (h : world.Shadows bus) (start : UInt8) :
    (world.refill start).Shadows (bus.refill start) := by
  obtain none | ⟨c, raw, rest, some⟩ := refill_cases bus.waiting start
  · rwa [none bus rfl, none world h.waiting]
  · rw [some bus rfl, some world h.waiting]
    exact ⟨h.chip.writeRun _ _, rfl⟩

/-- The chip and what waits are all that a shadow depends on. -/
theorem Shadows.congr {world bus next : Bus} (h : world.Shadows bus) (chip : next.chip = bus.chip)
    (waiting : next.waiting = bus.waiting) : world.Shadows next :=
  ⟨chip ▸ h.chip, h.waiting.trans waiting.symm⟩

end Bus

/-! ### Transfers -/

namespace Transfer

/-- Whether a transfer was to write. -/
def isWrite (t : Transfer) : Bool := t.header.direction = .write

/-- The transfer was to write a single byte to a register that the driver writes to. -/
def WritesByte (t : Transfer) : Prop :=
  ∃ a ∈ drivenAddresses,
    (t.header = .direct .write a 1 ∨ t.header = .framed (Frame.command .write a 1)) ∧
      ∀ bytes, t.data = some bytes → bytes.length = 1

end Transfer

namespace Bus

/-- A bus after a transfer of the driver that may read from it but not write to it. -/
def observe (world : Bus) (t : Transfer) : Bus :=
  match t.data with
  | some bytes => if t.isWrite then world else world.prepare t.header.address bytes.length
  | none => world

@[simp] theorem isWrite_mk_header (bus : Bus) (direction : Direction) (address : UInt8) (n : Nat)
    (data : Option (List UInt8)) :
    Transfer.isWrite ⟨bus.header direction address n, data⟩ = decide (direction = .write) := by
  rw [Transfer.isWrite, direction_header]

/-- From one bus to the other the driver made the transfers, and they have the driver's
footprint. -/
structure Made (bus : Bus) (made : List Transfer) (next : Bus) : Prop where
  /-- The transfers were made. -/
  transfers : next.transfers = bus.transfers ++ made
  /-- The driver writes single bytes to its own registers. -/
  writes : ∀ t ∈ made, t.isWrite → t.WritesByte
  /-- Nothing has changed but driven bits and what reads bring up. -/
  shadows : ∀ world : Bus, world.Shadows bus → (made.foldl observe world).Shadows next

theorem Made.nil (bus : Bus) : bus.Made [] bus where
  transfers := (List.append_nil _).symm
  writes _ h := absurd h List.not_mem_nil
  shadows _ h := h

theorem Made.append {bus mid next : Bus} {first second : List Transfer} (h : bus.Made first mid)
    (h' : mid.Made second next) : bus.Made (first ++ second) next where
  transfers := by rw [h'.transfers, h.transfers, List.append_assoc]
  writes t ht := (List.mem_append.mp ht).elim (h.writes t) (h'.writes t)
  shadows world hw := by
    rw [List.foldl_append]
    exact h'.shadows _ (h.shadows world hw)

/-- From one bus to the other the driver made transfers with its footprint. -/
def Driven (bus next : Bus) : Prop := ∃ made, bus.Made made next

/-- From one bus to the other the driver made transfers that do not write. -/
def Looked (bus next : Bus) : Prop := ∃ made, bus.Made made next ∧ ∀ t ∈ made, t.isWrite = false

instance : IsPreorder Bus Driven where
  refl bus := ⟨[], .nil bus⟩
  trans := by
    rintro bus mid next ⟨first, h⟩ ⟨second, h'⟩
    exact ⟨first ++ second, h.append h'⟩

instance : IsPreorder Bus Looked where
  refl bus := ⟨[], .nil bus, fun _ h => absurd h List.not_mem_nil⟩
  trans := by
    rintro bus mid next ⟨first, h, look⟩ ⟨second, h', look'⟩
    exact ⟨first ++ second, h.append h', fun t ht =>
      (List.mem_append.mp ht).elim (look t) (look' t)⟩

theorem Looked.driven {bus next : Bus} (h : bus.Looked next) : bus.Driven next := by
  obtain ⟨made, h, -⟩ := h
  exact ⟨made, h⟩

/-! ### Accesses -/

/-- A read of some bytes, of which `next` is the bus as it was found, only looks. -/
theorem looked_noted {bus next : Bus} {address : UInt8} {n : Nat} {data : Option (List UInt8)}
    (transfers : next.transfers = bus.transfers)
    (shadows : ∀ world : Bus, world.Shadows bus →
      (world.observe ⟨next.header .read address n, data⟩).Shadows next) :
    bus.Looked (next.noted .read address n data) := by
  refine ⟨[⟨next.header .read address n, data⟩], ?_, fun t ht => ?_⟩
  · refine ⟨?_, fun t ht write => ?_, fun world hw => ?_⟩
    · rw [transfers_noted, transfers]
    · rw [List.mem_singleton.mp ht, isWrite_mk_header] at write
      cases write
    · exact (shadows world hw).congr (chip_noted ..) (waiting_noted ..)
  · rw [List.mem_singleton.mp ht, isWrite_mk_header]
    rfl

theorem readRegister_looked (r : Register) : Within Looked (readRegister r) := by
  intro bus
  rw [Ends, readRegister_apply]
  have single (world : Bus) (value : UInt8) :
      world.observe ⟨bus.header .read r.addr 1, some [value]⟩ = world := by
    simp [observe, prepare]
  cases bus.fails .read
  · exact looked_noted rfl fun world hw => by rwa [single]
  · exact looked_noted rfl fun world hw => hw

theorem readBurst_looked (c : Channel) : Within Looked (readBurst c.status Burst.length) := by
  intro bus
  rw [Ends, readBurst_apply]
  cases bus.fails .read
  · refine looked_noted (transfers_refill ..) fun world hw => ?_
    have start : (((bus.refill c.status.addr).header .read c.status.addr Burst.length)).address =
        c.status.addr := address_header _ _ _ c.status.addr_lt
    have observed (bytes : Vector UInt8 Burst.length) :
        world.observe ⟨(bus.refill c.status.addr).header .read c.status.addr Burst.length,
          some bytes.toList⟩ = world.refill c.status.addr := by
      simp only [observe, isWrite_mk_header, prepare, start, Vector.length_toList]
      rfl
    rw [observed]
    exact hw.refill _
  · exact looked_noted rfl fun world hw => hw

theorem readAll_looked (registers : List Register) :
    Within Looked (RegisterDump.readAll registers) := by
  induction registers with
  | nil => exact .pure _
  | cons r rest ih => exact (readRegister_looked r).bind fun _ => ih.bind fun _ => .pure _

theorem capture_looked (expected : Expected) (now : Nat) :
    Within Looked (RegisterDump.capture expected now) :=
  (readAll_looked _).bind fun _ => .pure _

/-- A write of a register leaves the driver's footprint if the value gives back the bits that are
not driven. -/
theorem writeRegister_driven {r : Register} {value : UInt8} {bus : Bus}
    (address : r.addr ∈ drivenAddresses)
    (keeps : value &&& ~~~drivenBits r.addr = bus.chip.read r.addr &&& ~~~drivenBits r.addr) :
    Ends (writeRegister r value) bus (fun _ next => bus.Driven next)
      fun _ next => bus.Driven next := by
  have byte (data : Option (List UInt8)) (one : ∀ bytes, data = some bytes → bytes.length = 1) :
      Transfer.WritesByte ⟨bus.header .write r.addr 1, data⟩ := by
    refine ⟨r.addr, address, ?_, one⟩
    unfold header
    split
    · exact .inl rfl
    · exact .inr rfl
  -- a write is not played on the shadow, and puts nothing but driven bits on the chip
  have played (world : Bus) (data : Option (List UInt8)) :
      world.observe ⟨bus.header .write r.addr 1, data⟩ = world := by
    cases data <;> simp [observe]
  have made {next : Bus} {data : Option (List UInt8)}
      (one : ∀ bytes, data = some bytes → bytes.length = 1)
      (header : next.header = bus.header) (transfers : next.transfers = bus.transfers)
      (shadows : ∀ world : Bus, world.Shadows bus → world.Shadows next) :
      bus.Driven (next.noted .write r.addr 1 data) := by
    refine ⟨[⟨bus.header .write r.addr 1, data⟩], ?_, fun t ht _ => ?_, fun world hw => ?_⟩
    · rw [transfers_noted, transfers, header]
    · rw [List.mem_singleton.mp ht]
      exact byte data one
    · rw [List.foldl_cons, List.foldl_nil, played]
      exact (shadows world hw).congr (chip_noted ..) (waiting_noted ..)
  rw [Ends, writeRegister_apply]
  cases bus.fails .write
  · refine made (fun bytes some => ?_) rfl rfl fun world hw =>
      ⟨hw.chip.write_right keeps, hw.waiting⟩
    cases some
    rfl
  · refine made (fun bytes some => ?_) rfl rfl fun world hw => hw
    cases some

/-- A write of a whole register that is the driver's leaves its footprint. -/
theorem writeRegister_whole_driven {r : Register} (whole : drivenBits r.addr = 0xFF)
    (address : r.addr ∈ drivenAddresses) (value : UInt8) :
    Within Driven (writeRegister r value) := by
  intro bus
  refine writeRegister_driven address ?_
  have none : ~~~(0xFF : UInt8) = 0 := by decide
  rw [whole, none, UInt8.and_zero, UInt8.and_zero]

/-- An update of the driver's own leaves its footprint. -/
theorem update_driven {u : RegisterUpdate} (own : u.Own) : Within Driven (update u) := by
  intro bus
  have read := (readRegister_ends u.register bus).and (readRegister_looked u.register bus)
  refine (read.mono (fun _ _ h => h) fun _ _ h => h.2.driven).bind ?_
  rintro value mid ⟨⟨rfl, chip, -, -⟩, looked⟩
  have keeps : u.apply (bus.chip.read u.register.addr) &&& ~~~drivenBits u.register.addr =
      mid.chip.read u.register.addr &&& ~~~drivenBits u.register.addr := by
    rw [chip, RegisterUpdate.apply_and_of_apart own.clear own.set]
  exact (writeRegister_driven own.address keeps).mono
    (fun _ _ h => trans_of Driven looked.driven h) fun _ _ h => trans_of Driven looked.driven h

end Bus

/-! ### Operations -/

/-- A relation of buses, as one of rigs. -/
def Over (S : Bus → Bus → Prop) (rig next : Rig) : Prop := S rig.bench.bus next.bench.bus

instance (S : Bus → Bus → Prop) [IsPreorder Bus S] : IsPreorder Rig (Over S) where
  refl rig := refl_of S rig.bench.bus
  trans _ _ _ h h' := trans_of S h h'

section Over

variable {α : Type} {S : Bus → Bus → Prop}

theorem onBus_over {program : BusM α} (h : Within S program) : Within (Over S) (onBus program) :=
  fun rig => onBus_ends ((h rig.bench.bus).mono (fun _ _ moved => moved) fun _ _ moved => moved)

/-- What does not reach the bus leaves it as it is. -/
theorem driver_over [IsPreorder Bus S] : Within (Over S) driver := fun rig => refl_of (Over S) rig

theorem onDriver_over [IsPreorder Bus S] (f : Driver → Driver) : Within (Over S) (onDriver f) :=
  fun rig => refl_of S rig.bench.bus

end Over

theorem isHealthy_looked (c : Channel) : Within (Over Bus.Looked) (isHealthy c) :=
  (onBus_over (Bus.readRegister_looked _)).bind fun _ => driver_over.bind fun _ => .pure _

/-- A register dump that may go with a record only looks. -/
theorem Rig.dump_looked (rig : Rig) (s : Sample) : rig.bench.bus.Looked (rig.dump s).2 := by
  unfold dump
  split
  · split
    · exact (Bus.capture_looked _ _).of_ok ‹_›
    · exact (Bus.capture_looked _ _).of_error ‹_›
  · exact refl_of Bus.Looked _

theorem commit_looked (c : Channel) (raw : Axes Int16) :
    Within (Over Bus.Looked) (commit c raw) := by
  intro rig
  rw [Ends, commit_eq_ok]
  cases c with
  | accel => exact Rig.dump_looked _ _
  | mag => exact refl_of Bus.Looked _

theorem acquire_looked (c : Channel) : Within (Over Bus.Looked) (acquire c) :=
  Within.bind ((onBus_over (Bus.readBurst_looked c)).bind fun _ => .pure _) fun _ =>
    (commit_looked c _).bind fun _ => .pure _

theorem putOff_looked (c : Channel) : Within (Over Bus.Looked) (putOff c) := by
  intro rig
  rw [Ends, putOff_apply]
  exact refl_of Bus.Looked _

/-- A measurement that starts no reset does not write. -/
theorem measure_looked {c : Channel} {rig : Rig} (h : recovery? c rig = none) :
    Ends (measure c) rig (fun _ next => Over Bus.Looked rig next)
      fun _ next => Over Bus.Looked rig next :=
  measure_within_of_recovery?_eq_none (isHealthy_looked c) (acquire_looked c) (putOff_looked c) h

theorem connect_looked : Within (Over Bus.Looked) connect := by
  have identity : Within (Over Bus.Looked) readIdentity := onBus_over (Bus.readRegister_looked _)
  refine identity.bind fun _ => identity.bind fun _ => ?_
  split
  · exact .throw _
  · exact .pure _

/-! ### Programming -/

theorem applyUpdate_driven {u : RegisterUpdate} (own : u.Own) :
    Within (Over Bus.Driven) (applyUpdate u) :=
  (onBus_over (Bus.update_driven own)).bind fun _ => onDriver_over _

theorem programControl_driven (c : Channel) : Within (Over Bus.Driven) (programControl c) := by
  have whole : drivenBits c.control.addr = 0xFF := by cases c <;> decide
  have address : c.control.addr ∈ drivenAddresses := by cases c <;> decide
  exact driver_over.bind fun _ =>
    (onBus_over (Bus.writeRegister_whole_driven whole address _)).bind fun _ => onDriver_over _

theorem programSettings_driven (c : Channel) : Within (Over Bus.Driven) (programSettings c) := by
  refine driver_over.bind fun d => Within.forM fun u hu => ?_
  obtain ⟨field, -, rfl⟩ := List.mem_map.mp hu
  exact applyUpdate_driven (d.config.own_update field)

theorem reset_driven : Within (Over Bus.Driven) reset := by
  have write {r : Register} (whole : drivenBits r.addr = 0xFF) (address : r.addr ∈ drivenAddresses)
      (value : UInt8) : Within (Over Bus.Driven) (onBus (Bus.writeRegister r value)) :=
    onBus_over (Bus.writeRegister_whole_driven whole address value)
  have interface : Within (Over Bus.Driven) (onBus (interfaceUpdates.forM Bus.update)) :=
    onBus_over (Within.forM fun u hu => Bus.update_driven (own_of_mem_interfaceUpdates u hu))
  exact interface.bind fun _ => (programControl_driven .accel).bind fun _ =>
    (programControl_driven .mag).bind fun _ => (write (by decide) (by decide) _).bind fun _ =>
    (write (by decide) (by decide) _).bind fun _ => (write (by decide) (by decide) _).bind fun _ =>
    (programSettings_driven .accel).bind fun _ => (onDriver_over _).bind fun _ =>
    (programSettings_driven .mag).bind fun _ => onDriver_over _

theorem requestSetting_driven (field : Field) (n : Nat) :
    Within (Over Bus.Driven) (requestSetting field n) := by
  refine driver_over.bind fun d => ?_
  split
  · exact .throw _
  · exact (onDriver_over _).bind fun _ => applyUpdate_driven (Config.own_update _ field)

end ECompass
