import ECompass.Proofs.Footprint
import Mathlib.Logic.Relation

/-!
# What a reset comes to

A reset is some twenty transfers, several of them to one register, and any of them may fail. What it
carries out is a list of register updates that depends on the configuration alone
(`Config.resetUpdates`), as far as it gets (`Carries`). For each address the list comes to a
function of the byte that was there (`Config.resetByte`), and this function looks at the bits only
that no update of the list touches. So the list has the same outcome on any two chips that hold the
same such bits: on a chip that was just reset, and on one that a reset was interrupted on.
-/

namespace ECompass

open Program Operation

/-! ### Updates of a file -/

namespace RegisterFile

/-- The registers after an update. -/
def update (f : RegisterFile) (u : RegisterUpdate) : RegisterFile :=
  f.write u.register.addr (u.apply (f.read u.register.addr))

/-- The registers after some updates in order. -/
def updateAll (f : RegisterFile) (us : List RegisterUpdate) : RegisterFile := us.foldl update f

theorem updateAll_append (f : RegisterFile) (us vs : List RegisterUpdate) :
    f.updateAll (us ++ vs) = (f.updateAll us).updateAll vs := List.foldl_append

/-- The byte at an address after some updates: those of its register have been applied to it. -/
theorem read_updateAll (f : RegisterFile) (us : List RegisterUpdate) (a : UInt8) :
    (f.updateAll us).read a =
      (us.filter fun u => u.register.addr = a).foldl (fun value u => u.apply value) (f.read a) := by
  induction us generalizing f with
  | nil => rfl
  | cons u us ih =>
    have rest : (f.updateAll (u :: us)).read a = _ := ih (f.update u)
    rw [rest, update, read_write]
    by_cases own : u.register.addr = a
    · simp [own]
    · simp [own, Ne.symm own]

/-- Updates of the driver's own leave the bits that are not driven. -/
theorem updateAll_sameUndriven (f : RegisterFile) {us : List RegisterUpdate}
    (own : ∀ u ∈ us, u.Own) : f.SameUndriven (f.updateAll us) := by
  induction us generalizing f with
  | nil => exact .refl f
  | cons u us ih =>
    have first := own u List.mem_cons_self
    have updated : f.SameUndriven (f.update u) :=
      (SameUndriven.refl f).write_right (RegisterUpdate.apply_and_of_apart first.clear first.set _)
    exact updated.trans (ih (f.update u) fun v hv => own v (List.mem_cons_of_mem u hv))

end RegisterFile

/-! ### The updates of a reset -/

namespace Config

/-- The value that a reset writes to the control register of a channel. -/
def control (config : Config) : Channel → UInt8
  | .accel => accelEnables ||| Setting.bits config.accelRate
  | .mag => magContinuous

/-- The updates that a reset carries out, in order. -/
def resetUpdates (config : Config) : List RegisterUpdate :=
  interfaceUpdates ++
    [.whole Channel.accel.control (config.control .accel),
      .whole Channel.mag.control (config.control .mag), .whole .ctrl5 magHighResolution,
      .whole .ctrl3 accelReadyRouting, .whole .ctrl4 magReadyRouting] ++
    config.updates .accel ++ config.updates .mag

/-- The byte at an address after a reset, from the byte before it. -/
def resetByte (config : Config) (a old : UInt8) : UInt8 :=
  if a = 0x02 then old &&& ~~~0x18
  else if a = 0x15 then old ||| 0x80
  else if a = 0x20 then 0x0F ||| Setting.bits config.accelRate
  else if a = 0x21 then
    (old &&& 0x07) ||| Setting.bits config.accelRange ||| Setting.bits config.antiAlias
  else if a = 0x22 ∨ a = 0x23 then 0x04
  else if a = 0x24 then 0x60 ||| Setting.bits config.magRate
  else if a = 0x25 then (old &&& ~~~0x60) ||| Setting.bits config.magRange
  else if a = 0x26 then 0
  else old

/-- All of them are the driver's own. -/
theorem own_of_mem_resetUpdates (config : Config) : ∀ u ∈ config.resetUpdates, u.Own := by
  have whole {r : Register} (address : r.addr ∈ drivenAddresses) (bits : drivenBits r.addr = 0xFF)
      (value : UInt8) : (RegisterUpdate.whole r value).Own :=
    RegisterUpdate.own_of_fits (RegisterUpdate.fits_whole r value) address
      ((congrArg (0xFF &&& ~~~·) bits).trans (by decide))
  have settings (c : Channel) : ∀ u ∈ config.updates c, u.Own := by
    intro u hu
    obtain ⟨field, -, rfl⟩ := List.mem_map.mp hu
    exact config.own_update field
  intro u hu
  rcases List.mem_append.mp hu with hu | hu
  · rcases List.mem_append.mp hu with hu | hu
    · rcases List.mem_append.mp hu with hu | hu
      · exact own_of_mem_interfaceUpdates u hu
      · simp only [List.mem_cons, List.not_mem_nil, or_false] at hu
        rcases hu with rfl | rfl | rfl | rfl | rfl <;> exact whole (by decide) (by decide) _
    · exact settings .accel u hu
  · exact settings .mag u hu

/-- Switching the bits of the first interface register on and off in turn leaves two of them off. -/
theorem apply_i2cControl1 (old : UInt8) :
    (⟨.i2cControl1, 0x18, 0x00⟩ : RegisterUpdate).apply
      ((⟨.i2cControl1, 0x08, 0x00⟩ : RegisterUpdate).apply
        ((⟨.i2cControl1, 0x00, 0x10⟩ : RegisterUpdate).apply old)) = old &&& ~~~0x18 := by
  have full : ~~~(0x00 : UInt8) = -1 := by decide
  have both : ~~~(0x08 : UInt8) &&& ~~~0x18 = ~~~0x18 := by decide
  have bit : (0x10 : UInt8) &&& ~~~0x18 = 0 := by decide
  simp only [RegisterUpdate.apply, full, UInt8.and_neg_one, UInt8.or_zero]
  rw [UInt8.and_assoc, both, byte_or_and, bit, UInt8.or_zero]

theorem apply_i2cControl2 (old : UInt8) :
    (⟨.i2cControl2, 0x00, 0x80⟩ : RegisterUpdate).apply old = old ||| 0x80 := by
  have full : ~~~(0x00 : UInt8) = -1 := by decide
  rw [RegisterUpdate.apply, full, UInt8.and_neg_one]

/-- Range and bandwidth of the accelerometer share a register with three other bits. -/
theorem apply_ctrl2 (range : AccelRange) (bandwidth : AntiAlias) (old : UInt8) :
    (RegisterUpdate.program bandwidth).apply ((RegisterUpdate.program range).apply old) =
      (old &&& 0x07) ||| Setting.bits range ||| Setting.bits bandwidth := by
  have others : ~~~Setting.mask AccelRange &&& ~~~Setting.mask AntiAlias = 0x07 := by decide
  have apart : Setting.bits range &&& ~~~Setting.mask AntiAlias = Setting.bits range := by
    cases range <;> decide
  simp only [RegisterUpdate.apply, RegisterUpdate.program]
  rw [byte_or_and, UInt8.and_assoc, others, apart]

/-- A register that the driver does not write to keeps its byte. -/
theorem resetByte_of_not_mem (config : Config) {a : UInt8} (h : a ∉ drivenAddresses)
    (old : UInt8) : config.resetByte a old = old := by
  simp only [mem_drivenAddresses_iff, not_or] at h
  simp [resetByte, h]

/-- What the updates of one register come to. -/
theorem foldl_resetUpdates (config : Config) (a old : UInt8) :
    (config.resetUpdates.filter fun u => u.register.addr = a).foldl
      (fun value u => u.apply value) old = config.resetByte a old := by
  by_cases driven : a ∈ drivenAddresses
  · rcases mem_drivenAddresses_iff.mp driven with
      rfl | rfl | rfl | rfl | rfl | rfl | rfl | rfl | rfl
    · exact apply_i2cControl1 old
    · exact apply_i2cControl2 old
    · show (RegisterUpdate.program config.accelRate).apply
        ((RegisterUpdate.whole .ctrl1 (accelEnables ||| Setting.bits config.accelRate)).apply old) =
          0x0F ||| Setting.bits config.accelRate
      rw [RegisterUpdate.apply_whole]
      cases config.accelRate <;> decide
    · exact apply_ctrl2 config.accelRange config.antiAlias old
    · exact RegisterUpdate.apply_whole .ctrl3 0x04 old
    · exact RegisterUpdate.apply_whole .ctrl4 0x04 old
    · show (RegisterUpdate.program config.magRate).apply
        ((RegisterUpdate.whole .ctrl5 magHighResolution).apply old) =
          0x60 ||| Setting.bits config.magRate
      rw [RegisterUpdate.apply_whole]
      cases config.magRate <;> decide
    · rfl
    · exact RegisterUpdate.apply_whole .ctrl7 0 old
  · have none : (config.resetUpdates.filter fun u => u.register.addr = a) = [] := by
      rw [List.filter_eq_nil_iff]
      intro u hu own
      exact driven (of_decide_eq_true own ▸ (config.own_of_mem_resetUpdates u hu).address)
    rw [none, resetByte_of_not_mem config driven]
    rfl

/-- A reset sees the bits only that are not driven. -/
theorem resetByte_congr (config : Config) {a v w : UInt8}
    (same : v &&& ~~~drivenBits a = w &&& ~~~drivenBits a) :
    config.resetByte a v = config.resetByte a w := by
  by_cases driven : a ∈ drivenAddresses
  · rcases mem_drivenAddresses_iff.mp driven with
      rfl | rfl | rfl | rfl | rfl | rfl | rfl | rfl | rfl
    · exact same
    · show v ||| 0x80 = w ||| 0x80
      rw [← byte_and_not_or v, ← byte_and_not_or w]
      exact congrArg (· ||| 0x80) same
    · rfl
    · exact congrArg (· ||| Setting.bits config.accelRange ||| Setting.bits config.antiAlias) same
    · rfl
    · rfl
    · rfl
    · exact congrArg (· ||| Setting.bits config.magRange) same
    · rfl
  · have whole (x : UInt8) : x &&& ~~~drivenBits a = x := by
      simp [drivenBits_of_not_mem driven]
    rw [whole, whole] at same
    rw [same]

end Config

namespace RegisterFile

/-- The registers after the updates of a reset. -/
theorem read_resetUpdates (f : RegisterFile) (config : Config) (a : UInt8) :
    (f.updateAll config.resetUpdates).read a = config.resetByte a (f.read a) := by
  rw [read_updateAll, Config.foldl_resetUpdates]

/-- The updates of a reset have the same outcome on files that hold the same bits but for driven
ones. -/
theorem SameUndriven.updateAll_eq {f g : RegisterFile} (h : f.SameUndriven g) (config : Config) :
    f.updateAll config.resetUpdates = g.updateAll config.resetUpdates :=
  ext_read fun a => by
    rw [read_resetUpdates, read_resetUpdates, config.resetByte_congr (h a)]

end RegisterFile

/-! ### Programs that carry out updates -/

/-- From one rig to the other the updates were carried out, and some transfers failed. -/
structure Rig.Carried (start : Rig) (us : List RegisterUpdate) (lost : Nat) (next : Rig) :
    Prop where
  /-- The configuration is the same. -/
  config : next.driver.config = start.driver.config
  /-- The registers have been updated. -/
  chip : next.chip = start.chip.updateAll us
  /-- The transfers that failed. -/
  failures : next.failures = start.failures + lost

theorem Rig.Carried.trans {start mid next : Rig} {us vs : List RegisterUpdate} {lost lost' : Nat}
    (h : start.Carried us lost mid) (h' : mid.Carried vs lost' next) :
    start.Carried (us ++ vs) (lost + lost') next where
  config := h'.config.trans h.config
  chip := by rw [h'.chip, h.chip, RegisterFile.updateAll_append]
  failures := by rw [h'.failures, h.failures, Nat.add_assoc]

/-- On a driver with the configuration the program carries out the updates, up to the first transfer
that fails. -/
def Carries (config : Config) {α : Type} (program : Operation α) (us : List RegisterUpdate) :
    Prop :=
  ∀ start : Rig, start.driver.config = config → Ends program start
    (fun _ next => start.Carried us 0 next)
    fun _ next => ∃ done, done <+: us ∧ start.Carried done 1 next

namespace Carries

variable {config : Config} {α β : Type} {x : Operation α} {f : α → Operation β}
  {us vs : List RegisterUpdate}

theorem bind (hx : Carries config x us) (hf : ∀ a, Carries config (f a) vs) :
    Carries config (x >>= f) (us ++ vs) := by
  intro start same
  refine ((hx start same).mono (fun _ _ h => h) ?_).bind fun a mid first => ?_
  · rintro e next ⟨done, part, h⟩
    exact ⟨done, part.trans (List.prefix_append us vs), h⟩
  · refine (hf a mid (first.config.trans same)).mono (fun _ next h => ?_) ?_
    · exact first.trans h
    · rintro e next ⟨done, part, h⟩
      refine ⟨us ++ done, (List.prefix_append_right_inj us).mpr part, ?_⟩
      have whole := first.trans h
      rwa [Nat.zero_add] at whole

theorem forM {program : RegisterUpdate → Operation PUnit}
    (h : ∀ u ∈ us, Carries config (program u) [u]) : Carries config (us.forM program) us := by
  induction us with
  | nil => exact fun start _ => ⟨rfl, rfl, rfl⟩
  | cons u us ih =>
    exact (h u List.mem_cons_self).bind fun _ => ih fun v hv => h v (List.mem_cons_of_mem u hv)

/-- A step that writes one register, or fails and writes none, carries out one update. -/
theorem of_wrote {u : RegisterUpdate} (h : ∀ start : Rig, start.driver.config = config →
    Ends x start (fun _ next => ∃ driver, driver.config = start.driver.config ∧
        start.Wrote u.register (u.apply (start.chip.read u.register.addr)) driver next)
      fun _ next => start.Failed next) : Carries config x [u] := by
  intro start same
  refine (h start same).mono (fun _ next ⟨driver, kept, wrote⟩ => ?_) fun _ next failed => ?_
  · exact ⟨by rw [wrote.driver, kept], wrote.bus.chip, wrote.bus.failures⟩
  · exact ⟨[], List.nil_prefix, by rw [failed.driver], failed.bus.chip, failed.bus.failures⟩

theorem update (u : RegisterUpdate) : Carries config (onBus (Bus.update u)) [u] :=
  of_wrote fun start _ => (update_ends u start).mono (fun _ _ h => ⟨_, rfl, h⟩) fun _ _ h => h

theorem applyUpdate (u : RegisterUpdate) : Carries config (applyUpdate u) [u] :=
  of_wrote fun start _ => (applyUpdate_ends u start).mono
    (fun _ _ h => ⟨start.driver.track u, rfl, h⟩) fun _ _ h => h

theorem write (r : Register) (value : UInt8) :
    Carries config (onBus (Bus.writeRegister r value)) [.whole r value] := by
  refine of_wrote fun start _ => (write_ends r value start).mono (fun _ _ h => ⟨_, rfl, ?_⟩)
    fun _ _ h => h
  rwa [RegisterUpdate.apply_whole]

theorem programControl (c : Channel) :
    Carries config (programControl c) [.whole c.control (config.control c)] := by
  refine of_wrote fun start same => (programControl_ends c start).mono
    (fun _ _ h => ⟨start.driver.expect c (start.driver.control c), rfl, ?_⟩) fun _ _ h => h
  have value : start.driver.control c = config.control c := by
    rw [← same]
    cases c <;> rfl
  rwa [RegisterUpdate.apply_whole, ← value]

theorem programSettings (c : Channel) :
    Carries config (programSettings c) (config.updates c) := by
  intro start same
  refine driver_bind_ends ?_
  rw [same]
  exact forM (fun u _ => applyUpdate u) start same

/-- A change of the driver that keeps the configuration carries out nothing. -/
theorem onDriver {f : Driver → Driver} (kept : ∀ d : Driver, (f d).config = d.config) :
    Carries config (onDriver f) [] := fun _ _ => ⟨kept _, rfl, rfl⟩

/-- A reset carries out its updates. -/
theorem reset (config : Config) : Carries config reset config.resetUpdates := by
  have interface : Carries config (onBus (interfaceUpdates.forM Bus.update)) interfaceUpdates := by
    rw [onBus_forM]
    exact forM fun u _ => update u
  have parts : config.resetUpdates = interfaceUpdates ++
      ([.whole Channel.accel.control (config.control .accel)] ++
        ([.whole Channel.mag.control (config.control .mag)] ++
          ([.whole .ctrl5 magHighResolution] ++ ([.whole .ctrl3 accelReadyRouting] ++
            ([.whole .ctrl4 magReadyRouting] ++ (config.updates .accel ++
              ([] ++ (config.updates .mag ++ [])))))))) := by
    simp [Config.resetUpdates]
  rw [parts]
  exact interface.bind fun _ => (programControl .accel).bind fun _ =>
    (programControl .mag).bind fun _ => (write .ctrl5 _).bind fun _ =>
    (write .ctrl3 _).bind fun _ => (write .ctrl4 _).bind fun _ =>
    (programSettings .accel).bind fun _ =>
    (onDriver (f := Driver.clearFilter) fun _ => rfl).bind fun _ => (programSettings .mag).bind
    fun _ => onDriver (f := Driver.restartReads) fun _ => rfl

end Carries

/-! ### Resets that complete -/

/-- What a reset that completes makes of a rig. -/
structure Rig.ResetTo (rig next : Rig) : Prop where
  /-- The registers. -/
  chip : ∀ a, next.chip.read a = rig.driver.config.resetByte a (rig.chip.read a)
  /-- The control registers are expected as they are, samples are counted from zero, the filter is
  designed anew as it was, and the rest of the driver is as it was. -/
  driver : next.driver = { rig.driver with
    expected := ⟨next.chip.read 0x20, next.chip.read 0x26⟩
    stats.reads := .both 0
    filter := .design rig.driver.filter.sampleRate rig.driver.filter.cutoff }

section ResetTo

variable {rig failed next again : Rig}

theorem Rig.ResetTo.chip_eq (h : rig.ResetTo next) :
    next.chip = rig.chip.updateAll rig.driver.config.resetUpdates :=
  RegisterFile.ext_read fun a => by rw [h.chip, RegisterFile.read_resetUpdates]

theorem resetTo_of_ok (h : reset rig = .ok () next) : rig.ResetTo next := by
  have carried : rig.Carried _ 0 next := (Carries.reset rig.driver.config rig rfl).of_ok h
  have configured := ((reset_ends rig).of_ok h).1.configured
  refine ⟨fun a => ?_, ?_⟩
  · rw [carried.chip, RegisterFile.read_resetUpdates]
  · have expected : next.driver.expected = ⟨next.chip.read 0x20, next.chip.read 0x26⟩ := by
      rw [configured.expected, ← configured.ctrl1, ← configured.ctrl7]
      rfl
    rw [← expected]
    obtain ⟨_, _, -, rfl⟩ := (reset_programs rig).of_ok h
    rfl

/-- A reset of a rig that was just reset changes nothing. -/
theorem Rig.ResetTo.repeated (first : rig.ResetTo next) (second : next.ResetTo again) :
    again.chip = next.chip ∧ again.driver = next.driver := by
  have same : next.driver.config = rig.driver.config := by rw [first.driver]
  have kept : rig.chip.SameUndriven next.chip := by
    rw [first.chip_eq]
    exact rig.chip.updateAll_sameUndriven rig.driver.config.own_of_mem_resetUpdates
  have chip : again.chip = next.chip := by
    rw [second.chip_eq, same, ← kept.updateAll_eq, ← first.chip_eq]
  refine ⟨chip, ?_⟩
  rw [second.driver, chip, first.driver]
  rfl

end ResetTo

/-! ### Resets that fail -/

/-- A reset of one rig fails and leaves the other. -/
def FailedReset (rig failed : Rig) : Prop := ∃ e, reset rig = .error e failed

/-- A rig as failed resets leave it: in driven bits, expected control values, and a filter of the
same design. -/
structure Rig.Interrupted (rig failed : Rig) : Prop where
  /-- The registers. -/
  chip : rig.chip.SameUndriven failed.chip
  /-- The driver. -/
  driver : ∃ expected filter, failed.driver = { rig.driver with expected, filter } ∧
    filter.sampleRate = rig.driver.filter.sampleRate ∧ filter.cutoff = rig.driver.filter.cutoff

section Interrupted

variable {rig failed mid next : Rig}

theorem Rig.Interrupted.refl (rig : Rig) : rig.Interrupted rig := ⟨.refl _, _, _, rfl, rfl, rfl⟩

theorem Rig.Interrupted.trans (h : rig.Interrupted mid) (h' : mid.Interrupted failed) :
    rig.Interrupted failed := by
  obtain ⟨expected, filter, driver, rate, cutoff⟩ := h.driver
  obtain ⟨expected', filter', driver', rate', cutoff'⟩ := h'.driver
  rw [driver] at driver' rate' cutoff'
  exact ⟨h.chip.trans h'.chip, expected', filter', driver', rate'.trans rate, cutoff'.trans cutoff⟩

theorem FailedReset.interrupted (h : FailedReset rig failed) : rig.Interrupted failed := by
  obtain ⟨e, h⟩ := h
  obtain ⟨done, part, carried⟩ := (Carries.reset rig.driver.config rig rfl).of_error h
  refine ⟨?_, ?_⟩
  · rw [carried.chip]
    exact rig.chip.updateAll_sameUndriven fun u hu =>
      rig.driver.config.own_of_mem_resetUpdates u (part.subset hu)
  · rcases (reset_programs rig).of_error h with programmed | programmed
    · obtain ⟨expected, _, -, rfl⟩ := programmed
      exact ⟨expected, rig.driver.filter, rfl, rfl, rfl⟩
    · obtain ⟨expected, _, -, rfl⟩ := programmed
      exact ⟨expected, rig.driver.clearFilter.filter, rfl, rfl, rfl⟩

theorem Rig.Interrupted.of_failedResets (h : Relation.ReflTransGen FailedReset rig failed) :
    rig.Interrupted failed := by
  induction h with
  | refl => exact .refl rig
  | tail _ fails ih => exact ih.trans fails.interrupted

/-- A reset that completes after failed ones comes to what it would have come to in their place. -/
theorem Rig.Interrupted.resetTo (h : rig.Interrupted failed) (done : failed.ResetTo next) :
    rig.ResetTo next := by
  obtain ⟨expected, filter, driver, rate, cutoff⟩ := h.driver
  have config : failed.driver.config = rig.driver.config := by rw [driver]
  refine ⟨fun a => ?_, ?_⟩
  · rw [done.chip, config]
    exact (rig.driver.config.resetByte_congr (h.chip a)).symm
  · rw [done.driver, driver, rate, cutoff]

end Interrupted

/-! ### Resets that cannot fail -/

/-- So many reads and so many writes will not fail. -/
structure Bus.Grants (bus : Bus) (reads writes : Nat) : Prop where
  /-- A read that is to fail comes later. -/
  read : ∀ k, bus.readFault = some k → reads ≤ k
  /-- A write that is to fail comes later. -/
  write : ∀ k, bus.writeFault = some k → writes ≤ k

/-- The program succeeds with so many reads and so many writes that do not fail. -/
def Needs {α : Type} (reads writes : Nat) (program : Operation α) : Prop :=
  ∀ (rig : Rig) (m n : Nat), rig.bench.bus.Grants (m + reads) (n + writes) →
    Ends program rig (fun _ next => next.bench.bus.Grants m n) fun _ _ => False

namespace Needs

variable {α β : Type} {x : Operation α} {f : α → Operation β} {reads writes reads' writes' : Nat}

theorem bind (hx : Needs reads writes x) (hf : ∀ a, Needs reads' writes' (f a)) :
    Needs (reads + reads') (writes + writes') (x >>= f) := by
  intro rig m n h
  have first : rig.bench.bus.Grants (m + reads' + reads) (n + writes' + writes) := by
    rwa [Nat.add_assoc, Nat.add_comm reads', Nat.add_assoc n, Nat.add_comm writes']
  exact (hx rig _ _ first).bind fun a mid rest => hf a mid m n rest

theorem forM {γ : Type} {program : γ → Operation PUnit} {items : List γ}
    (h : ∀ item ∈ items, Needs 1 1 (program item)) :
    Needs items.length items.length (items.forM program) := by
  induction items with
  | nil => exact fun rig m n grants => grants
  | cons item rest ih =>
    have first := h item List.mem_cons_self
    have others := ih fun other ho => h other (List.mem_cons_of_mem item ho)
    rw [List.length_cons, Nat.add_comm]
    exact first.bind fun _ => others

/-- A countdown that has not run out goes down by one. -/
theorem lasts_countdown {fault : Option Nat} {n : Nat} (h : ∀ k, fault = some k → n + 1 ≤ k) :
    (Bus.countdown fault).1 = false ∧ ∀ k, (Bus.countdown fault).2 = some k → n ≤ k := by
  match fault with
  | none => exact ⟨rfl, fun k left => nomatch left⟩
  | some 0 => exact absurd (h 0 rfl) (by omega)
  | some (m + 1) =>
    refine ⟨rfl, ?_⟩
    rintro _ ⟨⟩
    have := h (m + 1) rfl
    omega

theorem readRegister (r : Register) : Needs 1 0 (onBus (Bus.readRegister r)) := by
  intro rig m n h
  obtain ⟨lasts, left⟩ := lasts_countdown h.read
  have fails : rig.bench.bus.fails .read = false := lasts
  refine onBus_ends ?_
  rw [Ends, Bus.readRegister_apply, fails]
  exact ⟨left, h.write⟩

theorem writeRegister (r : Register) (value : UInt8) :
    Needs 0 1 (onBus (Bus.writeRegister r value)) := by
  intro rig m n h
  obtain ⟨lasts, left⟩ := lasts_countdown h.write
  have fails : rig.bench.bus.fails .write = false := lasts
  refine onBus_ends ?_
  rw [Ends, Bus.writeRegister_apply, fails]
  exact ⟨h.read, left⟩

theorem update (u : RegisterUpdate) : Needs 1 1 (onBus (Bus.update u)) := by
  rw [Bus.update, onBus_bind]
  exact (readRegister u.register).bind fun _ => writeRegister u.register _

theorem driver : Needs 0 0 driver := fun _ _ _ h => h

theorem onDriver (f : Driver → Driver) : Needs 0 0 (onDriver f) := fun _ _ _ h => h

theorem applyUpdate (u : RegisterUpdate) : Needs 1 1 (applyUpdate u) :=
  (update u).bind fun _ => onDriver _

theorem programControl (c : Channel) : Needs 0 1 (programControl c) :=
  driver.bind fun _ => (writeRegister c.control _).bind fun _ => onDriver _

theorem programSettings (c : Channel) :
    Needs c.fields.length c.fields.length (programSettings c) := by
  have settings (config : Config) : Needs c.fields.length c.fields.length
      ((config.updates c).forM ECompass.applyUpdate) := by
    have count : (config.updates c).length = c.fields.length := List.length_map ..
    rw [← count]
    exact forM fun u _ => applyUpdate u
  have whole := driver.bind fun d => settings d.config
  rwa [Nat.zero_add] at whole

/-- A reset takes nine reads and fourteen writes. -/
theorem reset : Needs 9 14 reset := by
  have interface : Needs 4 4 (onBus (interfaceUpdates.forM Bus.update)) := by
    have each : ∀ u ∈ interfaceUpdates, Needs 1 1 (onBus (Bus.update u)) := fun u _ => update u
    rw [onBus_forM]
    exact forM each
  exact interface.bind fun _ => (programControl .accel).bind fun _ =>
    (programControl .mag).bind fun _ => (writeRegister .ctrl5 _).bind fun _ =>
    (writeRegister .ctrl3 _).bind fun _ => (writeRegister .ctrl4 _).bind fun _ =>
    (programSettings .accel).bind fun _ => (onDriver _).bind fun _ =>
    (programSettings .mag).bind fun _ => onDriver _

/-- A reset succeeds if no transfer of it is to fail. -/
theorem exists_reset_eq_ok {rig : Rig} (h : rig.bench.bus.Grants 9 14) :
    ∃ next, ECompass.reset rig = .ok () next := by
  have ends := reset rig 0 0 h
  unfold Ends at ends
  cases run : ECompass.reset rig with
  | ok _ next => exact ⟨next, rfl⟩
  | error e failed =>
    rw [run] at ends
    exact ends.elim

end Needs

/-! ### The outcome of a reset -/

/-- Whatever the state of the driver and whatever the chip holds, a reset that completes brings
every register to the value that the configuration and the bits that are not driven give it, and
leaves the driver as it was but for the expected control values, the counts of samples and the line
of the filter. So a reset after it changes neither chip nor driver; and a reset that completes after
any number of failed ones, wherever each of them was interrupted, comes to what it would have come
to without them. A reset fails only where a transfer failed, and none does while the countdowns let
nine reads and fourteen writes pass. -/
theorem reset_outcome (rig : Rig) :
    (∀ next, reset rig = .ok () next → rig.ResetTo next ∧ next.failures = rig.failures ∧
        ∀ again, reset next = .ok () again →
          again.chip = next.chip ∧ again.driver = next.driver) ∧
      (∀ failed next, Relation.ReflTransGen FailedReset rig failed →
        reset failed = .ok () next → rig.ResetTo next) ∧
      (∀ e failed, reset rig = .error e failed → failed.failures = rig.failures + 1) ∧
      (rig.bench.bus.Grants 9 14 → ∃ next, reset rig = .ok () next) := by
  have carries := Carries.reset rig.driver.config rig rfl
  refine ⟨fun next done => ?_, fun failed next fails done => ?_, fun e failed fails => ?_,
    Needs.exists_reset_eq_ok⟩
  · have carried : rig.Carried _ 0 next := carries.of_ok done
    exact ⟨resetTo_of_ok done, carried.failures, fun again done' =>
      (resetTo_of_ok done).repeated (resetTo_of_ok done')⟩
  · exact (Rig.Interrupted.of_failedResets fails).resetTo (resetTo_of_ok done)
  · obtain ⟨done, -, carried⟩ := carries.of_error fails
    exact carried.failures

/-- A reset of a chip with every bit set is interrupted at its eighth write, and repaired by the
next one. -/
theorem reset_outcome_interrupted :
    let bus : Bus := { transport := .spi, chip := ⟨.replicate 256 0xFF⟩, writeFault := some 7 }
    let rig : Rig := { bench := { bus := bus, timer := { now := 0 } } }
    ∃ failed next, FailedReset rig failed ∧ reset failed = .ok () next ∧ rig.ResetTo next ∧
      next.chip.read 0x02 = 0xE7 ∧ next.chip.read 0x21 = 0xDF ∧ next.chip.read 0x30 = 0xFF := by
  intro bus rig
  have fails := reset_of_failure (e := .bus .communication)
    (show (Command.reset.runOn rig).1 = _ by decide +kernel)
  have done := reset_of_reply
    (show (Command.reset.runOn (Command.reset.runOn rig).2).1 = _ by decide +kernel)
  have repaired := (reset_outcome rig).2.1 _ _ (.single ⟨_, fails⟩) done
  refine ⟨_, _, ⟨_, fails⟩, done, repaired, ?_, ?_, ?_⟩ <;> rw [repaired.chip] <;> decide +kernel

end ECompass
