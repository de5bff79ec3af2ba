import ECompass.Proofs.Sessions

/-!
# Agreement of chip and driver

A setting lives in three places: in the configuration, in the control register of the chip, and, if
a channel is watched through that register, in what the driver expects to read. A rig agrees
(`Rig.Agrees`) if all three tell the same about every field that the driver programs.

A reset that succeeds brings agreement about from any rig, and from then on only an outside write
or a failed transfer can end it. So a measurement neither recovers nor gives a sample for another
range than the chip's.
-/

namespace ECompass

open Program Operation

/-! ### Fields -/

/-- The field of an update holds its bits. -/
def RegisterFile.Holds (f : RegisterFile) (u : RegisterUpdate) : Prop :=
  f.read u.register.addr &&& u.clear = u.set

/-- The field of an update holds its bits on the chip, and where they are expected. -/
structure Rig.Holds (rig : Rig) (u : RegisterUpdate) : Prop where
  /-- The chip holds the bits. -/
  chip : rig.chip.Holds u
  /-- A channel that is watched through the register is expected to hold them. -/
  expected : ∀ c : Channel, u.register = c.control → rig.driver.expected.get c &&& u.clear = u.set

/-- The fields of two updates do not meet. -/
def RegisterUpdate.Apart (u v : RegisterUpdate) : Prop :=
  u.register ≠ v.register ∨ u.clear &&& v.clear = 0

instance (u v : RegisterUpdate) : Decidable (u.Apart v) := inferInstanceAs (Decidable (_ ∨ _))

/-- The control registers. -/
def Register.controls : List Register := [.ctrl1, .ctrl2, .ctrl3, .ctrl4, .ctrl5, .ctrl6, .ctrl7]

/-- The fields that a reset fills in the same way for every configuration, in the order in which it
does. -/
def fixedFields : List RegisterUpdate :=
  [⟨.ctrl1, ~~~Setting.mask AccelRate, accelEnables⟩, ⟨.ctrl7, 0b11111111, magContinuous⟩,
    ⟨.ctrl5, ~~~Setting.mask MagRate, magHighResolution⟩, ⟨.ctrl3, 0b11111111, accelReadyRouting⟩,
    ⟨.ctrl4, 0b11111111, magReadyRouting⟩]

/-- The chip and the expectation hold the fixed fields and the settings in force. -/
structure Rig.Agrees (rig : Rig) : Prop where
  /-- The fixed fields. -/
  fixed : ∀ u ∈ fixedFields, rig.Holds u
  /-- The settings in force. -/
  settings : ∀ field, rig.Holds (rig.driver.config.update field)

/-- Fields of different settings do not meet. -/
theorem Config.apart_update (config : Config) {field other : Field} (h : field ≠ other) :
    (config.update field).Apart (config.update other) := by
  have masks : Setting.mask AccelRange &&& Setting.mask AntiAlias = 0 := by decide
  have masks' : Setting.mask AntiAlias &&& Setting.mask AccelRange = 0 := by decide
  cases field <;> cases other <;> first
    | exact absurd rfl h
    | exact .inl (of_decide_eq_true rfl)
    | exact .inr masks
    | exact .inr masks'

theorem Config.apart_fixed (config : Config) (field : Field) :
    ∀ u ∈ fixedFields, (config.update field).Apart u := by
  intro u hu
  simp only [fixedFields, List.mem_cons, List.not_mem_nil, or_false] at hu
  have enables : Setting.mask AccelRate &&& ~~~Setting.mask AccelRate = 0 := by decide
  have resolution : Setting.mask MagRate &&& ~~~Setting.mask MagRate = 0 := by decide
  rcases hu with rfl | rfl | rfl | rfl | rfl <;> cases field <;>
    first | exact .inl (of_decide_eq_true rfl) | exact .inr enables | exact .inr resolution

theorem fixed_mem_controls : ∀ u ∈ fixedFields, u.register ∈ Register.controls := by decide

theorem Config.update_mem_controls (config : Config) (field : Field) :
    (config.update field).register ∈ Register.controls := by
  cases field <;> exact of_decide_eq_true rfl

/-- The control registers are no outputs. -/
theorem controls_not_mem_outputs : ∀ r ∈ Register.controls, ∀ c : Channel, r.addr ∉ c.outputs := by
  intro r hr c
  revert r
  cases c <;> decide

/-! ### Steps and fields -/

section Steps

variable {rig next : Rig} {u v : RegisterUpdate}

theorem Rig.Calm.holds (calm : rig.Calm next) (control : u.register ∈ Register.controls)
    (h : rig.Holds u) : next.Holds u where
  chip := by
    rw [RegisterFile.Holds, calm.bus.chip _ (controls_not_mem_outputs _ control)]
    exact h.chip
  expected := by
    rw [calm.driver.expected]
    exact h.expected

/-- An update that is carried out and followed. -/
abbrev Rig.Updated (rig : Rig) (u : RegisterUpdate) (next : Rig) : Prop :=
  rig.Wrote u.register (u.apply (rig.chip.read u.register.addr)) (rig.driver.track u) next

/-- An update makes its field hold its bits. -/
theorem Rig.Updated.holds (h : rig.Updated u next) (fits : u.Fits) : next.Holds u where
  chip := by
    rw [RegisterFile.Holds, Rig.chip, h.bus.chip, RegisterFile.read_write_self,
      RegisterUpdate.apply_and_clear fits]
  expected c hc := by
    rw [h.driver, Driver.track, Expected.get_track, if_pos hc, RegisterUpdate.apply_and_clear fits]

/-- An update leaves the fields of the chip alone that it does not meet. -/
theorem Rig.Updated.chip_holds_iff (h : rig.Updated u next) (fits : u.Fits) (apart : u.Apart v) :
    next.chip.Holds v ↔ rig.chip.Holds v := by
  by_cases same : v.register = u.register
  · have disjoint : u.clear &&& v.clear = 0 := apart.resolve_left fun ne => ne same.symm
    rw [RegisterFile.Holds, RegisterFile.Holds, Rig.chip, h.bus.chip, same,
      RegisterFile.read_write_self, RegisterUpdate.apply_and_of_disjoint fits disjoint]
  · rw [RegisterFile.Holds, RegisterFile.Holds, Rig.chip, h.bus.chip,
      RegisterFile.read_write_of_ne _ _ fun e => same (Register.addr_injective e)]

/-- An update leaves the fields alone that it does not meet, and what is expected of them. -/
theorem Rig.Updated.holds_of_apart (h : rig.Updated u next) (fits : u.Fits) (apart : u.Apart v)
    (hv : rig.Holds v) : next.Holds v where
  chip := (h.chip_holds_iff fits apart).2 hv.chip
  expected c hc := by
    rw [h.driver, Driver.track, Expected.get_track]
    by_cases same : u.register = c.control
    · have disjoint : u.clear &&& v.clear = 0 :=
        apart.resolve_left fun ne => ne (same.trans hc.symm)
      rw [if_pos same, RegisterUpdate.apply_and_of_disjoint fits disjoint]
      exact hv.expected c hc
    · rw [if_neg same]
      exact hv.expected c hc

end Steps

/-! ### Whole registers -/

/-- The update that replaces a whole register. -/
def RegisterUpdate.whole (r : Register) (value : UInt8) : RegisterUpdate := ⟨r, 0xFF, value⟩

theorem RegisterUpdate.apply_whole (r : Register) (value old : UInt8) :
    (whole r value).apply old = value := by
  have none : ~~~(0xFF : UInt8) = 0 := by decide
  rw [apply, whole, none, UInt8.and_zero, UInt8.zero_or]

theorem RegisterUpdate.fits_whole (r : Register) (value : UInt8) : (whole r value).Fits := by
  have none : ~~~(0xFF : UInt8) = 0 := by decide
  rw [Fits, whole, none, UInt8.and_zero]

/-- Following a write of a whole control register is to expect its value. -/
theorem Driver.track_whole (d : Driver) (c : Channel) (value : UInt8) :
    d.track (.whole c.control value) = d.expect c value := by
  have same : Expected.track d.expected (.whole c.control value) = d.expected.set c value := by
    apply PerChannel.ext_get
    intro other
    rw [Expected.get_track, PerChannel.get_set, RegisterUpdate.apply_whole]
    cases c <;> cases other <;> rfl
  rw [track, same, expect]

section Whole

variable {rig next : Rig} {r : Register} {value : UInt8}

theorem Rig.Wrote.updated (h : rig.Wrote r value rig.driver next) (unwatched : r.Unwatched) :
    rig.Updated (.whole r value) next := by
  rwa [Updated, RegisterUpdate.apply_whole, Driver.track_of_unwatched unwatched]

theorem Rig.Wrote.updated_control {c : Channel}
    (h : rig.Wrote c.control value (rig.driver.expect c value) next) :
    rig.Updated (.whole c.control value) next := by
  rwa [Updated, RegisterUpdate.apply_whole, Driver.track_whole]

/-- A whole register holds each of its fields. -/
theorem Rig.Holds.of_whole (h : rig.Holds (.whole r value)) {u : RegisterUpdate}
    (own : u.register = r) (bits : value &&& u.clear = u.set) : rig.Holds u := by
  have whole {x : UInt8} (hx : x &&& 0xFF = value) : x = value :=
    (UInt8.and_neg_one (a := x)).symm.trans hx
  constructor
  · have value : rig.chip.read r.addr = value := whole h.chip
    rw [RegisterFile.Holds, own, value, bits]
  · intro c hc
    rw [whole (h.expected c (own ▸ hc)), bits]

end Whole

/-! ### Reset -/

/-- The transfers that failed on a rig so far. -/
abbrev Rig.failures (rig : Rig) : Nat := rig.bench.bus.failures

/-- On the way from a rig some fixed fields and some settings of its configuration were filled. -/
structure Rig.Filled (start : Rig) (fixed : List RegisterUpdate) (fields : List Field)
    (next : Rig) : Prop where
  /-- The configuration is the same. -/
  config : next.driver.config = start.driver.config
  /-- Some more transfers may have failed. -/
  failures : start.failures ≤ next.failures
  /-- The fixed fields that were filled. -/
  fixed : ∀ u ∈ fixed, next.Holds u
  /-- The settings that were filled. -/
  settings : ∀ field ∈ fields, next.Holds (start.driver.config.update field)

section Filled

variable {start mid next : Rig} {fixed : List RegisterUpdate} {fields : List Field}

theorem Rig.Filled.nil (config : next.driver.config = start.driver.config)
    (failures : start.failures ≤ next.failures) : start.Filled [] [] next where
  config := config
  failures := failures
  fixed _ h := absurd h List.not_mem_nil
  settings _ h := absurd h List.not_mem_nil

theorem Rig.Filled.failed (h : start.Filled fixed fields mid) (failed : mid.Failed next) :
    start.failures < next.failures := by
  show start.failures < next.bench.bus.failures
  rw [failed.bus.failures]
  exact Nat.lt_succ_of_le h.failures

/-- A write of a whole register fills a fixed field of it. -/
theorem Rig.Filled.write {r : Register} {value : UInt8} (h : start.Filled fixed [] mid)
    (updated : mid.Updated (.whole r value) next) {u : RegisterUpdate} (own : u.register = r)
    (bits : value &&& u.clear = u.set) (others : ∀ v ∈ fixed, v.register ≠ r) :
    start.Filled (fixed ++ [u]) [] next where
  config := by rw [updated.driver]; exact h.config
  failures := Nat.le_trans h.failures (Nat.le_of_eq updated.bus.failures.symm)
  fixed v hv := by
    rcases List.mem_append.1 hv with hv | hv
    · exact updated.holds_of_apart (RegisterUpdate.fits_whole r value)
        (.inl fun e => others v hv e.symm) (h.fixed v hv)
    · rw [List.mem_singleton.1 hv]
      exact (updated.holds (RegisterUpdate.fits_whole r value)).of_whole own bits
  settings _ hf := absurd hf List.not_mem_nil

/-- Programming a setting fills its field. -/
theorem Rig.Filled.setting (h : start.Filled fixedFields fields mid) {field : Field}
    (updated : mid.Updated (start.driver.config.update field) next) :
    start.Filled fixedFields (fields ++ [field]) next where
  config := by rw [updated.driver]; exact h.config
  failures := Nat.le_trans h.failures (Nat.le_of_eq updated.bus.failures.symm)
  fixed u hu :=
    updated.holds_of_apart (Config.fits_update _ _) (Config.apart_fixed _ _ u hu) (h.fixed u hu)
  settings other ho := by
    by_cases same : field = other
    · exact same ▸ updated.holds (Config.fits_update _ _)
    · rcases List.mem_append.1 ho with ho | ho
      · exact updated.holds_of_apart (Config.fits_update _ _) (Config.apart_update _ same)
          (h.settings other ho)
      · exact absurd (List.mem_singleton.1 ho).symm same

theorem interface_ends (start : Rig) : Ends (onBus (interfaceUpdates.forM Bus.update)) start
    (fun _ next => start.Filled [] [] next) (fun _ next => start.failures < next.failures) := by
  rw [onBus_forM]
  refine Ends.forM (I := fun _ => start.Filled [] []) ?_ ?_
  · exact .nil rfl (Nat.le_refl _)
  · intro _ u mid h
    refine (update_ends u mid).mono (fun _ next wrote => .nil ?_ ?_) fun _ _ => h.failed
    · rw [wrote.driver]
      exact h.config
    · exact Nat.le_trans h.failures (Nat.le_of_eq wrote.bus.failures.symm)

theorem programControl_fills {c : Channel} (h : start.Filled fixed [] mid) (u : RegisterUpdate)
    (own : u.register = c.control) (bits : mid.driver.control c &&& u.clear = u.set)
    (others : ∀ v ∈ fixed, v.register ≠ c.control) :
    Ends (programControl c) mid (fun _ next => start.Filled (fixed ++ [u]) [] next)
      (fun _ next => start.failures < next.failures) :=
  (programControl_ends c mid).mono (fun _ _ wrote => h.write wrote.updated_control own bits others)
    fun _ _ => h.failed

theorem writeRegister_fills (h : start.Filled fixed [] mid) (u : RegisterUpdate)
    (unwatched : u.register.Unwatched) (bits : u.set &&& u.clear = u.set)
    (others : ∀ v ∈ fixed, v.register ≠ u.register) :
    Ends (onBus (Bus.writeRegister u.register u.set)) mid
      (fun _ next => start.Filled (fixed ++ [u]) [] next)
      (fun _ next => start.failures < next.failures) :=
  (write_ends _ _ mid).mono (fun _ _ wrote => h.write (wrote.updated unwatched) rfl bits others)
    fun _ _ => h.failed

theorem programSettings_fills (c : Channel) (h : start.Filled fixedFields fields mid) :
    Ends (programSettings c) mid (fun _ next => start.Filled fixedFields (fields ++ c.fields) next)
      (fun _ next => start.failures < next.failures) := by
  refine driver_bind_ends ?_
  rw [h.config, Config.updates, List.forM_eq_forM, List.forM_map, ← List.forM_eq_forM]
  refine Ends.forM (I := fun done => start.Filled fixedFields (fields ++ done)) ?_ ?_
  · rwa [List.append_nil]
  · intro done field mid h
    refine (applyUpdate_ends _ mid).mono (fun _ next updated => ?_) fun _ _ => h.failed
    rw [← List.append_assoc]
    exact h.setting updated

/-- Operations on the driver that change neither settings nor expectations empty no field. -/
theorem onDriver_fills {f : Driver → Driver} (calm : ∀ d : Driver, d.Calm (f d))
    (same : ∀ d : Driver, (f d).config = d.config) (h : start.Filled fixed fields mid) :
    Ends (onDriver f) mid (fun _ next => start.Filled fixed fields next)
      (fun _ next => start.failures < next.failures) where
  config := (same _).trans h.config
  failures := h.failures
  fixed u hu := ⟨(h.fixed u hu).chip, (calm mid.driver).expected ▸ (h.fixed u hu).expected⟩
  settings field hf :=
    ⟨(h.settings field hf).chip, (calm mid.driver).expected ▸ (h.settings field hf).expected⟩

theorem Field.mem_fields (field : Field) :
    field ∈ [] ++ Channel.accel.fields ++ Channel.mag.fields := by
  cases field <;> decide

/-- A reset that succeeds brings agreement about from any rig; one that fails had a transfer that
failed. -/
theorem reset_ends (start : Rig) : Ends reset start
    (fun _ next => next.Agrees ∧ start.failures ≤ next.failures)
    (fun _ next => start.failures < next.failures) := by
  have continuous (d : Driver) : d.control .mag &&& 0b11111111 = magContinuous := by
    show magContinuous &&& 0b11111111 = magContinuous
    decide
  refine (interface_ends start).bind fun _ mid h => ?_
  refine (programControl_fills h ⟨.ctrl1, ~~~Setting.mask AccelRate, _⟩ rfl
    (Driver.control_accel_and _) (by decide)).bind fun _ mid h => ?_
  refine (programControl_fills h ⟨.ctrl7, 0b11111111, _⟩ rfl (continuous _)
    (by decide)).bind fun _ mid h => ?_
  refine (writeRegister_fills h ⟨.ctrl5, ~~~Setting.mask MagRate, _⟩ (by decide) (by decide)
    (by decide)).bind fun _ mid h => ?_
  refine (writeRegister_fills h ⟨.ctrl3, 0b11111111, _⟩ (by decide) (by decide)
    (by decide)).bind fun _ mid h => ?_
  refine (writeRegister_fills h ⟨.ctrl4, 0b11111111, _⟩ (by decide) (by decide)
    (by decide)).bind fun _ mid h => ?_
  refine (programSettings_fills .accel h).bind fun _ mid h => ?_
  refine (onDriver_fills (f := Driver.clearFilter) (fun _ => ⟨rfl, rfl, rfl⟩) (fun _ => rfl)
    h).bind fun _ mid h => ?_
  refine (programSettings_fills .mag h).bind fun _ mid h => ?_
  refine (onDriver_fills (f := Driver.restartReads) (fun _ => ⟨rfl, rfl, rfl⟩) (fun _ => rfl)
    h).mono (fun _ next h => ?_) fun _ _ h => h
  refine ⟨⟨h.fixed, fun field => ?_⟩, h.failures⟩
  rw [h.config]
  exact h.settings field field.mem_fields

end Filled

/-! ### Agreement along a session -/

/-- From one rig to the other agreement has ended only if a transfer failed. -/
structure StaysAgreed (rig next : Rig) : Prop where
  /-- Some more transfers may have failed. -/
  failures : rig.failures ≤ next.failures
  /-- If none has, a rig that agreed still does. -/
  agrees : next.failures = rig.failures → rig.Agrees → next.Agrees

instance : IsPreorder Rig StaysAgreed where
  refl _ := ⟨Nat.le_refl _, fun _ h => h⟩
  trans _ _ _ h h' := by
    refine ⟨Nat.le_trans h.failures h'.failures, fun same agrees => ?_⟩
    have le := h.failures
    have le' := h'.failures
    exact h'.agrees (by omega) (h.agrees (by omega) agrees)

theorem StaysAgreed.of_lt {rig next : Rig} (h : rig.failures < next.failures) :
    StaysAgreed rig next :=
  ⟨Nat.le_of_lt h, fun same => absurd same.symm (Nat.ne_of_lt h)⟩

/-- Operations that only read leave it as it is how the settings in force are programmed. -/
theorem Rig.Calm.update_eq {rig next : Rig} (h : rig.Calm next) (field : Field) :
    next.driver.config.update field = rig.driver.config.update field := by
  rw [h.driver.settings]
  cases field <;> rfl

theorem Rig.Calm.staysAgreed {rig next : Rig} (h : rig.Calm next) : StaysAgreed rig next := by
  refine ⟨h.bus.failures, fun _ agrees => ⟨fun u hu => ?_, fun field => ?_⟩⟩
  · exact h.holds (fixed_mem_controls u hu) (agrees.fixed u hu)
  · rw [h.update_eq field]
    exact h.holds (Config.update_mem_controls _ field) (agrees.settings field)

/-- Whatever is programmed, the count of failed transfers does not fall. -/
theorem programs_failures : Programs fun rig next => rig.failures ≤ next.failures where
  calm h := h.bus.failures
  failed h := Nat.le_trans (Nat.le_succ _) (Nat.le_of_eq h.bus.failures.symm)
  control h := Nat.le_of_eq h.bus.failures.symm
  write _ h := Nat.le_of_eq h.bus.failures.symm
  rate h := Nat.le_of_eq h.bus.failures.symm

instance : IsPreorder Rig fun rig next => rig.failures ≤ next.failures where
  refl _ := Nat.le_refl _
  trans _ _ _ := Nat.le_trans

theorem operates_failures : Operates fun rig next => rig.failures ≤ next.failures :=
  programs_failures.operates (fun _ _ => Nat.le_refl _) fun _ _ => Nat.le_refl _

/-- An operation that keeps the agreement of rigs that agree, as long as no transfer fails, does so
for all. -/
theorem within_staysAgreed {α : Type} {program : Operation α}
    (failures : Within (fun rig next => rig.failures ≤ next.failures) program)
    (agreed : ∀ rig : Rig, rig.Agrees → Ends program rig (fun _ next => StaysAgreed rig next)
      fun _ next => StaysAgreed rig next) : Within StaysAgreed program := by
  intro rig
  by_cases agrees : rig.Agrees
  · exact agreed rig agrees
  · exact (failures rig).mono (fun _ _ h => ⟨h, fun _ agrees' => absurd agrees' agrees⟩)
      fun _ _ h => ⟨h, fun _ agrees' => absurd agrees' agrees⟩

/-- The control registers as the configuration has them, byte by byte where the driver fills the
whole byte, and what is expected of them. -/
structure Rig.Configured (rig : Rig) : Prop where
  /-- Enables and rate of the accelerometer. -/
  ctrl1 : rig.chip.read Register.ctrl1.addr =
    accelEnables ||| Setting.bits rig.driver.config.accelRate
  /-- The mode of the magnetometer. -/
  ctrl7 : rig.chip.read Register.ctrl7.addr = magContinuous
  /-- Both are expected. -/
  expected : rig.driver.expected =
    ⟨accelEnables ||| Setting.bits rig.driver.config.accelRate, magContinuous⟩
  /-- The range of the accelerometer. -/
  accelRange : rig.chip.Holds (.program rig.driver.config.accelRange)
  /-- The anti-alias bandwidth of the accelerometer. -/
  antiAlias : rig.chip.Holds (.program rig.driver.config.antiAlias)
  /-- Resolution and rate of the magnetometer. -/
  ctrl5 : rig.chip.read Register.ctrl5.addr =
    magHighResolution ||| Setting.bits rig.driver.config.magRate
  /-- The range of the magnetometer. -/
  magRange : rig.chip.Holds (.program rig.driver.config.magRange)
  /-- The routing of the accelerometer's data-ready signal. -/
  ctrl3 : rig.chip.read Register.ctrl3.addr = accelReadyRouting
  /-- The routing of the magnetometer's data-ready signal. -/
  ctrl4 : rig.chip.read Register.ctrl4.addr = magReadyRouting

/-- Two fields that make up a byte tell its value. -/
theorem byte_eq_of_fields {a mask low high : UInt8} (hlow : a &&& ~~~mask = low)
    (hhigh : a &&& mask = high) : a = low ||| high := by
  rw [← hlow, ← hhigh]
  exact byte_eq_or a mask

theorem Rig.Agrees.configured {rig : Rig} (h : rig.Agrees) : rig.Configured := by
  have enables := h.fixed ⟨.ctrl1, ~~~Setting.mask AccelRate, accelEnables⟩ (by decide)
  have continuous := h.fixed ⟨.ctrl7, 0b11111111, magContinuous⟩ (by decide)
  have resolution := h.fixed ⟨.ctrl5, ~~~Setting.mask MagRate, magHighResolution⟩ (by decide)
  have accelRouting := h.fixed ⟨.ctrl3, 0b11111111, accelReadyRouting⟩ (by decide)
  have magRouting := h.fixed ⟨.ctrl4, 0b11111111, magReadyRouting⟩ (by decide)
  have accelRate := h.settings .accelRate
  have whole {x value : UInt8} (hx : x &&& 0b11111111 = value) : x = value :=
    (UInt8.and_neg_one (a := x)).symm.trans hx
  refine
    { ctrl1 := byte_eq_of_fields enables.chip accelRate.chip
      ctrl7 := whole continuous.chip
      expected := PerChannel.ext_get fun c => ?_
      accelRange := (h.settings .accelRange).chip
      antiAlias := (h.settings .antiAlias).chip
      ctrl5 := byte_eq_of_fields resolution.chip (h.settings .magRate).chip
      magRange := (h.settings .magRange).chip
      ctrl3 := whole accelRouting.chip
      ctrl4 := whole magRouting.chip }
  cases c with
  | accel => exact byte_eq_of_fields (enables.expected .accel rfl) (accelRate.expected .accel rfl)
  | mag => exact whole (continuous.expected .mag rfl)

/-- The control registers of a rig that agrees are as expected. -/
theorem Rig.Agrees.not_mismatched {rig : Rig} (h : rig.Agrees) (c : Channel) :
    ¬ rig.Mismatched c := by
  have configured := h.configured
  rw [Mismatched, Decidable.not_not, configured.expected]
  cases c with
  | accel => exact configured.ctrl1
  | mag => exact configured.ctrl7

theorem measure_staysAgreed (c : Channel) : Within StaysAgreed (measure c) :=
  within_staysAgreed (operates_failures.measure c) fun _ agrees =>
    (measure_of_not_mismatched (agrees.not_mismatched c)).mono (fun _ _ h => h.1.staysAgreed)
      fun _ _ h => h.staysAgreed

theorem reset_staysAgreed : Within StaysAgreed reset := fun rig =>
  (reset_ends rig).mono (fun _ _ h => ⟨h.2, fun _ _ => h.1⟩) fun _ _ h => .of_lt h

/-- A request that is accepted changes one setting. -/
theorem Config.update_of_request {config next : Config} {field other : Field} {n : Nat}
    (h : config.request field n = some next) (ne : other ≠ field) :
    next.update other = config.update other := by
  cases field <;> obtain ⟨s, -, rfl⟩ := Option.map_eq_some_iff.1 h <;> cases other <;>
    first | rfl | exact absurd rfl ne

theorem requestSetting_staysAgreed (field : Field) (n : Nat) :
    Within StaysAgreed (requestSetting field n) := by
  refine within_staysAgreed (operates_failures.request field n) fun rig agrees => ?_
  refine driver_bind_ends ?_
  split
  · exact refl_of StaysAgreed rig
  · rename_i config request
    -- between the two steps the configuration is ahead of the chip
    let ahead : Rig := { rig with driver := { rig.driver with config } }
    have fits : (config.update field).Fits := config.fits_update field
    refine (applyUpdate_ends (config.update field) ahead).mono (fun _ next updated => ?_)
      fun _ next failed => .of_lt ?_
    · refine ⟨Nat.le_of_eq updated.bus.failures.symm, fun _ _ => ⟨fun u hu => ?_, fun other => ?_⟩⟩
      · have kept : ahead.Holds u := ⟨(agrees.fixed u hu).chip, (agrees.fixed u hu).expected⟩
        exact Rig.Updated.holds_of_apart updated fits (config.apart_fixed _ u hu) kept
      · rw [updated.driver]
        by_cases same : field = other
        · exact same ▸ Rig.Updated.holds updated fits
        · have before := Config.update_of_request request (Ne.symm same)
          have kept : ahead.Holds (config.update other) := by
            rw [before]
            exact ⟨(agrees.settings other).chip, (agrees.settings other).expected⟩
          exact Rig.Updated.holds_of_apart updated fits (config.apart_update same) kept
    · show rig.failures < next.bench.bus.failures
      rw [failed.bus.failures]
      exact Nat.lt_succ_self _

theorem operates_staysAgreed : Operates StaysAgreed where
  calm h := h.staysAgreed
  reset := reset_staysAgreed
  measure := measure_staysAgreed
  request := requestSetting_staysAgreed

section Stimuli

variable {steps : List Step}

theorem stimuliWithin_staysAgreed
    (untouched : ∀ step ∈ steps, ∀ r ∈ Register.controls, r.addr ∉ step.outside) :
    StimuliWithin StaysAgreed steps := by
  intro s hs rig
  have kept {u : RegisterUpdate} (control : u.register ∈ Register.controls) (h : rig.Holds u) :
      Rig.Holds { rig with bench := s.act rig.bench } u := by
    refine ⟨?_, h.expected⟩
    rw [RegisterFile.Holds, s.read_act rig.bench (untouched _ hs _ control)]
    exact h.chip
  refine ⟨Nat.le_of_eq (s.failures_act rig.bench).symm, fun _ agrees =>
    ⟨fun u hu => ?_, fun field => ?_⟩⟩
  · exact kept (fixed_mem_controls u hu) (agrees.fixed u hu)
  · exact kept (Config.update_mem_controls _ field) (agrees.settings field)

theorem stimuliWithin_failures (steps : List Step) :
    StimuliWithin (fun rig next => rig.failures ≤ next.failures) steps :=
  fun s _ rig => Nat.le_of_eq (s.failures_act rig.bench).symm

/-- Without a failed transfer every rig on the way of a session agrees. -/
theorem agrees_along {start : Rig} (agrees : start.Agrees)
    (untouched : ∀ step ∈ steps, ∀ r ∈ Register.controls, r.addr ∉ step.outside)
    (unfailed : (runSession start steps).2.failures = start.failures) {before : List Step}
    (h : before <+: steps) : (runSession start before).2.Agrees := by
  obtain ⟨after, rfl⟩ := h
  have moved : StaysAgreed start (runSession start before).2 :=
    operates_staysAgreed.session (stimuliWithin_staysAgreed fun step hs =>
      untouched step (List.mem_append_left after hs))
  have rest : (runSession start before).2.failures ≤ (runSession _ after).2.failures :=
    operates_failures.session (stimuliWithin_failures after)
  rw [runSession_append] at unfailed
  exact moved.agrees (Nat.le_antisymm (unfailed ▸ rest) moved.failures) agrees

end Stimuli

/-! ### Samples -/

/-- The setting that tells what one count of a channel means. -/
def Channel.rangeField : Channel → Field
  | .accel => .accelRange
  | .mag => .magRange

/-- A sample is scaled for the range that the chip holds for its channel. -/
def Sample.ScaledFor (s : Sample) (c : Channel) (chip : RegisterFile) : Prop :=
  ∃ config : Config, chip.Holds (config.update c.rangeField) ∧
    s.scaling = config.scaling c ∧ s.fullScale = config.fullScale c

/-- A burst is made a sample with the range that is in force. -/
theorem Rig.scaledFor_sample {rig : Rig} {c : Channel}
    (h : rig.chip.Holds (rig.driver.config.update c.rangeField)) (raw : Axes Int16) :
    (rig.sample c raw).ScaledFor c rig.chip := by
  refine ⟨rig.driver.config, h, ?_⟩
  cases c <;> exact ⟨rfl, rfl⟩

/-- Chip and driver agree over whole runs: after a reset that succeeds, as long as nothing is
written to the control registers from outside and no transfer fails, the control registers hold the
configuration in every state that is reached, so no measurement recovers, and every sample is scaled
for the range that the chip holds when its burst has been read. -/
theorem chip_agrees_with_driver {rig start : Rig} {steps : List Step}
    (configured : reset rig = .ok () start)
    (untouched : ∀ step ∈ steps, ∀ r ∈ Register.controls, r.addr ∉ step.outside)
    (unfailed : (runSession start steps).2.failures = start.failures) :
    (∀ before, before <+: steps → (runSession start before).2.Configured) ∧
      .reply (.measured .recovered) ∉ (runSession start steps).1 ∧
      ∀ c polled, .measurement c polled ∈ events start steps →
        polled.Configured ∧ (∀ next, measure c polled ≠ .ok .recovered next) ∧
          ∀ next, measure c polled = .ok .sampled next → ∃ checked mid burst,
            isHealthy c polled = .ok true checked ∧ readBurst c checked = .ok burst mid ∧
              next.driver.queue.get c = ((polled.driver.queue.get c).push (mid.sample c burst.raw)).2 ∧
              (mid.sample c burst.raw).ScaledFor c mid.chip := by
  have start_agrees := ((reset_ends rig).of_ok configured).1
  have measured (c : Channel) (polled : Rig) (hm : .measurement c polled ∈ events start steps) :
      polled.Agrees := by
    obtain ⟨before, after⟩ :=
      operates_staysAgreed.measurement (stimuliWithin_staysAgreed untouched) hm
    have le := after.failures
    have le' := before.failures
    exact before.agrees (by omega) start_agrees
  have unrecovered (c : Channel) (polled : Rig) (hm : .measurement c polled ∈ events start steps)
      (next : Rig) : measure c polled ≠ .ok .recovered next :=
    measure_ne_recovered ((measured c polled hm).not_mismatched c) next
  refine ⟨fun before h => (agrees_along start_agrees untouched unfailed h).configured,
    fun reply => ?_, fun c polled hm => ?_⟩
  · rcases measurement_of_reply reply with h | ⟨c, polled, hm, next, recovered⟩
    · cases h
    · exact unrecovered c polled hm next recovered
  · refine ⟨(measured c polled hm).configured, unrecovered c polled hm, fun next sampled => ?_⟩
    obtain ⟨-, checked, mid, burst, check, read, calm, same, queue⟩ :=
      exists_burst_of_sampled sampled
    have range := calm.holds (Config.update_mem_controls _ c.rangeField)
      ((measured c polled hm).settings c.rangeField)
    rw [← same] at range
    exact ⟨checked, mid, burst, check, read, queue, Rig.scaledFor_sample range.chip _⟩

/-- Requests, one of them refused, and a measurement of a new driver after its first reset. -/
theorem chip_agrees_with_driver_requested :
    let start := (Command.reset.runOn (.fresh .direct)).2
    let steps : List Step := [.command (.requestSetting .accelRange 3),
      .command (.requestSetting .accelRate 9999), .command (.measure .accel)]
    reset (.fresh .direct) = .ok () start ∧ (runSession start steps).2.failures = start.failures ∧
      (runSession start steps).2.Configured := by
  have configured : reset (.fresh .direct) = .ok () (Command.reset.runOn (.fresh .direct)).2 :=
    reset_of_reply (by decide +kernel)
  have unfailed : (runSession (Command.reset.runOn (.fresh .direct)).2
      [.command (.requestSetting .accelRange 3), .command (.requestSetting .accelRate 9999),
        .command (.measure .accel)]).2.failures =
      (Command.reset.runOn (.fresh .direct)).2.failures := by decide +kernel
  have along := (chip_agrees_with_driver configured (by decide) unfailed).1
  exact ⟨configured, unfailed, along _ (List.prefix_refl _)⟩

end ECompass
