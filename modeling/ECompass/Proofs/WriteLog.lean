import ECompass.Proofs.Footprint

/-!
# Where the driver writes

Along a session every write of the driver belongs to a reset or to a request that was accepted: the
writes of a session are those of its resets and accepted requests, in order (`Command.writes`), and
everything else only looks. This is an account of the transfers in the sense of `Account`, which
also keeps the driver's footprint, so it tells in the same breath that a world in which the driver's
writes have no effect (`Rig.undriven`) ends up with the same bits, but for driven ones.
-/

namespace ECompass

open Program Operation

/-! ### Writes -/

/-- The rig after an operation, however it ends. -/
def Rig.after {α : Type} (rig : Rig) (operation : Operation α) : Rig :=
  match operation rig with
  | .ok _ next => next
  | .error _ next => next

/-- The transfers that were made from one rig to the other. -/
def Rig.transfersTo (rig next : Rig) : List Transfer :=
  next.bench.bus.transfers.drop rig.bench.bus.transfers.length

/-- The writes among them. -/
def Rig.writesTo (rig next : Rig) : List Transfer := (rig.transfersTo next).filter Transfer.isWrite

/-- The writes of a reset; a measurement writes nothing up to there. -/
def Event.writes : Event → List Transfer
  | .reset start => start.writesTo (start.after ECompass.reset)
  | .measurement _ _ => []

/-- The writes of a command: those of its request, if it makes one that is accepted, and those of
its resets. -/
def Command.writes (command : Command) (rig : Rig) : List Transfer :=
  match command with
  | .requestSetting field n =>
    if (rig.driver.config.request field n).isSome then
      rig.writesTo (rig.after (ECompass.requestSetting field n))
    else []
  | command => (command.events rig).flatMap Event.writes

/-- The writes of a command that requests no setting are those of its resets. -/
theorem Command.writes_of_not_request {command : Command}
    (h : ∀ field n, command ≠ .requestSetting field n) (rig : Rig) :
    command.writes rig = (command.events rig).flatMap Event.writes := by
  cases command with
  | requestSetting field n => exact absurd rfl (h field n)
  | _ => rfl

/-! ### The account -/

/-- From one rig to the other the driver made transfers with its footprint, and these are the
writes among them. -/
def Rig.Traced (rig : Rig) (writes : List Transfer) (next : Rig) : Prop :=
  ∃ made, rig.bench.bus.Made made next.bench.bus ∧ made.filter Transfer.isWrite = writes

section Traced

variable {rig mid next : Rig} {writes : List Transfer}

theorem Rig.transfersTo_of_made {made : List Transfer}
    (h : rig.bench.bus.Made made next.bench.bus) : rig.transfersTo next = made := by
  rw [transfersTo, h.transfers, List.drop_left]

theorem Rig.traced_of_driven (h : Over Bus.Driven rig next) :
    rig.Traced (rig.writesTo next) next := by
  obtain ⟨made, h⟩ := h
  exact ⟨made, h, by rw [writesTo, transfersTo_of_made h]⟩

theorem Rig.traced_of_looked (h : Over Bus.Looked rig next) : rig.Traced [] next := by
  obtain ⟨made, h, look⟩ := h
  refine ⟨made, h, List.filter_eq_nil_iff.mpr fun t ht => ?_⟩
  rw [look t ht]
  exact Bool.false_ne_true

/-- What was traced is what was written. -/
theorem Rig.Traced.writesTo_eq (h : rig.Traced writes next) : rig.writesTo next = writes := by
  obtain ⟨made, h, rfl⟩ := h
  rw [writesTo, transfersTo_of_made h]

theorem Rig.after_of_ok {α : Type} {operation : Operation α} {a : α}
    (h : operation rig = .ok a next) : rig.after operation = next := by
  rw [after, h]

theorem Rig.after_of_error {α : Type} {operation : Operation α} {e : Error}
    (h : operation rig = .error e next) : rig.after operation = next := by
  rw [after, h]

theorem Rig.after_of_ends {α : Type} {operation : Operation α} {P : Rig → Prop}
    (h : Ends operation rig (fun _ => P) fun _ => P) : P (rig.after operation) := by
  unfold Ends at h
  unfold after
  cases ends : operation rig <;> rw [ends] at h <;> exact h

/-- An operation with the driver's footprint is traced with its writes, however it ends. -/
theorem ends_traced {α : Type} {operation : Operation α}
    (h : Within (Over Bus.Driven) operation) :
    Ends operation rig (fun _ next => rig.Traced (rig.writesTo (rig.after operation)) next)
      fun _ next => rig.Traced (rig.writesTo (rig.after operation)) next := by
  refine Ends.intro (fun a next ends => ?_) fun e next ends => ?_
  · rw [Rig.after_of_ok ends]
    exact Rig.traced_of_driven (h.of_ok ends)
  · rw [Rig.after_of_error ends]
    exact Rig.traced_of_driven (h.of_error ends)

end Traced

/-- A request that is refused does nothing. -/
theorem requestSetting_of_refused {field : Field} {n : Nat} {rig : Rig}
    (h : rig.driver.config.request field n = none) :
    requestSetting field n rig = .error .outOfRange rig := by
  have read : driver rig = .ok rig.driver rig := rfl
  simp only [requestSetting, bind_apply, read, h]
  rfl

/-- A command that neither configures the chip nor measures, and requests no setting, only looks. -/
theorem Command.run_looked {command : Command} (h : command.acquires = false)
    (request : ∀ field n, command ≠ .requestSetting field n) :
    Within (Over Bus.Looked) command.run := by
  have same (rig : Rig) : Bus.Looked rig.bench.bus rig.bench.bus := refl_of Bus.Looked _
  cases command with
  | bringUp => cases h
  | reset => cases h
  | onTimer c => cases h
  | measure c => cases h
  | readSamples c room => cases h
  | requestSetting field n => exact absurd rfl (request field n)
  | whoAmI => exact (onBus_over (Bus.readRegister_looked _)).bind fun _ => .pure _
  | dumpRegisters =>
    have capture (rig : Rig) := (onBus_over (Bus.capture_looked rig.driver.expected
      rig.bench.timer.now) : Within (Over Bus.Looked) _) rig
    exact Within.bind (x := ECompass.dumpRegisters) (fun rig => capture rig) fun _ => .pure _
  | setPollRate c rate =>
    refine Within.bind (fun rig => ?_) fun _ => .pure _
    rw [Ends, setPollRate_apply]
    cases rig.driver.scheduler.setPollRate c rate with
    | none => exact same rig
    | some answer => exact same rig
  | setQueueDepth c depth =>
    refine Within.bind (fun rig => ?_) fun _ => .pure _
    rw [Ends, setQueueDepth_apply]
    cases (rig.queue c).resize depth with
    | none => exact same rig
    | some queue => exact same rig
  | setCalibration c cal =>
    refine Within.bind (driver_over.bind fun d => ?_) fun _ => .pure _
    split
    · exact .throw _
    · exact onDriver_over _
  | setLowPass c cutoff =>
    cases c
    · exact fun rig => same rig
    · exact (Within.throw _).bind fun _ => .pure _
  | lowPass c =>
    cases c
    · exact fun rig => same rig
    · exact (Within.throw _).bind fun _ => .pure _
  | _ => exact fun rig => same rig

/-- Of the commands that neither configure the chip nor measure, an accepted request writes. -/
theorem Command.other_traced (command : Command) (rig : Rig) (h : command.acquires = false) :
    rig.Traced (command.writes rig) (command.runOn rig).2 := by
  by_cases request : ∃ field n, command = .requestSetting field n
  · obtain ⟨field, n, rfl⟩ := request
    refine runOn_of_ends
      (Ends.bind (Q := fun _ next => rig.Traced _ next) ?_ fun _ _ moved => moved)
    rw [writes]
    split
    · exact ends_traced (requestSetting_driven field n)
    · rename_i refused
      rw [Ends, requestSetting_of_refused (Option.not_isSome_iff_eq_none.mp refused)]
      exact Rig.traced_of_looked (refl_of (Over Bus.Looked) rig)
  · have other : ∀ field n, command ≠ .requestSetting field n :=
      fun field n eq => request ⟨field, n, eq⟩
    rw [writes_of_not_request other, events_of_not_acquires h]
    exact Rig.traced_of_looked (runOn_within (run_looked h other))

/-- The writes of commands are those of their resets and accepted requests. -/
theorem account_traced : Account Event.writes Command.writes Rig.Traced where
  trans := by
    rintro rig mid next _ _ ⟨first, h, rfl⟩ ⟨second, h', rfl⟩
    exact ⟨first ++ second, h.append h', List.filter_append ..⟩
  requeued := by
    rintro rig _ ⟨_, rfl⟩
    exact Rig.traced_of_looked (refl_of (Over Bus.Looked) rig)
  reset rig := ends_traced reset_driven
  putOff unrecovered _ ends := Rig.traced_of_looked ((measure_looked unrecovered).of_ok ends)
  lost unrecovered _ ends := Rig.traced_of_looked ((measure_looked unrecovered).of_error ends)
  sampled unrecovered _ ends := Rig.traced_of_looked ((measure_looked unrecovered).of_ok ends)
  recovery {c rig bus} _ recovers := by
    obtain ⟨-, next, check, start⟩ := recovery?_eq_some_iff.mp recovers
    have same : next.bench.bus = bus := (congrArg (fun rig => rig.bench.bus) start).symm
    have looked : rig.bench.bus.Looked next.bench.bus := (isHealthy_looked c).of_ok check
    rw [same] at looked
    exact Rig.traced_of_looked looked
  acquires command rig acquires := by
    refine Command.writes_of_not_request ?_ rig
    rintro field n rfl
    cases acquires
  other := Command.other_traced

/-! ### Sessions -/

/-- The outside world does the same to two buses of which one shadows the other. -/
theorem Bus.Shadows.act {world : Bus} {bench : Bench} (h : world.Shadows bench.bus) (s : Stimulus) :
    (s.act { bench with bus := world }).bus.Shadows (s.act bench).bus := by
  cases s with
  | register address value => exact ⟨h.chip.write address value, h.waiting⟩
  | outputs c raw => exact ⟨h.chip.writeRun _ _, h.waiting⟩
  | waiting c raws => exact ⟨h.chip, congrArg (PerChannel.set · c raws) h.waiting⟩
  | brownout => exact ⟨h.chip.writeEach _, h.waiting⟩
  | readFault after => exact ⟨h.chip, h.waiting⟩
  | writeFault after => exact ⟨h.chip, h.waiting⟩
  | dataReady level => exact h
  | clock now => exact h
  | advance microseconds => exact h

/-- What a session makes of a bus on which the writes of the driver have no effect: the stimuli act
on it, and the transfers of the commands are played on it. -/
def Rig.undriven (rig : Rig) (world : Bus) : List Step → Bus
  | [] => world
  | .command command :: rest =>
    let next := (command.runOn rig).2
    next.undriven ((rig.transfersTo next).foldl Bus.observe world) rest
  | .stimulus s :: rest =>
    Rig.undriven { rig with bench := s.act rig.bench } (s.act { rig.bench with bus := world }).bus
      rest

/-- The transfers of a session have the driver's footprint, and the writes among them are those of
its commands. -/
theorem runSession_traced (rig : Rig) (steps : List Step) : ∃ made,
    (runSession rig steps).2.bench.bus.transfers = rig.bench.bus.transfers ++ made ∧
      (∀ t ∈ made, t.isWrite → t.WritesByte) ∧
      made.filter Transfer.isWrite = along Command.writes rig steps ∧
      ∀ world : Bus, world.Shadows rig.bench.bus →
        (rig.undriven world steps).Shadows (runSession rig steps).2.bench.bus := by
  induction steps generalizing rig with
  | nil => exact ⟨[], (List.append_nil _).symm, fun _ h => absurd h List.not_mem_nil, rfl,
      fun _ h => h⟩
  | cons step rest ih =>
    cases step with
    | command command =>
      obtain ⟨made, h, writes⟩ := account_traced.command command rig
      obtain ⟨later, transfers, single, writes', shadows⟩ := ih (command.runOn rig).2
      refine ⟨made ++ later, ?_, fun t ht => ?_, ?_, fun world hw => ?_⟩
      · exact transfers.trans (by rw [h.transfers, List.append_assoc])
      · exact (List.mem_append.mp ht).elim (h.writes t) (single t)
      · rw [List.filter_append, writes, writes']
        rfl
      · refine shadows _ ?_
        rw [Rig.transfersTo_of_made h]
        exact h.shadows world hw
    | stimulus s =>
      obtain ⟨later, transfers, single, writes, shadows⟩ := ih { rig with bench := s.act rig.bench }
      exact ⟨later, transfers.trans (by rw [s.transfers_act]), single, writes,
        fun world hw => shadows _ (hw.act s)⟩

/-! ### Requests -/

/-- The address and the bits of the register that hold a setting. -/
def Field.bits : Field → UInt8 × UInt8
  | .accelRange => (0x21, 0x38)
  | .accelRate => (0x20, 0xF0)
  | .antiAlias => (0x21, 0xC0)
  | .magRange => (0x25, 0x60)
  | .magRate => (0x24, 0x1C)

theorem Config.update_bits (config : Config) (field : Field) :
    (config.update field).register.addr = field.bits.1 ∧
      (config.update field).clear = field.bits.2 := by
  cases field <;> exact ⟨rfl, rfl⟩

/-- A request changes no bits of the chip but those of its field. -/
theorem requestSetting_bits (field : Field) (n : Nat) (rig : Rig) (a : UInt8) :
    (rig.after (requestSetting field n)).chip.read a &&&
        ~~~(if a = field.bits.1 then field.bits.2 else 0) =
      rig.chip.read a &&& ~~~(if a = field.bits.1 then field.bits.2 else 0) := by
  refine Rig.after_of_ends (P := fun next => next.chip.read a &&& _ = rig.chip.read a &&& _) ?_
  refine driver_bind_ends ?_
  split
  · rfl
  · rename_i config _
    obtain ⟨address, clear⟩ := config.update_bits field
    refine (applyUpdate_ends (config.update field) _).mono (fun _ next wrote => ?_)
      fun _ next failed => ?_
    · rw [Rig.chip, wrote.bus.chip, RegisterFile.read_write, address]
      by_cases own : a = field.bits.1
      · rw [if_pos own, if_pos own, own, ← clear]
        exact RegisterUpdate.apply_and_of_disjoint (config.fits_update field) UInt8.and_not_self _
      · rw [if_neg own]
    · rw [Rig.chip, failed.bus.chip]

/-! ### The footprint of a session -/

/-- A reset begins where it is called for, or in a measurement that found the control register of
its channel changed. -/
theorem start_of_reset {command : Command} {rig start : Rig}
    (h : .reset start ∈ command.events rig) :
    (command = .reset ∨ command = .bringUp) ∧ start = rig ∨ ∃ c polled,
      command.measurement? rig = some (c, polled) ∧ polled.Mismatched c ∧
        recovery? c polled = some start := by
  rcases Command.mem_events_reset.mp h with ⟨configures, same⟩ | ⟨c, polled, measured, recovers⟩
  · exact .inl ⟨of_decide_eq_true configures, same⟩
  · refine .inr ⟨c, polled, measured, ?_, recovers⟩
    apply Classical.byContradiction
    intro matched
    rw [recovery?_eq_none matched] at recovers
    cases recovers

/-- A command that starts no reset writes nothing, unless it requests a setting that is accepted. -/
theorem Command.writes_eq_nil {command : Command} {rig : Rig}
    (quiet : ∀ start, .reset start ∉ command.events rig)
    (refused : ∀ field n, command = .requestSetting field n →
      rig.driver.config.request field n = none) : command.writes rig = [] := by
  by_cases request : ∃ field n, command = .requestSetting field n
  · obtain ⟨field, n, rfl⟩ := request
    simp [writes, refused field n rfl]
  · rw [writes_of_not_request fun field n eq => request ⟨field, n, eq⟩, List.flatMap_eq_nil_iff]
    intro event he
    cases event with
    | reset start => exact absurd he (quiet start)
    | measurement c polled => rfl

/-- In every session, whatever fails, the driver writes single bytes to nine registers, and it does
so in resets and in accepted requests alone. A bit that is not driven is at the end as the outside
world has put it: it is the same in a world in which the writes of the driver have no effect. A
reset is called for, or starts in a measurement whose check of the control register failed; a
request changes no bits but those of its field; and a driver that is made writes nothing. -/
theorem write_footprint (rig : Rig) (steps : List Step) :
    (∃ made, (runSession rig steps).2.bench.bus.transfers = rig.bench.bus.transfers ++ made ∧
        (∀ t ∈ made, t.isWrite → t.WritesByte) ∧
        made.filter Transfer.isWrite = along Command.writes rig steps) ∧
      (∀ a, (runSession rig steps).2.chip.read a &&& ~~~drivenBits a =
        (rig.undriven rig.bench.bus steps).chip.read a &&& ~~~drivenBits a) ∧
      (∀ (command : Command) before, (∀ start, .reset start ∉ command.events before) →
        (∀ field n, command = .requestSetting field n →
          before.driver.config.request field n = none) → command.writes before = []) ∧
      (∀ (command : Command) before start, .reset start ∈ command.events before →
        (command = .reset ∨ command = .bringUp) ∧ start = before ∨ ∃ c polled,
          command.measurement? before = some (c, polled) ∧ polled.Mismatched c ∧
            recovery? c polled = some start) ∧
      (∀ field n (before : Rig) a, (before.after (requestSetting field n)).chip.read a &&&
          ~~~(if a = field.bits.1 then field.bits.2 else 0) =
        before.chip.read a &&& ~~~(if a = field.bits.1 then field.bits.2 else 0)) ∧
      ∀ before : Rig, before.writesTo (before.after connect) = [] := by
  obtain ⟨made, transfers, single, writes, shadows⟩ := runSession_traced rig steps
  refine ⟨⟨made, transfers, single, writes⟩, fun a => ?_, fun _ _ => Command.writes_eq_nil,
    fun _ _ _ => start_of_reset, requestSetting_bits, fun before => ?_⟩
  · exact ((shadows rig.bench.bus (.refl _)).chip a).symm
  · have looked : Over Bus.Looked before (before.after connect) :=
      Rig.after_of_ends (connect_looked before)
    exact (Rig.traced_of_looked looked).writesTo_eq

end ECompass
