import ECompass.Proofs.Parallel
import Mathlib.Data.List.Forall2

/-!
# The two transports

A driver that reaches its chip by SPI frames behaves as one that reaches it directly. Two buses
mirror each other if their chips agree at the addresses that a frame can name, they are to fail at
the same transfers, and the transfers so far correspond one to one. Every access of the driver stays
within the six address bits of a command (`Register.addr_lt`), and is one transfer either way, so
each program ends in the same way on both buses and leaves them mirroring each other. From the buses
this carries over to operations, commands and sessions.
-/

namespace ECompass

open Program Operation

/-! ### Mirrored buses -/

/-- A frame carries out a direct transfer: it has the command for it, and moves the same bytes. -/
inductive Transfer.Mirrors : Transfer → Transfer → Prop where
  /-- The transfer stays within the addresses that a command can name. -/
  | frame (direction : Direction) {address : UInt8} {n : Nat} (data : Option (List UInt8))
      (fits : address.toNat + n ≤ 0x40) :
      Mirrors ⟨.direct direction address n, data⟩
        ⟨.framed (Frame.command direction address n), data⟩

/-- A bus that is reached directly, and one by frames, that cannot be told apart by what is read. -/
structure Bus.Mirrors (plain framed : Bus) : Prop where
  /-- The first bus is reached directly. -/
  direct : plain.transport = .direct
  /-- The second one is reached by frames. -/
  spi : framed.transport = .spi
  /-- The chips agree at the addresses that a command can name. -/
  chip : ∀ a < 0x40, plain.chip.read a = framed.chip.read a
  /-- The same measurements wait. -/
  waiting : plain.waiting = framed.waiting
  /-- The same reads fail. -/
  readFault : plain.readFault = framed.readFault
  /-- The same writes fail. -/
  writeFault : plain.writeFault = framed.writeFault
  /-- The transfers correspond one to one. -/
  transfers : List.Forall₂ Transfer.Mirrors plain.transfers framed.transfers

namespace Bus

variable {plain framed : Bus}

theorem Mirrors.fails (h : plain.Mirrors framed) (direction : Direction) :
    plain.fails direction = framed.fails direction := by
  cases direction
  · exact congrArg (fun fault => (countdown fault).1) h.readFault
  · exact congrArg (fun fault => (countdown fault).1) h.writeFault

/-- The same transfer on both buses is one transfer more on each. -/
theorem Mirrors.noted (h : plain.Mirrors framed) (direction : Direction) {address : UInt8} {n : Nat}
    (data : Option (List UInt8)) (fits : address.toNat + n ≤ 0x40) :
    (plain.noted direction address n data).Mirrors (framed.noted direction address n data) where
  direct := (transport_noted ..).trans h.direct
  spi := (transport_noted ..).trans h.spi
  chip := by
    rw [chip_noted, chip_noted]
    exact h.chip
  waiting := by rw [waiting_noted, waiting_noted, h.waiting]
  readFault := by
    cases direction
    · exact congrArg (fun fault => (countdown fault).2) h.readFault
    · exact h.readFault
  writeFault := by
    cases direction
    · exact h.writeFault
    · exact congrArg (fun fault => (countdown fault).2) h.writeFault
  transfers := by
    have headers : Transfer.Mirrors ⟨plain.header direction address n, data⟩
        ⟨framed.header direction address n, data⟩ := by
      rw [header, header, h.direct, h.spi]
      exact .frame direction data fits
    rw [transfers_noted, transfers_noted]
    exact List.rel_append h.transfers (.cons headers .nil)

theorem Mirrors.write (h : plain.Mirrors framed) (address value : UInt8) :
    Mirrors { plain with chip := plain.chip.write address value }
      { framed with chip := framed.chip.write address value } :=
  { h with
    chip := fun a ha => by rw [RegisterFile.read_write, RegisterFile.read_write, h.chip a ha] }

theorem Mirrors.writeRun {place : Nat → UInt8} {values : List UInt8} (h : plain.Mirrors framed) :
    Mirrors { plain with chip := plain.chip.writeRun place values }
      { framed with chip := framed.chip.writeRun place values } := by
  induction values generalizing plain framed place with
  | nil => exact h
  | cons value rest ih => exact ih (h.write (place 0) value)

/-- The next waiting measurement comes up on both buses. -/
theorem Mirrors.refill (h : plain.Mirrors framed) (address : UInt8) :
    (plain.refill address).Mirrors (framed.refill address) := by
  obtain none | ⟨c, raw, rest, some⟩ := refill_cases framed.waiting address
  · rwa [none plain h.waiting, none framed rfl]
  · rw [some plain h.waiting, some framed rfl]
    exact { h.writeRun with waiting := rfl }

theorem readRegister_simulates (r : Register) :
    Simulates Mirrors (readRegister r) (readRegister r) := by
  intro plain framed h
  have fits : r.addr.toNat + 1 ≤ 0x40 := Nat.succ_le_of_lt (UInt8.lt_iff_toNat_lt.1 r.addr_lt)
  rw [readRegister_apply, readRegister_apply, h.fails, h.chip _ r.addr_lt]
  cases framed.fails .read
  · exact .ok _ (h.noted .read _ fits)
  · exact .error _ (h.noted .read _ fits)

theorem writeRegister_simulates (r : Register) (value : UInt8) :
    Simulates Mirrors (writeRegister r value) (writeRegister r value) := by
  intro plain framed h
  have fits : r.addr.toNat + 1 ≤ 0x40 := Nat.succ_le_of_lt (UInt8.lt_iff_toNat_lt.1 r.addr_lt)
  rw [writeRegister_apply, writeRegister_apply, h.fails]
  cases framed.fails .write
  · exact .ok _ ((h.write _ value).noted .write _ fits)
  · exact .error _ (h.noted .write _ fits)

/-- A burst stays within the addresses that a command can name. -/
theorem readBurst_simulates (c : Channel) : Simulates Mirrors (readBurst c.status Burst.length)
    (readBurst c.status Burst.length) := by
  intro plain framed h
  have fits : c.status.addr.toNat + Burst.length ≤ 0x40 := by cases c <;> decide
  have bytes : (plain.refill c.status.addr).chip.readRun (directPlace c.status.addr) Burst.length =
      (framed.refill c.status.addr).chip.readRun (directPlace c.status.addr) Burst.length := by
    refine Vector.ext fun i hi => ?_
    rw [RegisterFile.getElem_readRun, RegisterFile.getElem_readRun]
    exact (h.refill _).chip _ (directPlace_lt fits hi)
  rw [readBurst_apply, readBurst_apply, h.fails]
  simp only [bytes]
  cases framed.fails .read
  · exact .ok _ ((h.refill _).noted .read _ fits)
  · exact .error _ (h.noted .read _ fits)

theorem readAll_simulates (registers : List Register) :
    Simulates Mirrors (RegisterDump.readAll registers) (RegisterDump.readAll registers) := by
  induction registers with
  | nil => exact .pure _
  | cons r rest ih => exact (readRegister_simulates r).bind fun _ => ih.bind fun _ => .pure _

theorem capture_simulates (expected : Expected) (now : Nat) :
    Simulates Mirrors (RegisterDump.capture expected now) (RegisterDump.capture expected now) :=
  (readAll_simulates _).bind fun _ => .pure _

end Bus

/-! ### Mirrored rigs -/

/-- Two rigs with mirrored buses that are the same in everything else. -/
structure Rig.Mirrors (plain framed : Rig) : Prop where
  /-- The buses mirror each other. -/
  bus : plain.bench.bus.Mirrors framed.bench.bus
  /-- The drivers are the same. -/
  driver : plain.driver = framed.driver
  /-- The clocks are the same, and the same calls were made on the triggers. -/
  timer : plain.bench.timer = framed.bench.timer
  /-- The data-ready lines are the same. -/
  dataReady : plain.bench.dataReady = framed.bench.dataReady
  /-- The sinks were told the same. -/
  notices : plain.bench.notices = framed.bench.notices

/-- An operation ends alike on mirrored rigs, and leaves them mirrored. -/
abbrev Mirrored {α : Type} (operation : Operation α) : Prop :=
  Simulates Rig.Mirrors operation operation

section Parts

variable {α : Type}

theorem onBus_mirrored {program : BusM α} (h : Simulates Bus.Mirrors program program) :
    Mirrored (onBus program) := by
  intro plain framed mirrors
  have alike := h _ _ mirrors.bus
  unfold onBus
  revert alike
  generalize program plain.bench.bus = first, program framed.bench.bus = second
  rintro (⟨a, bus⟩ | ⟨cause, bus⟩)
  · exact .ok a { mirrors with bus }
  · exact .error _ { mirrors with bus }

theorem attempt_mirrored {program : BusM α} (h : Simulates Bus.Mirrors program program) :
    Mirrored (attempt program) := by
  intro plain framed mirrors
  have alike := h _ _ mirrors.bus
  unfold attempt
  revert alike
  generalize program plain.bench.bus = first, program framed.bench.bus = second
  rintro (⟨a, bus⟩ | ⟨cause, bus⟩)
  · exact .ok _ { mirrors with bus }
  · exact .ok _ { mirrors with bus }

theorem driver_mirrored : Mirrored driver := by
  intro plain framed mirrors
  show Alike _ (.ok plain.driver plain) (.ok framed.driver framed)
  rw [mirrors.driver]
  exact .ok _ mirrors

theorem onDriver_mirrored (f : Driver → Driver) : Mirrored (onDriver f) :=
  fun _ _ mirrors => .ok _ { mirrors with driver := congrArg f mirrors.driver }

theorem callTimer_mirrored (calls : List TimerCall) : Mirrored (callTimer calls) :=
  fun _ _ mirrors => .ok _ { mirrors with
    timer := congrArg (fun timer => { timer with calls := timer.calls ++ calls }) mirrors.timer }

theorem tell_mirrored (n : Notice) : Mirrored (tell n) :=
  fun _ _ mirrors => .ok _ { mirrors with notices := congrArg (· ++ [n]) mirrors.notices }

end Parts

/-! ### Operations on mirrored rigs -/

theorem watch_mirrored (s : Sample) : Mirrored (watch s) := by
  refine driver_mirrored.bind fun d => (onDriver_mirrored _).bind fun _ => ?_
  split
  · exact .pure _
  · refine (onDriver_mirrored _).bind fun _ => ?_
    split
    · exact driver_mirrored.bind fun _ =>
        (attempt_mirrored (Bus.capture_simulates _ _)).bind fun _ => tell_mirrored _
    · exact tell_mirrored _

theorem announce_mirrored (c : Channel) (s : Sample) (publish : Bool) :
    Mirrored (announce c s publish) := by
  cases c <;> cases publish
  · exact (tell_mirrored _).bind fun _ => watch_mirrored s
  · exact (tell_mirrored _).bind fun _ => (tell_mirrored _).bind fun _ => watch_mirrored s
  · exact (tell_mirrored _).bind fun _ => .pure _
  · exact (tell_mirrored _).bind fun _ => (tell_mirrored _).bind fun _ => .pure _

theorem commit_mirrored (c : Channel) (raw : Axes Int16) : Mirrored (commit c raw) := by
  intro plain framed mirrors
  have sample : plain.sample c raw = framed.sample c raw := by
    rw [Rig.sample, Rig.sample, mirrors.driver, mirrors.timer]
  have keep : (plain.keep c raw).Mirrors (framed.keep c raw) := by
    refine { mirrors with driver := ?_ }
    rw [Rig.keep, Rig.keep, sample, mirrors.driver, mirrors.timer]
  rw [commit_apply, commit_apply, sample, mirrors.driver]
  exact announce_mirrored c _ _ _ _ keep

/-- Mirrored rigs cannot be told apart by what operations are made of. -/
theorem parallel_mirrors : Parallel (fun _ => False) Rig.Mirrors where
  driver mirrors := congrArg Driver.muted mirrors.driver
  now mirrors := congrArg Timer.now mirrors.timer
  dataReady mirrors := mirrors.dataReady
  onDriver _ := (onDriver_mirrored _).unless
  callTimer calls := (callTimer_mirrored calls).unless
  readRegister r := (onBus_mirrored (Bus.readRegister_simulates r)).unless
  writeRegister r value := (onBus_mirrored (Bus.writeRegister_simulates r value)).unless
  burst c := (onBus_mirrored (Bus.readBurst_simulates c)).unless
  commit c raw := (commit_mirrored c raw).unless

/-- Every command ends alike on mirrored rigs. -/
theorem Command.run_mirrored (command : Command) : Mirrored command.run := by
  cases quiet : command.reports with
  | false => exact (parallel_mirrors.command quiet).simulates
  | true =>
    cases command with
    | setPublishing c enable => exact (onDriver_mirrored _).bind fun _ => .pure _
    | toggleLogging =>
      exact ((onDriver_mirrored _).bind fun _ => driver_mirrored.bind fun _ => .pure _).bind
        fun _ => .pure _
    | _ => cases quiet

/-! ### Sessions on mirrored rigs -/

/-- The surroundings change in the same way. -/
theorem Rig.Mirrors.act {plain framed : Rig} (h : plain.Mirrors framed) (s : Stimulus) :
    Rig.Mirrors { plain with bench := s.act plain.bench }
      { framed with bench := s.act framed.bench } := by
  have advance (t : Nat → Nat) : { plain.bench.timer with now := t plain.bench.timer.now } =
      { framed.bench.timer with now := t framed.bench.timer.now } := by rw [h.timer]
  cases s with
  | register address value => exact { h with bus := h.bus.write address value }
  | outputs c raw => exact { h with bus := h.bus.writeRun }
  | waiting c raws =>
    exact { h with bus := { h.bus with waiting := congrArg (·.set c raws) h.bus.waiting } }
  | brownout => exact { h with bus := (h.bus.write _ _).write _ _ }
  | readFault after => exact { h with bus := { h.bus with readFault := rfl } }
  | writeFault after => exact { h with bus := { h.bus with writeFault := rfl } }
  | dataReady level => exact { h with dataReady := rfl }
  | clock now => exact { h with timer := advance fun _ => now }
  | advance microseconds =>
    exact { h with timer := advance fun now => (now + microseconds) % clockPeriod }

/-- A step gives the same answer on mirrored rigs, and leaves them mirrored. -/
theorem Rig.Mirrors.run {plain framed : Rig} (h : plain.Mirrors framed) (step : Step) :
    (step.run plain).1 = (step.run framed).1 ∧ (step.run plain).2.Mirrors (step.run framed).2 := by
  cases step with
  | stimulus s => exact ⟨rfl, h.act s⟩
  | command c => exact Command.runOn_of_alike (c.run_mirrored plain framed h)

/-- A session gives the same answers on mirrored rigs, and leaves them mirrored. -/
theorem Rig.Mirrors.session {plain framed : Rig} (h : plain.Mirrors framed) (steps : List Step) :
    (runSession plain steps).1 = (runSession framed steps).1 ∧
      (runSession plain steps).2.Mirrors (runSession framed steps).2 := by
  induction steps generalizing plain framed with
  | nil => exact ⟨rfl, h⟩
  | cons step rest ih =>
    obtain ⟨answer, mirrors⟩ := h.run step
    obtain ⟨answers, final⟩ := ih mirrors
    exact ⟨congrArg₂ List.cons answer answers, final⟩

/-- The SPI transport refines the direct one for the whole driver. On surroundings that mirror each
other the driver connects alike; from then on every session of commands and stimuli gives the same
answers, step by step, and leaves the same driver, timer and sink, chips that agree at the
addresses that a command can name, and transfers that correspond one to one. -/
theorem spi_refines_direct {plain framed : Bench}
    (mirrors : Rig.Mirrors { bench := plain } { bench := framed }) :
    Alike (fun p f : Rig => ∀ steps, (runSession p steps).1 = (runSession f steps).1 ∧
        (runSession p steps).2.Mirrors (runSession f steps).2)
      (connect { bench := plain }) (connect { bench := framed }) := by
  have alike := parallel_mirrors.connect.simulates _ _ mirrors
  revert alike
  generalize connect { bench := plain } = first, connect { bench := framed } = second
  rintro (⟨a, connected⟩ | ⟨e, connected⟩)
  · exact .ok a connected.session
  · exact .error e connected.session

/-- Fresh surroundings of the two kinds mirror each other, so a session that is disturbed by a
failed write and by a loss of power goes alike in both. -/
theorem spi_refines_direct_fresh :
    let steps : List Step := [.stimulus (.writeFault 5), .command .reset, .stimulus .brownout,
      .command (.measure .accel), .command (.measure .mag)]
    Rig.Mirrors { bench := .fresh .direct } { bench := .fresh .spi } ∧
      (runSession (.fresh .direct) steps).1 = (runSession (.fresh .spi) steps).1 := by
  intro steps
  have mirrors : Rig.Mirrors { bench := .fresh .direct } { bench := .fresh .spi } :=
    ⟨⟨rfl, rfl, fun _ _ => rfl, rfl, rfl, rfl, .nil⟩, rfl, rfl, rfl, rfl⟩
  have alike := spi_refines_direct mirrors
  rw [connect_fresh, connect_fresh] at alike
  obtain ⟨_, same⟩ | _ := alike
  exact ⟨mirrors, (same steps).1⟩

end ECompass
