import ECompass.Proofs.Abreast
import ECompass.Proofs.Chronicle
import ECompass.Proofs.SplitTransfers

/-!
# From registers to samples

A burst begins at the status register of its channel, so the six output registers are its bytes but
the first, two for each axis. What these registers hold is one triple of counts
(`RegisterFile.counts`), and the registers and the counts determine each other
(`outputBytes_counts`, `Burst.outputBytes_injective`). A measurement that gives a sample makes it of
the counts that the chip holds when the burst is taken, whatever the driver and however the chip is
reached (`measure_counts`). Counts that were put into the registers, or wait to be, are what they
hold then (`counts_present`, `counts_refill`).
-/

namespace ECompass

open Program Operation

/-! ### Counts and bytes -/

/-- A count is the number that its bytes spell, low byte first, in two's complement. -/
theorem toInt_count (low high : UInt8) :
    (count low high).toInt = Int.bmod (low.toNat + 256 * high.toNat) 65536 := by
  have spelled : (high.toBitVec ++ low.toBitVec).toNat = low.toNat + 256 * high.toNat := by
    rw [BitVec.toNat_append, ← Nat.shiftLeft_add_eq_or_of_lt low.toBitVec.isLt, Nat.shiftLeft_eq]
    show high.toNat * 256 + low.toNat = _
    omega
  show (high.toBitVec ++ low.toBitVec).toInt = _
  rw [BitVec.toInt_eq_toNat_bmod, spelled]
  rfl

@[simp] theorem Burst.length_outputBytes (raw : Axes Int16) : (outputBytes raw).length = 6 := rfl

/-- The bytes of counts tell them apart. -/
theorem Burst.outputBytes_injective {raw raw' : Axes Int16}
    (h : outputBytes raw = outputBytes raw') : raw = raw' := by
  have spelled := ofBytes_outputBytes 0 raw
  simp only [h] at spelled
  rw [ofBytes_outputBytes] at spelled
  exact (congrArg Burst.raw spelled).symm

namespace RegisterFile

/-- The counts that a burst of a channel finds. -/
def counts (f : RegisterFile) (c : Channel) : Axes Int16 :=
  (Burst.ofBytes (f.readRun (Bus.directPlace c.status.addr) Burst.length)).raw

/-- The bytes of a burst but the first are those of the output registers, two for each axis. -/
theorem counts_eq (f : RegisterFile) (c : Channel) :
    let byte i := f.read (c.firstOutput.addr + .ofNat i)
    f.counts c = ⟨count (byte 0) (byte 1), count (byte 2) (byte 3), count (byte 4) (byte 5)⟩ := by
  have data (i : Nat) :
      Bus.directPlace c.status.addr (i + 1) = c.firstOutput.addr + .ofNat i := by
    have follows : c.firstOutput.addr = c.status.addr + 1 := by
      cases c <;> rfl
    rw [Bus.directPlace, follows, UInt8.ofNat_add, UInt8.add_comm (.ofNat i), UInt8.add_assoc]
    rfl
  simp only [counts, Burst.ofBytes, getElem_readRun]
  simp only [← data]

/-- The bytes of the counts are what the output registers hold. -/
theorem outputBytes_counts (f : RegisterFile) (c : Channel) :
    Burst.outputBytes (f.counts c) = c.outputs.map f.read := by
  rw [counts_eq]
  simp [Burst.outputBytes, Channel.outputs, List.range_succ]

end RegisterFile

namespace Bus

/-- Each output register holds the byte that was put there. -/
theorem read_present (bus : Bus) (c : Channel) (raw : Axes Int16) {i : Nat}
    (hi : i < (Burst.outputBytes raw).length) :
    (bus.present c raw).chip.read (c.firstOutput.addr + .ofNat i) =
      (Burst.outputBytes raw)[i] := by
  apply RegisterFile.read_writeRun_of_last bus.chip (fun i => c.firstOutput.addr + .ofNat i) hi
  intro j hij hj same
  have apart := congrArg UInt8.toNat ((UInt8.add_right_inj _).mp same)
  rw [Burst.length_outputBytes] at hj
  rw [UInt8.toNat_ofNat', UInt8.toNat_ofNat'] at apart
  omega

/-- Counts that are put into the output registers are found there. -/
theorem counts_present (bus : Bus) (c : Channel) (raw : Axes Int16) :
    (bus.present c raw).chip.counts c = raw := by
  apply Burst.outputBytes_injective
  rw [RegisterFile.outputBytes_counts, Channel.outputs, List.map_map]
  refine List.ext_getElem (by simp) fun i _ hi => ?_
  rw [List.getElem_map, List.getElem_range, Function.comp_apply, read_present bus c raw hi]

theorem channelAt?_status (c : Channel) : channelAt? c.status.addr = some c := by
  cases c <;> rfl

/-- Before a burst the next waiting counts, if there are any, come into the output registers. -/
theorem counts_refill (bus : Bus) (c : Channel) : (bus.refill c.status.addr).chip.counts c =
    match bus.waiting.get c with
    | [] => bus.chip.counts c
    | raw :: _ => raw := by
  simp only [refill, channelAt?_status]
  cases bus.waiting.get c with
  | nil => rfl
  | cons raw rest => exact counts_present bus c raw

theorem SameChip.refill {bus other : Bus} (h : bus.SameChip other) (address : UInt8) :
    (bus.refill address).SameChip (other.refill address) := by
  obtain none | ⟨c, raw, rest, some⟩ := refill_cases other.waiting address
  · rwa [none bus h.waiting, none other rfl]
  · rw [some bus h.waiting, some other rfl]
    have chip : (bus.present c raw).chip = (other.present c raw).chip := by
      rw [present, present, h.chip]
    exact ⟨h.transport, chip, rfl⟩

end Bus

/-! ### Measurements -/

section Measurements

variable {c : Channel} {rig next : Rig}

/-- A health check leaves the chip as it is. -/
theorem sameChip_of_isHealthy {healthy : Bool} (check : isHealthy c rig = .ok healthy next) :
    rig.bench.bus.SameChip next.bench.bus := by
  have looks : Ends (isHealthy c) rig (fun _ next => rig.bench.bus.SameChip next.bench.bus)
      fun _ _ => True := by
    refine Ends.bind (Q := fun _ next => rig.bench.bus.SameChip next.bench.bus) ?_ ?_
    · apply onBus_ends
      rw [Ends, Bus.readRegister_apply]
      cases rig.bench.bus.fails .read
      · exact Bus.sameChip_noted ..
      · exact True.intro
    · exact fun _ _ same => same
  exact looks.of_ok check

/-- A burst brings the counts that the chip holds once waiting ones have come up. -/
theorem readBurst_counts {burst : Burst} (read : readBurst c rig = .ok burst next) :
    burst.raw = (rig.bench.bus.refill c.status.addr).chip.counts c ∧
      (rig.bench.bus.refill c.status.addr).SameChip next.bench.bus := by
  let filled := rig.bench.bus.refill c.status.addr
  have brings : Ends (readBurst c) rig
      (fun burst next => burst.raw = filled.chip.counts c ∧ filled.SameChip next.bench.bus)
      fun _ _ => True := by
    refine Ends.bind (Q := fun bytes next => (Burst.ofBytes bytes).raw = filled.chip.counts c ∧
      filled.SameChip next.bench.bus) ?_ ?_
    · apply onBus_ends
      rw [Ends, Bus.readBurst_apply]
      cases rig.bench.bus.fails .read
      · exact ⟨rfl, Bus.sameChip_noted ..⟩
      · exact True.intro
    · exact fun _ _ brought => brought
  exact brings.of_ok read

/-- So does one that follows a health check. -/
theorem readBurst_counts_of_checked {healthy : Bool} {checked : Rig} {burst : Burst}
    (check : isHealthy c rig = .ok healthy checked) (read : readBurst c checked = .ok burst next) :
    burst.raw = (rig.bench.bus.refill c.status.addr).chip.counts c := by
  rw [(readBurst_counts read).1, ← ((sameChip_of_isHealthy check).refill _).chip]

/-- The dump that a record may ask for leaves the chip as it is. -/
theorem Rig.sameChip_dump (rig : Rig) (s : Sample) : rig.bench.bus.SameChip (rig.dump s).2 := by
  rcases rig.dump_cases s with same | dumped
  · rw [same]
    exact refl_of Bus.SameChip _
  · exact dumped.chip

/-- So does all that is done to commit a sample. -/
theorem Rig.sameChip_committed (rig : Rig) (c : Channel) (raw : Axes Int16) :
    rig.bench.bus.SameChip (rig.committed c raw).bench.bus := by
  cases c with
  | accel => exact Rig.sameChip_dump _ _
  | mag => exact refl_of Bus.SameChip _

/-- A measurement that gives a sample makes it of the counts that the chip holds once waiting ones
have come up, and leaves the chip so. -/
theorem measure_counts (sampled : measure c rig = .ok .sampled next) :
    let filled := rig.bench.bus.refill c.status.addr
    next.driver.queue.get c =
        ((rig.driver.queue.get c).push (rig.sample c (filled.chip.counts c))).2 ∧
      filled.SameChip next.bench.bus := by
  intro filled
  by_cases ready : rig.Ready c
  · obtain ⟨-, checked, mid, burst, check, read, -, driver, queue⟩ :=
      exists_burst_of_sampled sampled
    have same : burst.raw = filled.chip.counts c := readBurst_counts_of_checked check read
    have looked := (sameChip_of_isHealthy check).refill c.status.addr
    have taken := trans_of Bus.SameChip looked (readBurst_counts read).2
    have timer : mid.bench.timer = rig.bench.timer := by
      obtain ⟨_, rfl⟩ := (isHealthy_onBus c).of_ok check
      obtain ⟨_, rfl⟩ := (readBurst_onBus c).of_ok read
      rfl
    rw [measure_of_isHealthy ready check, if_pos rfl, acquire_eq_ok read] at sampled
    cases sampled
    refine ⟨?_, trans_of Bus.SameChip taken (mid.sameChip_committed c _)⟩
    rw [queue, Rig.sample, driver, timer, same]
    rfl
  · rw [measure_of_not_ready ready] at sampled
    obtain ⟨_, _, -, ⟨⟩⟩ := bind_eq_ok_iff.1 sampled

end Measurements

/-! ### Samples -/

/-- Counts were just put into the outputs of a channel on which none waited, or were made to wait on
it before any others. -/
def Rig.Presents (rig : Rig) (c : Channel) (raw : Axes Int16) : Prop :=
  ∃ before : Bench,
    before.bus.waiting.get c = [] ∧ rig.bench = (Stimulus.outputs c raw).act before ∨
      ∃ rest, rig.bench = (Stimulus.waiting c (raw :: rest)).act before

theorem Rig.Presents.counts {rig : Rig} {c : Channel} {raw : Axes Int16} (h : rig.Presents c raw) :
    (rig.bench.bus.refill c.status.addr).chip.counts c = raw := by
  rw [Bus.counts_refill]
  obtain ⟨before, ⟨idle, presented⟩ | ⟨rest, presented⟩⟩ := h
  · have waits : rig.bench.bus.waiting = before.bus.waiting := by
      rw [presented]
      rfl
    rw [waits, idle, presented]
    exact Bus.counts_present before.bus c raw
  · have waits : rig.bench.bus.waiting.get c = raw :: rest := by
      rw [presented]
      exact PerChannel.get_set_self _ c _
    rw [waits]

/-- From the registers to a sample, whatever the driver, the chip and the way to it.

A channel that has data and is as expected gives a sample unless a transfer fails. Whenever a
measurement gives a sample, the chip is left as it was once the waiting counts, if any, had come up,
and the new sample is of that chip: its counts are the numbers that its output registers spell in
two's complement, low byte first, so that the six bytes can be told from them. It has the time of
the timer, no transfer errors, and the scale of the configured range. Counts that were presented to
the channel, whatever they are, are those of the sample. -/
theorem samples_spell_registers (c : Channel) (rig : Rig) :
    let chip := (rig.bench.bus.refill c.status.addr).chip
    let first : UInt8 := match c with
      | .accel => 0x28
      | .mag => 0x08
    let byte i := chip.read (first + .ofNat i)
    let spelled i := Int.bmod ((byte i).toNat + 256 * (byte (i + 1)).toNat) 65536
    (rig.Ready c → ¬ rig.Mismatched c → (Command.measure c).Unfailed rig →
      ∃ next, measure c rig = .ok .sampled next) ∧
    ∀ next, measure c rig = .ok .sampled next → next.bench.bus.chip = chip ∧
      ∃ s, next.driver.queue.get c = ((rig.driver.queue.get c).push s).2 ∧
        s.raw.x.toInt = spelled 0 ∧ s.raw.y.toInt = spelled 2 ∧ s.raw.z.toInt = spelled 4 ∧
        Burst.outputBytes s.raw = (List.range 6).map byte ∧
        s.timestamp = rig.bench.timer.now ∧ s.transferErrors = 0 ∧
        s.scaling = rig.driver.config.scaling c ∧ s.fullScale = rig.driver.config.fullScale c ∧
        ∀ raw, rig.Presents c raw → s.raw = raw := by
  intro chip first byte spelled
  have isFirst : first = c.firstOutput.addr := by
    cases c <;> rfl
  have bytes : byte = fun i => chip.read (c.firstOutput.addr + .ofNat i) := by
    rw [← isFirst]
  constructor
  · intro ready matched unfailed
    obtain ⟨_, next, measured, rfl⟩ :=
      exists_ok_of_unfailed (measure_of_matched ready matched) unfailed
    exact ⟨next, measured⟩
  · intro next sampled
    obtain ⟨queue, left⟩ := measure_counts sampled
    have counts : chip.counts c =
        ⟨count (byte 0) (byte 1), count (byte 2) (byte 3), count (byte 4) (byte 5)⟩ := by
      rw [bytes]
      exact chip.counts_eq c
    have data : Burst.outputBytes (chip.counts c) = (List.range 6).map byte := by
      rw [bytes, RegisterFile.outputBytes_counts, Channel.outputs, List.map_map]
      rfl
    refine ⟨left.chip.symm, _, queue, ?_, ?_, ?_, data, rfl, rfl, rfl, rfl,
      fun raw presented => presented.counts⟩
    · exact (congrArg (fun raw => raw.x.toInt) counts).trans (toInt_count _ _)
    · exact (congrArg (fun raw => raw.y.toInt) counts).trans (toInt_count _ _)
    · exact (congrArg (fun raw => raw.z.toInt) counts).trans (toInt_count _ _)

/-- Negative counts, and counts whose bytes differ, come back through SPI. -/
theorem samples_spell_registers_negative :
    let raw : Axes Int16 := ⟨-2, 256, -32768⟩
    let rig := (runSession (.fresh .spi) [.command .reset, .stimulus (.clock 77),
      .stimulus (.outputs .mag raw)]).2
    rig.Presents .mag raw ∧ ∃ next s, measure .mag rig = .ok .sampled next ∧
      next.driver.queue.get .mag = ((rig.driver.queue.get .mag).push s).2 ∧ s.raw = raw ∧
      s.timestamp = 77 := by
  intro raw rig
  have presented : rig.Presents .mag raw := by
    refine ⟨(runSession (.fresh .spi) [.command .reset, .stimulus (.clock 77)]).2.bench,
      .inl ⟨?_, rfl⟩⟩
    decide +kernel
  have ready : rig.Ready .mag := by
    decide +kernel
  have matched : ¬ rig.Mismatched .mag := by
    decide +kernel
  have unfailed : (Command.measure .mag).Unfailed rig := by
    decide +kernel
  obtain ⟨gives, made⟩ := samples_spell_registers .mag rig
  obtain ⟨next, sampled⟩ := gives ready matched unfailed
  obtain ⟨-, s, queue, -, -, -, -, time, -, -, -, same⟩ := made next sampled
  exact ⟨presented, next, s, sampled, queue, same raw presented, time.trans (by decide +kernel)⟩

end ECompass
