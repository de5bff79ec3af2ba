import ECompass.Proofs.Agreement
import ECompass.Proofs.Commitment
import ECompass.Proofs.Parallel
import Mathlib.Data.List.Forall2
import Mathlib.Data.List.Induction

/-!
# Rigs that differ in their reports

Two rigs are abreast if they differ in nothing but how they report their samples, and in what was
done for these reports (`Rig.Abreast`). No operation other than those that change the reports can
tell such rigs apart (`parallel_abreast`).

While the log is on, a measurement may also dump the registers, in the middle of everything else.
This is why the buses of the two rigs cannot be the same: the transfers of each are those of one
common list with dumps put in between (`SameButDumps`). A dump reads single registers, so no waiting
measurement comes up by it. But each of its reads counts for a fault that is to come, so the rigs
could go apart where a transfer fails.
-/

namespace ECompass

open Program Operation

/-! ### Dumps in between -/

/-- A transfer reads a register. -/
structure Transfer.IsReadOf (t : Transfer) (r : Register) : Prop where
  /-- It is a read. -/
  direction : t.header.direction = .read
  /-- It begins at the register. -/
  address : t.header.address = r.addr

/-- Transfers read the diagnostic registers, one after the other. -/
def IsDump (block : List Transfer) : Prop :=
  List.Forall₂ Transfer.IsReadOf block Register.diagnostic

/-- Dumps were put between the transfers of a list. -/
inductive WithDumps : List Transfer → List Transfer → Prop where
  /-- Nothing was transferred. -/
  | nil : WithDumps [] []
  /-- A transfer on both sides. -/
  | transfer {base full : List Transfer} (h : WithDumps base full) (t : Transfer) :
      WithDumps (base ++ [t]) (full ++ [t])
  /-- A dump in between. -/
  | dump {base full block : List Transfer} (h : WithDumps base full) (dumps : IsDump block) :
      WithDumps base (full ++ block)

/-- Two lists of transfers differ in dumps only. -/
def SameButDumps (first second : List Transfer) : Prop :=
  ∃ base, WithDumps base first ∧ WithDumps base second

theorem WithDumps.refl (transfers : List Transfer) : WithDumps transfers transfers := by
  induction transfers using List.reverseRecOn with
  | nil => exact .nil
  | append_singleton transfers t ih => exact ih.transfer t

namespace Bus

/-- Two chips are the same, with the same measurements waiting, and are reached in the same way. -/
structure SameChip (bus other : Bus) : Prop where
  /-- The chips are reached in the same way. -/
  transport : bus.transport = other.transport
  /-- The registers are the same. -/
  chip : bus.chip = other.chip
  /-- The same measurements wait. -/
  waiting : bus.waiting = other.waiting

instance : IsPreorder Bus SameChip where
  refl _ := ⟨rfl, rfl, rfl⟩
  trans _ _ _ h h' := ⟨h.transport.trans h'.transport, h.chip.trans h'.chip,
    h.waiting.trans h'.waiting⟩

theorem SameChip.symm {bus other : Bus} (h : bus.SameChip other) : other.SameChip bus :=
  ⟨h.transport.symm, h.chip.symm, h.waiting.symm⟩

theorem sameChip_noted (bus : Bus) (direction : Direction) (address : UInt8) (n : Nat)
    (data : Option (List UInt8)) : bus.SameChip (bus.noted direction address n data) :=
  ⟨(transport_noted ..).symm, (chip_noted ..).symm, (waiting_noted ..).symm⟩

/-- Reading registers leaves the chip as it is, and notes a read of each, unless one of them
fails. -/
theorem readAll_notes (registers : List Register) (bus : Bus) :
    Ends (RegisterDump.readAll registers) bus
      (fun _ next => bus.SameChip next ∧ next.failures = bus.failures ∧
        ∃ block, List.Forall₂ Transfer.IsReadOf block registers ∧
          next.transfers = bus.transfers ++ block)
      (fun _ next => bus.SameChip next ∧ bus.failures < next.failures) := by
  induction registers generalizing bus with
  | nil => exact ⟨refl_of SameChip bus, rfl, [], .nil, (List.append_nil _).symm⟩
  | cons r rest ih =>
    have first : Ends (readRegister r) bus
        (fun _ mid => bus.SameChip mid ∧ mid.failures = bus.failures ∧
          ∃ t : Transfer, t.IsReadOf r ∧ mid.transfers = bus.transfers ++ [t])
        (fun _ mid => bus.SameChip mid ∧ bus.failures < mid.failures) := by
      rw [Ends, readRegister_apply]
      cases bus.fails .read
      · exact ⟨sameChip_noted .., failures_noted .., _,
          ⟨direction_header .., address_header _ _ _ r.addr_lt⟩, transfers_noted ..⟩
      · exact ⟨sameChip_noted .., by rw [failures_noted]; exact Nat.lt_succ_self _⟩
    refine first.bind ?_
    rintro value mid ⟨same, unfailed, t, reads, noted⟩
    refine Ends.bind ((ih mid).mono (fun _ next h => h) fun _ next h => ?_) ?_
    · exact ⟨trans_of SameChip same h.1, unfailed ▸ h.2⟩
    · rintro entries next ⟨same', unfailed', block, reads', noted'⟩
      refine ⟨trans_of SameChip same same', unfailed'.trans unfailed, t :: block,
        .cons reads reads', ?_⟩
      rw [noted', noted, List.append_assoc]
      rfl

/-- A dump of the registers was tried. -/
structure Dumped (bus next : Bus) : Prop where
  /-- The chip is as it was. -/
  chip : bus.SameChip next
  /-- A read has failed, or the dump was noted. -/
  transfers : bus.failures < next.failures ∨ next.failures = bus.failures ∧
    ∃ block, IsDump block ∧ next.transfers = bus.transfers ++ block

theorem capture_dumps (expected : Expected) (now : Nat) :
    Within Dumped (RegisterDump.capture expected now) := by
  intro bus
  refine Ends.bind ((readAll_notes _ bus).mono (fun _ _ h => h) fun _ _ h => ⟨h.1, .inl h.2⟩)
    fun _ _ h => ?_
  exact ⟨h.1, .inr h.2⟩

/-! ### Buses side by side -/

/-- Two buses with the same chip. No more than `n` transfers had failed when the two were the same,
and if no more have since, then the transfers differ in dumps only. -/
structure Abreast (n : Nat) (bus other : Bus) : Prop where
  /-- The chips are the same. -/
  chip : bus.SameChip other
  /-- The failures of the first bus. -/
  first : n ≤ bus.failures
  /-- The failures of the second bus. -/
  second : n ≤ other.failures
  /-- The transfers. -/
  transfers : n < bus.failures ∨ n < other.failures ∨ SameButDumps bus.transfers other.transfers

section Abreast

variable {n : Nat} {bus other next : Bus}

theorem Abreast.symm (h : bus.Abreast n other) : other.Abreast n bus where
  chip := h.chip.symm
  first := h.second
  second := h.first
  transfers := by
    rcases h.transfers with failed | failed | ⟨base, first, second⟩
    · exact .inr (.inl failed)
    · exact .inl failed
    · exact .inr (.inr ⟨base, second, first⟩)

/-- A dump on one side. -/
theorem Abreast.dump (h : bus.Abreast n other) (dumped : bus.Dumped next) :
    next.Abreast n other where
  chip := trans_of SameChip dumped.chip.symm h.chip
  first := by
    have first := h.first
    rcases dumped.transfers with failed | ⟨same, -⟩ <;> omega
  second := h.second
  transfers := by
    have first := h.first
    rcases dumped.transfers with failed | ⟨same, block, dumps, noted⟩
    · exact .inl (Nat.lt_of_le_of_lt first failed)
    · rcases h.transfers with failed | failed | ⟨base, with₁, with₂⟩
      · exact .inl (same ▸ failed)
      · exact .inr (.inl failed)
      · exact .inr (.inr ⟨base, noted ▸ with₁.dump dumps, with₂⟩)

/-- The same transfer on both sides. -/
theorem Abreast.noted (h : bus.Abreast n other) (direction : Direction) (address : UInt8)
    (length : Nat) (data : List UInt8) :
    (bus.noted direction address length (some data)).Abreast n
      (other.noted direction address length (some data)) where
  chip := trans_of SameChip (sameChip_noted ..).symm (trans_of SameChip h.chip (sameChip_noted ..))
  first := by
    rw [failures_noted]
    exact h.first
  second := by
    rw [failures_noted]
    exact h.second
  transfers := by
    rw [failures_noted, failures_noted, transfers_noted, transfers_noted]
    rcases h.transfers with failed | failed | ⟨base, with₁, with₂⟩
    · exact .inl failed
    · exact .inr (.inl failed)
    · have header :
          bus.header direction address length = other.header direction address length := by
        rw [Bus.header, Bus.header, h.chip.transport]
      rw [header]
      exact .inr (.inr ⟨_, with₁.transfer _, with₂.transfer _⟩)

theorem Abreast.write (h : bus.Abreast n other) (write : RegisterFile → RegisterFile) :
    Abreast n { bus with chip := write bus.chip } { other with chip := write other.chip } :=
  { h with chip := ⟨h.chip.transport, congrArg write h.chip.chip, h.chip.waiting⟩ }

theorem Abreast.present (h : bus.Abreast n other) (c : Channel) (raw : Axes Int16) :
    (bus.present c raw).Abreast n (other.present c raw) := by
  have written := h.write fun chip =>
    chip.writeRun (fun i => c.firstOutput.addr + .ofNat i) (Burst.outputBytes raw)
  exact written

/-- The next waiting measurement comes up on both sides. -/
theorem Abreast.refill (h : bus.Abreast n other) (address : UInt8) :
    (bus.refill address).Abreast n (other.refill address) := by
  obtain none | ⟨c, raw, rest, some⟩ := refill_cases other.waiting address
  · rwa [none bus h.chip.waiting, none other rfl]
  · rw [some bus h.chip.waiting, some other rfl]
    have presented := h.present c raw
    exact { presented with chip := { presented.chip with waiting := rfl } }

/-- A program on buses that are abreast leaves them abreast, unless a transfer fails. -/
abbrev StaysAbreast (n : Nat) {α : Type} (program : BusM α) : Prop :=
  SimulatesUnless (fun bus => n < bus.failures) (Abreast n) program program

/-- A transfer that fails on either side. -/
theorem Abreast.failed (h : bus.Abreast n other) (direction : Direction) (address : UInt8)
    (length : Nat) : n < (bus.noted direction address length none).failures := by
  rw [failures_noted]
  exact Nat.lt_succ_of_le h.first

theorem readRegister_abreast (n : Nat) (r : Register) : StaysAbreast n (readRegister r) := by
  intro bus other h
  rw [readRegister_apply, readRegister_apply]
  cases bus.fails .read
  · cases other.fails .read
    · simp only [Bool.false_eq_true, if_false, h.chip.chip]
      exact .inl (.ok _ (h.noted ..))
    · exact .inr (.inr (h.symm.failed ..))
  · exact .inr (.inl (h.failed ..))

theorem writeRegister_abreast (n : Nat) (r : Register) (value : UInt8) :
    StaysAbreast n (writeRegister r value) := by
  intro bus other h
  rw [writeRegister_apply, writeRegister_apply]
  cases bus.fails .write
  · cases other.fails .write
    · exact .inl (.ok _ ((h.write fun chip => chip.write r.addr value).noted ..))
    · exact .inr (.inr (h.symm.failed ..))
  · exact .inr (.inl (h.failed ..))

theorem readBurst_abreast (n : Nat) (c : Channel) :
    StaysAbreast n (readBurst c.status Burst.length) := by
  intro bus other h
  have filled := h.refill c.status.addr
  rw [readBurst_apply, readBurst_apply]
  cases bus.fails .read
  · cases other.fails .read
    · simp only [Bool.false_eq_true, if_false, filled.chip.chip]
      exact .inl (.ok _ (filled.noted ..))
    · exact .inr (.inr (h.symm.failed ..))
  · exact .inr (.inl (h.failed ..))

end Abreast

end Bus

/-! ### Rigs side by side -/

/-- Whether the sink is told that a sample is queued. -/
def Notice.isQueued : Notice → Bool
  | .queued _ => true
  | _ => false

/-- Two rigs that differ in their reports only. No more than `n` transfers had failed when the two
were the same. -/
structure Rig.Abreast (n : Nat) (rig other : Rig) : Prop where
  /-- The buses. -/
  bus : rig.bench.bus.Abreast n other.bench.bus
  /-- The drivers are the same but for their reports. -/
  driver : rig.driver.muted = other.driver.muted
  /-- The clocks are the same, and the same calls were made on the triggers. -/
  timer : rig.bench.timer = other.bench.timer
  /-- The data-ready lines are the same. -/
  dataReady : rig.bench.dataReady = other.bench.dataReady
  /-- The sinks were told the same of what is queued. -/
  queued : rig.bench.notices.filter Notice.isQueued = other.bench.notices.filter Notice.isQueued

theorem Rig.Abreast.symm {n : Nat} {rig other : Rig} (h : rig.Abreast n other) :
    other.Abreast n rig :=
  ⟨h.bus.symm, h.driver.symm, h.timer.symm, h.dataReady.symm, h.queued.symm⟩

section Commit

variable {n : Nat} {rig other : Rig}

/-- A sample depends on nothing that concerns reports. -/
theorem Rig.sample_muted (rig : Rig) (c : Channel) (raw : Axes Int16) :
    rig.sample c raw = (rig.driver.muted.convert c raw rig.bench.timer.now).1 := by
  cases c <;> rfl

/-- Nor does what the driver is after the sample is kept. -/
theorem Rig.driver_keep_muted (rig : Rig) (c : Channel) (raw : Axes Int16) :
    (rig.keep c raw).driver.muted =
      ((rig.driver.muted.convert c raw rig.bench.timer.now).2.keep c (rig.sample c raw)).muted := by
  cases c <;> rfl

theorem Monitor.muted_count (m : Monitor) (extreme : Bool) :
    (m.count extreme).muted = (m.muted.count extreme).muted := by
  cases extreme <;> rfl

/-- What the monitor has seen of a sample depends on what it has seen before, and not on the log. -/
theorem Driver.muted_observed (d : Driver) (s : Sample) : (d.observed s).muted =
    { d.muted with monitor := (d.muted.monitor.count s.isExtreme).muted } := by
  have seen : (d.monitor.observe s s.timestamp).2.muted =
      (d.muted.monitor.count s.isExtreme).muted := by
    refine Eq.trans ?_ (d.monitor.muted_count s.isExtreme)
    unfold Monitor.observe
    dsimp only
    split <;> rfl
  rw [← seen]
  unfold observed
  dsimp only
  split <;> rfl

/-- Whatever else the sinks are told, the rigs stay abreast. -/
theorem Rig.Abreast.told (h : rig.Abreast n other) {first second : List Notice}
    (queued : first.filter Notice.isQueued = second.filter Notice.isQueued) :
    (rig.told first).Abreast n (other.told second) := by
  refine { h with queued := ?_ }
  show (rig.bench.notices ++ first).filter _ = (other.bench.notices ++ second).filter _
  rw [List.filter_append, List.filter_append, h.queued, queued]

/-- A dump that is due is tried, and otherwise the bus is left alone. -/
theorem Rig.dump_cases (rig : Rig) (s : Sample) :
    (rig.dump s).2 = rig.bench.bus ∨ rig.bench.bus.Dumped (rig.dump s).2 := by
  unfold dump
  split
  · have dumped := Bus.capture_dumps rig.driver.expected s.timestamp rig.bench.bus
    unfold Ends at dumped
    revert dumped
    cases RegisterDump.capture rig.driver.expected s.timestamp rig.bench.bus with
    | ok _ _ => exact .inr
    | error _ _ => exact .inr
  · exact .inl rfl

/-- Each side watches the sample in its own way. -/
theorem Rig.Abreast.watched (h : rig.Abreast n other) (s : Sample) :
    (rig.watched s).Abreast n (other.watched s) := by
  have unqueued (d : Driver) (registers : Option RegisterDump) :
      (d.recordNotices s registers).filter Notice.isQueued = [] := by
    unfold Driver.recordNotices
    cases d.record? s <;> rfl
  have after {bus : Bus} (rig : Rig) (abreast : rig.bench.bus.Abreast n bus) :
      Bus.Abreast n (rig.dump s).2 bus := by
    rcases rig.dump_cases s with same | dumped
    · rw [same]
      exact abreast
    · exact abreast.dump dumped
  have told := h.told ((unqueued rig.driver (rig.dump s).1).trans
    (unqueued other.driver (other.dump s).1).symm)
  refine { told with bus := ?_, driver := ?_ }
  · have first := after rig h.bus
    exact (after other first.symm).symm
  · show (rig.driver.observed s).muted = (other.driver.observed s).muted
    rw [Driver.muted_observed, Driver.muted_observed, h.driver]

/-- Both sides commit the same sample. -/
theorem Rig.Abreast.committed (h : rig.Abreast n other) (c : Channel) (raw : Axes Int16) :
    (rig.committed c raw).Abreast n (other.committed c raw) := by
  have sample : rig.sample c raw = other.sample c raw := by
    rw [rig.sample_muted, other.sample_muted, h.driver, h.timer]
  have kept : (rig.keep c raw).Abreast n (other.keep c raw) := by
    refine { h with driver := ?_ }
    rw [rig.driver_keep_muted, other.driver_keep_muted, sample, h.driver, h.timer]
  have announced (d : Driver) :
      (d.sampleNotices c (other.sample c raw)).filter Notice.isQueued = [.queued c] := by
    unfold Driver.sampleNotices
    cases d.publishing.get c <;> rfl
  have told := kept.told ((announced (rig.keep c raw).driver).trans
    (announced (other.keep c raw).driver).symm)
  unfold Rig.committed
  rw [sample]
  cases c with
  | accel => exact told.watched _
  | mag => exact told

end Commit

/-- A program on the bus goes alike on rigs that are abreast. -/
theorem onBus_abreast {n : Nat} {α : Type} {program : BusM α} (h : Bus.StaysAbreast n program) :
    InParallel (fun rig => n < rig.failures) (Rig.Abreast n) (onBus program) := by
  intro rig other abreast
  have ends := h _ _ abreast.bus
  unfold onBus
  revert ends
  generalize program rig.bench.bus = first, program other.bench.bus = second
  rintro ((⟨a, bus⟩ | ⟨cause, bus⟩) | ends | ends)
  · exact .inl (.ok a { abreast with bus })
  · exact .inl (.error _ { abreast with bus })
  · cases first with
    | ok _ _ => exact ends.elim
    | error _ _ => exact .inr (.inl ends)
  · cases second with
    | ok _ _ => exact ends.elim
    | error _ _ => exact .inr (.inr ends)

/-- Rigs that are abreast cannot be told apart by what operations are made of, unless a transfer
fails. -/
theorem parallel_abreast (n : Nat) : Parallel (fun rig => n < rig.failures) (Rig.Abreast n) where
  driver h := h.driver
  now h := congrArg Timer.now h.timer
  dataReady h := h.dataReady
  onDriver {f} looks := fun rig other h => by
    refine .inl (.ok () { h with driver := ?_ })
    show (f rig.driver).muted = (f other.driver).muted
    rw [looks rig.driver, looks other.driver, h.driver]
  callTimer calls := fun _ _ h => .inl (.ok () { h with
    timer := congrArg (fun timer => { timer with calls := timer.calls ++ calls }) h.timer })
  readRegister r := onBus_abreast (Bus.readRegister_abreast n r)
  writeRegister r value := onBus_abreast (Bus.writeRegister_abreast n r value)
  burst c := onBus_abreast (Bus.readBurst_abreast n c)
  commit c raw := fun rig other h => by
    rw [commit_eq_ok, commit_eq_ok]
    exact .inl (.ok () (h.committed c raw))

end ECompass
