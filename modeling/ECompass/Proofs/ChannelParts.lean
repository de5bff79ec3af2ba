import ECompass.Proofs.BurstCounts
import ECompass.Proofs.Dumps

/-!
# What is a channel's own

The two channels share one driver, one chip and one sink. This module tells apart what of them a
channel looks at when it acquires, so that two rigs can be alike to one channel and differ in what
is the other's (`Rig.AlikeTo`): its queue and its count of samples, the counts that wait for it and
its outputs on the chip, and what the sink is told of it. The filter, the monitor and some counters
are the accelerometer's alone, and so are the calls on the timer, since the magnetometer always has
data and is never put off.

What a channel does on two rigs that are alike to it leaves them alike to it
(`Rig.AlikeTo.committed`), and what it does leaves its rig as it was to the other channel
(`Rig.alikeTo_committed`). There is one place where a channel does look at what is the other's: a
register dump shows the outputs of both. Dumps go with samples of the accelerometer, so only the
bytes of the magnetometer in them depend on the other channel, and these are left out of what is
compared (`Notice.masked`).
-/

namespace ECompass

open Program Operation

/-- The other channel. -/
def Channel.other : Channel → Channel
  | .accel => .mag
  | .mag => .accel

@[simp] theorem Channel.other_other (c : Channel) : c.other.other = c := by
  cases c <;> rfl

theorem Channel.eq_other_of_ne {c d : Channel} (ne : d ≠ c) : d = c.other := by
  cases c <;> cases d
  case accel.accel | mag.mag => exact absurd rfl ne
  all_goals rfl

/-! ### Drivers -/

namespace Driver

variable (d : Driver)

/-- What an acquisition of a channel looks at or changes in the driver. -/
def part : Channel → Driver
  | .accel => { d with queue.mag := .empty, stats.reads.mag := 0 }
  | .mag => { d with
      queue.accel := .empty
      filter := Driver.initial.filter
      monitor := {}
      stats := { d.stats with reads.accel := 0, reschedules := 0, extremes := 0 } }

/-- The parts of the channels make up the driver. -/
theorem eq_of_parts {d e : Driver} (h : ∀ c, d.part c = e.part c) : d = e := by
  -- only the queue and the count of the magnetometer are missing from the accelerometer's part
  have whole (d : Driver) : d = { d.part .accel with
      queue.mag := (d.part .mag).queue.mag
      stats.reads.mag := (d.part .mag).stats.reads.mag } := rfl
  rw [whole d, whole e, h, h]

theorem scheduler_part (c : Channel) : (d.part c).scheduler = d.scheduler := by
  cases c <;> rfl

theorem expected_part (c : Channel) : (d.part c).expected = d.expected := by
  cases c <;> rfl

theorem sampleNotices_part (c : Channel) (s : Sample) :
    (d.part c).sampleNotices c s = d.sampleNotices c s := by
  cases c <;> rfl

theorem part_countReschedule (c : Channel) :
    d.countReschedule.part c = ((d.part c).countReschedule).part c := by
  cases c <;> rfl

/-- The monitor is the accelerometer's. -/
theorem record?_part (s : Sample) : (d.part .accel).record? s = d.record? s := rfl

theorem part_observed (s : Sample) :
    (d.observed s).part .accel = ((d.part .accel).observed s).part .accel := by
  unfold observed
  rw [record?_part]
  dsimp only
  split <;> rfl

theorem part_mag_observed (s : Sample) : (d.observed s).part .mag = d.part .mag := by
  unfold observed
  dsimp only
  split <;> rfl

end Driver

namespace Rig

variable (rig : Rig) (c : Channel) (raw : Axes Int16)

/-- A sample of a channel depends on the part of the channel. -/
theorem sample_part :
    rig.sample c raw = ((rig.driver.part c).convert c raw rig.bench.timer.now).1 := by
  cases c <;> rfl

/-- So does the part after the sample is kept. -/
theorem part_keep : (rig.keep c raw).driver.part c =
    (((rig.driver.part c).convert c raw rig.bench.timer.now).2.keep c
      (rig.sample c raw)).part c := by
  cases c <;> rfl

/-- The part of the other channel stays as it is. -/
theorem part_other_keep : (rig.keep c raw).driver.part c.other = rig.driver.part c.other := by
  cases c <;> rfl

end Rig

/-! ### Chips -/

theorem Channel.not_mem_outputs_other {c : Channel} : ∀ a ∈ c.outputs, a ∉ c.other.outputs := by
  cases c <;> decide +kernel

/-- Registers that hold the same before a run of writes hold the same after it. -/
theorem RegisterFile.read_writeRun_congr {f g : RegisterFile} {a : UInt8}
    (same : f.read a = g.read a) (place : Nat → UInt8) (values : List UInt8) :
    (f.writeRun place values).read a = (g.writeRun place values).read a := by
  induction values generalizing f g place with
  | nil => exact same
  | cons value rest ih =>
    refine ih ?_ _
    rw [read_write, read_write, same]

namespace Bus

variable {c : Channel} {bus other next : Bus}

/-- Two chips are the same but for the outputs of the other channel and what waits for it. -/
structure AlikeTo (c : Channel) (bus other : Bus) : Prop where
  /-- They are reached in the same way. -/
  transport : bus.transport = other.transport
  /-- The other registers hold the same. -/
  chip : ∀ a, a ∉ c.other.outputs → bus.chip.read a = other.chip.read a
  /-- The same counts wait for the channel. -/
  waiting : bus.waiting.get c = other.waiting.get c

instance (c : Channel) : IsPreorder Bus (AlikeTo c) where
  refl _ := ⟨rfl, fun _ _ => rfl, rfl⟩
  trans _ _ _ h h' := ⟨h.transport.trans h'.transport,
    fun a ha => (h.chip a ha).trans (h'.chip a ha), h.waiting.trans h'.waiting⟩

theorem AlikeTo.symm (h : bus.AlikeTo c other) : other.AlikeTo c bus :=
  ⟨h.transport.symm, fun a ha => (h.chip a ha).symm, h.waiting.symm⟩

theorem SameChip.alikeTo (h : bus.SameChip other) (c : Channel) : bus.AlikeTo c other :=
  ⟨h.transport, fun _ _ => by rw [h.chip], by rw [h.waiting]⟩

/-- Chips that are alike to both channels are the same. -/
theorem sameChip_of_alikeTo (h : ∀ c, bus.AlikeTo c other) : bus.SameChip other where
  transport := (h .accel).transport
  chip := RegisterFile.ext_read fun a => by
    by_cases output : a ∈ Channel.mag.outputs
    · exact (h .mag).chip a (Channel.not_mem_outputs_other a output)
    · exact (h .accel).chip a output
  waiting := PerChannel.ext_get fun c => (h c).waiting

/-- The next waiting counts come up on both. -/
theorem AlikeTo.refill (h : bus.AlikeTo c other) :
    (bus.refill c.status.addr).AlikeTo c (other.refill c.status.addr) := by
  simp only [Bus.refill, channelAt?_status, h.waiting]
  split
  · exact h
  · exact ⟨h.transport, fun a ha => RegisterFile.read_writeRun_congr (h.chip a ha) _ _,
      (PerChannel.get_set_self ..).trans (PerChannel.get_set_self ..).symm⟩

/-- The other channel does not notice. -/
theorem alikeTo_refill (bus : Bus) (c : Channel) :
    bus.AlikeTo c.other (bus.refill c.status.addr) := by
  have ne : c.other ≠ c := by
    cases c <;> decide
  simp only [Bus.refill, channelAt?_status]
  split
  · exact refl_of (AlikeTo c.other) bus
  · refine ⟨rfl, fun a ha => ?_, (PerChannel.get_set_of_ne _ _ ne).symm⟩
    rw [Channel.other_other] at ha
    exact (bus.chip_present _ ha).symm

/-- A burst finds the same counts on both. -/
theorem AlikeTo.counts (h : bus.AlikeTo c other) : bus.chip.counts c = other.chip.counts c := by
  apply Burst.outputBytes_injective
  rw [RegisterFile.outputBytes_counts, RegisterFile.outputBytes_counts]
  exact List.map_congr_left fun a ha => h.chip a (Channel.not_mem_outputs_other a ha)

end Bus

/-! ### Notices -/

/-- The channel that a notice is about. -/
def Notice.channel : Notice → Channel
  | .queued c => c
  | .published c _ => c
  | .diagnostic _ => .accel

/-- A register dump without the outputs of the magnetometer. -/
def RegisterDump.masked (dump : RegisterDump) : RegisterDump :=
  { dump with entries := dump.entries.map fun (r, value) =>
      (r, if r.addr ∈ Channel.mag.outputs then 0 else value) }

/-- A notice without the outputs of the magnetometer in its register dump. -/
def Notice.masked : Notice → Notice
  | .diagnostic r => .diagnostic { r with registers := r.registers.map RegisterDump.masked }
  | n => n

/-- What the sink was told of a channel, but for the outputs of the magnetometer in register
dumps. -/
def heard (c : Channel) (notices : List Notice) : List Notice :=
  (notices.filter fun n => n.channel = c).map Notice.masked

theorem heard_append (c : Channel) (notices more : List Notice) :
    heard c (notices ++ more) = heard c notices ++ heard c more := by
  rw [heard, List.filter_append, List.map_append]
  rfl

theorem heard_eq_nil {c : Channel} {notices : List Notice}
    (h : ∀ n ∈ notices, n.channel = c.other) : heard c notices = [] := by
  have none : (notices.filter fun n => n.channel = c) = [] := by
    refine List.filter_eq_nil_iff.2 fun n hn => ?_
    rw [h n hn]
    cases c <;> decide
  rw [heard, none, List.map_nil]

/-- The dumps of chips that are alike to the accelerometer differ only in what is masked. -/
theorem RegisterDump.masked_ofChip {f g : RegisterFile}
    (same : ∀ a, a ∉ Channel.mag.outputs → f.read a = g.read a) (expected : Expected) (now : Nat) :
    (ofChip f expected now).masked = (ofChip g expected now).masked := by
  simp only [masked, ofChip, List.map_map, mk.injEq, true_and, and_true]
  refine List.map_congr_left fun r _ => ?_
  by_cases output : r.addr ∈ Channel.mag.outputs
  · simp [output]
  · simp [output, same _ output]

/-- All that the sink is told of a sample is about its channel. -/
theorem Driver.channel_of_mem_notices {d : Driver} {c : Channel} {s : Sample}
    {registers : Option RegisterDump} : ∀ n ∈ d.notices c s registers, n.channel = c := by
  unfold Driver.notices Driver.sampleNotices Driver.recordNotices
  cases c with
  | accel => cases d.publishing.get .accel <;> cases d.record? s <;> simp [Notice.channel]
  | mag => cases d.publishing.get .mag <;> simp [Notice.channel]

/-- Records that differ in what is masked are heard alike. -/
theorem heard_recordNotices {d e : Driver} {s : Sample} {dump dump' : Option RegisterDump}
    (record : d.record? s = e.record? s)
    (same : dump.map RegisterDump.masked = dump'.map RegisterDump.masked) :
    heard .accel (d.recordNotices s dump) = heard .accel (e.recordNotices s dump') := by
  unfold Driver.recordNotices
  rw [record]
  cases e.record? s with
  | none => rfl
  | some r =>
    exact congrArg (fun registers => [Notice.diagnostic { r with registers }]) same

/-! ### Rigs -/

/-- A channel finds two rigs alike. -/
structure Rig.AlikeTo (c : Channel) (rig other : Rig) : Prop where
  /-- The drivers have the same part of the channel. -/
  driver : rig.driver.part c = other.driver.part c
  /-- The chips are alike to the channel. -/
  bus : rig.bench.bus.AlikeTo c other.bench.bus
  /-- The calls on the timer are the same, if the channel is the one that makes them. -/
  calls : c = .accel → rig.bench.timer.calls = other.bench.timer.calls
  /-- The sinks were told the same of the channel. -/
  told : heard c rig.bench.notices = heard c other.bench.notices

instance (c : Channel) : IsPreorder Rig (Rig.AlikeTo c) where
  refl _ := ⟨rfl, refl_of (Bus.AlikeTo c) _, fun _ => rfl, rfl⟩
  trans _ _ _ h h' := ⟨h.driver.trans h'.driver, trans_of (Bus.AlikeTo c) h.bus h'.bus,
    fun makes => (h.calls makes).trans (h'.calls makes), h.told.trans h'.told⟩

/-- A read that has failed is counted. -/
theorem Bus.failures_lt_cutOff (bus : Bus) (done : List Register) (r : Register) :
    bus.failures < (bus.cutOff done r).failures := by
  unfold failures cutOff
  dsimp only
  rw [List.countP_append, List.countP_append, List.countP_singleton]
  exact Nat.lt_succ_of_le (Nat.le_add_right _ _)

/-- The register dump that goes with a record, if no transfer has failed. -/
theorem Rig.dump_of_unfailed {rig : Rig} {s : Sample}
    (unfailed : (rig.dump s).2.failures ≤ rig.failures) : (rig.dump s).1 =
      if (rig.driver.record? s).any fun record => record.actions.registers then
        some (rig.trueDump s.timestamp) else none := by
  unfold dump at *
  split
  · rename_i asked
    rw [if_pos asked] at unfailed
    rcases rig.bench.bus.lasts_or_fails with lasts | ⟨n, early, fault⟩
    · rw [RegisterDump.capture_eq_ok lasts]
      rfl
    · rw [RegisterDump.capture_eq_error early fault] at unfailed
      exact absurd unfailed (Nat.not_le.2 (Bus.failures_lt_cutOff ..))
  · rfl

namespace Rig.AlikeTo

variable {c : Channel} {rig other : Rig}

theorem symm (h : rig.AlikeTo c other) : other.AlikeTo c rig :=
  ⟨h.driver.symm, h.bus.symm, fun makes => (h.calls makes).symm, h.told.symm⟩

theorem isActive_eq (h : rig.AlikeTo c other) :
    rig.driver.scheduler.isActive c = other.driver.scheduler.isActive c := by
  rw [← rig.driver.scheduler_part c, ← other.driver.scheduler_part c, h.driver]

/-- The measurement is put off on both. -/
theorem deferred (h : rig.AlikeTo c other) {calls calls' : List TimerCall}
    (same : c = .accel → calls = calls') :
    (rig.deferred calls).AlikeTo c (other.deferred calls') := by
  refine { h with driver := ?_, calls := same }
  show rig.driver.countReschedule.part c = other.driver.countReschedule.part c
  rw [Driver.part_countReschedule, h.driver, ← Driver.part_countReschedule]

/-- The sinks are told the same of the channel. -/
theorem tell (h : rig.AlikeTo c other) {more more' : List Notice}
    (same : heard c more = heard c more') : (rig.told more).AlikeTo c (other.told more') := by
  refine { h with told := ?_ }
  show heard c (rig.bench.notices ++ more) = heard c (other.bench.notices ++ more')
  rw [heard_append, heard_append, h.told, same]

/-- Both give the same sample of the same counts. -/
theorem sample (h : rig.AlikeTo c other) (now : rig.bench.timer.now = other.bench.timer.now)
    (raw : Axes Int16) : rig.sample c raw = other.sample c raw := by
  rw [rig.sample_part, other.sample_part, h.driver, now]

/-- Both keep it. -/
theorem keep (h : rig.AlikeTo c other) (now : rig.bench.timer.now = other.bench.timer.now)
    (raw : Axes Int16) : (rig.keep c raw).AlikeTo c (other.keep c raw) := by
  refine { h with driver := ?_ }
  rw [rig.part_keep, other.part_keep, h.sample now, h.driver, now]

/-- Both watch it. -/
theorem watched (h : rig.AlikeTo .accel other) {s : Sample}
    (unfailed : (rig.dump s).2.failures ≤ rig.failures)
    (unfailed' : (other.dump s).2.failures ≤ other.failures) :
    (rig.watched s).AlikeTo .accel (other.watched s) := by
  have record : rig.driver.record? s = other.driver.record? s := by
    rw [← Driver.record?_part, h.driver, Driver.record?_part]
  have expected : rig.driver.expected = other.driver.expected := by
    rw [← rig.driver.expected_part .accel, h.driver, Driver.expected_part]
  have dumps :
      (rig.dump s).1.map RegisterDump.masked = (other.dump s).1.map RegisterDump.masked := by
    rw [Rig.dump_of_unfailed unfailed, Rig.dump_of_unfailed unfailed', record]
    split
    · rw [Rig.trueDump, Rig.trueDump, expected]
      exact congrArg some (RegisterDump.masked_ofChip h.bus.chip _ _)
    · rfl
  have told := h.tell (heard_recordNotices record dumps)
  refine { told with driver := ?_, bus := ?_ }
  · show (rig.driver.observed s).part .accel = (other.driver.observed s).part .accel
    rw [Driver.part_observed, h.driver, ← Driver.part_observed]
  · have looked := (rig.sameChip_dump s).symm.alikeTo .accel
    have looked' := (other.sameChip_dump s).alikeTo .accel
    exact trans_of (Bus.AlikeTo .accel) looked (trans_of (Bus.AlikeTo .accel) h.bus looked')

/-- Both commit it, with the dump that its record may ask for. -/
theorem committed (h : rig.AlikeTo c other) (now : rig.bench.timer.now = other.bench.timer.now)
    (raw : Axes Int16) (unfailed : (rig.committed c raw).failures ≤ rig.failures)
    (unfailed' : (other.committed c raw).failures ≤ other.failures) :
    (rig.committed c raw).AlikeTo c (other.committed c raw) := by
  have kept := h.keep now raw
  have notices (s : Sample) :
      (rig.keep c raw).driver.sampleNotices c s = (other.keep c raw).driver.sampleNotices c s := by
    rw [← Driver.sampleNotices_part, kept.driver, Driver.sampleNotices_part]
  have told := kept.tell (congrArg (heard c) (notices (rig.sample c raw)))
  unfold Rig.committed at *
  rw [← h.sample now] at *
  cases c with
  | accel => exact told.watched unfailed unfailed'
  | mag => exact told

end Rig.AlikeTo

/-- Only the accelerometer is ever put off, and the magnetometer does not notice. -/
theorem Rig.alikeTo_deferred (rig : Rig) (calls : List TimerCall) :
    rig.AlikeTo .mag (rig.deferred calls) :=
  ⟨rfl, refl_of (Bus.AlikeTo .mag) _, fun makes => (by cases makes), rfl⟩

/-- What a channel commits leaves the rig as it was to the other channel. -/
theorem Rig.alikeTo_committed (rig : Rig) (c : Channel) (raw : Axes Int16) :
    rig.AlikeTo c.other (rig.committed c raw) := by
  obtain ⟨bus, registers, bench, -⟩ := bench_committed rig c raw
  refine ⟨?_, (rig.sameChip_committed c raw).alikeTo _, fun _ => ?_, ?_⟩
  · cases c with
    | accel => exact ((Driver.part_mag_observed _ _).trans (rig.part_other_keep .accel raw)).symm
    | mag => exact (rig.part_other_keep .mag raw).symm
  · rw [bench]
  · have about : ∀ n ∈ rig.driver.notices c (rig.sample c raw) registers,
        n.channel = c.other.other := by
      rw [Channel.other_other]
      exact Driver.channel_of_mem_notices
    rw [bench]
    dsimp only
    rw [heard_append, heard_eq_nil about, List.append_nil]

end ECompass
