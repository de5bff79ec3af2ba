import ECompass.Proofs.Chronicle
import ECompass.Proofs.MonitorHistory

/-!
# Register dumps and the health check

A dump and the health check look at the same registers by two different ways: the check compares a
control register with the value it expects as it reads it, while a dump first lists all registers
and then looks the control registers up, in a list that names some registers twice. A dump that is
complete has read the whole list from one and the same chip (`readAll_eq_ok`), so whichever entry a
look-up takes, it finds what the check would find.

A dump that is cut short has read up to the transfer that failed and gives nothing
(`readAll_eq_error`). So the records of the log carry complete dumps only.
-/

namespace ECompass

open Program Operation

/-! ### Reading one register after the other -/

namespace Bus

/-- The transfers that read registers one by one, each bringing the value that the chip holds. -/
def readings (bus : Bus) (registers : List Register) : List Transfer :=
  registers.map fun r => ⟨bus.header .read r.addr 1, some [bus.chip.read r.addr]⟩

/-- The bus after registers were read one by one. -/
def readOff (bus : Bus) (registers : List Register) : Bus :=
  { bus with
    readFault := bus.readFault.map (· - registers.length)
    transfers := bus.transfers ++ bus.readings registers }

/-- The bus after registers were read one by one, up to one whose read has failed. -/
def cutOff (bus : Bus) (done : List Register) (r : Register) : Bus :=
  { bus with
    readFault := none
    transfers := bus.transfers ++ bus.readings done ++ [⟨bus.header .read r.addr 1, none⟩] }

section ReadOff

variable (bus : Bus) (first second : List Register) (r : Register)

theorem readOff_nil : bus.readOff [] = bus := by
  simp [readOff, readings]

theorem readings_append :
    bus.readings first ++ bus.readings second = bus.readings (first ++ second) :=
  List.map_append.symm

theorem readOff_readOff : (bus.readOff first).readOff second = bus.readOff (first ++ second) := by
  have same : (bus.readOff first).readings second = bus.readings second := rfl
  unfold readOff at same ⊢
  simp only [same, Option.map_map, List.append_assoc, readings_append, List.length_append]
  congr 2
  exact funext fun n => Nat.sub_sub ..

theorem cutOff_readOff : (bus.readOff first).cutOff second r = bus.cutOff (first ++ second) r := by
  have same : (bus.readOff first).readings second = bus.readings second := rfl
  unfold readOff cutOff at *
  simp only [same, ← readings_append, List.append_assoc]
  rfl

end ReadOff

/-- A read that is not the one to fail. -/
theorem readRegister_eq_ok {bus : Bus} (lasts : bus.readFault ≠ some 0) (r : Register) :
    readRegister r bus = .ok (bus.chip.read r.addr) (bus.readOff [r]) := by
  rw [readRegister_apply]
  unfold fails noted readOff
  cases fault : bus.readFault with
  | none => simp [counted, countdown, fault, record, readings]
  | some n =>
    cases n with
    | zero => exact absurd fault lasts
    | succ n => simp [counted, countdown, fault, record, readings]

/-- The read that is to fail. -/
theorem readRegister_eq_error {bus : Bus} (due : bus.readFault = some 0) (r : Register) :
    readRegister r bus = .error .communication (bus.cutOff [] r) := by
  rw [readRegister_apply]
  simp [fails, noted, counted, countdown, due, record, cutOff, readings]

end Bus

namespace RegisterDump

/-- Registers whose reads all succeed are listed with the values that the chip holds. -/
theorem readAll_eq_ok {registers : List Register} {bus : Bus}
    (lasts : ∀ n, bus.readFault = some n → registers.length ≤ n) :
    readAll registers bus =
      .ok (registers.map fun r => (r, bus.chip.read r.addr)) (bus.readOff registers) := by
  induction registers generalizing bus with
  | nil =>
    rw [bus.readOff_nil]
    rfl
  | cons r rest ih =>
    have now : bus.readFault ≠ some 0 := fun due => absurd (lasts 0 due) (by simp)
    have later : ∀ n, (bus.readOff [r]).readFault = some n → rest.length ≤ n := by
      intro n left
      obtain ⟨m, fault, rfl⟩ := Option.map_eq_some_iff.1 left
      exact Nat.le_sub_of_add_le (lasts m fault)
    rw [readAll, bind_apply, Bus.readRegister_eq_ok now]
    show (readAll rest >>= fun entries => pure ((r, _) :: entries)) (bus.readOff [r]) = _
    rw [bind_apply, ih later, bus.readOff_readOff]
    rfl

/-- The first read that fails ends the list. -/
theorem readAll_eq_error {done : List Register} {bus : Bus}
    (fault : bus.readFault = some done.length) (r : Register) (rest : List Register) :
    readAll (done ++ r :: rest) bus = .error .communication (bus.cutOff done r) := by
  induction done generalizing bus with
  | nil =>
    rw [List.nil_append, readAll, bind_apply, Bus.readRegister_eq_error fault]
  | cons first done ih =>
    have now : bus.readFault ≠ some 0 := by simp [fault]
    have later : (bus.readOff [first]).readFault = some done.length := by
      simp [Bus.readOff, fault]
    rw [List.cons_append, readAll, bind_apply, Bus.readRegister_eq_ok now]
    show (readAll (done ++ r :: rest) >>= fun entries => pure ((first, _) :: entries))
      (bus.readOff [first]) = _
    rw [bind_apply, ih later, bus.cutOff_readOff]
    rfl

/-! ### What a dump tells -/

/-- The dump that tells what a chip holds. -/
def ofChip (chip : RegisterFile) (expected : Expected) (now : Nat) : RegisterDump :=
  ⟨now, Register.diagnostic.map fun r => (r, chip.read r.addr), expected⟩

section Capture

variable {expected : Expected} {now : Nat} {bus : Bus}

theorem capture_eq_ok (lasts : ∀ n, bus.readFault = some n → Register.diagnostic.length ≤ n) :
    capture expected now bus =
      .ok (ofChip bus.chip expected now) (bus.readOff Register.diagnostic) := by
  rw [capture, bind_apply, readAll_eq_ok lasts]
  rfl

theorem capture_eq_error {n : Nat} (early : n < Register.diagnostic.length)
    (fault : bus.readFault = some n) : capture expected now bus =
      .error .communication (bus.cutOff (Register.diagnostic.take n) Register.diagnostic[n]) := by
  have split : Register.diagnostic =
      Register.diagnostic.take n ++ Register.diagnostic[n] :: Register.diagnostic.drop (n + 1) := by
    rw [List.getElem_cons_drop, List.take_append_drop]
  have length : (Register.diagnostic.take n).length = n :=
    List.length_take_of_le (Nat.le_of_lt early)
  have read := readAll_eq_error (length ▸ fault) Register.diagnostic[n]
    (Register.diagnostic.drop (n + 1))
  rw [← split] at read
  rw [capture, bind_apply, read]

end Capture

/-- A look-up finds what the chip holds, whichever entry it takes. -/
theorem get?_ofChip (chip : RegisterFile) (expected : Expected) (now : Nat) (r : Register) :
    (ofChip chip expected now).get? r = some (chip.read r.addr) := by
  have listed : (Register.diagnostic.find? fun other => other = r).isSome :=
    List.find?_isSome.2 ⟨r, r.mem_diagnostic, decide_eq_true rfl⟩
  obtain ⟨other, found⟩ := Option.isSome_iff_exists.1 listed
  have same : other = r := by simpa using List.find?_some found
  rw [get?, ofChip, List.find?_map]
  show ((Register.diagnostic.find? fun other => other = r).map _).map _ = _
  rw [found, same]
  rfl

/-- A dump shows a mismatch if a control register does not hold what is expected. -/
theorem hasMismatch_ofChip (chip : RegisterFile) (expected : Expected) (now : Nat) :
    (ofChip chip expected now).hasMismatch ↔
      ∃ c : Channel, chip.read c.control.addr ≠ expected.get c := by
  have some_ne (c : Channel) : (ofChip chip expected now).get? c.control ≠
      some (expected.get c) ↔ chip.read c.control.addr ≠ expected.get c := by
    rw [get?_ofChip, Ne, Option.some_inj]
  have either : (ofChip chip expected now).hasMismatch ↔
      (ofChip chip expected now).get? Channel.accel.control ≠ some (expected.get .accel) ∨
        (ofChip chip expected now).get? Channel.mag.control ≠ some (expected.get .mag) := by
    simp only [hasMismatch, Bool.or_eq_true, decide_eq_true_iff]
    rfl
  rw [either, some_ne, some_ne]
  constructor
  · rintro (h | h)
    · exact ⟨.accel, h⟩
    · exact ⟨.mag, h⟩
  · rintro ⟨c, h⟩
    cases c with
    | accel => exact .inl h
    | mag => exact .inr h

end RegisterDump

/-- The bus lasts for a whole dump, or the read of one of the registers is to fail. -/
theorem Bus.lasts_or_fails (bus : Bus) :
    (∀ n, bus.readFault = some n → Register.diagnostic.length ≤ n) ∨
      ∃ n, n < Register.diagnostic.length ∧ bus.readFault = some n := by
  by_cases early : ∃ n, n < Register.diagnostic.length ∧ bus.readFault = some n
  · exact .inr early
  · exact .inl fun n fault => Nat.le_of_not_lt fun lt => early ⟨n, lt, fault⟩

/-! ### Dumps that the driver takes -/

/-- The dump that tells what the chip of a rig holds. -/
def Rig.trueDump (rig : Rig) (now : Nat) : RegisterDump :=
  .ofChip rig.chip rig.driver.expected now

/-- A dump that shows a mismatch foretells a recovery, and one that shows none, none. -/
theorem hasMismatch_iff_recovers {rig polled : Rig} {now : Nat}
    (driver : polled.driver = rig.driver) (chip : polled.chip = rig.chip)
    (data : polled.Ready .accel) (unfailed : ∀ c, (Command.measure c).Unfailed polled) :
    (rig.trueDump now).hasMismatch ↔ ∃ c next, measure c polled = .ok .recovered next := by
  have mismatched (c : Channel) : rig.chip.read c.control.addr ≠ rig.driver.expected.get c ↔
      polled.Mismatched c := by
    rw [← chip, ← driver]
    exact Iff.rfl
  have ready (c : Channel) : polled.Ready c := fun _ => data rfl
  rw [Rig.trueDump, RegisterDump.hasMismatch_ofChip]
  constructor
  · rintro ⟨c, differs⟩
    obtain ⟨_, next, measured, rfl, -⟩ := exists_ok_of_unfailed
      (measure_of_mismatched (ready c) ((mismatched c).1 differs)) (unfailed c)
    exact ⟨c, next, measured⟩
  · rintro ⟨c, next, recovered⟩
    refine ⟨c, (mismatched c).2 (Decidable.not_not.1 fun matched => ?_)⟩
    exact measure_ne_recovered matched next recovered

/-! ### Dumps in records -/

/-- The registers that go with the record of a sample are those of the chip. They are there if the
record asks for them and all reads succeed. -/
theorem Rig.dump_tells (rig : Rig) (s : Sample) :
    ∃ made, (rig.dump s).2.transfers = rig.bench.bus.transfers ++ made ∧
      ((rig.dump s).1.isSome ↔ (rig.driver.record? s).any (fun record => record.actions.registers) ∧
        made.length = Register.diagnostic.length ∧ ∀ t ∈ made, t.data.isSome) ∧
      ∀ dump ∈ (rig.dump s).1, dump = rig.trueDump s.timestamp := by
  unfold dump
  cases asked : (rig.driver.record? s).any fun record => record.actions.registers with
  | false => exact ⟨[], (List.append_nil _).symm, by simp, by simp⟩
  | true =>
    rcases rig.bench.bus.lasts_or_fails with lasts | ⟨n, early, fault⟩
    · rw [RegisterDump.capture_eq_ok lasts]
      refine ⟨rig.bench.bus.readings Register.diagnostic, rfl, ?_, by simp [trueDump]⟩
      simp [Bus.readings]
    · rw [RegisterDump.capture_eq_error early fault]
      refine ⟨_, List.append_assoc .., ?_, by simp⟩
      simp

/-- A measurement that gives a sample commits the burst that it has read. -/
theorem measure_eq_committed {c : Channel} {rig next : Rig}
    (h : measure c rig = .ok .sampled next) : ∃ checked burst mid,
      isHealthy c rig = .ok true checked ∧ readBurst c checked = .ok burst mid ∧
        next = mid.committed c burst.raw := by
  obtain ⟨-, checked, mid, burst, check, read, -⟩ := exists_burst_of_sampled h
  have ready : rig.Ready c := by
    refine Decidable.not_not.1 fun waits => ?_
    rw [measure_of_not_ready waits] at h
    obtain ⟨_, _, -, ⟨⟩⟩ := bind_eq_ok_iff.1 h
  rw [measure_of_isHealthy ready check, if_pos rfl, acquire_eq_ok read] at h
  cases h
  exact ⟨checked, burst, mid, check, read, rfl⟩

/-- What the sink is told of an event. -/
def Event.notices : Event → List Notice
  | .reset _ => []
  | .measurement c polled =>
    match measure c polled with
    | .ok _ next => next.bench.notices.drop polled.bench.notices.length
    | .error _ _ => []

theorem Event.notices_of_ok {c : Channel} {rig next : Rig} {outcome : Measurement}
    {more : List Notice} (h : measure c rig = .ok outcome next)
    (told : next.bench.notices = rig.bench.notices ++ more) :
    Event.notices (.measurement c rig) = more := by
  simp only [notices, h, told, List.drop_left]

theorem Event.notices_of_error {c : Channel} {rig next : Rig} {e : Error}
    (h : measure c rig = .error e next) : Event.notices (.measurement c rig) = [] := by
  simp only [notices, h]

/-- A reset that takes the place of a measurement tells the sink nothing. -/
theorem Event.notices_of_recovery? {c : Channel} {rig : Rig} {bus : Bus}
    (recovers : recovery? c rig = some (rig.alarmed c bus)) :
    Event.notices (.measurement c rig) = [] := by
  have goesOn := measure_of_recovery? recovers
  rw [bind_apply] at goesOn
  cases configured : ECompass.reset (rig.alarmed c bus) with
  | ok _ next =>
    rw [configured] at goesOn
    have same := ((reset_idle _).of_ok configured).notices
    exact Event.notices_of_ok goesOn (same.trans (List.append_nil _).symm)
  | error e next =>
    rw [configured] at goesOn
    exact Event.notices_of_error goesOn

/-- The sink was told some more. -/
def Rig.Tells (rig : Rig) (more : List Notice) (next : Rig) : Prop :=
  next.bench.notices = rig.bench.notices ++ more

theorem Rig.tells_nil {rig next : Rig} (same : next.bench.notices = rig.bench.notices) :
    rig.Tells [] next := same.trans (List.append_nil _).symm

/-- The sink is told of events, and of nothing else. -/
theorem chronicle_tells : Chronicle Event.notices
    (fun command rig => (command.events rig).flatMap Event.notices) Rig.Tells where
  trans h h' := by rw [Rig.Tells, h', h, List.append_assoc]
  requeued := by
    rintro rig _ ⟨_, rfl⟩
    exact Rig.tells_nil rfl
  stimulus s rig := Rig.tells_nil (by cases s <;> rfl)
  reset rig := (reset_idle rig).mono (fun _ _ h => Rig.tells_nil h.notices)
    fun _ _ h => Rig.tells_nil h.notices
  putOff _ _ ends := by
    rw [Event.notices_of_ok ends (List.append_nil _).symm]
    exact Rig.tells_nil rfl
  lost _ _ ends := by
    rw [Event.notices_of_error ends]
    exact Rig.tells_nil rfl
  sampled {c rig bus raw} _ _ ends := by
    obtain ⟨_, _, told, -⟩ := bench_committed (rig.withBus bus) c raw
    have notices := congrArg Bench.notices told
    rw [Event.notices_of_ok ends notices]
    exact notices
  recovery _ recovers := by
    rw [Event.notices_of_recovery? recovers]
    exact Rig.tells_nil rfl
  acquires command rig _ := rfl
  other command rig h := by
    rw [Command.events_of_not_acquires h]
    exact Rig.tells_nil (Command.runOn_within (Command.run_idle h)).notices

/-- What the sink is told of a sample that is committed, with the dump that was taken for it. -/
theorem Rig.tells_committed (rig : Rig) (c : Channel) (raw : Axes Int16) :
    rig.Tells (rig.driver.notices c (rig.sample c raw) ((rig.keep c raw).dump (rig.sample c raw)).1)
      (rig.committed c raw) := by
  cases c with
  | accel => exact List.append_assoc ..
  | mag =>
    unfold Driver.notices
    rw [List.append_nil]
    rfl

/-- Of the notices of a sample, only its record is a record. -/
theorem Driver.exists_of_mem_notices {d : Driver} {c : Channel} {s : Sample}
    {registers : Option RegisterDump} {record : DiagnosticRecord}
    (h : .diagnostic record ∈ d.notices c s registers) :
    c = .accel ∧ ∃ bare, d.record? s = some bare ∧ record = { bare with registers } := by
  have unrecorded : Notice.diagnostic record ∉ d.sampleNotices c s := by
    unfold sampleNotices
    cases d.publishing.get c <;> simp
  have recorded := (List.mem_append.1 h).resolve_left unrecorded
  cases c with
  | accel =>
    obtain ⟨bare, made, eq⟩ := List.mem_map.1 recorded
    cases eq
    exact ⟨rfl, bare, Option.mem_toList.1 made, rfl⟩
  | mag => cases recorded

/-- A record is told of a measurement of the accelerometer that has read a burst and committed it.
From the burst on, only the registers are read that go with the record. -/
theorem record_of_measurement {c : Channel} {polled : Rig} {record : DiagnosticRecord}
    (told : .diagnostic record ∈ Event.notices (.measurement c polled)) :
    c = .accel ∧ ∃ checked burst mid next made, isHealthy c polled = .ok true checked ∧
      readBurst c checked = .ok burst mid ∧ measure c polled = .ok .sampled next ∧
      next.bench.bus.transfers = mid.bench.bus.transfers ++ made ∧
      (record.registers.isSome ↔ record.actions.registers ∧
        made.length = Register.diagnostic.length ∧ ∀ t ∈ made, t.data.isSome) ∧
      ∀ dump ∈ record.registers, dump = mid.trueDump record.sample.timestamp := by
  cases measure_course c polled with
  | putOff ends =>
    rw [Event.notices_of_ok ends (List.append_nil _).symm] at told
    cases told
  | lost ends =>
    rw [Event.notices_of_error ends] at told
    cases told
  | recovery unsampled recovers =>
    rw [Event.notices_of_recovery? recovers] at told
    cases told
  | sampled ends =>
    obtain ⟨checked, burst, mid, check, read, next⟩ := measure_eq_committed ends
    rw [next] at ends
    have same : mid.bench.notices = polled.bench.notices := by
      obtain ⟨_, rfl⟩ := (isHealthy_onBus c).of_ok check
      obtain ⟨_, rfl⟩ := (readBurst_onBus c).of_ok read
      rfl
    have tells := mid.tells_committed c burst.raw
    rw [Rig.Tells, same] at tells
    rw [Event.notices_of_ok ends tells] at told
    obtain ⟨rfl, bare, observed, rfl⟩ := Driver.exists_of_mem_notices told
    have sample : bare.sample = mid.sample .accel burst.raw :=
      (mid.driver.monitor.observe_record _ _).2 bare observed
    let kept := mid.keep .accel burst.raw
    have asks : (kept.driver.record? (mid.sample .accel burst.raw)).any
        (fun record => record.actions.registers) = bare.actions.registers :=
      congrArg (Option.any fun record => record.actions.registers) observed
    obtain ⟨made, transfers, complete, tells⟩ := kept.dump_tells (mid.sample .accel burst.raw)
    rw [asks] at complete
    refine ⟨rfl, checked, burst, mid, _, made, check, read, ends, transfers, complete, ?_⟩
    intro dump taken
    rw [sample]
    exact tells dump taken

/-! ### The truth of dumps -/

/-- A transfer reads a single byte. -/
def Transfer.IsByteRead (t : Transfer) : Prop :=
  t.header.direction = .read ∧ t.header.isBurst = false

theorem Bus.isByteRead_header (bus : Bus) (address : UInt8) (data : Option (List UInt8)) :
    Transfer.IsByteRead ⟨bus.header .read address 1, data⟩ :=
  ⟨direction_header .., isBurst_header ..⟩

theorem Bus.isByteRead_of_mem_readings {bus : Bus} {registers : List Register} {t : Transfer}
    (h : t ∈ bus.readings registers) : t.IsByteRead ∧ t.data.isSome := by
  obtain ⟨r, -, rfl⟩ := List.mem_map.1 h
  exact ⟨isByteRead_header .., rfl⟩

/-- Register dumps tell the truth about the health check, whatever the chip holds and whatever state
the driver is in.

If no read fails, a dump is taken by fifty-three reads of a single byte, and these and the countdown
to the next fault are all that changes. Its entries are the diagnostic registers in order, each with
the value that the chip holds, and a look-up gives the value that the chip holds. It shows a
mismatch exactly if one of the two measurements, taken on the same driver and the same chip while
data is ready and without a failing transfer, would recover. If a read fails, the dump fails with
it, after the reads up to that one, and nothing else changes.

A diagnostic record that the sink is told in a session belongs to a measurement of the accelerometer
that has read a burst. It carries a dump exactly if its actions ask for one and fifty-three reads
have followed the burst of which none has failed, and the dump is true of the chip and the driver
after the burst. -/
theorem dumps_tell_the_truth (rig : Rig) (steps : List Step) :
    let bus := rig.bench.bus
    ((∀ n, bus.readFault = some n → 53 ≤ n) → ∃ dump made readFault,
      dumpRegisters rig = .ok dump { rig with
        bench.bus := { bus with readFault, transfers := bus.transfers ++ made } } ∧
      made.length = 53 ∧ (∀ t ∈ made, t.IsByteRead ∧ t.data.isSome) ∧
      dump = ⟨rig.bench.timer.now, Register.diagnostic.map fun r => (r, rig.chip.read r.addr),
        rig.driver.expected⟩ ∧
      (∀ r ∈ Register.diagnostic, dump.get? r = some (rig.chip.read r.addr)) ∧
      ∀ polled : Rig, polled.driver = rig.driver → polled.chip = rig.chip → polled.Ready .accel →
        (∀ c, (Command.measure c).Unfailed polled) →
        (dump.hasMismatch ↔ ∃ c next, measure c polled = .ok .recovered next)) ∧
    (∀ n < 53, bus.readFault = some n → ∃ made,
      dumpRegisters rig = .error (.bus .communication) { rig with
        bench.bus := { bus with readFault := none, transfers := bus.transfers ++ made } } ∧
      made.length = n + 1 ∧ ∀ t ∈ made, t.IsByteRead) ∧
    ∀ record, .diagnostic record ∈ (runSession rig steps).2.bench.notices →
      .diagnostic record ∈ rig.bench.notices ∨
      ∃ polled checked burst mid next made, .measurement .accel polled ∈ events rig steps ∧
        isHealthy .accel polled = .ok true checked ∧ readBurst .accel checked = .ok burst mid ∧
        measure .accel polled = .ok .sampled next ∧
        next.bench.bus.transfers = mid.bench.bus.transfers ++ made ∧
        (record.registers.isSome ↔
          record.actions.registers ∧ made.length = 53 ∧ ∀ t ∈ made, t.data.isSome) ∧
        ∀ dump ∈ record.registers, dump = ⟨record.sample.timestamp,
          Register.diagnostic.map fun r => (r, mid.chip.read r.addr), mid.driver.expected⟩ := by
  intro bus
  have run : dumpRegisters rig =
      onBus (RegisterDump.capture rig.driver.expected rig.bench.timer.now) rig := rfl
  refine ⟨fun lasts => ?_, fun n early fault => ?_, fun record told => ?_⟩
  · refine ⟨rig.trueDump rig.bench.timer.now, bus.readings Register.diagnostic,
      bus.readFault.map (· - Register.diagnostic.length), ?_, List.length_map .., ?_, rfl, ?_, ?_⟩
    · rw [run, onBus, RegisterDump.capture_eq_ok lasts]
      rfl
    · exact fun t => Bus.isByteRead_of_mem_readings
    · exact fun r _ => RegisterDump.get?_ofChip ..
    · intro polled driver chip data unfailed
      exact hasMismatch_iff_recovers driver chip data unfailed
  · refine ⟨bus.readings (Register.diagnostic.take n) ++
      [⟨bus.header .read Register.diagnostic[n].addr 1, none⟩], ?_, ?_, fun t made => ?_⟩
    · rw [run, onBus, RegisterDump.capture_eq_error early fault, ← List.append_assoc]
      rfl
    · rw [List.length_append, Bus.readings, List.length_map,
        List.length_take_of_le (Nat.le_of_lt early)]
      rfl
    · rcases List.mem_append.1 made with made | made
      · exact (Bus.isByteRead_of_mem_readings made).1
      · rw [List.mem_singleton.1 made]
        exact Bus.isByteRead_header ..
  · have session := chronicle_tells.session rig steps
    rw [Rig.Tells, ← along_flatMap, ← events_eq_along] at session
    rw [session] at told
    refine (List.mem_append.1 told).imp_right fun told => ?_
    obtain ⟨event, occurs, told⟩ := List.mem_flatMap.1 told
    cases event with
    | reset start => cases told
    | measurement c polled =>
      obtain ⟨rfl, checked, burst, mid, next, made, rest⟩ := record_of_measurement told
      exact ⟨polled, checked, burst, mid, next, made, occurs, rest⟩

/-- A loss of power shows in a dump, and the magnetometer would recover from it; a dump
fails at the eleventh read if ten further reads succeed; and the log, once switched on, holds a
record with a dump. -/
theorem dumps_tell_the_truth_brownout :
    let rig := (runSession (.fresh .spi) [.command .reset, .stimulus .brownout]).2
    let faulty := (runSession rig [.stimulus (.readFault 10)]).2
    let steps : List Step := [.command .reset, .command .toggleLogging, .command (.measure .accel)]
    (∃ dump next, dumpRegisters rig = .ok dump next ∧ dump.hasMismatch ∧
      dump.get? .ctrl7 = some 0x02 ∧ next.driver = rig.driver) ∧
    (∃ made next, dumpRegisters faulty = .error (.bus .communication) next ∧
      next.bench.bus.transfers = faulty.bench.bus.transfers ++ made ∧ made.length = 11) ∧
    ∃ record, .diagnostic record ∈ (runSession rig steps).2.bench.notices ∧
      record.registers.isSome ∧ record.actions.registers := by
  intro rig faulty steps
  have lasts : rig.bench.bus.readFault = none := by decide +kernel
  have fault : faulty.bench.bus.readFault = some 10 := rfl
  have unfailed (c : Channel) : (Command.measure c).Unfailed rig := by
    cases c <;> decide +kernel
  have ready : rig.Ready .accel := by decide +kernel
  have recovers : ((Command.measure .mag).runOn rig).1 = .reply (.measured .recovered) := by
    decide +kernel
  have ctrl7 : rig.chip.read Register.ctrl7.addr = 0x02 := by decide +kernel
  have silent : rig.bench.notices = [] := by decide +kernel
  have recorded : (runSession rig steps).2.bench.notices.any fun n => match n with
      | .diagnostic record => record.registers.isSome
      | _ => false := by decide +kernel
  obtain ⟨whole, -, records⟩ := dumps_tell_the_truth rig steps
  obtain ⟨-, cut, -⟩ := dumps_tell_the_truth faulty []
  refine ⟨?_, ?_, ?_⟩
  · obtain ⟨dump, made, fault', taken, -, -, -, gets, foretells⟩ :=
      whole (by simp [lasts])
    have recovery : ∃ c next, measure c rig = .ok .recovered next := by
      obtain ⟨_, ran⟩ := Command.run_of_reply recovers
      obtain ⟨_, _, measured, ⟨⟩⟩ := bind_eq_ok_iff.1 ran
      exact ⟨.mag, _, measured⟩
    refine ⟨dump, _, taken, (foretells rig rfl rfl ready unfailed).2 recovery, ?_, rfl⟩
    rw [gets .ctrl7 (Register.mem_diagnostic _), ctrl7]
  · obtain ⟨made, failed, length, -⟩ := cut 10 (by decide) fault
    exact ⟨made, _, failed, rfl, length⟩
  · obtain ⟨notice, told, carries⟩ := List.any_eq_true.1 recorded
    cases notice with
    | diagnostic record =>
      rcases records record told with old | ⟨_, _, _, _, _, made, -, -, -, -, -, complete, -⟩
      · rw [silent] at old
        cases old
      · exact ⟨record, told, carries, (complete.1 carries).1⟩
    | queued c => cases carries
    | published c s => cases carries

end ECompass
