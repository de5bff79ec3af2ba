import ECompass.Proofs.Transfers

/-!
# Long transfers on SPI

On SPI a long write is split into frames of at most sixteen bytes, and each frame has a command of
its own: its start is sixteen registers after that of the frame before, cut to a byte and then to
six bits, and it advances only if it carries more than one byte. None of this can be seen in the
chip. Byte `i` of the data goes to the address `i` places after the start of the write, around
within the sixty-four registers (`Frame.wrapped`), as it would in one frame that advances.

The frames are taken one by one: what a list of them does to the bus, with a failure somewhere in it
(`forM_writeFrame_error`) or without one (`forM_writeFrame_ok`), and what the frames of some data
leave on the chip (`Frame.foldl_writeRun_split`). A write that fails at frame `k` has sent the first
`k` frames, which are those of the first `16 * k` bytes (`Frame.take_split`).
-/

namespace ECompass

open Program

/-! ### Places -/

namespace Frame

/-- Where byte `i` from an address on goes: addresses wrap around within the sixty-four registers
that a command can name. -/
def wrapped (address : UInt8) (i : Nat) : UInt8 := .ofNat ((address.toNat + i) % 64)

theorem toNat_wrapped (address : UInt8) (i : Nat) :
    (wrapped address i).toNat = (address.toNat + i) % 64 := by
  rw [wrapped, UInt8.toNat_ofNat']
  omega

/-- Two bytes go to the same address if they are a multiple of sixty-four apart. -/
theorem wrapped_inj {address : UInt8} {i j : Nat} :
    wrapped address i = wrapped address j ↔ i % 64 = j % 64 := by
  rw [← UInt8.toNat_inj, toNat_wrapped, toNat_wrapped]
  omega

/-- The frame after the first one goes on where that one ends. -/
theorem wrapped_add (address : UInt8) (k i : Nat) :
    wrapped (address + .ofNat k) i = wrapped address (i + k) := by
  rw [← UInt8.toNat_inj, toNat_wrapped, toNat_wrapped, UInt8.toNat_add, UInt8.toNat_ofNat']
  omega

theorem toNat_and_addressMask (a : UInt8) : (a &&& addressMask).toNat = a.toNat % 64 := by
  rw [UInt8.toNat_and]
  exact Nat.and_two_pow_sub_one_eq_mod _ 6

/-- The bytes of a frame go around within the sixty-four registers, whether its command advances,
for more than one byte, or not. -/
theorem place_command_wrapped (direction : Direction) (a : UInt8) {n i : Nat} (hi : i ≤ n - 1) :
    place (command direction a n) i = wrapped a i := by
  rw [← UInt8.toNat_inj, toNat_wrapped, place, advances_command, address_command]
  by_cases h : 1 < n
  · simp only [h, decide_true, if_true]
    rw [← addressMask, toNat_and_addressMask, UInt8.toNat_add, toNat_and_addressMask,
      UInt8.toNat_ofNat']
    omega
  · simp only [h, decide_false, Bool.false_eq_true, if_false]
    rw [toNat_and_addressMask]
    congr 1
    omega

end Frame

/-! ### Runs of writes -/

namespace RegisterFile

theorem writeRun_append (f : RegisterFile) (place : Nat → UInt8) (first second : List UInt8) :
    f.writeRun place (first ++ second) =
      (f.writeRun place first).writeRun (fun i => place (i + first.length)) second := by
  induction first generalizing f place with
  | nil => rfl
  | cons value first ih =>
    simp only [List.cons_append, writeRun, ih, List.length_cons]
    rfl

theorem writeRun_congr (f : RegisterFile) {place place' : Nat → UInt8} {values : List UInt8}
    (same : ∀ i < values.length, place i = place' i) :
    f.writeRun place values = f.writeRun place' values := by
  induction values generalizing f place place' with
  | nil => rfl
  | cons value values ih =>
    rw [writeRun, writeRun, same 0 (by simp)]
    exact ih _ fun i hi => same (i + 1) (by simpa using hi)

/-- A byte stays where it was written if no later one goes to its place. -/
theorem read_writeRun_of_last (f : RegisterFile) (place : Nat → UInt8) {values : List UInt8}
    {i : Nat} (hi : i < values.length)
    (last : ∀ j, i < j → j < values.length → place i ≠ place j) :
    (f.writeRun place values).read (place i) = values[i] := by
  induction values generalizing f place i with
  | nil => simp at hi
  | cons value values ih =>
    rw [writeRun]
    cases i with
    | zero =>
      rw [read_writeRun_of_ne _ _ _ fun j hj => last (j + 1) (Nat.succ_pos j) (by simpa using hj),
        read_write_self]
      rfl
    | succ i =>
      refine ih _ _ (by simpa using hi) fun j hij hj => ?_
      exact last (j + 1) (by omega) (by simpa using hj)

/-- After a run of writes around the sixty-four registers, these hold the last bytes of the run. -/
theorem read_writeRun_wrapped (f : RegisterFile) (address : UInt8) {data : List UInt8} {i : Nat}
    (hi : i < data.length) (last : data.length ≤ i + 64) :
    (f.writeRun (Frame.wrapped address) data).read (Frame.wrapped address i) = data[i] := by
  refine read_writeRun_of_last f _ hi fun j hij hj same => ?_
  rw [Frame.wrapped_inj] at same
  omega

end RegisterFile

/-! ### The frames of a write -/

namespace Frame

/-- The number of frames that some bytes take. -/
def count (length : Nat) : Nat := (length + 15) / 16

theorem split_of_ne_nil {data : List UInt8} (start : UInt8) (h : data ≠ []) :
    split start data =
      (start, data.take 16) :: split (start + .ofNat 16) (data.drop 16) := by
  rw [split, if_neg h]
  rfl

theorem length_split (start : UInt8) (data : List UInt8) :
    (split start data).length = count data.length := by
  fun_induction split start data with
  | case1 => rfl
  | case2 start data h ih =>
    have pos := List.length_pos_iff.mpr h
    rw [List.length_cons, ih, List.length_drop, count, count, maxLength]
    omega

/-- The first frames of some data are the frames of its first bytes. -/
theorem take_split (start : UInt8) (data : List UInt8) (k : Nat) :
    (split start data).take k = split start (data.take (16 * k)) := by
  induction k generalizing start data with
  | zero => simp
  | succ k ih =>
    by_cases h : data = []
    · simp [h]
    · have some : data.take (16 * (k + 1)) ≠ [] := by
        simp [h]
      rw [split_of_ne_nil start h, split_of_ne_nil start some, List.take_succ_cons, ih,
        List.take_take, List.drop_take]
      have first : min 16 (16 * (k + 1)) = 16 := by omega
      have rest : 16 * (k + 1) - 16 = 16 * k := by omega
      rw [first, rest]

/-- What the frames of some data leave on the chip: the data, around from where it starts. -/
theorem foldl_writeRun_split (start : UInt8) (data : List UInt8) (f : RegisterFile) :
    (split start data).foldl (fun f frame => f.writeRun (wrapped frame.1) frame.2) f =
      f.writeRun (wrapped start) data := by
  fun_induction split start data generalizing f with
  | case1 => rfl
  | case2 start data h ih =>
    rw [List.foldl_cons, ih]
    by_cases more : data.length ≤ maxLength
    · rw [List.drop_of_length_le more, List.take_of_length_le more]
      rfl
    · have full : (data.take maxLength).length = maxLength := by
        rw [List.length_take]
        omega
      conv => rhs; rw [← List.take_append_drop maxLength data, RegisterFile.writeRun_append, full]
      congr 1
      funext i
      exact wrapped_add start maxLength i

end Frame

namespace Bus

/-- The transfer that carries a frame. -/
def sent (frame : UInt8 × List UInt8) : Transfer :=
  ⟨.framed (Frame.command .write frame.1 frame.2.length), some frame.2⟩

/-- The transfer that should have carried a frame. -/
def lost (frame : UInt8 × List UInt8) : Transfer :=
  ⟨.framed (Frame.command .write frame.1 frame.2.length), none⟩

/-- The bus after some frames were sent. -/
def afterFrames (bus : Bus) (frames : List (UInt8 × List UInt8)) : Bus :=
  { bus with
    chip := frames.foldl (fun f frame => f.writeRun (Frame.wrapped frame.1) frame.2) bus.chip
    writeFault := bus.writeFault.map (· - frames.length)
    transfers := bus.transfers ++ frames.map sent }

/-- A frame that is not to fail writes its bytes, around from where it starts. -/
theorem writeFrame_ok {bus : Bus} (frame : UInt8 × List UInt8) (h : bus.writeFault ≠ some 0) :
    writeFrame frame.1 frame.2 bus = .ok () (bus.afterFrames [frame]) := by
  have places : bus.chip.writeRun (Frame.place (Frame.command .write frame.1 frame.2.length))
      frame.2 = bus.chip.writeRun (Frame.wrapped frame.1) frame.2 :=
    RegisterFile.writeRun_congr _ fun i hi => Frame.place_command_wrapped .write _ (by omega)
  have count : countdown bus.writeFault = (false, bus.writeFault.map (· - 1)) := by
    match fault : bus.writeFault with
    | none => rfl
    | some 0 => exact absurd fault h
    | some (n + 1) => rfl
  rw [writeFrame_eq, transferOut_apply, places]
  simp only [fails, counted, count, Bool.false_eq_true, if_false]
  rfl

/-- A frame that is to fail leaves the chip as it is. -/
theorem writeFrame_error {bus : Bus} (frame : UInt8 × List UInt8) (h : bus.writeFault = some 0) :
    writeFrame frame.1 frame.2 bus = .error .communication { bus with
      writeFault := none, transfers := bus.transfers ++ [lost frame] } := by
  rw [writeFrame_eq, transferOut_apply]
  simp only [fails, counted, h, countdown, if_true]
  rfl

theorem afterFrames_append (bus : Bus) (first second : List (UInt8 × List UInt8)) :
    (bus.afterFrames first).afterFrames second = bus.afterFrames (first ++ second) := by
  have fault : (bus.writeFault.map (· - first.length)).map (· - second.length) =
      bus.writeFault.map (· - (first ++ second).length) := by
    cases bus.writeFault with
    | none => rfl
    | some k => simp [Nat.sub_sub]
  simp only [afterFrames, fault, List.foldl_append, List.map_append, List.append_assoc]

/-- Frames none of which is to fail are all sent. -/
theorem forM_writeFrame_ok {bus : Bus} {frames : List (UInt8 × List UInt8)}
    (h : ∀ k, bus.writeFault = some k → frames.length ≤ k) :
    frames.forM (fun frame => writeFrame frame.1 frame.2) bus =
      .ok () (bus.afterFrames frames) := by
  induction frames generalizing bus with
  | nil =>
    simp [afterFrames]
    rfl
  | cons frame frames ih =>
    have now : bus.writeFault ≠ some 0 := fun fault => absurd (h 0 fault) (by simp)
    have later : ∀ k, (bus.afterFrames [frame]).writeFault = some k → frames.length ≤ k := by
      intro k fault
      obtain ⟨n, hn, rfl⟩ := Option.map_eq_some_iff.mp fault
      have := h n hn
      simp at this ⊢
      omega
    calc (frame :: frames).forM (fun frame => writeFrame frame.1 frame.2) bus
      _ = (writeFrame frame.1 frame.2 >>= fun _ =>
            frames.forM fun frame => writeFrame frame.1 frame.2) bus := rfl
      _ = .ok () ((bus.afterFrames [frame]).afterFrames frames) := by
        rw [bind_apply, writeFrame_ok frame now]
        exact ih later
      _ = .ok () (bus.afterFrames (frame :: frames)) := by
        rw [afterFrames_append, List.singleton_append]

/-- A frame that is to fail is the last one tried, after those before it were sent. -/
theorem forM_writeFrame_error {bus : Bus} {frames : List (UInt8 × List UInt8)} {k : Nat}
    (fault : bus.writeFault = some k) (hk : k < frames.length) :
    frames.forM (fun frame => writeFrame frame.1 frame.2) bus =
      .error .communication { bus.afterFrames (frames.take k) with
        writeFault := none
        transfers := bus.transfers ++ (frames.take k).map sent ++ [lost frames[k]] } := by
  have first : (frames.take k).length = k := by
    rw [List.length_take]
    omega
  have before : (frames.take k).forM (fun frame => writeFrame frame.1 frame.2) bus =
      .ok () (bus.afterFrames (frames.take k)) := by
    refine forM_writeFrame_ok fun n hn => ?_
    rw [fault] at hn
    cases hn
    exact Nat.le_of_eq first
  have due : (bus.afterFrames (frames.take k)).writeFault = some 0 := by
    simp [afterFrames, fault, first]
  have cut : frames = frames.take k ++ frames[k] :: frames.drop (k + 1) := by
    rw [List.getElem_cons_drop, List.take_append_drop]
  calc frames.forM (fun frame => writeFrame frame.1 frame.2) bus
    _ = ((frames.take k).forM (fun frame => writeFrame frame.1 frame.2) >>= fun _ =>
          (writeFrame frames[k].1 frames[k].2 >>= fun _ =>
            (frames.drop (k + 1)).forM fun frame => writeFrame frame.1 frame.2)) bus := by
      conv => lhs; rw [cut]
      exact congrFun List.forM_append bus
    _ = _ := by
      simp only [bind_apply, before, writeFrame_error _ due]
      rfl

/-! ### Writing and reading on SPI -/

/-- A write on SPI sends the frames of the data. -/
theorem write_spi {bus : Bus} (spi : bus.transport = .spi) (address : UInt8) (data : List UInt8) :
    Bus.write address data bus =
      (Frame.split address data).forM (fun frame => writeFrame frame.1 frame.2) bus := by
  cases bus
  cases spi
  rfl

/-- A read on SPI, of however many bytes, takes them around from where it starts. -/
theorem read_spi {bus : Bus} (spi : bus.transport = .spi) (address : UInt8) (n : Nat) :
    Bus.read address n bus =
      transferIn (.framed (Frame.command .read address n)) (Frame.wrapped address) n bus := by
  have run : Bus.read address n bus = readFrame address n bus := by
    cases bus
    cases spi
    rfl
  rw [run, readFrame_eq]
  rcases Nat.eq_zero_or_pos n with rfl | pos
  · rfl
  · refine congrFun (transferIn_congr _ pos fun i hi => ?_) bus
    exact Frame.place_command_wrapped .read address (by omega)

/-- The chip after the frames of some data were sent. -/
theorem chip_afterFrames_split (bus : Bus) (address : UInt8) (data : List UInt8) :
    (bus.afterFrames (Frame.split address data)).chip =
      bus.chip.writeRun (Frame.wrapped address) data :=
  Frame.foldl_writeRun_split address data bus.chip

/-- No measurement waits that a read from an address on would bring up. -/
def Quiet (bus : Bus) (start : UInt8) : Prop :=
  ∀ c, channelAt? start = some c → bus.waiting.get c = []

theorem prepare_of_quiet {bus : Bus} {start : UInt8} (h : bus.Quiet start) (n : Nat) :
    bus.prepare start n = bus := by
  have idle : bus.refill start = bus := by
    unfold refill
    cases at? : channelAt? start with
    | none => rfl
    | some c =>
      simp only [h c at?]
  rw [prepare, idle, ite_self]

theorem transfers_prepare (bus : Bus) (start : UInt8) (n : Nat) :
    (bus.prepare start n).transfers = bus.transfers := by
  unfold prepare
  split
  · exact bus.transfers_refill start
  · rfl

/-- The transfers are the frames of a write of some data: each carries at most sixteen bytes, and
together they carry the data in order. -/
structure Carried (data : List UInt8) (made : List Transfer) : Prop where
  /-- The transfers write at most sixteen bytes, and none has failed. -/
  frames : ∀ t ∈ made, t.header.direction = .write ∧
    ∃ bytes, t.data = some bytes ∧ bytes.length ≤ 16
  /-- Their bytes are the data. -/
  flatten : made.flatMap (·.data.getD []) = data
  /-- There is one for every sixteen bytes begun. -/
  count : made.length = (data.length + 15) / 16

theorem carried_split (address : UInt8) (data : List UInt8) :
    Carried data ((Frame.split address data).map sent) where
  frames t ht := by
    obtain ⟨frame, hf, rfl⟩ := List.mem_map.mp ht
    exact ⟨Frame.direction_command .write frame.1 frame.2.length, frame.2, rfl,
      Frame.length_le_of_mem_split hf⟩
  flatten := by
    rw [List.flatMap_map]
    exact Frame.flatten_split address data
  count := by
    rw [List.length_map, Frame.length_split, Frame.count]

/-- A write on SPI none of whose frames is to fail sends them all. -/
theorem write_spi_ok {bus : Bus} (spi : bus.transport = .spi) (address : UInt8) {data : List UInt8}
    (h : ∀ k, bus.writeFault = some k → (data.length + 15) / 16 ≤ k) :
    Bus.write address data bus = .ok () (bus.afterFrames (Frame.split address data)) := by
  rw [write_spi spi]
  refine forM_writeFrame_ok fun k fault => ?_
  rw [Frame.length_split]
  exact h k fault

/-- A write on SPI one of whose frames is to fail sends those before it, which are the frames of the
data before it. -/
theorem write_spi_error {bus : Bus} (spi : bus.transport = .spi) (address : UInt8)
    {data : List UInt8} {k : Nat} (fault : bus.writeFault = some k)
    (hk : k < (data.length + 15) / 16) :
    ∃ frame, Bus.write address data bus = .error .communication
      { bus.afterFrames (Frame.split address (data.take (16 * k))) with
        writeFault := none
        transfers := bus.transfers ++ (Frame.split address (data.take (16 * k))).map sent ++
          [lost frame] } := by
  rw [write_spi spi, forM_writeFrame_error fault (by rwa [Frame.length_split]), Frame.take_split]
  exact ⟨_, rfl⟩

/-- A read on SPI that is not to fail brings the bytes around from where it starts, in one frame
that is a read, and finds the chip as it was unless a waiting measurement comes up. -/
theorem read_spi_ok {bus : Bus} (spi : bus.transport = .spi) (address : UInt8) (n : Nat)
    (h : bus.fails .read = false) :
    ∃ bytes next t, Bus.read address n bus = .ok bytes next ∧
      next.transfers = bus.transfers ++ [t] ∧ t.header.direction = .read ∧
      t.data = some bytes.toList ∧
      (∀ i (hi : i < n), bytes[i] = next.chip.read (Frame.wrapped address i)) ∧
      (bus.Quiet (Frame.wrapped address 0) → next.chip = bus.chip) := by
  rw [read_spi spi, transferIn_apply]
  simp only [h, Bool.false_eq_true, if_false]
  refine ⟨_, _, ⟨.framed (Frame.command .read address n), some _⟩, rfl, ?_,
    Frame.direction_command .read address n, rfl, fun i hi => RegisterFile.getElem_readRun ..,
    fun quiet => ?_⟩
  · exact congrArg (· ++ _) (transfers_prepare ..)
  have quiet : (bus.counted .read).Quiet (Frame.wrapped address 0) := quiet
  rw [prepare_of_quiet quiet]
  rfl

/-- A write on SPI of data of any length leaves the chip as one write that goes around within the
sixty-four registers would, whatever was on it: the last sixty-four bytes are where they belong, and
no other register has changed. It takes a transfer of at most sixteen bytes for every sixteen bytes
begun, and so none for no data. If transfer `k` of them fails, so does the write; nothing is sent
after it, and the chip is as after a write of the first `16 * k` bytes. A read of any length is one
transfer that reads. It brings the bytes around from where it starts, of the chip as the read leaves
it, which is as it was unless a waiting measurement comes up. So what a write of at most sixty-four
bytes has put there is read back. -/
theorem split_transfers (bus : Bus) (spi : bus.transport = .spi) (address : UInt8)
    (data : List UInt8) :
    ((∀ k, bus.writeFault = some k → (data.length + 15) / 16 ≤ k) →
      ∃ next made, Bus.write address data bus = .ok () next ∧
        next.transfers = bus.transfers ++ made ∧ Carried data made ∧
        next.chip = bus.chip.writeRun (Frame.wrapped address) data ∧
        (∀ i (hi : i < data.length), data.length ≤ i + 64 →
          next.chip.read (Frame.wrapped address i) = data[i]) ∧
        (∀ a, (∀ i < data.length, a ≠ Frame.wrapped address i) →
          next.chip.read a = bus.chip.read a) ∧
        (data.length ≤ 64 → bus.fails .read = false → bus.Quiet (Frame.wrapped address 0) →
          ∃ bytes final, Bus.read address data.length next = .ok bytes final ∧
            bytes.toList = data)) ∧
      (∀ k, bus.writeFault = some k → k < (data.length + 15) / 16 →
        ∃ next made lost, Bus.write address data bus = .error .communication next ∧
          next.transfers = bus.transfers ++ made ++ [lost] ∧ lost.data = none ∧ made.length = k ∧
          Carried (data.take (16 * k)) made ∧
          next.chip = bus.chip.writeRun (Frame.wrapped address) (data.take (16 * k))) ∧
      ∀ n, bus.fails .read = false →
        ∃ bytes next t, Bus.read address n bus = .ok bytes next ∧
          next.transfers = bus.transfers ++ [t] ∧ t.header.direction = .read ∧
          t.data = some bytes.toList ∧
          (∀ i (hi : i < n), bytes[i] = next.chip.read (Frame.wrapped address i)) ∧
          (bus.Quiet (Frame.wrapped address 0) → next.chip = bus.chip) := by
  refine ⟨fun unfailed => ?_, fun k fault hk => ?_, fun n => read_spi_ok spi address n⟩
  · have chip := chip_afterFrames_split bus address data
    refine ⟨_, _, write_spi_ok spi address unfailed, rfl, carried_split address data, chip,
      fun i hi last => ?_, fun a other => ?_, fun short ready quiet => ?_⟩
    · rw [chip, RegisterFile.read_writeRun_wrapped _ _ hi last]
    · rw [chip, RegisterFile.read_writeRun_of_ne _ _ _ other]
    · -- a write changes neither what waits nor what is to fail of the reads
      have same : (bus.afterFrames (Frame.split address data)).transport = .spi := spi
      obtain ⟨bytes, final, _, run, -, -, -, taken, kept⟩ :=
        read_spi_ok same address data.length ready
      refine ⟨bytes, final, run, List.ext_getElem (by simp) fun i _ hi => ?_⟩
      rw [Vector.getElem_toList, taken i hi, kept quiet, chip,
        RegisterFile.read_writeRun_wrapped _ _ hi (by omega)]
  · obtain ⟨frame, run⟩ := write_spi_error spi address fault hk
    have carried := carried_split address (data.take (16 * k))
    refine ⟨_, _, lost frame, run, rfl, rfl, ?_, carried, chip_afterFrames_split ..⟩
    rw [carried.count, List.length_take]
    omega

/-- Twenty bytes from the third last of the sixty-four registers on take two frames; both go
around to the first registers, and are read back from there. -/
theorem split_transfers_twenty :
    let bus : Bus := { transport := .spi }
    let data : List UInt8 := (List.range 20).map .ofNat
    ∃ next made, Bus.write 0x3D data bus = .ok () next ∧ next.transfers = bus.transfers ++ made ∧
      made.length = 2 ∧ next.chip.read 0x3F = 2 ∧ next.chip.read 0x00 = 3 ∧
      ∃ bytes final, Bus.read 0x3D 20 next = .ok bytes final ∧ bytes.toList = data := by
  intro bus data
  obtain ⟨next, made, run, transfers, carried, -, last, -, back⟩ :=
    (split_transfers bus rfl 0x3D data).1 fun k fault => nomatch fault
  refine ⟨next, made, run, transfers, carried.count.trans (by decide),
    last 2 (by decide) (by decide),
    last 3 (by decide) (by decide), back (by decide) rfl fun c at? => ?_⟩
  cases c <;> rfl

end Bus

end ECompass
