import ECompass.Proofs.Queues

/-!
# Delivery

What becomes of the samples of a channel. Samples leave their queue at the front, and each leaves it
once, with one of five fates (`Fate`): a reader takes it, or it is lost to a full queue, to a
smaller depth, to a start, or to a reader that measures anew. `Command.departures` tells which
samples leave by a command, and with which fates.

For every command, what it commits comes to the queue and its departures leave it (`Command.flows`),
and readers are given the departures that are taken (`Command.handedOut_eq`). So along a session the
committed samples are those that have left, followed by those still queued, and the order of
delivery is that of the measurements. A start leaves nothing queued, so a reader of a polled channel
is given samples from after the last start only.
-/

namespace ECompass

open Program Operation

/-! ### What commands do to a channel -/

/-- What becomes of a sample that leaves its queue. -/
inductive Fate where
  /-- A reader takes it. -/
  | taken
  /-- It makes room in a full queue for a new sample. -/
  | displaced
  /-- It does not fit a smaller depth. -/
  | shrunk
  /-- A start discards it. -/
  | restarted
  /-- A reader that measures anew discards it. -/
  | flushed
  deriving DecidableEq

/-- The samples that readers took. -/
def taken (left : List (Sample × Fate)) : List Sample :=
  (left.filter fun departure => departure.2 = .taken).map Prod.fst

theorem taken_append (left more : List (Sample × Fate)) :
    taken (left ++ more) = taken left ++ taken more := by
  simp [taken]

theorem taken_map_taken (samples : List Sample) : taken (samples.map (·, .taken)) = samples := by
  simp [taken, List.filter_map, Function.comp_def]

theorem taken_map_of_ne (samples : List Sample) {fate : Fate} (ne : fate ≠ .taken) :
    taken (samples.map (·, fate)) = [] := by
  simp [taken, List.filter_map, Function.comp_def, ne]

@[simp] theorem map_fst_map_fate (samples : List Sample) (fate : Fate) :
    (samples.map (·, fate)).map Prod.fst = samples := by
  simp [Function.comp_def]

/-- A poll rate that starts nothing leaves the triggers running or stopped. -/
theorem Scheduler.running_setPollRate {s next : Scheduler} {c : Channel} {rate : PollRate}
    {outcome : Reschedule} {calls : List TimerCall}
    (h : s.setPollRate c rate = some (outcome, calls, next)) (unstarted : outcome ≠ .started) :
    next.running = s.running := by
  unfold setPollRate at h
  split at h
  · cases h
    rfl
  · obtain ⟨interval, -, tuned⟩ := Option.map_eq_some_iff.1 h
    split at tuned
    · cases tuned
      rfl
    · cases tuned
      exact absurd rfl unstarted

namespace Command

/-- Whether a command starts the triggers anew. -/
def starts (command : Command) (rig : Rig) : Bool :=
  match command with
  | .start => true
  | .setPollRate c rate =>
    (rig.driver.scheduler.setPollRate c rate).any fun answer => answer.1 = .started
  | _ => false

/-- Whether a command reaches straight into the queue of a channel. -/
def handles (command : Command) (c : Channel) : Bool :=
  command = .popQueue c ∨ command = .flushQueue c

/-- The samples that a command commits on a channel: one, if it takes a measurement of the channel
that gives a sample. -/
def committed (c : Channel) (command : Command) (rig : Rig) : List Sample :=
  match command.measurement? rig with
  | some (d, polled) => samplesOn c d polled
  | none => []

/-- The samples of a channel that a command hands out. -/
def handedOut (c : Channel) (command : Command) (rig : Rig) : List Sample :=
  match command, (command.runOn rig).1 with
  | .readSamples d _, .reply (.samples samples) => if d = c then samples else []
  | _, _ => []

/-- The samples of a channel that leave its queue by a command, in order, with their fates. A sample
that is handed out as soon as it was measured has been in the queue, too. -/
def departures (c : Channel) (command : Command) (rig : Rig) : List (Sample × Fate) :=
  let queue := rig.queue c
  match command with
  | .readSamples d room =>
    if d = c ∧ room ≠ 0 then
      if rig.driver.scheduler.isActive c then (queue.samples.take room).map (·, .taken)
      else queue.samples.map (·, .flushed) ++ (command.committed c rig).map (·, .taken)
    else []
  | .setQueueDepth d depth =>
    if d = c ∧ 0 < depth ∧ depth ≤ SampleQueue.slots then
      (queue.samples.take (queue.size - depth)).map (·, .shrunk)
    else []
  | _ =>
    if command.starts rig then queue.samples.map (·, .restarted)
    else (queue.displaced (command.committed c rig)).map (·, .displaced)

/-- What a command commits on a channel comes to its queue, and its departures leave it. -/
def Flows (c : Channel) (command : Command) (rig : Rig) : Prop :=
  (rig.queue c).Flow ((command.runOn rig).2.queue c) (command.committed c rig)
    ((command.departures c rig).map Prod.fst)

variable {c : Channel} {command : Command} {rig : Rig}

/-! #### Readers -/

section Readers

variable {room : Nat} {next : Rig}

theorem run_readSamples : (readSamples c room).run rig =
    (do return Reply.samples (← ECompass.readSamples c room)) rig := rfl

theorem handedOut_of_ok {samples : List Sample}
    (h : ECompass.readSamples c room rig = .ok samples next) :
    (readSamples c room).handedOut c rig = samples ∧
      ((readSamples c room).runOn rig).2 = next := by
  have run : (readSamples c room).runOn rig = (.reply (.samples samples), next) := by
    rw [runOn, run_readSamples, bind_apply, h]
    rfl
  simp [handedOut, run]

theorem handedOut_of_error {e : Error} (h : ECompass.readSamples c room rig = .error e next) :
    (readSamples c room).handedOut c rig = [] ∧ ((readSamples c room).runOn rig).2 = next := by
  have run : (readSamples c room).runOn rig = (.failure e, next) := by
    rw [runOn, run_readSamples, bind_apply, h]
  simp [handedOut, run]

/-- Reading a polled channel hands out the oldest samples, as many as there is room for. -/
theorem readSamples_polled (active : rig.driver.scheduler.isActive c) (room : Nat) :
    (readSamples c room).handedOut c rig = (rig.queue c).samples.take room ∧
      ((readSamples c room).runOn rig).2.queue c = ((rig.queue c).take room).2 := by
  by_cases none : room = 0
  · subst none
    exact ⟨rfl, rfl⟩
  · have drains := readSamples_of_active none active
    rw [drain_apply] at drains
    by_cases empty : (rig.queue c).samples.take room = []
    · -- the reader is told to wait, which hands out as much as there is
      rw [if_pos empty] at drains
      obtain ⟨nothing, same⟩ := handedOut_of_error drains
      rw [nothing, same, empty]
      -- there is room, so nothing was queued
      have rest : (rig.queue c).samples.drop room = (rig.queue c).samples := by
        have all := List.take_append_drop room (rig.queue c).samples
        rwa [empty, List.nil_append] at all
      refine ⟨rfl, ?_⟩
      show rig.queue c = { rig.queue c with samples := (rig.queue c).samples.drop room }
      rw [rest]
    · rw [if_neg empty] at drains
      obtain ⟨oldest, after⟩ := handedOut_of_ok drains
      rw [after]
      exact ⟨oldest, queue_onQueue rig c _⟩

/-- Reading a channel that is not polled discards what is queued, and hands out what the measurement
commits. -/
theorem readSamples_manual (bounded : (rig.queue c).Bounded)
    (inactive : ¬ rig.driver.scheduler.isActive c) (some : room ≠ 0) :
    let new := (readSamples c room).committed c rig
    (readSamples c room).handedOut c rig = new ∧
      (rig.queue c).Flow (((readSamples c room).runOn rig).2.queue c) new
        ((rig.queue c).samples ++ new) := by
  intro new
  have new_eq : new =
      (sample? c { rig with driver := rig.driver.onQueue c SampleQueue.flush }).toList := by
    simp [new, committed, measurement?, samplesOn, some, inactive]
  rw [new_eq]
  cases commits : sample? c { rig with driver := rig.driver.onQueue c SampleQueue.flush } with
  | some s =>
    obtain ⟨next, reads, flows⟩ := readSamples_of_sample? bounded inactive some commits
    obtain ⟨handed, after⟩ := handedOut_of_ok reads
    rw [after]
    exact ⟨handed, flows⟩
  | none =>
    have ends := readSamples_of_sample?_eq_none bounded inactive some commits
    show _ ∧ (rig.queue c).Flow _ [] ((rig.queue c).samples ++ [])
    rw [List.append_nil]
    cases reads : ECompass.readSamples c room rig with
    | ok samples next =>
      obtain ⟨nothing, flows⟩ := ends.of_ok reads
      obtain ⟨handed, after⟩ := handedOut_of_ok reads
      rw [after]
      exact ⟨handed.trans nothing, flows⟩
    | error e next =>
      obtain ⟨handed, after⟩ := handedOut_of_error reads
      rw [after]
      exact ⟨handed, ends.of_error reads⟩

theorem departures_polled (active : rig.driver.scheduler.isActive c) (room : Nat) :
    (readSamples c room).departures c rig =
      ((rig.queue c).samples.take room).map (·, .taken) := by
  by_cases none : room = 0 <;> simp [departures, active, none]

theorem departures_manual (inactive : ¬ rig.driver.scheduler.isActive c) (some : room ≠ 0) :
    (readSamples c room).departures c rig = (rig.queue c).samples.map (·, .flushed) ++
      ((readSamples c room).committed c rig).map (·, .taken) := by
  simp [departures, inactive, some]

end Readers

/-! #### Starts and depths -/

theorem runOn_setPollRate (d : Channel) (rate : PollRate) (rig : Rig) :
    (setPollRate d rate).runOn rig = match rig.driver.scheduler.setPollRate d rate with
      | none => (.failure .invalidConfig, rig)
      | some (outcome, calls, scheduler) => (.reply .done,
        { driver := rig.driver.adopt d outcome scheduler
          bench := { rig.bench with timer.calls := rig.bench.timer.calls ++ calls } }) := by
  have run : (setPollRate d rate).run rig =
      (do ECompass.setPollRate d rate; return Reply.done) rig := rfl
  rw [runOn, run, bind_apply, setPollRate_apply]
  cases rig.driver.scheduler.setPollRate d rate <;> rfl

theorem starts_setPollRate {d : Channel} {rate : PollRate}
    {answer : Reschedule × List TimerCall × Scheduler}
    (h : rig.driver.scheduler.setPollRate d rate = some answer) :
    (setPollRate d rate).starts rig = decide (answer.1 = .started) := by
  simp [starts, h]

/-- A command that starts the triggers anew leaves nothing queued. -/
theorem queue_of_starts (h : command.starts rig) (c : Channel) :
    (command.runOn rig).2.queue c = (rig.queue c).flush := by
  have flushed : (rig.driver.queue.map SampleQueue.flush).get c = (rig.queue c).flush :=
    PerChannel.get_map SampleQueue.flush rig.driver.queue c
  cases command with
  | start => exact flushed
  | setPollRate d rate =>
    cases answer : rig.driver.scheduler.setPollRate d rate with
    | none => simp [starts, answer] at h
    | some accepted =>
      rw [starts_setPollRate answer] at h
      rw [runOn_setPollRate, answer]
      show (rig.driver.adopt d accepted.1 accepted.2.2).queue.get c = _
      rw [Driver.queue_adopt, if_pos (of_decide_eq_true h), flushed]
  | _ => cases h

/-- A change of poll rate that starts nothing leaves the queues alone, and the triggers running or
stopped. -/
theorem setPollRate_of_starts_eq_false {d : Channel} {rate : PollRate}
    (h : (setPollRate d rate).starts rig = false) :
    SameQueues rig ((setPollRate d rate).runOn rig).2 ∧
      ((setPollRate d rate).runOn rig).2.driver.scheduler.running =
        rig.driver.scheduler.running := by
  rw [runOn_setPollRate]
  cases answer : rig.driver.scheduler.setPollRate d rate with
  | none => exact ⟨rfl, rfl⟩
  | some accepted =>
    rw [starts_setPollRate answer] at h
    have unstarted := of_decide_eq_false h
    show (rig.driver.adopt d accepted.1 accepted.2.2).queue = _ ∧
      (rig.driver.adopt d accepted.1 accepted.2.2).scheduler.running = _
    rw [Driver.queue_adopt, if_neg unstarted, Driver.scheduler_adopt]
    exact ⟨rfl, Scheduler.running_setPollRate answer unstarted⟩

/-! #### Any command -/

theorem flows_of_sameQueue (bounded : (rig.queue c).Bounded)
    (same : SameQueue c rig (command.runOn rig).2) (new : command.committed c rig = [])
    (gone : command.departures c rig = []) : command.Flows c rig := by
  rw [Flows, new, gone, same]
  exact bounded.stays

theorem flows_of_within (bounded : (rig.queue c).Bounded) (same : Within (SameQueue c) command.run)
    (new : command.committed c rig = []) (gone : command.departures c rig = []) :
    command.Flows c rig :=
  flows_of_sameQueue bounded (runOn_within same) new gone

/-- A command that is no reader, starts nothing and takes no measurement keeps the flow if it leaves
the queue alone. -/
theorem flows_of_unmeasured (bounded : (rig.queue c).Bounded)
    (unmeasured : command.measurement? rig = none) (same : SameQueue c rig (command.runOn rig).2)
    (unread : command.departures c rig =
      ((rig.queue c).displaced (command.committed c rig)).map (·, .displaced)) :
    command.Flows c rig := by
  have new : command.committed c rig = [] := by rw [committed, unmeasured]
  refine flows_of_sameQueue bounded same new ?_
  rw [unread, new]
  rfl

/-- A command that ends with a measurement brings the sample that this commits, and no reader takes
one. -/
theorem flows_of_measure {d : Channel} {polled : Rig} {reply : Measurement → Reply}
    (bounded : (rig.queue c).Bounded) (measures : command.measurement? rig = some (d, polled))
    (same : SameQueue c rig polled)
    (run : command.run rig = (do return reply (← ECompass.measure d)) polled)
    (unread : command.departures c rig =
      ((rig.queue c).displaced (command.committed c rig)).map (·, .displaced)) :
    command.Flows c rig := by
  have new : command.committed c rig = samplesOn c d polled := by
    rw [committed, measures]
  have measured := measure_flow (same ▸ bounded) d
  rw [Flows, unread, map_fst_map_fate, new, ← same]
  cases ended : ECompass.measure d polled with
  | ok outcome next =>
    rw [bind_apply, ended] at run
    rw [runOn, run]
    exact measured.of_ok ended
  | error e next =>
    rw [bind_apply, ended] at run
    rw [runOn, run]
    exact measured.of_error ended

theorem flows_of_bringUp (bounded : (rig.queue c).Bounded) : bringUp.Flows c rig := by
  have run : bringUp.run rig = (do ECompass.bringUp; return Reply.done) rig := rfl
  rw [ECompass.bringUp, bind_assoc, bind_apply] at run
  cases configured : ECompass.reset rig with
  | error e failed =>
    rw [configured] at run
    refine flows_of_unmeasured bounded (by simp [measurement?, configured]) ?_ rfl
    rw [runOn, run]
    exact (reset_sameQueues.of_error configured).sameQueue c
  | ok _ polled =>
    rw [configured, bind_assoc] at run
    have same : SameQueue c rig polled := (reset_sameQueues.of_ok configured).sameQueue c
    exact flows_of_measure bounded (by simp [measurement?, configured]) same run rfl

theorem flows_of_onTimer (bounded : (rig.queue c).Bounded) (d : Channel) :
    (onTimer d).Flows c rig := by
  have run : (onTimer d).run rig = (do return Reply.measured (← ECompass.onTimer d)) rig := rfl
  rw [bind_apply] at run
  by_cases active : rig.driver.scheduler.isActive d
  · rw [onTimer_of_active active, ← bind_apply] at run
    exact flows_of_measure bounded (if_pos active) rfl run rfl
  · rw [onTimer_of_not_active active] at run
    refine flows_of_unmeasured bounded (if_neg active) ?_ rfl
    rw [runOn, run]
    exact refl_of (SameQueue c) rig

/-- A command that starts the triggers anew commits nothing, and discards all that is queued. -/
theorem flows_of_starts (bounded : (rig.queue c).Bounded) (h : command.starts rig) :
    command.Flows c rig := by
  have gone : command.departures c rig = (rig.queue c).samples.map (·, .restarted) := by
    cases command with
    | start => rfl
    | setPollRate d rate => exact if_pos h
    | _ => cases h
  have new : command.committed c rig = [] := by
    cases command with
    | start => rfl
    | setPollRate d rate => rfl
    | _ => cases h
  rw [Flows, queue_of_starts h, gone, new, map_fst_map_fate]
  exact bounded.flow_flush

theorem flows_of_readSamples (bounded : (rig.queue c).Bounded) (d : Channel) (room : Nat) :
    (readSamples d room).Flows c rig := by
  by_cases same : d = c
  · subst same
    by_cases active : rig.driver.scheduler.isActive d
    · have new : (readSamples d room).committed d rig = [] := by
        simp [committed, measurement?, active]
      rw [Flows, (readSamples_polled active room).2, departures_polled active, new,
        map_fst_map_fate]
      exact bounded.flow_take room
    · by_cases none : room = 0
      · subst none
        exact flows_of_sameQueue bounded rfl rfl (by simp [departures])
      · rw [Flows, departures_manual active none, List.map_append, map_fst_map_fate,
          map_fst_map_fate]
        exact (readSamples_manual bounded active none).2
  · have new : (readSamples d room).committed c rig = [] := by
      simp only [committed, measurement?]
      split <;> simp_all [samplesOn]
    have untouched := readSamples_sameQueue (Ne.symm same) room
    exact flows_of_within bounded (untouched.bind fun _ => .pure _) new (by simp [departures, same])

theorem flows_of_setQueueDepth (bounded : (rig.queue c).Bounded) (d : Channel) (depth : Nat) :
    (setQueueDepth d depth).Flows c rig := by
  have run : (setQueueDepth d depth).run rig =
      (do ECompass.setQueueDepth d depth; return Reply.done) rig := rfl
  rw [bind_apply, setQueueDepth_apply] at run
  by_cases same : d = c
  · subst same
    cases resized : (rig.queue d).resize depth with
    | none =>
      rw [resized] at run
      have refused := SampleQueue.resize_eq_none_iff.1 resized
      refine flows_of_sameQueue bounded ?_ rfl (by simp [departures, refused])
      rw [runOn, run]
      exact refl_of (SameQueue d) rig
    | some queue =>
      rw [resized] at run
      have accepted := (SampleQueue.resize_eq_some_iff.1 resized).1
      have gone : (setQueueDepth d depth).departures d rig =
          ((rig.queue d).samples.take ((rig.queue d).size - depth)).map (·, .shrunk) := by
        simp [departures, accepted]
      rw [Flows, gone, map_fst_map_fate, runOn, run]
      show (rig.queue d).Flow (Rig.queue { rig with driver := _ } d) [] _
      rw [queue_onQueue]
      exact SampleQueue.flow_resize resized
  · refine flows_of_sameQueue bounded ?_ rfl (by simp [departures, same])
    rw [runOn, run]
    cases (rig.queue d).resize depth with
    | none => exact refl_of (SameQueue c) rig
    | some queue => exact (onQueue_sameQueue (Ne.symm same) _).of_ok rfl

/-- Every command that does not reach straight into a queue keeps its flow. -/
theorem flows (bounded : (rig.queue c).Bounded) (free : command.handles c = false) :
    command.Flows c rig := by
  have steady {α : Type} {operation : Operation α} {reply : α → Reply}
      (h : Within Rig.Steady operation) : Within (SameQueue c) (do return reply (← operation)) :=
    (within_sameQueue (within_sameQueues h) c).bind fun _ => .pure _
  cases command with
  | bringUp => exact flows_of_bringUp bounded
  | reset =>
    have same := within_sameQueue reset_sameQueues c
    exact flows_of_within bounded (same.bind fun _ => .pure _) rfl rfl
  | whoAmI => exact flows_of_within bounded (steady readIdentity_steady) rfl rfl
  | onTimer d => exact flows_of_onTimer bounded d
  | measure d => exact flows_of_measure bounded rfl rfl rfl rfl
  | readSamples d room => exact flows_of_readSamples bounded d room
  | popQueue d =>
    have ne : c ≠ d := by
      rintro rfl
      simp [handles] at free
    exact flows_of_within bounded ((popQueue_sameQueue ne).bind fun _ => .pure _) rfl rfl
  | flushQueue d =>
    have ne : c ≠ d := by
      rintro rfl
      simp [handles] at free
    exact flows_of_within bounded ((onQueue_sameQueue ne _).bind fun _ => .pure _) rfl rfl
  | start => exact flows_of_starts bounded rfl
  | stop => exact flows_of_within bounded (fun _ => rfl) rfl rfl
  | setPollRate d rate =>
    cases starts : (setPollRate d rate).starts rig with
    | true => exact flows_of_starts bounded starts
    | false =>
      have same := (setPollRate_of_starts_eq_false starts).1
      exact flows_of_unmeasured bounded rfl (same.sameQueue c) (by simp [departures, starts])
  | setQueueDepth d depth => exact flows_of_setQueueDepth bounded d depth
  | setPublishing d enable => exact flows_of_within bounded (fun _ => rfl) rfl rfl
  | requestSetting field n =>
    exact flows_of_within bounded (steady (requestSetting_steady field n)) rfl rfl
  | setLowPass d cutoff =>
    refine flows_of_within bounded (Within.bind ?_ fun _ => .pure _) rfl rfl
    cases d
    · exact fun _ => rfl
    · exact .throw _
  | lowPass d => exact flows_of_within bounded (steady (lowPass_steady d)) rfl rfl
  | setCalibration d cal =>
    exact flows_of_within bounded (steady (setCalibration_steady d cal)) rfl rfl
  | selfTest d => exact flows_of_within bounded (fun _ => rfl) rfl rfl
  | dumpRegisters => exact flows_of_within bounded (steady dumpRegisters_steady) rfl rfl
  | toggleLogging => exact flows_of_within bounded (steady toggleLogging_steady) rfl rfl

/-- Only readers hand out samples, and no other command lets a sample be taken. -/
theorem handedOut_of_not_reader (h : ∀ d room, command ≠ readSamples d room) :
    command.handedOut c rig = [] ∧ taken (command.departures c rig) = [] := by
  constructor
  · unfold handedOut
    split
    · rename_i d room _ _
      exact absurd rfl (h d room)
    · rfl
  · simp only [departures]
    split
    · rename_i d room
      exact absurd rfl (h d room)
    · split
      · exact taken_map_of_ne _ (by decide)
      · rfl
    · split
      · exact taken_map_of_ne _ (by decide)
      · exact taken_map_of_ne _ (by decide)

/-- Readers are given exactly the samples whose fate it is to be taken. -/
theorem handedOut_eq (bounded : (rig.queue c).Bounded) :
    command.handedOut c rig = taken (command.departures c rig) := by
  by_cases reads : ∃ d room, command = readSamples d room
  · obtain ⟨d, room, rfl⟩ := reads
    by_cases same : d = c
    · subst same
      by_cases active : rig.driver.scheduler.isActive d
      · rw [(readSamples_polled active room).1, departures_polled active, taken_map_taken]
      · by_cases none : room = 0
        · subst none
          have gone : (readSamples d 0).departures d rig = [] := by simp [departures]
          rw [gone]
          rfl
        · rw [departures_manual active none, taken_append, taken_map_taken,
            taken_map_of_ne _ (by decide)]
          exact (readSamples_manual bounded active none).1
    · have gone : (readSamples d room).departures c rig = [] := by simp [departures, same]
      have handed : (readSamples d room).handedOut c rig = [] := by
        simp only [handedOut]
        split <;> simp_all
      rw [gone, handed]
      rfl
  · have other (d : Channel) (room : Nat) : command ≠ readSamples d room :=
      fun eq => reads ⟨d, room, eq⟩
    rw [(handedOut_of_not_reader other).1, (handedOut_of_not_reader other).2]

end Command

/-! ### Sessions -/

/-- What `f` gives for the commands of a session, each on the rig on which it is given. -/
def along {α : Type} (f : Command → Rig → List α) (rig : Rig) : List Step → List α
  | [] => []
  | .command command :: rest => f command rig ++ along f (command.runOn rig).2 rest
  | .stimulus s :: rest => along f { rig with bench := s.act rig.bench } rest

/-- The commands of a session that start the triggers anew. -/
def starts (rig : Rig) (steps : List Step) : List Command :=
  along (fun command rig => if command.starts rig then [command] else []) rig steps

/-- The last start in a session, with the rig that it left and the steps that follow it. -/
def LastStart (rig : Rig) (steps : List Step) (restarted : Rig) (late : List Step) : Prop :=
  ∃ early command, steps = early ++ .command command :: late ∧
    command.starts (runSession rig early).2 ∧
    restarted = (command.runOn (runSession rig early).2).2 ∧ starts restarted late = []

/-- Whether a step reaches straight into the queue of a channel. -/
def Step.handles : Step → Channel → Bool
  | .command given, c => given.handles c
  | .stimulus _, _ => false

section Runs

variable {c : Channel} {steps late : List Step} {rig restarted : Rig}

/-- Along a session, what is committed on a channel comes to its queue, what departs leaves it, and
readers are given what is taken. -/
theorem flow_along (bounded : (rig.queue c).Bounded)
    (unhandled : ∀ step ∈ steps, step.handles c = false) :
    (rig.queue c).Flow ((runSession rig steps).2.queue c) (along (Command.committed c) rig steps)
        ((along (Command.departures c) rig steps).map Prod.fst) ∧
      along (Command.handedOut c) rig steps = taken (along (Command.departures c) rig steps) := by
  induction steps generalizing rig with
  | nil => exact ⟨bounded.stays, rfl⟩
  | cons step rest ih =>
    have later : ∀ step ∈ rest, step.handles c = false :=
      fun step h => unhandled step (List.mem_cons_of_mem _ h)
    cases step with
    | stimulus s => exact @ih { rig with bench := s.act rig.bench } bounded later
    | command command =>
      have flows : command.Flows c rig := Command.flows bounded (unhandled _ List.mem_cons_self)
      obtain ⟨rest, handed⟩ := ih flows.bounded later
      simp only [along, List.map_append, taken_append]
      exact ⟨flows.trans rest, by rw [handed, command.handedOut_eq bounded]⟩

/-- A session starts the triggers at no time, or at a last one. -/
theorem starts_eq_nil_or_lastStart (rig : Rig) (steps : List Step) :
    starts rig steps = [] ∨ ∃ restarted late, LastStart rig steps restarted late := by
  induction steps generalizing rig with
  | nil => exact .inl rfl
  | cons step rest ih =>
    -- the last start of the rest is the last of all; only without one does the first step matter
    rcases ih (step.run rig).2 with quiet | ⟨restarted, late, early, command, rfl, last⟩
    · cases step with
      | stimulus s => exact .inl quiet
      | command command =>
        cases begins : command.starts rig with
        | true => exact .inr ⟨_, rest, [], command, rfl, begins, rfl, quiet⟩
        | false =>
          refine .inl ?_
          simp only [starts, along, begins]
          exact quiet
    · exact .inr ⟨restarted, late, step :: early, command, rfl, last⟩

/-! #### Polling begins with a start -/

/-- The scheduler is as it was. -/
def SameScheduler (rig next : Rig) : Prop := next.driver.scheduler = rig.driver.scheduler

instance : IsPreorder Rig SameScheduler where
  refl _ := rfl
  trans _ _ _ h h' := Eq.trans h' h

theorem serves_sameScheduler : Serves SameScheduler where
  steady h := h.scheduler
  design _ _ _ := rfl
  keep _ c _ := by cases c <;> rfl
  queue _ _ := rfl
  putOff c := by
    refine Within.bind (fun _ => rfl) fun _ => Within.bind (fun _ => rfl) fun d => ?_
    split
    · exact fun _ => rfl
    · exact .pure _

/-- Only a start sets the triggers running. -/
theorem Command.running_of_starts_eq_false {command : Command} {rig : Rig}
    (quiet : command.starts rig = false)
    (running : (command.runOn rig).2.driver.scheduler.running = true) :
    rig.driver.scheduler.running = true := by
  cases keeps : command.schedules with
  | false =>
    have same : SameScheduler rig (command.runOn rig).2 :=
      runOn_within (serves_sameScheduler.command keeps)
    rwa [same] at running
  | true =>
    cases command with
    | start => cases quiet
    | stop => cases running
    | setPollRate d rate => rwa [(setPollRate_of_starts_eq_false quiet).2] at running
    | _ => cases keeps

theorem running_of_starts_eq_nil (quiet : starts rig steps = [])
    (running : (runSession rig steps).2.driver.scheduler.running = true) :
    rig.driver.scheduler.running = true := by
  induction steps generalizing rig with
  | nil => exact running
  | cons step rest ih =>
    cases step with
    | stimulus s => exact @ih { rig with bench := s.act rig.bench } quiet running
    | command command =>
      obtain ⟨first, later⟩ := List.append_eq_nil_iff.1 quiet
      have unstarted : command.starts rig = false :=
        Bool.eq_false_iff.2 fun begins => by simp [begins] at first
      exact command.running_of_starts_eq_false unstarted (ih later running)

theorem LastStart.runSession_eq (h : LastStart rig steps restarted late) :
    (runSession rig steps).2 = (runSession restarted late).2 := by
  obtain ⟨early, command, rfl, -, rfl, -⟩ := h
  rw [runSession_append]
  rfl

/-- What is queued was committed after the last start. -/
theorem LastStart.queued_suffix (h : LastStart rig steps restarted late)
    (bounded : (rig.queue c).Bounded) (unhandled : ∀ step ∈ steps, step.handles c = false) :
    ((runSession rig steps).2.queue c).samples <:+
      along (Command.committed c) restarted late := by
  rw [h.runSession_eq]
  obtain ⟨early, command, rfl, begins, left, -⟩ := h
  -- the steps before the start matter for the bounds of the queue only
  have earlier := (flow_along bounded fun step hs =>
    unhandled step (List.mem_append_left _ hs)).1.bounded
  have empty : restarted.queue c = ((runSession rig early).2.queue c).flush := by
    rw [left]
    exact Command.queue_of_starts begins c
  have later : (restarted.queue c).Bounded := by
    rw [empty]
    exact earlier.flush
  have sum := (flow_along later fun step hs =>
    unhandled step (List.mem_append_right _ (List.mem_cons_of_mem _ hs))).1.conserved
  rw [empty] at sum
  exact ⟨_, sum.symm⟩

end Runs

/-- A new driver has nothing queued. -/
theorem queue_of_connect {bench : Bench} {start : Rig}
    (connected : connect { bench } = .ok () start) (c : Channel) : start.queue c = .empty := by
  rw [Rig.queue, (connect_steady.of_ok connected).queue]
  exact PerChannel.get_both _ c

/-- Delivery. Along any session with a new driver in which no command reaches straight into the
queue of a channel, whatever fails in it: the samples that readers were given and then those still
queued are, in order and each at most once, among those that measurements have committed. All that
were committed have either left or are queued; of those that have left, the ones whose fate it was
to be taken were handed out, and the others were lost to a full queue, a smaller depth, a start or
a reader that measures anew.

From there, reading the channel while it is polled hands out the oldest of the queued samples, as
many as there is room for, and all that is queued was committed after the last start. -/
theorem delivered_in_order {bench : Bench} {start : Rig} {steps : List Step} {c : Channel}
    (connected : connect { bench } = .ok () start)
    (unhandled : ∀ step ∈ steps, step.handles c = false) :
    let rig := (runSession start steps).2
    let queued := (rig.queue c).samples
    let committed := along (Command.committed c) start steps
    let left := along (Command.departures c) start steps
    let handedOut := along (Command.handedOut c) start steps
    (handedOut ++ queued).Sublist committed ∧
      committed = left.map Prod.fst ++ queued ∧ handedOut = taken left ∧
      (rig.driver.scheduler.isActive c → ∀ room,
        let samples := (Command.readSamples c room).handedOut c rig
        samples = queued.take room ∧ samples.length = min room queued.length ∧
          ∃ restarted late, LastStart start steps restarted late ∧
            queued <:+ along (Command.committed c) restarted late) := by
  intro rig queued committed left handedOut
  have steady := connect_steady.of_ok connected
  have empty := queue_of_connect connected c
  have bounded : (start.queue c).Bounded := empty ▸ SampleQueue.bounded_empty
  obtain ⟨flows, handed⟩ := flow_along bounded unhandled
  have conserved : committed = left.map Prod.fst ++ queued := by
    have sum := flows.conserved
    rwa [empty] at sum
  refine ⟨?_, conserved, handed, fun active room => ?_⟩
  · show (along (Command.handedOut c) start steps ++ queued).Sublist committed
    rw [conserved, handed]
    exact (List.filter_sublist.map Prod.fst).append (List.Sublist.refl queued)
  · have oldest := (Command.readSamples_polled active room).1
    refine ⟨oldest, ?_, ?_⟩
    · rw [oldest, List.length_take]
    · have stopped : start.driver.scheduler.running = false := by
        rw [steady.scheduler]
        rfl
      rcases starts_eq_nil_or_lastStart start steps with quiet | ⟨restarted, late, last⟩
      · have running : rig.driver.scheduler.running = true := (Bool.and_eq_true_iff.1 active).1
        rw [running_of_starts_eq_nil quiet running] at stopped
        cases stopped
      · exact ⟨restarted, late, last, last.queued_suffix bounded unhandled⟩

/-- The third sample of a polled channel displaces the first; one is read, and one is left. -/
theorem delivered_in_order_overflow :
    let steps : List Step := [.command .reset, .command (.setPollRate .mag .default),
      .command (.onTimer .mag), .command (.onTimer .mag), .command (.onTimer .mag),
      .command (.readSamples .mag 1)]
    let rig := (runSession (.fresh .spi) steps).2
    connect { bench := .fresh .spi } = .ok () (.fresh .spi) ∧
      (∀ step ∈ steps, step.handles .mag = false) ∧ rig.driver.scheduler.isActive .mag ∧
      (along (Command.departures .mag) (.fresh .spi) steps).map Prod.snd = [.displaced, .taken] ∧
      (along (Command.handedOut .mag) (.fresh .spi) steps ++ (rig.queue .mag).samples).Sublist
        (along (Command.committed .mag) (.fresh .spi) steps) ∧
      ((Command.readSamples .mag 8).handedOut .mag rig).length = 1 := by
  intro steps rig
  have connected := connect_fresh .spi
  have unhandled : ∀ step ∈ steps, step.handles .mag = false := by decide
  have active : rig.driver.scheduler.isActive .mag := by decide +kernel
  have left : (along (Command.departures .mag) (.fresh .spi) steps).map Prod.snd =
      [.displaced, .taken] := by decide +kernel
  have queued : (rig.queue .mag).samples.length = 1 := by decide +kernel
  obtain ⟨ordered, -, -, polled⟩ := delivered_in_order connected unhandled
  obtain ⟨-, length, -⟩ := polled active 8
  exact ⟨connected, unhandled, active, left, ordered, length.trans (by rw [queued]; rfl)⟩

end ECompass
