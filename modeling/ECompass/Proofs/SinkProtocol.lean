import ECompass.Proofs.Chronicle
import ECompass.Proofs.MonitorHistory
import Mathlib.Data.List.Forall2

/-!
# The protocol of the sink

The sink hears of samples only. Each one that is committed gives one block of notices
(`Sampling.Told`): that it is queued, the sample itself if its channel is published, and for the
accelerometer a diagnostic record if the log is on once the monitor has seen the sample, which an
extreme sample sees to itself. The notices of a session are these blocks, one behind the other.

Whoever commits a sample answers for it: a command by which the sink hears anything has measured,
and does not answer with an error or with another outcome.
-/

namespace ECompass

open Program Operation

/-! ### Blocks -/

/-- A measurement that has given a sample. -/
structure Sampling where
  /-- The channel. -/
  channel : Channel
  /-- The rig on which the measurement begins. -/
  polled : Rig
  /-- The rig on which it ends. -/
  next : Rig

/-- The sampling that an event is, if it is one. -/
def Event.sampling? : Event → Option Sampling
  | .reset _ => none
  | .measurement c polled =>
    match measure c polled with
    | .ok .sampled next => some ⟨c, polled, next⟩
    | _ => none

theorem Event.sampling?_eq_some {event : Event} {m : Sampling} (h : event.sampling? = some m) :
    event = .measurement m.channel m.polled ∧
      measure m.channel m.polled = .ok .sampled m.next := by
  cases event with
  | reset start => cases h
  | measurement c polled =>
    simp only [sampling?] at h
    split at h
    · rename_i next sampled
      cases h
      exact ⟨rfl, sampled⟩
    · cases h

/-- A measurement that commits no sample is no sampling. -/
theorem Event.sampling?_eq_none {c : Channel} {rig : Rig} (unsampled : sample? c rig = none) :
    Event.sampling? (.measurement c rig) = none := by
  rw [Option.eq_none_iff_forall_ne_some]
  intro m h
  obtain ⟨⟨⟩, sampled⟩ := Event.sampling?_eq_some h
  exact ((measure_of_sample?_eq_none unsampled).of_ok sampled).1 rfl

/-- What the sink is told of a sampling: one block about the sample that is pushed on the queue. -/
def Sampling.Told (m : Sampling) (block : List Notice) : Prop :=
  ∃ (s : Sample) (record : Option DiagnosticRecord),
    m.next.driver.queue = m.polled.driver.queue.modify m.channel (fun queue => (queue.push s).2) ∧
    block = [.queued m.channel] ++
      (if m.polled.driver.publishing.get m.channel then [.published m.channel s] else []) ++
      record.toList.map .diagnostic ∧
    (record.isSome ↔ m.channel = .accel ∧
      (m.polled.driver.monitor.observe s s.timestamp).2.logging) ∧
    ∀ r ∈ record, r.sample = s

/-- Committing a sample tells the sink one block. -/
theorem told_committed (rig : Rig) (bus : Bus) (c : Channel) (raw : Axes Int16) :
    ∃ block, Sampling.Told ⟨c, rig, (rig.withBus bus).committed c raw⟩ block ∧
      ((rig.withBus bus).committed c raw).bench.notices = rig.bench.notices ++ block := by
  let s := rig.sample c raw
  obtain ⟨_, registers, told, -⟩ := bench_committed (rig.withBus bus) c raw
  refine ⟨rig.driver.notices c s registers, ?_, congrArg Bench.notices told⟩
  have queued := queue_committed (rig.withBus bus) c raw
  cases c with
  | accel =>
    obtain ⟨logged, same⟩ := rig.driver.monitor.observe_record s s.timestamp
    let record := (rig.driver.record? s).map fun record => { record with registers }
    have map : rig.driver.recordNotices s registers = record.toList.map .diagnostic := by
      simp only [Driver.recordNotices, record, Option.toList_map, List.map_map]
      rfl
    refine ⟨s, record, queued, ?_, ?_, ?_⟩
    · exact congrArg (rig.driver.sampleNotices .accel s ++ ·) map
    · simpa [record, Driver.record?] using logged
    · intro r made
      obtain ⟨bare, observed, rfl⟩ := Option.map_eq_some_iff.1 made
      exact same bare observed
  | mag => exact ⟨s, none, queued, rfl, by simp, fun r h => absurd h (Option.not_mem_none r)⟩

/-! ### Sessions -/

/-- The samplings of a command. -/
def Command.samplings (command : Command) (rig : Rig) : List Sampling :=
  (command.events rig).filterMap Event.sampling?

/-- The sink was told one block for each sampling. -/
def Rig.Blocks (rig : Rig) (samplings : List Sampling) (next : Rig) : Prop :=
  ∃ blocks, List.Forall₂ Sampling.Told samplings blocks ∧
    next.bench.notices = rig.bench.notices ++ blocks.flatten

theorem Rig.Blocks.trans {rig mid next : Rig} {l l' : List Sampling} (h : rig.Blocks l mid)
    (h' : mid.Blocks l' next) : rig.Blocks (l ++ l') next := by
  obtain ⟨blocks, told, eq⟩ := h
  obtain ⟨more, told', eq'⟩ := h'
  exact ⟨blocks ++ more, List.rel_append told told', by
    rw [eq', eq, List.flatten_append, List.append_assoc]⟩

/-- If the sink was told nothing, no block is missing. -/
theorem Rig.blocks_nil {rig next : Rig} (same : next.bench.notices = rig.bench.notices) :
    rig.Blocks [] next := ⟨[], .nil, by rw [same, List.flatten_nil, List.append_nil]⟩

/-- The sink is told one block for each sampling, and nothing else. -/
theorem chronicle_blocks :
    Chronicle (fun event => event.sampling?.toList) Command.samplings Rig.Blocks where
  trans := Rig.Blocks.trans
  requeued := by
    rintro rig _ ⟨_, rfl⟩
    exact rig.blocks_nil rfl
  stimulus s rig := rig.blocks_nil (by cases s <;> rfl)
  reset rig := (reset_idle rig).mono (fun _ _ h => rig.blocks_nil h.notices)
    fun _ _ h => rig.blocks_nil h.notices
  putOff _ unsampled _ := by
    rw [Event.sampling?_eq_none unsampled]
    exact Rig.blocks_nil rfl
  lost _ unsampled _ := by
    rw [Event.sampling?_eq_none unsampled]
    exact Rig.blocks_nil rfl
  sampled {c rig bus raw} _ _ ends := by
    simp only [Event.sampling?, ends]
    obtain ⟨block, told, eq⟩ := told_committed rig bus c raw
    exact ⟨[block], .cons told .nil, by rw [eq, List.flatten_singleton]⟩
  recovery unsampled _ := by
    rw [Event.sampling?_eq_none unsampled]
    exact Rig.blocks_nil rfl
  acquires command rig _ := List.filterMap_eq_flatMap_toList _ _
  other command rig h := by
    rw [Command.samplings, Command.events_of_not_acquires h]
    exact rig.blocks_nil (Command.runOn_within (Command.run_idle h)).notices

/-- The samplings of a session are those of its commands. -/
theorem samplings_eq_along (rig : Rig) (steps : List Step) :
    (events rig steps).filterMap Event.sampling? = along Command.samplings rig steps := by
  have post : Command.samplings =
      fun command rig => (command.events rig).flatMap fun event => event.sampling?.toList :=
    funext fun _ => funext fun _ => List.filterMap_eq_flatMap_toList _ _
  rw [List.filterMap_eq_flatMap_toList, events_eq_along, along_flatMap, post]

/-- A command whose measurement gives a sample does not fail, and reports no other outcome. -/
theorem Command.runOn_of_sampled {command : Command} {c : Channel} {rig polled mid : Rig}
    (measures : command.measurement? rig = some (c, polled))
    (sampled : ECompass.measure c polled = .ok .sampled mid) :
    ∃ reply next, command.runOn rig = (.reply reply, next) ∧
      ∀ outcome, reply = .measured outcome → outcome = .sampled := by
  rcases command.measurement?_cases measures with ⟨rfl, rfl, configured⟩ | ⟨rfl, rfl⟩ |
    ⟨rfl, active, rfl⟩ | ⟨room, rfl, ⟨some, inactive⟩, rfl⟩
  · have run : Command.bringUp.run rig = .ok .done mid := by
      show (ECompass.bringUp >>= _) rig = _
      rw [ECompass.bringUp, bind_assoc, bind_apply, configured, bind_assoc]
      show (ECompass.measure .accel >>= _) polled = _
      rw [bind_apply, sampled]
      rfl
    exact ⟨.done, mid, by rw [runOn, run], fun _ => Reply.noConfusion⟩
  · exact ⟨.measured .sampled, mid, Command.runOn_of_measure_ok (.inl rfl) rfl sampled, by simp⟩
  · exact ⟨.measured .sampled, mid, Command.runOn_of_measure_ok (.inr rfl) measures sampled,
      by simp⟩
  · have taken := takeSampled_requeues c .sampled mid
    have run : (Command.readSamples c room).run rig =
        (do return Reply.samples (← takeSampled c .sampled)) mid := by
      show (ECompass.readSamples c room >>= _) rig = _
      rw [bind_apply, readSamples_of_not_active some inactive, ← bind_apply, bind_assoc,
        bind_apply, sampled]
    exact ⟨_, _, by rw [runOn, run]; rfl, fun _ => Reply.noConfusion⟩

/-- The protocol of the sink, for every session of a driver.

What the sink was told is one block for each measurement that gave a sample, in their order, and
nothing else. A block tells that the sample is queued; then it holds the sample, if the channel is
published at that moment; then a diagnostic record of the sample, if it is of the accelerometer and
the log is on once the monitor has seen it.

From there, a command by which the sink hears anything has taken a measurement that gave a sample;
it does not fail, and it reports no other outcome. -/
theorem notices_are_blocks {bench : Bench} {start : Rig} {steps : List Step}
    (connected : connect { bench } = .ok () start) :
    let rig := (runSession start steps).2
    (∃ blocks, List.Forall₂ Sampling.Told ((events start steps).filterMap Event.sampling?) blocks ∧
      rig.bench.notices = bench.notices ++ blocks.flatten) ∧
    ∀ command : Command, (command.runOn rig).2.bench.notices ≠ rig.bench.notices →
      ∃ c polled next reply, command.measurement? rig = some (c, polled) ∧
        measure c polled = .ok .sampled next ∧ (command.runOn rig).1 = .reply reply ∧
        ∀ outcome, reply = .measured outcome → outcome = .sampled := by
  intro rig
  constructor
  · obtain ⟨bus, rfl⟩ := connect_onBus.of_ok connected
    rw [samplings_eq_along]
    exact chronicle_blocks.session _ steps
  · intro command heard
    obtain ⟨blocks, told, eq⟩ := chronicle_blocks.command command rig
    cases samplings : command.samplings rig with
    | nil =>
      rw [samplings] at told
      cases told
      exact absurd (eq.trans (List.append_nil _)) heard
    | cons m rest =>
      have first : m ∈ command.samplings rig := samplings ▸ List.mem_cons_self
      obtain ⟨event, occurs, is⟩ := List.mem_filterMap.1 first
      obtain ⟨rfl, sampled⟩ := Event.sampling?_eq_some is
      have measures := Command.mem_events_measurement.1 occurs
      obtain ⟨reply, next, ran, reports⟩ := Command.runOn_of_sampled measures sampled
      exact ⟨_, _, _, reply, measures, sampled, congrArg Prod.fst ran, reports⟩

/-- Two notices of a published sample, one of a sample that is not, three once the log is on. -/
theorem notices_are_blocks_logged :
    let steps : List Step := [.command .reset, .command (.measure .accel),
      .command (.setPublishing .mag false), .command .toggleLogging, .command (.measure .mag),
      .command (.measure .accel)]
    let notices := (runSession (.fresh .spi) steps).2.bench.notices
    connect { bench := .fresh .spi } = .ok () (.fresh .spi) ∧
      ∃ blocks, List.Forall₂ Sampling.Told
          ((events (.fresh .spi) steps).filterMap Event.sampling?) blocks ∧
        notices = blocks.flatten ∧ blocks.length = 3 ∧ notices.length = 2 + 1 + 3 := by
  intro steps notices
  have connected := connect_fresh .spi
  have three : ((events (.fresh .spi) steps).filterMap Event.sampling?).length = 3 := by
    decide +kernel
  have six : notices.length = 6 := by decide +kernel
  obtain ⟨⟨blocks, told, eq⟩, -⟩ := @notices_are_blocks _ _ steps connected
  exact ⟨connected, blocks, told, eq, told.length_eq ▸ three, six⟩

end ECompass
