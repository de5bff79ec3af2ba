import ECompass.Diagnostics.Cadence
import Mathlib.Data.Nat.Basic

/-!
# How often the log acts

The log is shown one record after another, at whatever times, and the clock may step back. What is
said here about its four actions is said of the log of such a run from the start: how far apart two
raises of an action in succession are (the interval of the action at the later one), that an action
is raised once its interval has passed, and how many raises a span of time can hold.

Everything rests on one step: an action is raised if its interval has passed since its last raise,
or if it has never been raised and is one of those that are due at once then (`raised_tick`), and
only a raise changes the time of the last one (`last_tick`). That time therefore never goes back,
though the clock may, and this is what the count needs: each raise in a span uses up a place there
(`room`), and no other step makes room.
-/

namespace ECompass

/-- A record as the log sees it: its time, in microseconds, whether its reading is extreme, whether
a sane one has been seen, and how many extreme ones have. -/
structure LogTick where
  now : Nat
  extreme : Bool
  bootOk : Bool
  extremes : Nat

/-- What the log can do for a record. -/
inductive LogAction where
  | sample
  | registers
  | sync
  | alarm

namespace LogAction

/-- An action is among those to take for a record. -/
def RaisedBy (action : LogAction) (actions : LogActions) : Prop :=
  match action with
  | .sample => actions.sample
  | .registers => actions.registers
  | .sync => actions.sync
  | .alarm => actions.alarm.isSome

instance (action : LogAction) (actions : LogActions) : Decidable (action.RaisedBy actions) := by
  cases action <;> exact inferInstanceAs (Decidable (_ = true))

/-- The time that passes between two raises of an action, in microseconds, if the later one is for
an extreme reading, and if it is not. -/
def interval (action : LogAction) (extreme : Bool) : Nat :=
  match action with
  | .sample => 1000000
  | .registers => if extreme then 250000 else 10000000
  | .sync => 10000000
  | .alarm => 10000000

/-- An action that was never raised is raised by the first record it is asked for. -/
def startsDue : LogAction → Bool
  | .sample | .registers => true
  | .sync | .alarm => false

/-- The record lets the action be raised: an alarm is for extreme readings that have been seen. -/
def Permitted (action : LogAction) (tick : LogTick) : Prop :=
  action = .alarm → tick.extremes ≠ 0

end LogAction

namespace Cadence

/-- When an action was last raised; zero if it never was. -/
def last (c : Cadence) : LogAction → Nat
  | .sample => c.lastSample
  | .registers => c.lastRegisters
  | .sync => c.lastSync
  | .alarm => c.lastAlarm

/-- Nothing was raised at the start. -/
theorem last_start (action : LogAction) : ({} : Cadence).last action = 0 := by
  cases action <;> rfl

/-- The actions for a record, and the cadence after it. -/
def tick (c : Cadence) (record : LogTick) : LogActions × Cadence :=
  c.step record.now record.extreme record.bootOk record.extremes

/-- The records of a run with what the log did for each. -/
def log (c : Cadence) : List LogTick → List (LogTick × LogActions)
  | [] => []
  | record :: rest => (record, (c.tick record).1) :: (c.tick record).2.log rest

/-- The cadence after a run. -/
def after (c : Cadence) (records : List LogTick) : Cadence :=
  records.foldl (fun c record => (c.tick record).2) c

/-! ### One step -/

theorem sampleDue_iff (c : Cadence) (now : Nat) :
    c.sampleDue now ↔ c.lastSample = 0 ∨ c.lastSample + 1000000 < now := by
  simp only [sampleDue, Bool.or_eq_true, beq_iff_eq, decide_eq_true_eq]
  unfold sampleInterval
  omega

theorem registersDue_iff (c : Cadence) (now : Nat) (extreme : Bool) :
    c.registersDue now extreme ↔
      c.lastRegisters = 0 ∨ c.lastRegisters + LogAction.registers.interval extreme < now := by
  simp only [registersDue, Bool.or_eq_true, Bool.and_eq_true, beq_iff_eq, decide_eq_true_eq]
  unfold registersInterval extremeRegistersInterval
  cases extreme <;> simp [LogAction.interval] <;> omega

theorem syncDue_iff (c : Cadence) (now : Nat) :
    c.syncDue now ↔ c.lastSync + 10000000 < now := by
  simp only [syncDue, decide_eq_true_eq]
  unfold syncInterval
  omega

theorem alarmDue_iff (c : Cadence) (now extremes : Nat) :
    c.alarmDue now extremes ↔ extremes ≠ 0 ∧ c.lastAlarm + 10000000 < now := by
  simp only [alarmDue, Bool.and_eq_true, bne_iff_ne, decide_eq_true_eq]
  unfold alarmInterval
  omega

/-- An action is raised if the record permits it and its interval has passed since the last raise,
or there was none and the action is one that starts due. -/
theorem raised_tick (c : Cadence) (record : LogTick) (action : LogAction) :
    action.RaisedBy (c.tick record).1 ↔ action.Permitted record ∧
      ((action.startsDue ∧ c.last action = 0) ∨
        c.last action + action.interval record.extreme < record.now) := by
  cases action with
  | sample =>
    have := sampleDue_iff c record.now
    simpa [LogAction.RaisedBy, LogAction.Permitted, LogAction.startsDue, tick, step, last]
  | registers =>
    have := registersDue_iff c record.now record.extreme
    simpa [LogAction.RaisedBy, LogAction.Permitted, LogAction.startsDue, tick, step, last]
  | sync =>
    have := syncDue_iff c record.now
    simpa [LogAction.RaisedBy, LogAction.Permitted, LogAction.startsDue, tick, step, last]
  | alarm =>
    have := alarmDue_iff c record.now record.extremes
    simpa [LogAction.RaisedBy, LogAction.Permitted, LogAction.startsDue, tick, step, last]

/-- A raise is remembered with its time, and nothing else changes the time of the last one. -/
theorem last_tick (c : Cadence) (record : LogTick) (action : LogAction) :
    (c.tick record).2.last action =
      if action.RaisedBy (c.tick record).1 then record.now else c.last action := by
  cases action with
  | sample => rfl
  | registers => rfl
  | sync => rfl
  | alarm => simp [LogAction.RaisedBy, tick, step, last]

/-- A raise moves the time of the last one forward, unless there was none. -/
theorem last_of_raised {c : Cadence} {record : LogTick} {action : LogAction}
    (h : action.RaisedBy (c.tick record).1) :
    c.last action = 0 ∨ c.last action + action.interval record.extreme < record.now := by
  obtain ⟨-, ⟨-, never⟩ | passed⟩ := (raised_tick c record action).mp h
  · exact .inl never
  · exact .inr passed

/-! ### A run -/

theorem after_cons (c : Cadence) (record : LogTick) (rest : List LogTick) :
    c.after (record :: rest) = (c.tick record).2.after rest := rfl

/-- A log that is cut in two is the log of a first part of the run, and of the rest from the cadence
after it. -/
theorem exists_of_log_eq_append {c : Cadence} {records : List LogTick}
    {before later : List (LogTick × LogActions)} (h : c.log records = before ++ later) :
    ∃ first rest, c.log first = before ∧ (c.after first).log rest = later := by
  induction before generalizing c records with
  | nil => exact ⟨[], records, rfl, h⟩
  | cons entry before ih =>
    cases records with
    | nil => simp [log] at h
    | cons record records =>
      rw [log, List.cons_append] at h
      obtain ⟨rfl, tail⟩ := List.cons_eq_cons.mp h
      obtain ⟨first, rest, hb, hl⟩ := ih tail
      refine ⟨record :: first, rest, ?_, hl⟩
      rw [log, hb]

/-- The first entry of a log is what the log did for the first record. -/
theorem exists_of_log_eq_cons {c : Cadence} {records : List LogTick} {entry : LogTick × LogActions}
    {later : List (LogTick × LogActions)} (h : c.log records = entry :: later) :
    ∃ rest, entry.2 = (c.tick entry.1).1 ∧ (c.tick entry.1).2.log rest = later := by
  cases records with
  | nil => simp [log] at h
  | cons record records =>
    obtain ⟨rfl, rfl⟩ := List.cons_eq_cons.mp h
    exact ⟨records, rfl, rfl⟩

/-- While an action is not raised the time of its last raise stays. -/
theorem last_after {c : Cadence} {records : List LogTick} {action : LogAction}
    (h : ∀ entry ∈ c.log records, ¬ action.RaisedBy entry.2) :
    (c.after records).last action = c.last action := by
  induction records generalizing c with
  | nil => rfl
  | cons record records ih =>
    have unraised : ¬ action.RaisedBy (c.tick record).1 := h _ List.mem_cons_self
    rw [after_cons, ih fun entry he => h entry (List.mem_cons_of_mem _ he), last_tick,
      if_neg unraised]

/-- After records that did not raise an action, it is raised as its last raise before them says. -/
theorem raised_iff_of_unraised {c : Cadence} {records : List LogTick} {action : LogAction}
    {between later : List (LogTick × LogActions)} {entry : LogTick × LogActions}
    (h : c.log records = between ++ entry :: later)
    (unraised : ∀ other ∈ between, ¬ action.RaisedBy other.2) :
    action.RaisedBy entry.2 ↔ action.Permitted entry.1 ∧
      ((action.startsDue ∧ c.last action = 0) ∨
        c.last action + action.interval entry.1.extreme < entry.1.now) := by
  obtain ⟨quiet, rest, rfl, next⟩ := exists_of_log_eq_append h
  obtain ⟨-, raised, -⟩ := exists_of_log_eq_cons next
  rw [raised, raised_tick, last_after unraised]

/-! ### Raises in a span of time -/

/-- How many raises that keep an interval still fit into the span from `a` to `b`, if the last one
was at the given time, zero standing for none. -/
def room (interval a b last : Nat) : Nat :=
  (b + 1 + interval - max a (if last = 0 then 0 else last + interval + 1)) / (interval + 1)

theorem room_zero (interval a b : Nat) : room interval a b 0 ≤ 1 + (b - a) / (interval + 1) := by
  have le : b + 1 + interval - max a 0 ≤ (b - a) + (interval + 1) := by omega
  calc room interval a b 0
    _ ≤ ((b - a) + (interval + 1)) / (interval + 1) := Nat.div_le_div_right le
    _ = 1 + (b - a) / (interval + 1) := by
      rw [Nat.add_div_right _ (Nat.succ_pos interval), Nat.add_comm 1]

/-- A later raise leaves no more room. -/
theorem room_le {interval a b last now : Nat} (h : last = 0 ∨ last < now) :
    room interval a b now ≤ room interval a b last := by
  apply Nat.div_le_div_right
  split <;> split <;> omega

/-- A raise in the span that keeps the interval takes a place there. -/
theorem room_succ_le {interval a b last now : Nat} (start : 1 ≤ a) (ha : a ≤ now) (hb : now ≤ b)
    (h : last = 0 ∨ last + interval < now) :
    room interval a b now + 1 ≤ room interval a b last := by
  have used : b + 1 + interval - max a (now + interval + 1) + (interval + 1) ≤
      b + 1 + interval - max a (if last = 0 then 0 else last + interval + 1) := by
    split <;> omega
  calc room interval a b now + 1
    _ = (b + 1 + interval - max a (now + interval + 1) + (interval + 1)) / (interval + 1) := by
      rw [Nat.add_div_right _ (Nat.succ_pos interval), room, if_neg (by omega)]
    _ ≤ room interval a b last := Nat.div_le_div_right used

/-- The entry raises the action at a time in the span, for an extreme reading only if these are
counted. -/
def RaisesIn (action : LogAction) (extremes : Bool) (a b : Nat) (entry : LogTick × LogActions) :
    Prop :=
  action.RaisedBy entry.2 ∧ a ≤ entry.1.now ∧ entry.1.now ≤ b ∧ (entry.1.extreme → extremes)

instance (action : LogAction) (extremes : Bool) (a b : Nat) (entry : LogTick × LogActions) :
    Decidable (RaisesIn action extremes a b entry) :=
  inferInstanceAs (Decidable (_ ∧ _))

/-- Extreme readings shorten an interval, if they do anything. -/
theorem interval_le {action : LogAction} {extreme extremes : Bool} (h : extreme → extremes) :
    action.interval extremes ≤ action.interval extreme := by
  cases action <;> cases extreme <;> simp_all [LogAction.interval]
  split <;> omega

/-- The raises of a run in a span of time fit into the room that the last raise before the run
leaves there. -/
theorem countP_le_room (c : Cadence) (records : List LogTick) (action : LogAction)
    (extremes : Bool) {a b : Nat} (start : 1 ≤ a) :
    (c.log records).countP (RaisesIn action extremes a b ·) ≤
      room (action.interval extremes) a b (c.last action) := by
  induction records generalizing c with
  | nil => simp [log]
  | cons record records ih =>
    have rest := ih (c.tick record).2
    rw [last_tick] at rest
    rw [log, List.countP_cons]
    split at rest
    · have keeps := last_of_raised ‹_›
      by_cases counts : RaisesIn action extremes a b (record, (c.tick record).1)
      · obtain ⟨-, ha, hb, he⟩ := id counts
        have le : action.interval extremes ≤ action.interval record.extreme := interval_le he
        have used : room (action.interval extremes) a b record.now + 1 ≤ _ :=
          room_succ_le start ha hb (keeps.imp_right fun _ => by omega)
        simp only [counts, decide_true, if_true]
        omega
      · have kept : room (action.interval extremes) a b record.now ≤ _ :=
          room_le (keeps.imp_right fun _ => by omega)
        simp only [counts, decide_false, Bool.false_eq_true, if_false]
        omega
    · have silent : ¬ RaisesIn action extremes a b (record, (c.tick record).1) := fun h =>
        absurd h.1 ‹_›
      simpa [silent] using rest

/-! ### The rate of a log -/

/-- Until an action is raised for the first time, sample lines and dumps are due at once, syncs and
alarms once their interval has passed since the start.

Of two raises of an action in succession the later one comes more than the action's interval
after the earlier one, whose time is not that of a raise that never was. Conversely the first record
that comes more than the interval after a raise raises the action again, if it permits that, and no
record raises what it does not permit. The records in a span of time, starting from one, therefore
raise an action once, and once more for every interval and microsecond of the span, and those among
them that are not extreme at most as often as the longer interval says. -/
theorem log_rate (records : List LogTick) (action : LogAction) :
    (∀ before first later, ({} : Cadence).log records = before ++ first :: later →
      (∀ entry ∈ before, ¬ action.RaisedBy entry.2) →
        (action.RaisedBy first.2 ↔ action.Permitted first.1 ∧
          (action = .sample ∨ action = .registers ∨
            action.interval first.1.extreme < first.1.now))) ∧
      (∀ before first between second later,
        ({} : Cadence).log records = before ++ first :: (between ++ second :: later) →
        action.RaisedBy first.2 → (∀ entry ∈ between, ¬ action.RaisedBy entry.2) →
        (first.1.now ≠ 0 → action.RaisedBy second.2 →
          first.1.now + action.interval second.1.extreme < second.1.now) ∧
        (first.1.now + action.interval second.1.extreme < second.1.now →
          action.Permitted second.1 → action.RaisedBy second.2)) ∧
      (∀ entry ∈ ({} : Cadence).log records,
        action.RaisedBy entry.2 → action.Permitted entry.1) ∧
      ∀ extremes a b, 1 ≤ a →
        (({} : Cadence).log records).countP (RaisesIn action extremes a b ·) ≤
          1 + (b - a) / (action.interval extremes + 1) := by
  refine ⟨?_, ?_, ?_, ?_⟩
  · intro before first later h unraised
    have due := raised_iff_of_unraised h unraised
    rw [last_start] at due
    cases action <;> simpa [LogAction.startsDue] using due
  · intro before first between second later h raised unraised
    obtain ⟨earlier, rest, -, h⟩ := exists_of_log_eq_append h
    obtain ⟨rest, actions, h⟩ := exists_of_log_eq_cons h
    rw [actions] at raised
    have again := raised_iff_of_unraised h unraised
    rw [last_tick, if_pos raised] at again
    constructor
    · intro started raised'
      obtain ⟨-, ⟨-, never⟩ | passed⟩ := again.mp raised'
      · exact absurd never started
      · exact passed
    · intro passed permitted
      exact again.mpr ⟨permitted, .inr passed⟩
  · intro entry he raised
    obtain ⟨before, later, h⟩ := List.append_of_mem he
    obtain ⟨earlier, rest, -, h⟩ := exists_of_log_eq_append h
    obtain ⟨-, actions, -⟩ := exists_of_log_eq_cons h
    rw [actions] at raised
    exact ((raised_tick _ _ _).mp raised).1
  · intro extremes a b start
    have fits := countP_le_room {} records action extremes (b := b) start
    rw [last_start] at fits
    exact le_trans fits (room_zero _ a b)

/-- The log of three extreme readings holds two register dumps, and the one in between comes too
early for another. -/
theorem log_rate_extreme :
    let records : List LogTick := [⟨5, true, false, 1⟩, ⟨250005, true, false, 2⟩,
      ⟨250006, true, false, 3⟩]
    let log := ({} : Cadence).log records
    ∃ first between second, log = [] ++ first :: ([between] ++ second :: []) ∧
      LogAction.registers.RaisedBy first.2 ∧ ¬ LogAction.registers.RaisedBy between.2 ∧
      LogAction.registers.RaisedBy second.2 ∧ 5 + 250000 < second.1.now ∧
      log.countP (RaisesIn .registers true 1 250006 ·) ≤ 1 + (250006 - 1) / 250001 := by
  intro records log
  obtain ⟨-, spaced, -, counted⟩ := log_rate records .registers
  have early : ∀ entry ∈ [(records[1], (({} : Cadence).tick records[0]).2.tick records[1] |>.1)],
      ¬ LogAction.registers.RaisedBy entry.2 := by decide
  refine ⟨_, _, _, rfl, by decide, by decide, by decide, ?_, counted true 1 250006 (by decide)⟩
  exact (spaced [] _ _ _ [] rfl (by decide) early).1 (by decide) (by decide)

end Cadence

end ECompass
