import ECompass.Diagnostics.Monitor
import ECompass.Proofs.LogRate
import Mathlib.Data.List.DropRight
import Mathlib.Algebra.Ring.Parity

/-!
# What the monitor remembers

A monitor is shown samples and has its log switched, in any order. Everything that it holds can be
told from these calls (`determined_by_history`): a latch, a count that stops at its end, and the
switch, which an extreme sample sets and which is otherwise flipped, so that only the calls since
the last extreme sample matter to it.

The cadence moves with the records only. What the log did over a run is therefore its run over the
records alone (`cadence_run`), and what is said of such runs (`Cadence.log_rate`) holds of the
monitor's records.
-/

namespace ECompass

/-- An alarm is for extreme samples that have been seen, and its tone says what the latest one is:
sane, or extreme, and then whether a sane one was seen. -/
theorem Cadence.alarm_tick {c : Cadence} {tick : LogTick} {tone : Tone}
    (raised : tone ∈ (c.tick tick).1.alarm) :
    tick.extremes ≠ 0 ∧ (tone = .recovered ↔ ¬ tick.extreme) ∧
      (tone = .extremeSinceBoot ↔ tick.extreme ∧ ¬ tick.bootOk) := by
  have isTone : tone = Cadence.tone tick.extreme tick.bootOk := by
    simp only [Cadence.tick, Cadence.step, Option.mem_def] at raised
    split at raised <;> simp_all
  have permitted : LogAction.alarm.Permitted tick := by
    apply ((Cadence.raised_tick c tick .alarm).mp _).1
    exact Option.isSome_of_mem raised
  refine ⟨permitted rfl, ?_⟩
  subst isTone
  unfold Cadence.tone
  cases tick.extreme <;> cases tick.bootOk <;> simp

namespace Monitor

/-! ### One sample -/

theorem bootOk_count (m : Monitor) (extreme : Bool) :
    (m.count extreme).bootOk = (m.bootOk || !extreme) := by
  cases extreme <;> simp [count]

theorem extremes_count (m : Monitor) (extreme : Bool) : (m.count extreme).extremes =
    if extreme then min (m.extremes + 1) maxCount else m.extremes := by
  cases extreme <;> rfl

theorem logging_count (m : Monitor) (extreme : Bool) :
    (m.count extreme).logging = (extreme || m.logging) := by
  cases extreme <;> rfl

theorem cadence_count (m : Monitor) (extreme : Bool) :
    (m.count extreme).cadence = m.cadence := by
  cases extreme <;> rfl

section Observe

variable (m : Monitor) (s : Sample) (now : Nat)

/-- A sane sample sets the latch, and nothing clears it. -/
theorem bootOk_observe : (m.observe s now).2.bootOk = (m.bootOk || !s.isExtreme) := by
  rw [← bootOk_count]
  unfold observe
  dsimp only
  split <;> rfl

/-- The count goes up with every extreme sample until it cannot. -/
theorem extremes_observe : (m.observe s now).2.extremes =
    if s.isExtreme then min (m.extremes + 1) maxCount else m.extremes := by
  rw [← extremes_count]
  unfold observe
  dsimp only
  split <;> rfl

/-- An extreme sample switches the log on, and a sane one leaves it. -/
theorem logging_observe : (m.observe s now).2.logging = (s.isExtreme || m.logging) := by
  rw [← logging_count]
  unfold observe
  dsimp only
  split <;> rfl

/-- How the log sees a sample: with the latch and the count as they are once it is counted. -/
def tickOf : LogTick :=
  ⟨now, s.isExtreme, (m.observe s now).2.bootOk, (m.observe s now).2.extremes⟩

/-- If the log is on once the monitor has seen a sample, the sample gives a record, with the actions
that the cadence allows, and the cadence moves on. -/
theorem observe_of_logging (logging : (m.observe s now).2.logging) :
    (m.observe s now).1 = some ⟨s, s.isExtreme, (m.observe s now).2.bootOk,
        (m.observe s now).2.extremes, (m.cadence.tick (m.tickOf s now)).1, none⟩ ∧
      (m.observe s now).2.cadence = (m.cadence.tick (m.tickOf s now)).2 := by
  have on : (m.count s.isExtreme).logging := by rwa [logging_count, ← logging_observe m s now]
  rw [Cadence.tick, ← cadence_count m s.isExtreme]
  simp only [tickOf, observe, on, if_true, and_self]

/-- Otherwise it gives none, and the cadence stays. -/
theorem observe_of_not_logging (silent : ¬ (m.observe s now).2.logging) :
    (m.observe s now).1 = none ∧ (m.observe s now).2.cadence = m.cadence := by
  have off : ¬ (m.count s.isExtreme).logging := by rwa [logging_count, ← logging_observe m s now]
  rw [← cadence_count m s.isExtreme]
  simp only [observe, off, Bool.false_eq_true, if_false, and_self]

/-- The monitor makes a record of a sample exactly if the log is on when it has seen it, and the
record is of that sample. -/
theorem observe_record : ((m.observe s now).1.isSome ↔ (m.observe s now).2.logging) ∧
    ∀ r ∈ (m.observe s now).1, r.sample = s := by
  by_cases logging : (m.observe s now).2.logging
  · obtain ⟨made, -⟩ := m.observe_of_logging s now logging
    rw [made]
    refine ⟨by simp [logging], ?_⟩
    rintro r ⟨⟩
    rfl
  · obtain ⟨unmade, -⟩ := m.observe_of_not_logging s now logging
    rw [unmade]
    exact ⟨by simp [logging], fun r h => absurd h (Option.not_mem_none r)⟩

/-- Without a record the cadence stays. -/
theorem cadence_of_no_record (unmade : (m.observe s now).1 = none) :
    (m.observe s now).2.cadence = m.cadence := by
  refine (m.observe_of_not_logging s now fun logging => ?_).2
  rw [← (m.observe_record s now).1, unmade] at logging
  cases logging

/-- A record holds the latch and the count as the log sees them, and what the cadence allows, and
it moves the cadence on. -/
theorem record_of_observe {r : DiagnosticRecord} (made : (m.observe s now).1 = some r) :
    r = ⟨s, s.isExtreme, (m.observe s now).2.bootOk, (m.observe s now).2.extremes,
        (m.cadence.tick (m.tickOf s now)).1, none⟩ ∧
      (m.observe s now).2.cadence = (m.cadence.tick (m.tickOf s now)).2 := by
  have logging := (m.observe_record s now).1.mp (made ▸ rfl)
  obtain ⟨record, moved⟩ := m.observe_of_logging s now logging
  exact ⟨Option.some.inj (made.symm.trans record), moved⟩

end Observe

/-- Every extreme sample gives a record. -/
theorem observe_isSome_of_extreme (m : Monitor) {s : Sample} (extreme : s.isExtreme) (now : Nat) :
    (m.observe s now).1.isSome := by
  rw [(m.observe_record s now).1, logging_observe, extreme, Bool.true_or]

/-! ### Runs -/

/-- A call on the monitor: a sample is shown to it at a time, or its log is switched. -/
inductive Call where
  | observe (s : Sample) (now : Nat)
  | toggle

namespace Call

/-- The sample that is shown. -/
def sample? : Call → Option Sample
  | .observe s _ => some s
  | .toggle => none

/-- Whether an extreme sample is shown. -/
def isExtreme : Call → Bool
  | .observe s _ => s.isExtreme
  | .toggle => false

/-- Whether the log is switched. -/
def isToggle : Call → Bool
  | .observe _ _ => false
  | .toggle => true

end Call

/-- The monitor after a call. -/
def act (m : Monitor) : Call → Monitor
  | .observe s now => (m.observe s now).2
  | .toggle => m.toggle

/-- The monitor after a run of calls on a new one. -/
def after (calls : List Call) : Monitor := calls.foldl act {}

/-- The record of a call as the log sees it, with what the log does for it, if there is one. -/
def logged? (m : Monitor) : Call → Option (LogTick × LogActions)
  | .observe s now => (m.observe s now).1.map fun r =>
      (⟨now, r.extreme, r.bootOk, r.extremes⟩, r.actions)
  | .toggle => none

/-- The records of a run of calls, with what the log did for each. -/
def logged (m : Monitor) : List Call → List (LogTick × LogActions)
  | [] => []
  | call :: rest => (m.logged? call).toList ++ (m.act call).logged rest

/-- The samples that a run has shown. -/
def shown (calls : List Call) : List Sample := calls.filterMap Call.sample?

/-- The calls since the last extreme sample: all of them if there was none. -/
def sinceExtreme (calls : List Call) : List Call := calls.rtakeWhile (!·.isExtreme)

theorem after_concat (calls : List Call) (call : Call) :
    after (calls ++ [call]) = (after calls).act call := List.foldl_concat _ _ _ _

theorem shown_observe (calls : List Call) (s : Sample) (now : Nat) :
    shown (calls ++ [.observe s now]) = shown calls ++ [s] := List.filterMap_append

theorem shown_toggle (calls : List Call) : shown (calls ++ [.toggle]) = shown calls :=
  List.filterMap_append.trans (List.append_nil _)

/-- The latch says whether a sane sample was shown. -/
theorem bootOk_after (calls : List Call) :
    (after calls).bootOk ↔ ∃ s ∈ shown calls, ¬ s.isExtreme := by
  induction calls using List.reverseRecOn with
  | nil => simp [after, shown]
  | append_singleton calls call ih =>
    rw [after_concat]
    cases call with
    | observe s now =>
      rw [act, bootOk_observe, shown_observe, Bool.or_eq_true, ih]
      simp [or_and_right, exists_or]
    | toggle => rw [shown_toggle, ← ih, act, toggle]

/-- The count is that of the extreme samples, as far as can be counted. -/
theorem extremes_after (calls : List Call) :
    (after calls).extremes = min maxCount ((shown calls).countP Sample.isExtreme) := by
  induction calls using List.reverseRecOn with
  | nil => rfl
  | append_singleton calls call ih =>
    rw [after_concat]
    cases call with
    | observe s now =>
      rw [act, extremes_observe, shown_observe, ih, List.countP_append, List.countP_singleton]
      split <;> omega
    | toggle => rw [shown_toggle, ← ih, act, toggle]

/-- The log was switched on by the last extreme sample, or was off at the start if there was none,
and every call to switch it since then has flipped it. -/
theorem logging_after (calls : List Call) : (after calls).logging ↔
    if ∃ s ∈ shown calls, s.isExtreme then Even ((sinceExtreme calls).countP Call.isToggle)
      else Odd (calls.countP Call.isToggle) := by
  induction calls using List.reverseRecOn with
  | nil => simp [after, shown]
  | append_singleton calls call ih =>
    rw [after_concat, sinceExtreme, List.rtakeWhile_concat, ← sinceExtreme]
    cases call with
    | observe s now =>
      rw [act, logging_observe, shown_observe]
      cases extreme : s.isExtreme with
      | true => simp [Call.isExtreme, extreme]
      | false => simpa [Call.isExtreme, Call.isToggle, extreme] using ih
    | toggle =>
      have flipped : (after calls).toggle.logging ↔ ¬ (after calls).logging := by simp [toggle]
      rw [act, flipped, ih, shown_toggle]
      simp only [Call.isExtreme, Bool.not_false, if_true, List.countP_append, List.countP_singleton,
        Call.isToggle]
      split
      · rw [Nat.even_add_one]
      · rw [Nat.odd_add_one]

/-- A call that makes no record leaves the cadence. -/
theorem cadence_act_of_none (m : Monitor) {call : Call} (unmade : m.logged? call = none) :
    (m.act call).cadence = m.cadence := by
  cases call with
  | observe s now => exact m.cadence_of_no_record s now (Option.map_eq_none_iff.1 unmade)
  | toggle => rfl

/-- A call that makes a record moves the cadence once, which says what to do for it. -/
theorem cadence_act_of_some (m : Monitor) {call : Call} {entry : LogTick × LogActions}
    (made : m.logged? call = some entry) :
    entry.2 = (m.cadence.tick entry.1).1 ∧
      (m.act call).cadence = (m.cadence.tick entry.1).2 := by
  cases call with
  | observe s now =>
    obtain ⟨r, record, rfl⟩ := Option.map_eq_some_iff.1 made
    obtain ⟨rfl, moved⟩ := m.record_of_observe s now record
    exact ⟨rfl, moved⟩
  | toggle => cases made

/-- The cadence moves with the records only, and what is done for them is what it allows. -/
theorem cadence_run (m : Monitor) (calls : List Call) :
    (calls.foldl act m).cadence = m.cadence.after ((m.logged calls).map Prod.fst) ∧
      m.logged calls = m.cadence.log ((m.logged calls).map Prod.fst) := by
  induction calls generalizing m with
  | nil => exact ⟨rfl, rfl⟩
  | cons call rest ih =>
    obtain ⟨cadence, log⟩ := ih (m.act call)
    rw [List.foldl_cons, logged]
    cases acted : m.logged? call with
    | none =>
      rw [m.cadence_act_of_none acted] at cadence log
      exact ⟨cadence, log⟩
    | some entry =>
      obtain ⟨actions, moved⟩ := m.cadence_act_of_some acted
      rw [moved] at cadence log
      refine ⟨cadence, ?_⟩
      rw [Option.toList_some, List.singleton_append, List.map_cons, Cadence.log, ← actions, ← log]

/-- What an alarm says of all the samples that were shown. -/
theorem alarm_after (calls : List Call) (s : Sample) (now : Nat) {tone : Tone}
    (raised : tone ∈ ((after calls).cadence.tick ((after calls).tickOf s now)).1.alarm) :
    (∃ t ∈ shown calls ++ [s], t.isExtreme) ∧ (tone = .recovered ↔ ¬ s.isExtreme) ∧
      (tone = .extremeSinceBoot ↔ ∀ t ∈ shown calls ++ [s], t.isExtreme) := by
  have isNext : ((after calls).observe s now).2 = after (calls ++ [.observe s now]) :=
    (after_concat calls (.observe s now)).symm
  obtain ⟨counted, recovered, sinceBoot⟩ := Cadence.alarm_tick raised
  refine ⟨?_, recovered, sinceBoot.trans ?_⟩
  · have : ((after calls).observe s now).2.extremes ≠ 0 := counted
    rw [isNext, extremes_after, shown_observe] at this
    exact List.countP_pos_iff.mp (by omega)
  · show s.isExtreme ∧ ¬ ((after calls).observe s now).2.bootOk ↔ _
    rw [isNext, bootOk_after, shown_observe]
    simp only [not_exists, not_and, not_not]
    have latest : s ∈ shown calls ++ [s] := List.mem_append_right _ List.mem_cons_self
    exact ⟨And.right, fun all => ⟨all s latest, all⟩⟩

/-- Whatever calls a monitor has had, it holds what they tell, and says so.

The latch is set if one of the samples was sane; the count is that of the extreme ones, up to
`2 ^ 32 - 1`; the log is on if it was switched an even number of times since the last extreme
sample, or an odd number of times if there was none. The cadence has been through the records of
the run, and nothing else, and their actions are those of such a log.

The next sample gives a record exactly if the log is on once it has been seen; so an extreme one
always does. The record speaks of the samples up to this one, and moves the cadence; without one the
cadence stays. An alarm is raised only once one of these samples was extreme. Its tone says
recovered exactly if this one is sane, and that there was nothing else since boot exactly if all of
them are extreme. -/
theorem determined_by_history (calls : List Call) :
    let m := after calls
    let records := logged {} calls
    (m.bootOk ↔ ∃ s ∈ shown calls, ¬ s.isExtreme) ∧
      m.extremes = min (2 ^ 32 - 1) ((shown calls).countP Sample.isExtreme) ∧
      (m.logging ↔ if ∃ s ∈ shown calls, s.isExtreme
        then Even ((sinceExtreme calls).countP Call.isToggle)
        else Odd (calls.countP Call.isToggle)) ∧
      m.cadence = ({} : Cadence).after (records.map Prod.fst) ∧
      records = ({} : Cadence).log (records.map Prod.fst) ∧
      ∀ s now,
        let record? := (m.observe s now).1
        let next := (m.observe s now).2
        let seen := shown calls ++ [s]
        next = after (calls ++ [.observe s now]) ∧
        (record?.isSome ↔ next.logging) ∧ (s.isExtreme → record?.isSome) ∧
        (record? = none → next.cadence = m.cadence) ∧
        ∀ r ∈ record?, r.sample = s ∧ r.extreme = s.isExtreme ∧
          (r.bootOk ↔ ∃ t ∈ seen, ¬ t.isExtreme) ∧
          r.extremes = min (2 ^ 32 - 1) (seen.countP Sample.isExtreme) ∧
          (r.actions, next.cadence) = m.cadence.tick ⟨now, r.extreme, r.bootOk, r.extremes⟩ ∧
          ∀ tone ∈ r.actions.alarm, (∃ t ∈ seen, t.isExtreme) ∧
            (tone = .recovered ↔ ¬ s.isExtreme) ∧
            (tone = .extremeSinceBoot ↔ ∀ t ∈ seen, t.isExtreme) := by
  intro m records
  obtain ⟨cadence, log⟩ := cadence_run {} calls
  refine ⟨bootOk_after calls, extremes_after calls, logging_after calls, cadence, log, ?_⟩
  intro s now record? next seen
  have isNext : next = after (calls ++ [.observe s now]) :=
    (after_concat calls (.observe s now)).symm
  refine ⟨isNext, (m.observe_record s now).1,
    fun extreme => m.observe_isSome_of_extreme extreme now, m.cadence_of_no_record s now, ?_⟩
  intro r made
  obtain ⟨rfl, moved⟩ := m.record_of_observe s now made
  have bootOk : next.bootOk ↔ ∃ t ∈ seen, ¬ t.isExtreme := by
    rw [isNext, bootOk_after, shown_observe]
  have extremes : next.extremes = min (2 ^ 32 - 1) (seen.countP Sample.isExtreme) := by
    rw [isNext, extremes_after, shown_observe]
    rfl
  exact ⟨rfl, rfl, bootOk, extremes, Prod.ext rfl moved, fun tone => alarm_after calls s now⟩

end Monitor

end ECompass
