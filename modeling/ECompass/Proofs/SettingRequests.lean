import ECompass.Proofs.Requests
import ECompass.Proofs.ResetOutcome
import ECompass.Proofs.WriteLog
import Mathlib.Data.List.Nodup

/-!
# Requests for settings

A request for a setting is rounded up to a supported value, and if there is one, the field of the
setting is programmed. The five settings are all answered in this way, so what is said of them is
proved once, of a setting of any type and the place where a configuration keeps it (`Slot`).

Requests are made one after the other, on a configuration and a register file that follow each other
(`SettingRequest.apply`). Each request makes its own field hold its own bits and leaves every other
bit alone, so after any number of requests the fields hold what the configuration says, and the
order of requests for different settings does not matter, not even where two fields share a
register.
-/

namespace ECompass

/-! ### Rounding -/

namespace Setting

variable {σ : Type} [Setting σ] [LawfulSetting σ] {n : Nat} {s t : σ}

/-- Settings are told apart by their values. -/
theorem value_injective (h : value s = value t) : s = t := by
  have nodup : ((all : List σ).map value).Nodup := LawfulSetting.ascending.imp Nat.ne_of_lt
  exact List.inj_on_of_nodup_map nodup (LawfulSetting.mem_all s) (LawfulSetting.mem_all t) h

/-- No setting has a larger value than the one that zero selects. -/
theorem value_le_of_select_zero (h : select 0 = some s) (t : σ) : value t ≤ value s := by
  rw [select_zero, List.getLast?_eq_some_iff] at h
  obtain ⟨before, split⟩ := h
  have ascending : ((all : List σ).map value).Pairwise (· < ·) := LawfulSetting.ascending
  have listed : t ∈ (all : List σ) := LawfulSetting.mem_all t
  rw [split, List.map_append, List.pairwise_append] at ascending
  rw [split, List.mem_append, List.mem_singleton] at listed
  rcases listed with early | rfl
  · exact Nat.le_of_lt (ascending.2.2 _ (List.mem_map_of_mem early) _ List.mem_cons_self)
  · exact Nat.le_refl _

/-- No setting that covers a request has a smaller value than the one that it selects. -/
theorem value_le_of_select (nonzero : n ≠ 0) (h : select n = some s) (covers : n ≤ value t) :
    value s ≤ value t := by
  rw [select, if_neg nonzero, List.find?_eq_some_iff_append] at h
  obtain ⟨-, before, after, split, uncovered⟩ := h
  have ascending : ((all : List σ).map value).Pairwise (· < ·) := LawfulSetting.ascending
  have listed : t ∈ (all : List σ) := LawfulSetting.mem_all t
  rw [split, List.map_append, List.map_cons, List.pairwise_append, List.pairwise_cons] at ascending
  rw [split, List.mem_append, List.mem_cons] at listed
  rcases listed with early | rfl | late
  · have short := uncovered t early
    simp [covers] at short
  · exact Nat.le_refl _
  · exact Nat.le_of_lt (ascending.2.1.1 _ (List.mem_map_of_mem late))

/-- A request for the value of a setting selects that setting. -/
theorem select_value (nonzero : value s ≠ 0) : select (value s) = some s := by
  cases selected : (select (value s) : Option σ) with
  | none =>
    have short := (select_eq_none_iff nonzero).1 selected s (LawfulSetting.mem_all s)
    exact absurd short (Nat.lt_irrefl _)
  | some t =>
    have least := value_le_of_select nonzero selected (Nat.le_refl (value s))
    exact congrArg some (value_injective (Nat.le_antisymm least (le_value_of_select selected)))

end Setting

/-! ### The five settings -/

/-- The supported values of a setting, in ascending order. -/
def Field.values : Field → List Nat
  | .accelRange => (Setting.all : List AccelRange).map Setting.value
  | .accelRate => (Setting.all : List AccelRate).map Setting.value
  | .antiAlias => (Setting.all : List AntiAlias).map Setting.value
  | .magRange => (Setting.all : List MagRange).map Setting.value
  | .magRate => (Setting.all : List MagRate).map Setting.value

/-- The settings that a field names are of the type `σ`, and a configuration keeps one of them. -/
structure Slot (σ : Type) [Setting σ] (field : Field) where
  /-- The setting in force. -/
  get : Config → σ
  /-- Puts a setting into force. -/
  put : Config → σ → Config
  /-- What was put into force is in force. -/
  get_put : ∀ config s, get (put config s) = s
  /-- What is in force already can be put into force. -/
  put_get : ∀ config, put config (get config) = config
  /-- A request puts into force what it selects. -/
  request : ∀ (config : Config) n, config.request field n = (Setting.select n).map (put config)
  /-- The value in force. -/
  value : ∀ config : Config, config.value field = Setting.value (get config)
  /-- The update that programs the setting in force. -/
  update : ∀ config : Config, config.update field = .program (get config)
  /-- The supported values. -/
  values : field.values = (Setting.all : List σ).map Setting.value
  /-- No supported value is zero. -/
  nonzero : ∀ s : σ, Setting.value s ≠ 0

/-- What holds of every slot holds of the five fields. -/
theorem Field.of_slot {P : Field → Prop}
    (h : ∀ {σ : Type} [Setting σ] [LawfulSetting σ] {field : Field}, Slot σ field → P field)
    (field : Field) : P field := by
  cases field with
  | accelRange =>
    exact h ⟨Config.accelRange, fun config s => { config with accelRange := s }, fun _ _ => rfl,
      fun _ => rfl, fun _ _ => rfl, fun _ => rfl, fun _ => rfl, rfl, by intro s; cases s <;> decide⟩
  | accelRate =>
    exact h ⟨Config.accelRate, fun config s => { config with accelRate := s }, fun _ _ => rfl,
      fun _ => rfl, fun _ _ => rfl, fun _ => rfl, fun _ => rfl, rfl, by intro s; cases s <;> decide⟩
  | antiAlias =>
    exact h ⟨Config.antiAlias, fun config s => { config with antiAlias := s }, fun _ _ => rfl,
      fun _ => rfl, fun _ _ => rfl, fun _ => rfl, fun _ => rfl, rfl, by intro s; cases s <;> decide⟩
  | magRange =>
    exact h ⟨Config.magRange, fun config s => { config with magRange := s }, fun _ _ => rfl,
      fun _ => rfl, fun _ _ => rfl, fun _ => rfl, fun _ => rfl, rfl, by intro s; cases s <;> decide⟩
  | magRate =>
    exact h ⟨Config.magRate, fun config s => { config with magRate := s }, fun _ _ => rfl,
      fun _ => rfl, fun _ _ => rfl, fun _ => rfl, fun _ => rfl, rfl, by intro s; cases s <;> decide⟩

/-- A request for a setting is rounded to the smallest supported value that covers it; a request of
zero is rounded to the largest one. -/
structure Field.Rounds (field : Field) (n v : Nat) : Prop where
  /-- The value is supported. -/
  supported : v ∈ field.values
  /-- It covers the request. -/
  covers : n ≤ v
  /-- No other value is better. -/
  best : ∀ w ∈ field.values, if n = 0 then w ≤ v else n ≤ w → v ≤ w

/-- A larger request is not rounded to a smaller value. -/
theorem Field.Rounds.mono {field : Field} {n m v w : Nat} (h : field.Rounds n v)
    (h' : field.Rounds m w) (nonzero : n ≠ 0) (le : n ≤ m) : v ≤ w := by
  have best := h.best w h'.supported
  rw [if_neg nonzero] at best
  exact best (Nat.le_trans le h'.covers)

namespace Config

variable {config next other : Config} {field : Field} {n : Nat}

theorem value_mem_values (config : Config) (field : Field) : config.value field ∈ field.values := by
  induction field using Field.of_slot with
  | h slot =>
    rw [slot.value, slot.values]
    exact List.mem_map_of_mem (LawfulSetting.mem_all _)

/-- A request is refused exactly if it is above every supported value, whatever the
configuration. -/
theorem request_eq_none_iff (config : Config) (field : Field) (n : Nat) :
    config.request field n = none ↔ ∀ v ∈ field.values, v < n := by
  by_cases zero : n = 0
  · subst zero
    have below : ¬ ∀ v ∈ field.values, v < 0 := fun h =>
      absurd (h _ (config.value_mem_values field)) (Nat.not_lt_zero _)
    refine iff_of_false ?_ below
    induction field using Field.of_slot with
    | h slot =>
      rw [slot.request, Option.map_eq_none_iff, Setting.select_zero, List.getLast?_eq_none_iff]
      exact List.ne_nil_of_mem (LawfulSetting.mem_all (slot.get config))
  · induction field using Field.of_slot with
    | h slot =>
      rw [slot.request, Option.map_eq_none_iff, Setting.select_eq_none_iff zero, slot.values,
        List.forall_mem_map]

/-- An accepted request puts the value into force to which it is rounded. -/
theorem rounds_of_request (accepted : config.request field n = some next) :
    field.Rounds n (next.value field) := by
  induction field using Field.of_slot with
  | h slot =>
    rw [slot.request, Option.map_eq_some_iff] at accepted
    obtain ⟨s, selected, rfl⟩ := accepted
    refine ⟨value_mem_values _ _, ?_, ?_⟩
    · rw [slot.value, slot.get_put]
      exact Setting.le_value_of_select selected
    · rw [slot.value, slot.get_put, slot.values, List.forall_mem_map]
      intro t _
      split
      · subst_vars
        exact Setting.value_le_of_select_zero selected t
      · exact Setting.value_le_of_select ‹_› selected

/-- A request for the value in force changes nothing. -/
theorem request_value (config : Config) (field : Field) :
    config.request field (config.value field) = some config := by
  induction field using Field.of_slot with
  | h slot =>
    rw [slot.request, slot.value, Setting.select_value (slot.nonzero _), Option.map_some,
      slot.put_get]

/-- A setting is told by its bits. -/
theorem value_of_bits (h : (config.update field).set = (other.update field).set) :
    config.value field = other.value field := by
  induction field using Field.of_slot with
  | h slot =>
    rw [slot.update, slot.update] at h
    have same : RegisterUpdate.program (slot.get config) = .program (slot.get other) :=
      congrArg (RegisterUpdate.mk _ _) h
    rw [slot.value, slot.value, RegisterUpdate.program_injective same]

/-- Requests for different settings put the same into force in either order. -/
theorem request_comm (config : Config) {field other : Field} (ne : field ≠ other) (n m : Nat) :
    (config.request field n).bind (·.request other m) =
      (config.request other m).bind (·.request field n) := by
  cases field <;> cases other
  case accelRange.accelRange | accelRate.accelRate | antiAlias.antiAlias | magRange.magRange |
    magRate.magRate => exact absurd rfl ne
  -- the two selections are independent, and they are put into different places
  all_goals
    simp only [request, Function.comp_def, Option.map_eq_bind, Option.bind_assoc, Option.bind_some]
    exact Option.bind_comm _ _

end Config

/-! ### Updates that commute -/

/-- Bytes that agree under a mask and outside it are equal. -/
theorem byte_eq_of_and {a b : UInt8} (mask : UInt8) (inside : a &&& mask = b &&& mask)
    (outside : a &&& ~~~mask = b &&& ~~~mask) : a = b := by
  rw [byte_eq_or a mask, byte_eq_or b mask, inside, outside]

namespace RegisterUpdate

variable {u v : RegisterUpdate}

/-- What an update makes of the bits under a mask depends on these bits alone. -/
theorem apply_and_congr {mask x y : UInt8} (same : x &&& mask = y &&& mask) :
    u.apply x &&& mask = u.apply y &&& mask := by
  have cleared (z : UInt8) : z &&& ~~~u.clear &&& mask = z &&& mask &&& ~~~u.clear := by
    rw [UInt8.and_assoc, UInt8.and_comm _ mask, UInt8.and_assoc]
  rw [apply, apply, byte_or_and, byte_or_and, cleared, cleared, same]

/-- Updates of disjoint fields can be applied in either order. -/
theorem apply_comm (fits : u.Fits) (fits' : v.Fits) (disjoint : u.clear &&& v.clear = 0)
    (value : UInt8) : u.apply (v.apply value) = v.apply (u.apply value) := by
  have disjoint' : v.clear &&& u.clear = 0 := by rwa [UInt8.and_comm]
  have outside : u.clear &&& ~~~u.clear = 0 := UInt8.and_not_self
  apply byte_eq_of_and u.clear
  · rw [apply_and_clear fits, apply_and_of_disjoint fits' disjoint', apply_and_clear fits]
  · rw [apply_and_of_disjoint fits outside]
    exact (apply_and_congr (apply_and_of_disjoint fits outside value)).symm

end RegisterUpdate

namespace RegisterFile

variable (f : RegisterFile) {u v : RegisterUpdate}

theorem read_update (u : RegisterUpdate) (a : UInt8) : (f.update u).read a =
    if a = u.register.addr then u.apply (f.read a) else f.read a := by
  rw [update, read_write]
  split
  · rename_i own
    rw [own]
  · rfl

/-- Updates of fields that do not meet can be carried out in either order. -/
theorem update_comm (fits : u.Fits) (fits' : v.Fits) (apart : u.Apart v) :
    (f.update u).update v = (f.update v).update u := by
  apply ext_read
  intro a
  rw [read_update, read_update, read_update, read_update]
  by_cases own : a = u.register.addr
  · by_cases own' : a = v.register.addr
    · have disjoint := apart.resolve_left fun ne => ne (Register.addr_injective (own ▸ own'))
      rw [if_pos own, if_pos own', if_pos own', if_pos own,
        RegisterUpdate.apply_comm fits fits' disjoint]
    · rw [if_neg own', if_neg own']
  · rw [if_neg own, if_neg own]

/-- An update of a field that holds its bits already changes nothing. -/
theorem update_of_holds (fits : u.Fits) (holds : f.Holds u) : f.update u = f := by
  apply ext_read
  intro a
  rw [read_update]
  split
  · rename_i own
    apply byte_eq_of_and u.clear
    · rw [RegisterUpdate.apply_and_clear fits, own]
      exact holds.symm
    · exact RegisterUpdate.apply_and_of_disjoint fits UInt8.and_not_self _
  · rfl

end RegisterFile

/-! ### Requests in a row -/

/-- A request for a setting, in engineering units. -/
structure SettingRequest where
  /-- The setting. -/
  field : Field
  /-- The requested value. -/
  value : Nat
  deriving DecidableEq

namespace SettingRequest

variable {r s : SettingRequest} {requests : List SettingRequest} {field : Field} {a mask : UInt8}

/-- Whether some supported value covers the request. -/
def Accepted (r : SettingRequest) : Prop := ∃ v ∈ r.field.values, r.value ≤ v

instance (r : SettingRequest) : Decidable r.Accepted := inferInstanceAs (Decidable (∃ v ∈ _, _))

/-- The configuration and the registers after a request: if it is accepted, the setting is in force
and its field is programmed. -/
def apply (state : Config × RegisterFile) (r : SettingRequest) : Config × RegisterFile :=
  match state.1.request r.field r.value with
  | none => state
  | some config => (config, state.2.update (config.update r.field))

/-- The configuration and the registers after some requests in order. -/
def applyAll (state : Config × RegisterFile) (requests : List SettingRequest) :
    Config × RegisterFile :=
  requests.foldl apply state

theorem accepted_iff (config : Config) :
    r.Accepted ↔ ∃ next, config.request r.field r.value = some next := by
  rw [← Option.ne_none_iff_exists', Ne, config.request_eq_none_iff, Accepted]
  simp only [Classical.not_forall, Nat.not_lt, exists_prop]

/-- A request that is refused changes nothing. -/
theorem apply_of_refused (refused : ¬ r.Accepted) (state : Config × RegisterFile) :
    apply state r = state := by
  rw [accepted_iff state.1, ← Option.ne_none_iff_exists', not_not] at refused
  rw [apply, refused]

theorem apply_of_request {state : Config × RegisterFile} {next : Config}
    (accepted : state.1.request r.field r.value = some next) :
    apply state r = (next, state.2.update (next.update r.field)) := by
  rw [apply, accepted]

theorem request_of_accepted (accepted : r.Accepted) (state : Config × RegisterFile) :
    state.1.request r.field r.value = some (apply state r).1 := by
  obtain ⟨next, asked⟩ := (accepted_iff state.1).1 accepted
  rw [apply_of_request asked, asked]

/-- A request that the driver carries out without a failure comes to this. -/
theorem requestSetting_applies (r : SettingRequest) (rig : Rig) :
    Program.Ends (requestSetting r.field r.value) rig
      (fun _ next => r.Accepted ∧
        (next.driver.config, next.chip) = apply (rig.driver.config, rig.chip) r)
      fun _ _ => True := by
  refine Operation.driver_bind_ends ?_
  split
  · exact True.intro
  · rename_i config asked
    have accepted := (accepted_iff rig.driver.config).2 ⟨config, asked⟩
    let configured : Rig := { rig with driver := { rig.driver with config } }
    refine (applyUpdate_ends (config.update r.field) configured).mono (fun _ next wrote => ?_)
      fun _ _ _ => True.intro
    refine ⟨accepted, ?_⟩
    have same : next.driver.config = config := congrArg Driver.config wrote.driver
    have chip : next.chip = rig.chip.update (config.update r.field) := wrote.bus.chip
    rw [apply_of_request asked, same, chip]

/-- A request makes the field of its setting hold the bits of the setting in force, and keeps the
others as they are. -/
theorem holds_apply {state : Config × RegisterFile}
    (h : state.2.Holds (state.1.update field) ∨ r.field = field ∧ r.Accepted) :
    (apply state r).2.Holds ((apply state r).1.update field) := by
  by_cases accepted : r.Accepted
  · obtain ⟨next, asked⟩ := (accepted_iff state.1).1 accepted
    rw [apply_of_request asked]
    by_cases own : r.field = field
    · subst own
      show (state.2.update (next.update r.field)).read _ &&& _ = _
      rw [RegisterFile.read_update, if_pos rfl]
      exact RegisterUpdate.apply_and_clear (next.fits_update r.field) _
    · have held := h.resolve_right fun h => own h.1
      have apart := next.apart_update own
      rw [← Config.update_of_request asked (Ne.symm own)] at held
      show (state.2.update (next.update r.field)).read _ &&& _ = _
      rw [RegisterFile.read_update]
      split
      · rename_i same
        have disjoint := apart.resolve_left fun ne => ne (Register.addr_injective same.symm)
        rw [RegisterUpdate.apply_and_of_disjoint (next.fits_update r.field) disjoint]
        exact held
      · exact held
  · rw [apply_of_refused accepted]
    exact h.resolve_right fun h => accepted h.2

/-- A request changes no bits but those of its field, and none if it is refused. -/
theorem read_apply_and {state : Config × RegisterFile}
    (apart : r.Accepted → r.field.bits.1 = a → r.field.bits.2 &&& mask = 0) :
    (apply state r).2.read a &&& mask = state.2.read a &&& mask := by
  by_cases accepted : r.Accepted
  · obtain ⟨next, asked⟩ := (accepted_iff state.1).1 accepted
    obtain ⟨address, clear⟩ := next.update_bits r.field
    rw [apply_of_request asked, RegisterFile.read_update]
    split
    · rename_i own
      apply RegisterUpdate.apply_and_of_disjoint (next.fits_update r.field)
      rw [clear]
      exact apart accepted (address.symm.trans own.symm)
    · rfl
  · rw [apply_of_refused accepted]

/-- After some requests the fields hold the bits of their settings for which one was accepted, or
which held them before. -/
theorem holds_applyAll (state : Config × RegisterFile)
    (h : state.2.Holds (state.1.update field) ∨ ∃ r ∈ requests, r.field = field ∧ r.Accepted) :
    (applyAll state requests).2.Holds ((applyAll state requests).1.update field) := by
  induction requests generalizing state with
  | nil => exact h.resolve_right fun ⟨_, listed, _⟩ => absurd listed List.not_mem_nil
  | cons first rest ih =>
    refine ih (apply state first) ?_
    rcases h with held | ⟨r, listed, own⟩
    · exact .inl (holds_apply (.inl held))
    · rcases List.mem_cons.1 listed with rfl | later
      · exact .inl (holds_apply (.inr own))
      · exact .inr ⟨r, later, own⟩

/-- Some requests change no bits but those of the fields for which one was accepted. -/
theorem read_applyAll_and {state : Config × RegisterFile}
    (apart : ∀ r ∈ requests, r.Accepted → r.field.bits.1 = a → r.field.bits.2 &&& mask = 0) :
    (applyAll state requests).2.read a &&& mask = state.2.read a &&& mask := by
  induction requests generalizing state with
  | nil => rfl
  | cons first rest ih =>
    have later : (applyAll (apply state first) rest).2.read a &&& mask =
        (apply state first).2.read a &&& mask :=
      ih fun r listed => apart r (List.mem_cons_of_mem _ listed)
    exact later.trans (read_apply_and (apart first List.mem_cons_self))

/-- Requests for different settings come to the same in either order. -/
theorem apply_comm (ne : r.field ≠ s.field) (state : Config × RegisterFile) :
    apply (apply state r) s = apply (apply state s) r := by
  by_cases first : r.Accepted
  · by_cases second : s.Accepted
    · obtain ⟨next, asked⟩ := (accepted_iff state.1).1 first
      obtain ⟨other, asked'⟩ := (accepted_iff state.1).1 second
      obtain ⟨both, last⟩ := (accepted_iff next).1 second
      have last' : other.request r.field r.value = some both := by
        have same := state.1.request_comm ne r.value s.value
        rwa [asked, asked', Option.bind_some, Option.bind_some, last, eq_comm] at same
      rw [apply_of_request asked, apply_of_request asked', apply_of_request last,
        apply_of_request last', ← Config.update_of_request last ne,
        ← Config.update_of_request last' ne.symm]
      exact congrArg (both, ·) (state.2.update_comm (both.fits_update _) (both.fits_update _)
        (both.apart_update ne))
    · rw [apply_of_refused second, apply_of_refused second]
  · rw [apply_of_refused first, apply_of_refused first]

/-- A request for the value in force changes nothing if the field holds the setting. -/
theorem apply_value {state : Config × RegisterFile} (holds : state.2.Holds (state.1.update field)) :
    apply state ⟨field, state.1.value field⟩ = state := by
  have asked := state.1.request_value field
  rw [apply_of_request asked]
  exact congrArg (state.1, ·) (state.2.update_of_holds (state.1.fits_update field) holds)

end SettingRequest

/-- Settings do not interfere with each other. Whatever the configuration and the registers:

After any requests, every field for which one was accepted holds the bits of the setting in force,
which are those of no other supported setting, and a further request for its value changes nothing.
All bits outside the fields for which a request was accepted are as before.

A request is refused, and changes nothing, exactly if it is above every supported value. Otherwise
it puts the value into force to which it is rounded, and that is not smaller for a larger request.
A request for the value in force leaves the configuration as it is. Two requests for different
settings come to the same configuration and the same registers in either order. -/
theorem settings_never_interfere (config : Config) (registers : RegisterFile) :
    (∀ requests : List SettingRequest,
      let after := SettingRequest.applyAll (config, registers) requests
      (∀ field, (∃ r ∈ requests, r.field = field ∧ r.Accepted) →
        after.2.read field.bits.1 &&& field.bits.2 = (after.1.update field).set ∧
          (∀ other : Config, (other.update field).set = (after.1.update field).set →
            other.value field = after.1.value field) ∧
          SettingRequest.apply after ⟨field, after.1.value field⟩ = after) ∧
      ∀ a mask, (∀ r ∈ requests, r.Accepted → r.field.bits.1 = a → r.field.bits.2 &&& mask = 0) →
        after.2.read a &&& mask = registers.read a &&& mask) ∧
    (∀ r : SettingRequest,
      let after := SettingRequest.apply (config, registers) r
      (config.request r.field r.value = none ↔ ∀ v ∈ r.field.values, v < r.value) ∧
        (r.Accepted ↔ config.request r.field r.value = some after.1) ∧
        (¬ r.Accepted → after = (config, registers)) ∧
        (r.Accepted → r.field.Rounds r.value (after.1.value r.field)) ∧
        (r.Accepted → ∀ larger : SettingRequest, larger.field = r.field → larger.Accepted →
          r.value ≠ 0 → r.value ≤ larger.value →
          after.1.value r.field ≤
            (SettingRequest.apply (config, registers) larger).1.value r.field)) ∧
    (∀ field, config.request field (config.value field) = some config) ∧
    ∀ r s : SettingRequest, r.field ≠ s.field →
      SettingRequest.apply (SettingRequest.apply (config, registers) r) s =
        SettingRequest.apply (SettingRequest.apply (config, registers) s) r := by
  refine ⟨fun requests => ⟨fun field asked => ?_, fun a mask apart => ?_⟩,
    fun r => ⟨config.request_eq_none_iff _ _, ?_, fun refused => ?_, fun accepted => ?_,
      fun accepted larger same accepted' nonzero le => ?_⟩,
    config.request_value, fun r s ne => SettingRequest.apply_comm ne _⟩
  · have holds := SettingRequest.holds_applyAll (config, registers) (.inr asked)
    refine ⟨?_, fun other bits => Config.value_of_bits bits, SettingRequest.apply_value holds⟩
    obtain ⟨address, clear⟩ := (SettingRequest.applyAll (config, registers) requests).1.update_bits
      field
    rw [← address, ← clear]
    exact holds
  · exact SettingRequest.read_applyAll_and apart
  · exact ⟨fun accepted => SettingRequest.request_of_accepted accepted (config, registers),
      fun asked => (SettingRequest.accepted_iff config).2 ⟨_, asked⟩⟩
  · exact SettingRequest.apply_of_refused refused _
  · exact Config.rounds_of_request (SettingRequest.request_of_accepted accepted (config, registers))
  · have rounds := Config.rounds_of_request
      (SettingRequest.request_of_accepted accepted (config, registers))
    have rounds' := Config.rounds_of_request
      (SettingRequest.request_of_accepted accepted' (config, registers))
    rw [same] at rounds'
    exact rounds.mono rounds' nonzero le

/-- Two settings in one register whose other bits are set. The last request is above the largest
range and is refused. -/
theorem settings_never_interfere_shared :
    let registers := RegisterFile.zero.write 0x21 0xFF
    let range : SettingRequest := ⟨.accelRange, 5⟩
    let bandwidth : SettingRequest := ⟨.antiAlias, 200⟩
    let after := SettingRequest.applyAll ({}, registers) [range, bandwidth, ⟨.accelRange, 20⟩]
    after.2.read 0x21 = 0x97 ∧ after.1.value .accelRange = 6 ∧ after.1.value .antiAlias = 362 ∧
      after.2.read 0x21 &&& 0x38 = (after.1.update .accelRange).set ∧
      after.2.read 0x21 &&& 0x07 = registers.read 0x21 &&& 0x07 ∧
      SettingRequest.apply after ⟨.antiAlias, after.1.value .antiAlias⟩ = after ∧
      Field.accelRange.Rounds 5 6 ∧
      SettingRequest.apply (SettingRequest.apply ({}, registers) range) bandwidth =
        SettingRequest.apply (SettingRequest.apply ({}, registers) bandwidth) range := by
  intro registers range bandwidth after
  obtain ⟨runs, each, -, commute⟩ := settings_never_interfere {} registers
  obtain ⟨held, kept⟩ := runs [range, bandwidth, ⟨.accelRange, 20⟩]
  have asked : range.Accepted := by decide
  have asked' : bandwidth.Accepted := by decide
  exact ⟨by decide, by decide, by decide, (held .accelRange ⟨range, by decide, rfl, asked⟩).1,
    kept 0x21 0x07 (by decide), (held .antiAlias ⟨bandwidth, by decide, rfl, asked'⟩).2.2,
    (each range).2.2.2.1 asked, commute range bandwidth (by decide)⟩

end ECompass
