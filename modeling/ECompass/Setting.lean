import ECompass.Register

/-!
# Settings

A hardware setting is one of a few supported values, stored as a bit pattern in one field of one
control register. `Setting` is the class of types that list such values; a request in engineering
units is answered by the smallest supported value that covers it.

`select` is characterized by its three cases: a request of zero takes the largest value
(`select_zero`), a request above every value finds nothing (`select_eq_none_iff`), and otherwise
the answer covers the request (`le_value_of_select`).

What makes a table of settings a good one is said once, in `LawfulSetting`: it lists every setting,
in strictly ascending order, and gives each a bit pattern of its own inside the field.
-/

namespace ECompass

/-- A type of hardware settings that share one field of one control register. -/
class Setting (σ : Type) where
  /-- The supported settings, in ascending order of their values. -/
  all : List σ
  /-- The control register that holds the field. -/
  register : Register
  /-- The bits of the field. -/
  mask : UInt8
  /-- The value in engineering units. -/
  value : σ → Nat
  /-- The bit pattern within the field. -/
  bits : σ → UInt8

namespace Setting

variable {σ : Type} [Setting σ]

/-- The smallest supported setting that covers the request; zero asks for the largest one. -/
def select (request : Nat) : Option σ :=
  if request = 0 then all.getLast? else all.find? fun s => request ≤ value s

/-- A request of zero selects the last, largest setting. -/
theorem select_zero : (select 0 : Option σ) = all.getLast? := by
  simp [select]

/-- What is selected covers the request. -/
theorem le_value_of_select {request : Nat} {s : σ} (h : select request = some s) :
    request ≤ value s := by
  unfold select at h
  split at h
  · omega
  · simpa using List.find?_some h

/-- A request other than zero is refused exactly if it is above every supported value. -/
theorem select_eq_none_iff {request : Nat} (h : request ≠ 0) :
    (select request : Option σ) = none ↔ ∀ s ∈ (all : List σ), value s < request := by
  simp [select, h]

end Setting

/-- The laws of a table of settings. -/
class LawfulSetting (σ : Type) [Setting σ] : Prop where
  /-- Every setting is listed. -/
  mem_all : ∀ s : σ, s ∈ (Setting.all : List σ)
  /-- The list ascends strictly. -/
  ascending : ((Setting.all : List σ).map Setting.value).Pairwise (· < ·)
  /-- A bit pattern stays inside the field. -/
  bits_within_mask : ∀ s : σ, Setting.bits s &&& ~~~Setting.mask σ = 0
  /-- A bit pattern belongs to one setting only. -/
  bits_injective : ∀ s t : σ, Setting.bits s = Setting.bits t → s = t

end ECompass
