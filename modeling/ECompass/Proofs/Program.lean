import ECompass.Rig
import Mathlib.Order.Defs.Unbundled

/-!
# Reasoning about programs on a state

Bus programs and operations of the driver are both state transformers that keep the state when they
fail, so what is proved of them speaks about both ways to end. Five judgements are used.

* `Ends program s Q E`: from the state `s` the program ends with `Q` if it succeeds and with `E` if
  it fails.
* `Within R program`: wherever the program starts and however it ends, it moves the state within
  the relation `R`. For a preorder this is kept by sequencing, so a program is within `R` if its
  parts are. An invariant is a case of it (`Kept`).
* `Total R program`: wherever the program starts, it succeeds, and moves the state within `R`.
* `FailsWith P program`: wherever the program starts, `P` holds of the error if it fails.
* `Simulates R x y`: from states that `R` relates, the two programs end alike, with the same result
  or the same error, in states that `R` relates. `SimulatesUnless P R x y` says so unless one of the
  programs fails in a state of which `P` holds.
-/

namespace ECompass

namespace Program

variable {ε σ τ α β : Type}

/-- A sequence runs its second part from where the first one succeeds. -/
theorem bind_apply (x : EStateM ε σ α) (f : α → EStateM ε σ β) (s : σ) :
    (x >>= f) s = match x s with
      | .ok a t => f a t
      | .error e t => .error e t := rfl

/-! ### How a program ends -/

/-- From the state `s` the program ends with `Q` if it succeeds, and with `E` if it fails. -/
def Ends (program : EStateM ε σ α) (s : σ) (Q : α → σ → Prop) (E : ε → σ → Prop) : Prop :=
  match program s with
  | .ok a t => Q a t
  | .error e t => E e t

section Ends

variable {x : EStateM ε σ α} {f : α → EStateM ε σ β} {s t : σ} {Q : α → σ → Prop} {E : ε → σ → Prop}

theorem Ends.of_ok {a : α} (h : Ends x s Q E) (hx : x s = .ok a t) : Q a t := by
  rw [Ends, hx] at h
  exact h

theorem Ends.of_error {e : ε} (h : Ends x s Q E) (hx : x s = .error e t) : E e t := by
  rw [Ends, hx] at h
  exact h

/-- What holds of every success and of every failure holds of the end. -/
theorem Ends.intro (ok : ∀ a t, x s = .ok a t → Q a t) (error : ∀ e t, x s = .error e t → E e t) :
    Ends x s Q E := by
  unfold Ends
  split
  · exact ok _ _ ‹_›
  · exact error _ _ ‹_›

theorem Ends.mono {Q' : α → σ → Prop} {E' : ε → σ → Prop} (h : Ends x s Q E)
    (ok : ∀ a t, Q a t → Q' a t) (error : ∀ e t, E e t → E' e t) : Ends x s Q' E' :=
  .intro (fun a t hx => ok a t (h.of_ok hx)) fun e t hx => error e t (h.of_error hx)

theorem Ends.trivial : Ends x s (fun _ _ => True) fun _ _ => True :=
  .intro (fun _ _ _ => True.intro) fun _ _ _ => True.intro

theorem Ends.and {Q' : α → σ → Prop} {E' : ε → σ → Prop} (h : Ends x s Q E) (h' : Ends x s Q' E') :
    Ends x s (fun a t => Q a t ∧ Q' a t) fun e t => E e t ∧ E' e t :=
  .intro (fun _ _ hx => ⟨h.of_ok hx, h'.of_ok hx⟩) fun _ _ hx => ⟨h.of_error hx, h'.of_error hx⟩

/-- A sequence ends as its second part does from where the first one succeeds. -/
theorem Ends.bind {Q' : β → σ → Prop} (h : Ends x s Q E) (rest : ∀ a t, Q a t → Ends (f a) t Q' E) :
    Ends (x >>= f) s Q' E := by
  unfold Ends at h ⊢
  rw [bind_apply]
  cases hx : x s with
  | ok a t =>
    rw [hx] at h
    exact rest a t h
  | error e t =>
    rw [hx] at h
    exact h

/-- What holds before a program is run for the items of a list, and is kept along by every run,
holds in the end. -/
theorem Ends.forM {program : β → EStateM ε σ PUnit} {items : List β} {I : List β → σ → Prop}
    (start : I [] s) (step : ∀ done item t, I done t →
      Ends (program item) t (fun _ u => I (done ++ [item]) u) E) :
    Ends (items.forM program) s (fun _ t => I items t) E := by
  -- the invariant speaks about the items that are done, so these are split off
  suffices ∀ rest done t, I done t →
      Ends (rest.forM program) t (fun _ u => I (done ++ rest) u) E from this items [] s start
  intro rest
  induction rest with
  | nil =>
    intro done t h
    rw [List.append_nil]
    exact h
  | cons item rest ih =>
    intro done t h
    rw [List.append_cons]
    exact (step done item t h).bind fun _ u hu => ih (done ++ [item]) u hu

/-- A sequence that succeeds has a first part that does, and a second one that does from there. -/
theorem bind_eq_ok_iff {b : β} :
    (x >>= f) s = .ok b t ↔ ∃ a u, x s = .ok a u ∧ f a u = .ok b t := by
  rw [bind_apply]
  cases x s with
  | ok a u =>
    constructor
    · intro h
      exact ⟨a, u, rfl, h⟩
    · rintro ⟨_, _, ⟨⟩, h⟩
      exact h
  | error e u => simp

/-- A program whose result is put into another one fails as it does alone. -/
theorem bind_pure_eq_error_iff {g : α → β} {e : ε} :
    (x >>= fun a => Pure.pure (g a)) s = .error e t ↔ x s = .error e t := by
  rw [bind_apply]
  cases x s with
  | ok a u =>
    constructor
    · intro h
      cases h
    · intro h
      cases h
  | error e' u =>
    constructor
    · intro h
      cases h
      rfl
    · intro h
      cases h
      rfl

end Ends

/-! ### Moves of the state -/

/-- Wherever the program starts and however it ends, it moves the state within `R`. -/
def Within (R : σ → σ → Prop) (program : EStateM ε σ α) : Prop :=
  ∀ s, Ends program s (fun _ t => R s t) (fun _ t => R s t)

/-- The moves that keep an invariant. -/
def Kept (I : σ → Prop) (s t : σ) : Prop := I s → I t

instance (I : σ → Prop) : IsPreorder σ (Kept I) where
  refl _ h := h
  trans _ _ _ h h' hs := h' (h hs)

section Within

variable {R : σ → σ → Prop} {x : EStateM ε σ α} {f : α → EStateM ε σ β}

theorem Within.of_ok (h : Within R x) {s t : σ} {a : α} (hx : x s = .ok a t) : R s t :=
  (h s).of_ok hx

theorem Within.of_error (h : Within R x) {s t : σ} {e : ε} (hx : x s = .error e t) : R s t :=
  (h s).of_error hx

theorem Within.mono {R' : σ → σ → Prop} (h : Within R x) (le : ∀ s t, R s t → R' s t) :
    Within R' x :=
  fun s => (h s).mono (fun _ t => le s t) fun _ t => le s t

/-- A program that moves within two relations moves within what they imply together. -/
theorem Within.both {S T : σ → σ → Prop} (h : Within R x) (h' : Within S x)
    (imp : ∀ s t, R s t → S s t → T s t) : Within T x := fun s =>
  ((h s).and (h' s)).mono (fun _ t st => imp s t st.1 st.2) fun _ t st => imp s t st.1 st.2

theorem Within.pure [Std.Refl R] (a : α) : Within R (Pure.pure a : EStateM ε σ α) :=
  fun s => refl_of R s

theorem Within.throw [Std.Refl R] (e : ε) : Within R (MonadExcept.throw e : EStateM ε σ α) :=
  fun s => refl_of R s

theorem Within.bind [IsTrans σ R] (h : Within R x) (rest : ∀ a, Within R (f a)) :
    Within R (x >>= f) := fun s =>
  (h s).bind fun a t hst =>
    (rest a t).mono (fun _ _ htu => trans_of R hst htu) fun _ _ htu => trans_of R hst htu

/-- A program that is run for every item of a list moves the state as its runs do. -/
theorem Within.forM [IsPreorder σ R] {program : β → EStateM ε σ PUnit} {items : List β}
    (h : ∀ item ∈ items, Within R (program item)) : Within R (items.forM program) := by
  induction items with
  | nil => exact .pure _
  | cons item rest ih =>
    refine (h item List.mem_cons_self).bind fun _ => ih fun other ho => ?_
    exact h other (List.mem_cons_of_mem _ ho)

end Within

/-! ### Programs that succeed -/

/-- Wherever the program starts, it succeeds, and moves the state within `R`. -/
def Total (R : σ → σ → Prop) (program : EStateM ε σ α) : Prop :=
  ∀ s, Ends program s (fun _ t => R s t) fun _ _ => False

section Total

variable {R : σ → σ → Prop} {x : EStateM ε σ α} {f : α → EStateM ε σ β}

theorem Total.exists_ok (h : Total R x) (s : σ) : ∃ a t, x s = .ok a t ∧ R s t := by
  have ends := h s
  unfold Ends at ends
  cases hx : x s with
  | ok a t =>
    rw [hx] at ends
    exact ⟨a, t, rfl, ends⟩
  | error e t =>
    rw [hx] at ends
    exact ends.elim

theorem Total.pure [Std.Refl R] (a : α) : Total R (Pure.pure a : EStateM ε σ α) :=
  fun s => refl_of R s

theorem Total.bind [IsTrans σ R] (h : Total R x) (rest : ∀ a, Total R (f a)) :
    Total R (x >>= f) := fun s =>
  (h s).bind fun a t hst =>
    (rest a t).mono (fun _ _ htu => trans_of R hst htu) fun _ _ failed => failed

end Total

/-- Whether a program succeeds from a state. -/
def succeeds (program : EStateM ε σ α) (s : σ) : Bool :=
  match program s with
  | .ok _ _ => true
  | .error _ _ => false

theorem exists_ok_of_succeeds {program : EStateM ε σ α} {s : σ} (h : succeeds program s) :
    ∃ a t, program s = .ok a t := by
  unfold succeeds at h
  split at h
  · exact ⟨_, _, ‹_›⟩
  · cases h

/-! ### Programs that fail -/

/-- Wherever the program starts, `P` holds of the error if it fails. -/
def FailsWith (P : ε → Prop) (program : EStateM ε σ α) : Prop :=
  ∀ s, Ends program s (fun _ _ => True) fun e _ => P e

section FailsWith

variable {P : ε → Prop} {x : EStateM ε σ α} {f : α → EStateM ε σ β}

theorem FailsWith.pure (a : α) : FailsWith P (Pure.pure a : EStateM ε σ α) := fun _ => True.intro

theorem FailsWith.bind (h : FailsWith P x) (rest : ∀ a, FailsWith P (f a)) :
    FailsWith P (x >>= f) := fun s =>
  (h s).bind fun a t _ => rest a t

theorem FailsWith.forM {program : β → EStateM ε σ PUnit} (h : ∀ item, FailsWith P (program item))
    (items : List β) : FailsWith P (items.forM program) := fun _ =>
  Ends.forM (I := fun _ _ => True) True.intro fun _ item t _ => h item t

theorem Total.failsWith {R : σ → σ → Prop} (h : Total R x) : FailsWith P x := fun s =>
  (h s).mono (fun _ _ _ => True.intro) fun _ _ failed => failed.elim

end FailsWith

/-! ### Two programs side by side -/

/-- Two ends are alike: both successes with one result, or both failures with one error, in states
that `R` relates. -/
inductive Alike (R : σ → τ → Prop) : EStateM.Result ε σ α → EStateM.Result ε τ α → Prop where
  /-- Both programs succeed. -/
  | ok (a : α) {s : σ} {t : τ} (h : R s t) : Alike R (.ok a s) (.ok a t)
  /-- Both programs fail. -/
  | error (e : ε) {s : σ} {t : τ} (h : R s t) : Alike R (.error e s) (.error e t)

/-- From states that `R` relates, the two programs end alike. -/
def Simulates (R : σ → τ → Prop) (x : EStateM ε σ α) (y : EStateM ε τ α) : Prop :=
  ∀ s t, R s t → Alike R (x s) (y t)

/-- An end is a failure in a state of which `P` holds. -/
def FailsIn (P : σ → Prop) : EStateM.Result ε σ α → Prop
  | .ok _ _ => False
  | .error _ s => P s

/-- From states that `R` relates, the two programs end alike, unless one of them fails in a state of
which `P` holds. -/
def SimulatesUnless (P : σ → Prop) (R : σ → σ → Prop) (x y : EStateM ε σ α) : Prop :=
  ∀ s t, R s t → Alike R (x s) (y t) ∨ FailsIn P (x s) ∨ FailsIn P (y t)

section Simulates

variable {P : σ → Prop} {R : σ → σ → Prop} {x y : EStateM ε σ α} {f g : α → EStateM ε σ β}

theorem Simulates.unless (h : Simulates R x y) : SimulatesUnless P R x y :=
  fun s t hst => .inl (h s t hst)

/-- Programs that cannot fail in such a state always end alike. -/
theorem SimulatesUnless.simulates (h : SimulatesUnless (fun _ => False) R x y) :
    Simulates R x y := by
  intro s t hst
  have never (result : EStateM.Result ε σ α) : ¬ FailsIn (fun _ => False) result := by
    cases result <;> exact id
  rcases h s t hst with alike | fails | fails
  · exact alike
  · exact absurd fails (never _)
  · exact absurd fails (never _)

theorem SimulatesUnless.pure (a : α) :
    SimulatesUnless P R (Pure.pure a : EStateM ε σ α) (Pure.pure a) :=
  fun _ _ h => .inl (.ok a h)

theorem SimulatesUnless.throw (e : ε) :
    SimulatesUnless P R (MonadExcept.throw e : EStateM ε σ α) (MonadExcept.throw e) :=
  fun _ _ h => .inl (.error e h)

/-- A sequence fails where its first part does. -/
theorem FailsIn.bind {s : σ} (h : FailsIn P (x s)) : FailsIn P ((x >>= f) s) := by
  rw [bind_apply]
  revert h
  cases x s with
  | ok _ _ => exact False.elim
  | error _ _ => exact id

theorem SimulatesUnless.bind (h : SimulatesUnless P R x y)
    (rest : ∀ a, SimulatesUnless P R (f a) (g a)) : SimulatesUnless P R (x >>= f) (y >>= g) := by
  intro s t hst
  rcases h s t hst with alike | fails | fails
  · rw [bind_apply, bind_apply]
    revert alike
    generalize x s = left, y t = right
    rintro (⟨a, h'⟩ | ⟨e, h'⟩)
    · exact rest a _ _ h'
    · exact .inl (.error e h')
  · exact .inr (.inl fails.bind)
  · exact .inr (.inr fails.bind)

theorem Simulates.pure (a : α) : Simulates R (Pure.pure a : EStateM ε σ α) (Pure.pure a) :=
  SimulatesUnless.simulates (.pure a)

theorem Simulates.bind (h : Simulates R x y) (rest : ∀ a, Simulates R (f a) (g a)) :
    Simulates R (x >>= f) (y >>= g) :=
  (h.unless.bind fun a => (rest a).unless).simulates

/-- Programs that are run for every item of a list end alike if their runs do. -/
theorem SimulatesUnless.forM {first second : β → EStateM ε σ PUnit} {items : List β}
    (h : ∀ item ∈ items, SimulatesUnless P R (first item) (second item)) :
    SimulatesUnless P R (items.forM first) (items.forM second) := by
  induction items with
  | nil => exact .pure _
  | cons item rest ih =>
    refine (h item List.mem_cons_self).bind fun _ => ih fun other ho => ?_
    exact h other (List.mem_cons_of_mem _ ho)

end Simulates

end Program

end ECompass
