import Mathlib.Data.List.Basic

/-!
# Computations that may fail

* `bind_eq_ok`, `mapM_eq_ok` — what the steps of a computation that succeeds have given;
* `FailsWith` — a predicate that every failure of a computation meets, and its rules.
-/

namespace Fallible

variable {ε α β : Type}

/-- A sequence succeeds if both of its parts do. -/
theorem bind_eq_ok {x : Except ε α} {f : α → Except ε β} {b : β} :
    x >>= f = .ok b ↔ ∃ a, x = .ok a ∧ f a = .ok b := by
  constructor
  · intro h
    cases x with
    | ok a => exact ⟨a, rfl, h⟩
    | error failure => cases h
  · rintro ⟨a, rfl, h⟩
    exact h

/-- A loop over a list succeeds if each of its rounds does. -/
theorem mapM_eq_ok {f : α → Except ε β} {as : List α} {bs : List β} :
    as.mapM f = .ok bs ↔ List.Forall₂ (fun a b => f a = .ok b) as bs := by
  induction as generalizing bs with
  | nil =>
    constructor
    · intro h
      cases h
      exact List.Forall₂.nil
    · intro h
      cases h
      rfl
  | cons a as ih =>
    rw [List.mapM_cons]
    constructor
    · intro h
      obtain ⟨b, hb, h⟩ := bind_eq_ok.mp h
      obtain ⟨bs', hbs, h⟩ := bind_eq_ok.mp h
      cases h
      exact List.Forall₂.cons hb (ih.mp hbs)
    · intro h
      cases h with
      | cons hb hbs => exact bind_eq_ok.mpr ⟨_, hb, bind_eq_ok.mpr ⟨_, ih.mpr hbs, rfl⟩⟩

/-- If the computation fails, its failure meets `P`. -/
def FailsWith (P : ε → Prop) (x : Except ε α) : Prop := ∀ failure, x = .error failure → P failure

variable {P : ε → Prop}

theorem FailsWith.ok (a : α) : FailsWith P (.ok a : Except ε α) := by
  intro failure h
  cases h

theorem FailsWith.error {failure : ε} (h : P failure) :
    FailsWith P (.error failure : Except ε α) := by
  intro failure' h'
  cases h'
  exact h

theorem FailsWith.bind {x : Except ε α} {f : α → Except ε β} (hx : FailsWith P x)
    (hf : ∀ a, x = .ok a → FailsWith P (f a)) : FailsWith P (x >>= f) := by
  cases x with
  | ok a => exact hf a rfl
  | error failure => exact FailsWith.error (hx failure rfl)

theorem FailsWith.mapM {f : α → Except ε β} (hf : ∀ a, FailsWith P (f a)) (as : List α) :
    FailsWith P (as.mapM f) := by
  induction as with
  | nil => exact FailsWith.ok []
  | cons a as ih =>
    rw [List.mapM_cons]
    exact (hf a).bind fun b _ => ih.bind fun bs _ => FailsWith.ok (b :: bs)

end Fallible
