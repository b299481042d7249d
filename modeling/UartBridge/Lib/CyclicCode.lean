import Mathlib.Algebra.Polynomial.FieldDivision
import Mathlib.RingTheory.PrincipalIdealDomain

/-!
# Words as polynomials

A word over a ring is read as a polynomial, its first digit with the highest
power. A cyclic code consists of the words that a generator divides; an error is
found unless the generator divides it too.

* `ofDigits_append`, `ofDigits_zipWith_add` — concatenation shifts, digitwise
  addition adds;
* `not_dvd_of_sum` — a generator with the root 1 divides no word whose digits do
  not add up to zero;
* `not_dvd_of_burst` — a generator that `X` does not divide divides no word whose
  nonzero digits lie in a stretch no longer than its degree.
-/

namespace CyclicCode

open Polynomial

section Words

variable {R : Type*} [CommRing R]

/-- The polynomial of a word. -/
noncomputable def ofDigits : List R → R[X]
  | [] => 0
  | d :: ds => C d * X ^ ds.length + ofDigits ds

@[simp] theorem ofDigits_nil : ofDigits ([] : List R) = 0 := rfl

theorem ofDigits_cons (d : R) (ds : List R) :
    ofDigits (d :: ds) = C d * X ^ ds.length + ofDigits ds := rfl

/-- What follows a word shifts it. -/
theorem ofDigits_append (xs ys : List R) :
    ofDigits (xs ++ ys) = X ^ ys.length * ofDigits xs + ofDigits ys := by
  induction xs with
  | nil => rw [List.nil_append, ofDigits_nil, mul_zero, zero_add]
  | cons x xs ih =>
    rw [List.cons_append, ofDigits_cons, ofDigits_cons, ih, List.length_append]
    ring

/-- Words of one length are added digit by digit. -/
theorem ofDigits_zipWith_add {xs ys : List R} (hlen : xs.length = ys.length) :
    ofDigits (List.zipWith (· + ·) xs ys) = ofDigits xs + ofDigits ys := by
  induction xs generalizing ys with
  | nil =>
    cases ys with
    | nil => simp
    | cons y ys => cases hlen
  | cons x xs ih =>
    cases ys with
    | nil => cases hlen
    | cons y ys =>
      have hrest : xs.length = ys.length := Nat.succ.inj hlen
      rw [List.zipWith_cons_cons, ofDigits_cons, ofDigits_cons, ofDigits_cons, ih hrest,
        List.length_zipWith, hrest, Nat.min_self, C_add]
      ring

theorem ofDigits_replicate_zero (n : Nat) : ofDigits (List.replicate n (0 : R)) = 0 := by
  induction n with
  | zero => rfl
  | succ n ih => rw [List.replicate_succ, ofDigits_cons, C_0, zero_mul, zero_add, ih]

/-- At 1 the polynomial is the sum of the digits. -/
theorem eval_one_ofDigits (ds : List R) : (ofDigits ds).eval 1 = ds.sum := by
  induction ds with
  | nil => rw [ofDigits_nil, eval_zero, List.sum_nil]
  | cons d ds ih =>
    rw [ofDigits_cons, eval_add, eval_mul, eval_C, eval_pow, eval_X, one_pow, mul_one, ih,
      List.sum_cons]

/-- A word of length `n` has a polynomial of degree below `n`. -/
theorem degree_ofDigits_lt (ds : List R) : (ofDigits ds).degree < ds.length := by
  induction ds with
  | nil => exact (degree_zero (R := R)).symm ▸ WithBot.bot_lt_coe 0
  | cons d ds ih =>
    have hhead : degree (C d * X ^ ds.length) ≤ (ds.length : WithBot ℕ) :=
      degree_C_mul_X_pow_le _ _
    refine lt_of_le_of_lt (degree_add_le _ _) (max_lt ?_ ?_)
    · exact lt_of_le_of_lt hhead (WithBot.coe_lt_coe.mpr (Nat.lt_succ_self _))
    · exact lt_trans ih (WithBot.coe_lt_coe.mpr (Nat.lt_succ_self _))

/-- Only the zero word has the zero polynomial. -/
theorem eq_zero_of_ofDigits {ds : List R} (h : ofDigits ds = 0) : ∀ d ∈ ds, d = 0 := by
  induction ds with
  | nil => exact fun d hd => absurd hd List.not_mem_nil
  | cons d ds ih =>
    -- the first digit is the coefficient of a power that the others do not reach
    have hcoeff : (ofDigits ds).coeff ds.length = 0 :=
      coeff_eq_zero_of_degree_lt (degree_ofDigits_lt ds)
    have hd : d = 0 := by
      have := congrArg (fun p => p.coeff ds.length) h
      simpa [ofDigits_cons, hcoeff] using this
    rw [ofDigits_cons, hd, C_0, zero_mul, zero_add] at h
    intro e he
    rcases List.mem_cons.mp he with rfl | hrest
    · exact hd
    · exact ih h e hrest

/-- **A root at 1** finds every error whose digits do not add up to zero. -/
theorem not_dvd_of_sum {g : R[X]} (hroot : g.eval 1 = 0) {ds : List R} (hsum : ds.sum ≠ 0) :
    ¬ g ∣ ofDigits ds := by
  intro hdvd
  have heval := eval_dvd (x := 1) hdvd
  rw [hroot, eval_one_ofDigits] at heval
  exact hsum (zero_dvd_iff.mp heval)

end Words

/-- **Bursts are found**, up to the degree of the generator and wherever they are. -/
theorem not_dvd_of_burst {K : Type*} [Field K] {g : K[X]} (hunit : g.coeff 0 ≠ 0) {burst : List K}
    (hlen : burst.length ≤ g.natDegree) (hburst : ∃ d ∈ burst, d ≠ 0) (before after : Nat) :
    ¬ g ∣ ofDigits (List.replicate before 0 ++ burst ++ List.replicate after 0) := by
  intro hdvd
  rw [ofDigits_append, ofDigits_append, ofDigits_replicate_zero, ofDigits_replicate_zero, mul_zero,
    zero_add, add_zero, List.length_replicate] at hdvd
  have hcoprime : IsCoprime g (X ^ after) := by
    have hX : Irreducible (X : K[X]) := irreducible_X
    refine IsCoprime.pow_right (IsCoprime.symm (hX.coprime_iff_not_dvd.mpr ?_))
    rw [X_dvd_iff]
    exact hunit
  -- the burst alone would be a multiple of the generator, of a smaller degree
  have hself : g ∣ ofDigits burst := hcoprime.dvd_of_dvd_mul_left hdvd
  have hg : g ≠ 0 := by
    rintro rfl
    exact hunit (coeff_zero 0)
  have hdegree : (ofDigits burst).degree < g.degree := by
    rw [degree_eq_natDegree hg]
    exact lt_of_lt_of_le (degree_ofDigits_lt burst) (WithBot.coe_le_coe.mpr hlen)
  obtain ⟨d, hd, hne⟩ := hburst
  exact hne (eq_zero_of_ofDigits (eq_zero_of_dvd_of_degree_lt hself hdegree) d hd)

end CyclicCode
