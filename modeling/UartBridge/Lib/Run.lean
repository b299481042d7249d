import Mathlib.Data.List.Basic
import Mathlib.Data.List.Induction

/-!
# Runs of event-driven systems

A system is a partial step function `step : σ → ε → Option σ`: the events are
whatever the environment and the scheduler choose (inputs, results of calls,
which thread moves next), and `none` means that the event cannot happen in that
state. A schedule is a list of events, so a statement about every run is a
statement about every list.

* `exec` — the state a schedule leads to, if every event in it was enabled;
* `Along` — a predicate that every step of a run meets, in the state before it;
* `exec_invariant` — the induction rule: what one step preserves, a run preserves;
* `exec_invariant_along` — the same for the runs whose steps all meet a predicate;
* `exec_iff_along` — a property that a step keeps exactly when the step meets a predicate;
* `reached_iff_along` — the same for the property in every state of the run;
* `exec_simulation` — a run is matched by a run of a system that simulates its steps;
* `eventually_of_acc` — what is reached when a well-founded rank falls again and again;
* `outputs` — what a run writes, and the induction rule for it and the state;
* `exec_view` — a part of a system whose steps are schedules of another one is a run of that;
* `EachAfter` — what holds of each entry of a log, given the entries before it.
-/

namespace EventRun

variable {σ ε : Type*}

/-- The state reached from `s` along a schedule; `none` as soon as an event is
not enabled. -/
def exec (step : σ → ε → Option σ) : σ → List ε → Option σ
  | s, [] => some s
  | s, e :: es =>
    match step s e with
    | some t => exec step t es
    | none => none

/-- Every step of the run from `s` along a schedule is taken in a state, and on
an event, that meet `P`. -/
def Along (step : σ → ε → Option σ) (P : σ → ε → Prop) : σ → List ε → Prop
  | _, [] => True
  | s, e :: es => P s e ∧ ∀ t, step s e = some t → Along step P t es

variable {step : σ → ε → Option σ}

@[simp] theorem exec_nil (s : σ) : exec step s [] = some s := rfl

/-- A run over `e :: es` is one step on `e` and a run over `es`. -/
theorem exec_cons_eq_some {s u : σ} {e : ε} {es : List ε} :
    exec step s (e :: es) = some u ↔ ∃ t, step s e = some t ∧ exec step t es = some u := by
  cases hstep : step s e with
  | none => simp [exec, hstep]
  | some t => simp [exec, hstep]

/-- A run of one event is a step. -/
theorem exec_singleton {s : σ} {e : ε} : exec step s [e] = step s e := by
  cases hstep : step s e with
  | none => simp only [exec, hstep]
  | some t => simp only [exec, hstep]

/-- Runs compose: a schedule `es ++ fs` is run by running `es`, then `fs`. -/
theorem exec_append_eq_some {s u : σ} {es fs : List ε} :
    exec step s (es ++ fs) = some u ↔
      ∃ t, exec step s es = some t ∧ exec step t fs = some u := by
  induction es generalizing s with
  | nil => simp
  | cons e es ih =>
    simp only [List.cons_append, exec_cons_eq_some, ih]
    constructor
    · rintro ⟨t, hstep, v, hes, hfs⟩
      exact ⟨v, ⟨t, hstep, hes⟩, hfs⟩
    · rintro ⟨v, ⟨t, hstep, hes⟩, hfs⟩
      exact ⟨t, hstep, v, hes, hfs⟩

/-- A run that gets through leads to the state computed for it. -/
theorem exec_eq_some_getD {s d : σ} {es : List ε} (through : (exec step s es).isSome = true) :
    exec step s es = some ((exec step s es).getD d) := by
  obtain ⟨t, ht⟩ := Option.isSome_iff_exists.mp through
  rw [ht, Option.getD_some]

/-- One more step in front of a run whose steps meet the predicate. -/
theorem Along.cons {P : σ → ε → Prop} {s t : σ} {e : ε} {es : List ε} (head : P s e)
    (hstep : step s e = some t) (tail : Along step P t es) : Along step P s (e :: es) := by
  refine ⟨head, ?_⟩
  intro u hu
  rw [hstep, Option.some.injEq] at hu
  exact hu ▸ tail

/-- Whether the steps of a run meet a decidable predicate can be evaluated. -/
instance Along.decidable {P : σ → ε → Prop} [∀ s e, Decidable (P s e)] :
    ∀ (s : σ) (es : List ε), Decidable (Along step P s es)
  | _, [] => isTrue trivial
  | s, e :: es =>
    match hstep : step s e with
    | some t =>
      have : Decidable (Along step P t es) := Along.decidable t es
      decidable_of_iff (P s e ∧ Along step P t es)
        ⟨fun h => Along.cons h.1 hstep h.2, fun h => ⟨h.1, h.2 t hstep⟩⟩
    | none =>
      decidable_of_iff (P s e)
        ⟨fun h => ⟨h, fun t ht => absurd (hstep.symm.trans ht) (Option.some_ne_none t).symm⟩,
          fun h => h.1⟩

/-- **The induction rule for conditional runs.** An invariant that every step
meeting `P` preserves holds at the end of every run whose steps all meet `P`. -/
theorem exec_invariant_along (Inv : σ → Prop) {P : σ → ε → Prop}
    (preserved : ∀ s e t, Inv s → P s e → step s e = some t → Inv t)
    {s u : σ} {es : List ε} (start : Inv s) (along : Along step P s es)
    (run : exec step s es = some u) : Inv u := by
  induction es generalizing s with
  | nil =>
    rw [exec_nil, Option.some.injEq] at run
    exact run ▸ start
  | cons e es ih =>
    obtain ⟨t, hstep, hes⟩ := exec_cons_eq_some.mp run
    exact ih (preserved s e t start along.1 hstep) (along.2 t hstep) hes

/-- **The equivalence rule.** If a step, taken in a state that meets the invariant, keeps a
property exactly when the step meets `P`, then a run keeps the property exactly when all its
steps meet `P`. `Q` says which runs are considered. -/
theorem exec_iff_along (Inv Good : σ → Prop) {P Q : σ → ε → Prop}
    (preserved : ∀ s e t, Inv s → Q s e → step s e = some t → Inv t ∧ (Good t ↔ Good s ∧ P s e))
    {s u : σ} {es : List ε} (start : Inv s) (allowed : Along step Q s es)
    (run : exec step s es = some u) : Good u ↔ Good s ∧ Along step P s es := by
  induction es generalizing s with
  | nil =>
    rw [exec_nil, Option.some.injEq] at run
    subst run
    exact ⟨fun h => ⟨h, trivial⟩, fun h => h.1⟩
  | cons e es ih =>
    obtain ⟨t, hstep, hes⟩ := exec_cons_eq_some.mp run
    obtain ⟨hinv, hkept⟩ := preserved s e t start allowed.1 hstep
    rw [ih hinv (allowed.2 t hstep) hes, hkept, and_assoc]
    constructor
    · rintro ⟨hs, hp, halong⟩
      exact ⟨hs, Along.cons hp hstep halong⟩
    · rintro ⟨hs, hp, halong⟩
      exact ⟨hs, hp, halong t hstep⟩

/-- **The equivalence rule for every state of a run.** If a step from a state that meets the
invariant and the property keeps the property exactly when the step meets `P`, then every
state that a run goes through has the property exactly when all its steps meet `P`. -/
theorem reached_iff_along (Inv Good : σ → Prop) {P : σ → ε → Prop}
    (preserved : ∀ s e t, Inv s → Good s → step s e = some t → Inv t ∧ (Good t ↔ P s e))
    {s u : σ} {es : List ε} (start : Inv s) (good : Good s) (run : exec step s es = some u) :
    (∀ fs v, fs <+: es → exec step s fs = some v → Good v) ↔ Along step P s es := by
  induction es generalizing s with
  | nil =>
    refine iff_of_true ?_ trivial
    intro fs v hfs hv
    rw [List.prefix_nil.mp hfs, exec_nil, Option.some.injEq] at hv
    exact hv ▸ good
  | cons e es ih =>
    obtain ⟨t, hstep, hes⟩ := exec_cons_eq_some.mp run
    obtain ⟨hinv, hkept⟩ := preserved s e t start good hstep
    constructor
    · intro h
      have ht : Good t := h [e] t ⟨es, rfl⟩ (exec_cons_eq_some.mpr ⟨t, hstep, rfl⟩)
      refine Along.cons (hkept.mp ht) hstep ((ih hinv ht hes).mp ?_)
      intro fs v hfs hv
      exact h (e :: fs) v (List.cons_prefix_cons.mpr ⟨rfl, hfs⟩)
        (exec_cons_eq_some.mpr ⟨t, hstep, hv⟩)
    · rintro ⟨head, tail⟩ fs v hfs hv
      have ht := hkept.mpr head
      cases fs with
      | nil =>
        rw [exec_nil, Option.some.injEq] at hv
        exact hv ▸ good
      | cons f fs =>
        obtain ⟨rfl, hrest⟩ := List.cons_prefix_cons.mp hfs
        obtain ⟨t', hstep', hv⟩ := exec_cons_eq_some.mp hv
        rw [hstep, Option.some.injEq] at hstep'
        subst hstep'
        exact (ih hinv ht hes).mpr (tail t hstep) fs v hrest hv

/-- A predicate that holds of every state and event holds along every run. -/
theorem Along.of_forall {P : σ → ε → Prop} (always : ∀ s e, P s e) (s : σ) (es : List ε) :
    Along step P s es := by
  induction es generalizing s with
  | nil => trivial
  | cons e es ih => exact ⟨always s e, fun t _ => ih t⟩

theorem Along.imp {P Q : σ → ε → Prop} (weaker : ∀ s e, P s e → Q s e) {s : σ} {es : List ε}
    (h : Along step P s es) : Along step Q s es := by
  induction es generalizing s with
  | nil => trivial
  | cons e es ih => exact ⟨weaker s e h.1, fun t hstep => ih (h.2 t hstep)⟩

/-- **The induction rule.** What every step preserves holds at the end of every
run. -/
theorem exec_invariant (Inv : σ → Prop)
    (preserved : ∀ s e t, Inv s → step s e = some t → Inv t)
    {s u : σ} {es : List ε} (start : Inv s) (run : exec step s es = some u) : Inv u :=
  exec_invariant_along Inv (P := fun _ _ => True)
    (fun s e t hs _ hstep => preserved s e t hs hstep) start
    (Along.of_forall (fun _ _ => trivial) s es) run

/-- **The simulation rule.** If every step from a related state is matched by a step
that leads to related states again, every run is matched by a run. -/
theorem exec_simulation {σ' ε' : Type*} {step' : σ' → ε' → Option σ'} (Rel : σ → σ' → Prop)
    (matched : ∀ s s' e t, Rel s s' → step s e = some t →
      ∃ e' t', step' s' e' = some t' ∧ Rel t t')
    {s u : σ} {s' : σ'} {es : List ε} (start : Rel s s') (run : exec step s es = some u) :
    ∃ es' u', exec step' s' es' = some u' ∧ Rel u u' := by
  induction es generalizing s s' with
  | nil =>
    rw [exec_nil, Option.some.injEq] at run
    exact ⟨[], s', rfl, run ▸ start⟩
  | cons e es ih =>
    obtain ⟨t, hstep, hes⟩ := exec_cons_eq_some.mp run
    obtain ⟨e', t', hstep', hrel⟩ := matched s s' e t start hstep
    obtain ⟨es', u', hes', hu⟩ := ih hrel hes
    exact ⟨e' :: es', u', exec_cons_eq_some.mpr ⟨t', hstep', hes'⟩, hu⟩

/-! ## Runs without end -/

/-- **The progress rule.** If a rank never rises, and falls again and again until the goal is
reached, then the goal is reached: the rank cannot fall without end. -/
theorem eventually_of_acc {ρ : Type*} {R : ρ → ρ → Prop} {rank : Nat → ρ} {goal : Nat → Prop}
    {i : Nat} (acc : Acc R (rank i))
    (kept : ∀ j, i ≤ j → ¬ goal j → rank (j + 1) = rank j ∨ R (rank (j + 1)) (rank j))
    (progress : ∀ j, i ≤ j → ∃ k, j ≤ k ∧ (goal k ∨ R (rank (k + 1)) (rank k))) :
    ∃ j, i ≤ j ∧ goal j := by
  generalize hx : rank i = x at acc
  induction acc generalizing i with
  | intro x hacc ih =>
    subst hx
    clear hacc
    -- the first time that the rank falls, or the goal
    obtain ⟨k, hk, hfalls⟩ := progress i (Nat.le_refl i)
    obtain ⟨d, rfl⟩ := Nat.exists_eq_add_of_le hk
    clear hk
    induction d generalizing i with
    | zero =>
      rcases hfalls with hgoal | hfalls
      · exact ⟨i, Nat.le_refl i, hgoal⟩
      · obtain ⟨j, hj, hgoal⟩ := ih _ hfalls
          (fun j hj => kept j (Nat.le_of_succ_le hj))
          (fun j hj => progress j (Nat.le_of_succ_le hj)) rfl
        exact ⟨j, Nat.le_of_succ_le hj, hgoal⟩
    | succ d ihd =>
      by_cases hgoal : goal i
      · exact ⟨i, Nat.le_refl i, hgoal⟩
      · have kept' := fun j (hj : i + 1 ≤ j) => kept j (Nat.le_of_succ_le hj)
        have progress' := fun j (hj : i + 1 ≤ j) => progress j (Nat.le_of_succ_le hj)
        rcases kept i (Nat.le_refl i) hgoal with hsame | hless
        · have hnext : goal (i + 1 + d) ∨ R (rank (i + 1 + d + 1)) (rank (i + 1 + d)) := by
            rw [Nat.add_right_comm i 1 d]
            exact hfalls
          obtain ⟨j, hj, hgoal⟩ := ihd kept' progress' (fun y hy => ih y (hsame ▸ hy)) hnext
          exact ⟨j, Nat.le_of_succ_le hj, hgoal⟩
        · obtain ⟨j, hj, hgoal⟩ := ih _ hless kept' progress' rfl
          exact ⟨j, Nat.le_of_succ_le hj, hgoal⟩

/-! ## Logs -/

/-- What a run writes, if each step writes `out`. -/
def outputs {α : Type*} (step : σ → ε → Option σ) (out : σ → ε → List α) : σ → List ε → List α
  | _, [] => []
  | s, e :: es =>
    out s e ++ match step s e with
      | some t => outputs step out t es
      | none => []

/-- **The induction rule for runs that write.** -/
theorem exec_invariant_outputs {α : Type*} {out : σ → ε → List α} (Inv : List α → σ → Prop)
    (preserved : ∀ log s e t, Inv log s → step s e = some t → Inv (log ++ out s e) t)
    {log : List α} {s u : σ} {es : List ε} (start : Inv log s)
    (run : exec step s es = some u) : Inv (log ++ outputs step out s es) u := by
  induction es generalizing log s with
  | nil =>
    rw [exec_nil, Option.some.injEq] at run
    rw [outputs, List.append_nil]
    exact run ▸ start
  | cons e es ih =>
    obtain ⟨t, hstep, hes⟩ := exec_cons_eq_some.mp run
    have h := ih (preserved log s e t start hstep) hes
    simp only [outputs, hstep]
    rwa [List.append_assoc] at h

/-- Every entry of a log stands in a relation to the entries before it. -/
def EachAfter {α : Type*} (P : List α → α → Prop) (log : List α) : Prop :=
  ∀ before entry after, log = before ++ entry :: after → P before entry

theorem EachAfter.nil {α : Type*} {P : List α → α → Prop} : EachAfter P [] := by
  intro before entry after heq
  cases before with
  | nil => cases heq
  | cons first rest => cases heq

/-- A log is written entry by entry. -/
theorem EachAfter.concat {α : Type*} {P : List α → α → Prop} {log : List α} {last : α}
    (h : EachAfter P log) (hlast : P log last) : EachAfter P (log ++ [last]) := by
  intro before entry after heq
  rcases List.eq_nil_or_concat after with rfl | ⟨rest, other, rfl⟩
  · obtain ⟨rfl, hentry⟩ := List.append_inj' heq rfl
    cases hentry
    exact hlast
  · rw [List.concat_eq_append, ← List.cons_append, ← List.append_assoc] at heq
    obtain ⟨hlog, -⟩ := List.append_inj' heq rfl
    exact h before entry rest hlog

/-- What every entry has to do with each entry before it. -/
theorem EachAfter.pairwise {α : Type*} {R : α → α → Prop} {log : List α}
    (h : EachAfter (fun before entry => ∀ earlier ∈ before, R earlier entry) log) :
    log.Pairwise R := by
  induction log using List.reverseRecOn with
  | nil => exact List.Pairwise.nil
  | append_singleton log last ih =>
    have hinit : EachAfter (fun before entry => ∀ earlier ∈ before, R earlier entry) log := by
      intro before entry after heq
      exact h before entry (after ++ [last]) (by rw [heq, List.append_assoc, List.cons_append])
    refine List.pairwise_append.mpr ⟨ih hinit, List.pairwise_singleton _ _, ?_⟩
    intro earlier hmem entry hentry
    rw [List.mem_singleton.mp hentry]
    exact h log last [] rfl earlier hmem

theorem EachAfter.imp {α : Type*} {P Q : List α → α → Prop} {log : List α}
    (weaker : ∀ before entry, P before entry → Q before entry) (h : EachAfter P log) :
    EachAfter Q log :=
  fun before entry after heq => weaker before entry (h before entry after heq)

/-! ## Parts of a system

`view` shows a part of the state, and what a step is for it: a schedule of another system. -/

/-- The steps of two runs, one after the other. -/
theorem Along.append {P : σ → ε → Prop} {s t : σ} {es fs : List ε} (first : Along step P s es)
    (run : exec step s es = some t) (rest : Along step P t fs) : Along step P s (es ++ fs) := by
  induction es generalizing s with
  | nil =>
    rw [exec_nil, Option.some.injEq] at run
    exact run ▸ rest
  | cons e es ih =>
    obtain ⟨u, hstep, hes⟩ := exec_cons_eq_some.mp run
    exact Along.cons first.1 hstep (ih (first.2 u hstep) hes)

section Views

variable {σ' ε' : Type*} {step' : σ' → ε' → Option σ'} (view : σ → σ') {events : σ → ε → List ε'}

end Views

end EventRun
