import Mathlib.Data.List.Infix
import UartBridge.Lib.Run

/-!
# Queues that may lose items

What a stage of a transmission does to the items that go through it, whatever the stage is
made of: it holds some of them, and puts them out in the order in which they came.

* `Passes` — nothing is doubled, reordered or invented, and nothing is lost if `exact`;
* `Passes.arrive`, `depart`, `lose` — the elementary steps;
* `Passes.trans` — one step of a stage after the other;
* `Passes.series` — one stage behind the other is a stage;
* `passes_of_run` — a system whose steps are those of a stage, over a run.
-/

namespace LossyFifo

variable {α : Type*}

/-- A stage held `before`, then `arrived` came in; `departed` went out and it holds `after`.
All lists have the oldest item first. -/
structure Passes (exact : Prop) (before arrived departed after : List α) : Prop where
  sublist : (departed ++ after).Sublist (before ++ arrived)
  eq_of_exact : exact → departed ++ after = before ++ arrived

namespace Passes

variable {exact exact' : Prop} {before mid after arrived arrived' departed departed' : List α}

theorem of_eq (h : departed ++ after = before ++ arrived) :
    Passes exact before arrived departed after :=
  ⟨h ▸ List.Sublist.refl _, fun _ => h⟩

/-- Nothing happens. -/
theorem refl (held : List α) : Passes exact held [] [] held :=
  of_eq (List.append_nil held).symm

/-- Items come in. -/
theorem arrive (held items : List α) : Passes exact held items [] (held ++ items) :=
  of_eq rfl

/-- The oldest items go out. -/
theorem depart (items held : List α) : Passes exact (items ++ held) [] items held :=
  of_eq (List.append_nil _).symm

/-- Some of the items are lost. -/
theorem lose (h : after.Sublist before) (kept : exact → after = before) :
    Passes exact before [] [] after := by
  refine ⟨?_, fun hexact => ?_⟩
  · rw [List.nil_append, List.append_nil]
    exact h
  · rw [List.nil_append, List.append_nil]
    exact kept hexact

/-- A stage that loses nothing is a stage that may. -/
theorem imp (weaker : exact' → exact) (h : Passes exact before arrived departed after) :
    Passes exact' before arrived departed after :=
  ⟨h.sublist, fun hexact => h.eq_of_exact (weaker hexact)⟩

/-- **One step after the other.** -/
theorem trans (first : Passes exact before arrived departed mid)
    (second : Passes exact mid arrived' departed' after) :
    Passes exact before (arrived ++ arrived') (departed ++ departed') after := by
  refine ⟨?_, fun hexact => ?_⟩
  · rw [List.append_assoc, ← List.append_assoc before]
    have hnext := second.sublist.append_left departed
    rw [← List.append_assoc departed mid] at hnext
    exact hnext.trans (first.sublist.append_right arrived')
  · calc departed ++ departed' ++ after = departed ++ (mid ++ arrived') := by
          rw [List.append_assoc, second.eq_of_exact hexact]
      _ = before ++ (arrived ++ arrived') := by
          rw [← List.append_assoc, first.eq_of_exact hexact, List.append_assoc]

/-- **One stage behind the other.** What departs from the first arrives at the second; the
items in the second are the older ones. -/
theorem series {before' after' items : List α} (first : Passes exact before arrived items after)
    (second : Passes exact before' items departed after') :
    Passes exact (before' ++ before) arrived departed (after' ++ after) := by
  refine ⟨?_, fun hexact => ?_⟩
  · rw [← List.append_assoc, List.append_assoc before']
    have hlater := first.sublist.append_left before'
    rw [← List.append_assoc before'] at hlater
    exact (second.sublist.append_right after).trans hlater
  · calc departed ++ (after' ++ after) = before' ++ (items ++ after) := by
          rw [← List.append_assoc, second.eq_of_exact hexact, List.append_assoc]
      _ = before' ++ before ++ arrived := by
          rw [first.eq_of_exact hexact, List.append_assoc]

/-- What went out. -/
theorem departed_sublist (h : Passes exact before arrived departed after) :
    departed.Sublist (before ++ arrived) :=
  (List.sublist_append_left departed after).trans h.sublist

/-- What went out, if nothing was lost. -/
theorem prefix_of_exact (h : Passes exact before arrived departed after) (hexact : exact) :
    departed <+: before ++ arrived :=
  ⟨after, h.eq_of_exact hexact⟩

end Passes

section Runs

open EventRun

variable {σ ε : Type*} {step : σ → ε → Option σ} {held gone : σ → List α}
  {arrives : σ → ε → List α}

/-- **The run rule.** `gone` grows by what departs. If each step is a step of the stage, which
loses nothing if it meets `P`, then a run is one, which loses nothing if all its steps meet `P`.
`Q` says which runs are considered. -/
theorem passes_of_run (Inv : σ → Prop) {P Q : σ → ε → Prop}
    (preserved : ∀ s e t, Inv s → Q s e → step s e = some t → Inv t ∧
      ∃ out, gone t = gone s ++ out ∧ Passes (P s e) (held s) (arrives s e) out (held t))
    {s u : σ} {es : List ε} (start : Inv s) (allowed : Along step Q s es)
    (run : exec step s es = some u) :
    ∃ out, gone u = gone s ++ out ∧
      Passes (Along step P s es) (held s) (outputs step arrives s es) out (held u) := by
  induction es generalizing s with
  | nil =>
    rw [exec_nil, Option.some.injEq] at run
    subst run
    exact ⟨[], (List.append_nil _).symm, Passes.refl (held s)⟩
  | cons e es ih =>
    obtain ⟨t, hstep, hes⟩ := exec_cons_eq_some.mp run
    obtain ⟨hinv, out, hout, hfirst⟩ := preserved s e t start allowed.1 hstep
    obtain ⟨more, hmore, hrest⟩ := ih hinv (allowed.2 t hstep) hes
    refine ⟨out ++ more, by rw [hmore, hout, List.append_assoc], ?_⟩
    have hhead (halong : Along step P s (e :: es)) : P s e := halong.1
    have htail (halong : Along step P s (e :: es)) : Along step P t es := halong.2 t hstep
    simp only [outputs, hstep]
    exact (hfirst.imp hhead).trans (hrest.imp htail)

end Runs

end LossyFifo
