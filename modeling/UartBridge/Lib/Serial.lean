import Mathlib.Data.List.Pairwise
import Mathlib.Order.Basic

/-!
# Serial numbers

A sender numbers its packages by an unbounded index and puts the index, wrapped
to 16 bits, into the package. A receiver keeps the last number it accepted and
accepts a number that is ahead of it: closer when counted upwards than when
counted downwards.

* `newer_numberOf` — inside a window of half the range, "ahead of" is the order
  of the indices, over any number of wraps;
* `Tracks` — the receiver's last number is the number of the index it accepted
  last, and everything accepted is in increasing order;
* `accept_spec` — one delivery keeps `Tracks`, and is accepted exactly when its
  index is above all accepted ones;
* `deliveries_track`, `delivery_accepted_iff` — the same over every schedule of
  deliveries whose steps stay inside the window.

A receiver is any state with a step that behaves as `accept` on one of its
fields, so the results apply to receivers that parse the number from a package.
-/

namespace SerialNumber

/-- The number of index `i`, for a sender whose index 0 has number `first`. -/
def numberOf (first : UInt16) (i : Int) : UInt16 := first + UInt16.ofInt i

/-- `test` is ahead of `last`: both distances wrap, and going up is shorter. -/
def newer (last test : UInt16) : Bool := test - last < last - test

@[simp] theorem numberOf_zero (first : UInt16) : numberOf first 0 = first := by
  unfold numberOf
  rw [show UInt16.ofInt 0 = 0 from rfl, UInt16.add_zero]

/-- Consecutive indices have consecutive numbers. -/
theorem numberOf_succ (first : UInt16) (i : Int) :
    numberOf first (i + 1) = numberOf first i + 1 := by
  unfold numberOf
  rw [UInt16.ofInt_add, UInt16.ofInt_one, UInt16.add_assoc]

/-- The wrapped difference of two numbers is the difference of the indices. -/
theorem numberOf_sub (first : UInt16) (i j : Int) :
    ((numberOf first i - numberOf first j).toNat : Int) = (i - j) % 0x10000 := by
  have toNat_ofInt (x : Int) : (UInt16.ofInt x).toNat = (x % 0x10000).toNat := by
    unfold UInt16.ofInt
    rw [UInt16.toNat_ofNat']
    omega
  have hfirst := first.toNat_lt
  unfold numberOf
  rw [UInt16.toNat_sub, UInt16.toNat_add, UInt16.toNat_add, toNat_ofInt, toNat_ofInt]
  omega

/-- **Inside the window the wrapped comparison is the order of the indices**,
also at the tie: equal indices are not ahead of each other. -/
theorem newer_numberOf (first : UInt16) (i j : Int) (above : i - j < 0x8000)
    (below : j - i < 0x8000) : newer (numberOf first j) (numberOf first i) = true ↔ j < i := by
  have hup := numberOf_sub first i j
  have hdown := numberOf_sub first j i
  unfold newer
  rw [decide_eq_true_iff, UInt16.lt_iff_toNat_lt]
  omega

/-- The elements of a list carry consecutive numbers, the first one that of
index `i`. -/
def Numbered {β : Type} (carries : UInt16 → β → Prop) (first : UInt16) : Int → List β → Prop
  | _, [] => True
  | i, x :: xs => carries (numberOf first i) x ∧ Numbered carries first (i + 1) xs

/-- The next number goes to the end. -/
theorem Numbered.concat {β : Type} {carries : UInt16 → β → Prop} {first : UInt16} {i : Int}
    {xs : List β} (h : Numbered carries first i xs) {x : β}
    (hx : carries (numberOf first (i + xs.length)) x) : Numbered carries first i (xs ++ [x]) := by
  induction xs generalizing i with
  | nil =>
    rw [List.length_nil, Int.natCast_zero, Int.add_zero] at hx
    exact ⟨hx, trivial⟩
  | cons y ys ih =>
    refine ⟨h.1, ih h.2 ?_⟩
    rwa [List.length_cons, Int.natCast_succ, ← Int.add_assoc, Int.add_right_comm] at hx

/-! ## The receiver -/

/-- One delivery: the new last number, and whether the package is accepted. -/
def accept (last test : UInt16) : UInt16 × Bool :=
  if newer last test then (test, true) else (last, false)

/-- The state of a receiver that started at index `baseline` and has accepted
the indices `accepted`, oldest first. -/
structure Tracks (first : UInt16) (baseline : Int) (accepted : List Int) (last : UInt16) :
    Prop where
  last_eq : last = numberOf first (accepted.getLastD baseline)
  increasing : (baseline :: accepted).Pairwise (· < ·)

/-- A receiver at its baseline. -/
theorem Tracks.start (first : UInt16) (baseline : Int) :
    Tracks first baseline [] (numberOf first baseline) :=
  ⟨rfl, List.pairwise_singleton _ _⟩

/-- **One delivery inside the window.** The package is accepted exactly when its
index is above the baseline and above everything accepted before, and the
receiver goes on tracking. -/
theorem accept_spec {first : UInt16} {baseline : Int} {accepted : List Int} {last : UInt16}
    (tracks : Tracks first baseline accepted last) (i : Int)
    (above : i - accepted.getLastD baseline < 0x8000)
    (below : accepted.getLastD baseline - i < 0x8000) :
    ((accept last (numberOf first i)).2 = true ↔ ∀ j ∈ baseline :: accepted, j < i) ∧
      Tracks first baseline
        (if (accept last (numberOf first i)).2 then accepted ++ [i] else accepted)
        (accept last (numberOf first i)).1 := by
  have hnewer := newer_numberOf first i _ above below
  rw [← tracks.last_eq] at hnewer
  have hall : accepted.getLastD baseline < i ↔ ∀ j ∈ baseline :: accepted, j < i := by
    rw [← List.getLast_eq_getLastD (a := baseline) (l := accepted) (List.cons_ne_nil _ _)]
    constructor
    · intro hlast j hj
      have hle := (tracks.increasing.imp Int.le_of_lt).rel_getLast hj
      omega
    · intro hj
      exact hj _ (List.getLast_mem _)
  unfold accept
  by_cases hahead : newer last (numberOf first i) = true
  · simp only [hahead, if_true]
    have hj := hall.mp (hnewer.mp hahead)
    refine ⟨⟨fun _ => hj, fun _ => trivial⟩, ?_, ?_⟩
    · rw [List.getLastD_concat]
    · rw [← List.cons_append]
      refine List.pairwise_append.mpr ⟨tracks.increasing, List.pairwise_singleton _ _, ?_⟩
      intro j hmem k hk
      rw [List.mem_singleton.mp hk]
      exact hj j hmem
  · simp only [hahead, Bool.false_eq_true, if_false]
    refine ⟨⟨fun h => absurd h (by simp), ?_⟩, tracks⟩
    intro hj
    exact absurd (hnewer.mpr (hall.mpr hj)) hahead

/-! ## Schedules of deliveries -/

section Deliveries

variable {σ : Type} (recv : σ → Int → σ × Bool)

/-- The receiver's state and the indices it has accepted, oldest first, after
the package of index `i` was delivered. -/
def deliver (s : σ × List Int) (i : Int) : σ × List Int :=
  ((recv s.1 i).1, if (recv s.1 i).2 then s.2 ++ [i] else s.2)

/-- A schedule delivered to a receiver, one package after the other. -/
def deliveries (s : σ × List Int) (schedule : List Int) : σ × List Int :=
  schedule.foldl (deliver recv) s

/-- Each delivered index differs by less than half the range from the index
accepted last, or from the baseline. -/
def InWindow (baseline : Int) : σ × List Int → List Int → Prop
  | _, [] => True
  | s, i :: schedule =>
    i - s.2.getLastD baseline < 0x8000 ∧ s.2.getLastD baseline - i < 0x8000 ∧
      InWindow baseline (deliver recv s i) schedule

variable {recv} {first : UInt16} {baseline : Int} {last : σ → UInt16}
  (recv_eq : ∀ s i, accept (last s) (numberOf first i) = (last (recv s i).1, (recv s i).2))

include recv_eq in
/-- What the receiver tracks, it tracks over a whole schedule. -/
theorem deliveries_track {s : σ × List Int} {schedule : List Int}
    (tracks : Tracks first baseline s.2 (last s.1)) (window : InWindow recv baseline s schedule) :
    Tracks first baseline (deliveries recv s schedule).2
      (last (deliveries recv s schedule).1) := by
  induction schedule generalizing s with
  | nil => exact tracks
  | cons i schedule ih =>
    obtain ⟨above, below, rest⟩ := window
    have hstep := (accept_spec tracks i above below).2
    rw [recv_eq] at hstep
    exact ih hstep rest

/-- The window condition of a schedule holds at each of its deliveries. -/
theorem InWindow.split {s : σ × List Int} {before : List Int} {i : Int} {after : List Int}
    (window : InWindow recv baseline s (before ++ i :: after)) :
    InWindow recv baseline s before ∧
      i - (deliveries recv s before).2.getLastD baseline < 0x8000 ∧
      (deliveries recv s before).2.getLastD baseline - i < 0x8000 := by
  induction before generalizing s with
  | nil => exact ⟨trivial, window.1, window.2.1⟩
  | cons j before ih =>
    obtain ⟨above, below, rest⟩ := window
    obtain ⟨hbefore, hi⟩ := ih rest
    exact ⟨⟨above, below, hbefore⟩, hi⟩

include recv_eq in
/-- **Acceptance over a schedule.** A delivered package is accepted exactly when
its index is above the baseline and above every index accepted before it. -/
theorem delivery_accepted_iff {s : σ × List Int} {before : List Int} {i : Int}
    {after : List Int} (tracks : Tracks first baseline s.2 (last s.1))
    (window : InWindow recv baseline s (before ++ i :: after)) :
    (recv (deliveries recv s before).1 i).2 = true ↔
      ∀ j ∈ baseline :: (deliveries recv s before).2, j < i := by
  obtain ⟨hbefore, above, below⟩ := window.split
  have haccept := (accept_spec (deliveries_track recv_eq tracks hbefore) i above below).1
  rwa [recv_eq] at haccept

end Deliveries

end SerialNumber
