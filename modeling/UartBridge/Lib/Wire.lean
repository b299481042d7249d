import Mathlib.Data.List.Pairwise
import UartBridge.Lib.ByteMem

/-!
# Frames on a wire

Cells are told apart by the number of the memory they come from and their position
in it, so that two cells with equal values are not taken for each other.

A sender puts frames of `n` cells on a wire, piece by piece; each frame is a memory
of its own. `Upto` says that the wire carries whole frames in order and then the
first cells of one more.

* `Upto.extend` — the next piece of that frame is put on the wire;
* `Upto.next` — a whole frame is on the wire, and a later one may follow;
* `Upto.length_mod` — the length tells whether the last frame is whole;
* `Framed.first_frame` — the first `n` cells come from one frame.
-/

namespace Wire

variable {α : Type*}

/-- A cell: the number of the memory it comes from, its position there, its value. -/
structure Cell (α : Type*) where
  src : Nat
  pos : Nat
  val : α
  deriving DecidableEq, Repr

/-- The cells `k`, …, `k + d - 1` of `mem`, which is number `i`. -/
def cells (i : Nat) (mem : Nat → α) (k d : Nat) : List (Cell α) :=
  (List.range' k d).map fun p => { src := i, pos := p, val := mem p }

/-- The wire carries whole frames in order, all before frame `q`, and then the
first `k` cells of frame `q`. -/
def Upto (n : Nat) (frames : Nat → Nat → α) (wire : List (Cell α)) (q k : Nat) : Prop :=
  ∃ whole : List Nat, whole.Pairwise (· < ·) ∧ (∀ i ∈ whole, i < q) ∧
    wire = whole.flatMap (fun i => cells i (frames i) 0 n) ++ cells q (frames q) 0 k

/-- Whole frames in order, and at most one that is cut off: the last. -/
def Framed (n : Nat) (frames : Nat → Nat → α) (wire : List (Cell α)) : Prop :=
  ∃ q k, k ≤ n ∧ Upto n frames wire q k

variable {n q k d : Nat} {frames : Nat → Nat → α} {wire : List (Cell α)}

theorem cells_zero (i : Nat) (mem : Nat → α) (k : Nat) : cells i mem k 0 = [] := rfl

/-- Pieces that follow each other make one piece. -/
theorem cells_append (i : Nat) (mem : Nat → α) (k d e : Nat) :
    cells i mem k d ++ cells i mem (k + d) e = cells i mem k (d + e) := by
  rw [cells, cells, cells, ← List.map_append, List.range'_append_1]

theorem length_cells (i : Nat) (mem : Nat → α) (k d : Nat) : (cells i mem k d).length = d := by
  rw [cells, List.length_map, List.length_range']

theorem src_of_mem_cells {i : Nat} {mem : Nat → α} {c : Cell α} (h : c ∈ cells i mem k d) :
    c.src = i := by
  obtain ⟨p, -, rfl⟩ := List.mem_map.mp h
  rfl

theorem length_whole (n : Nat) (frames : Nat → Nat → α) (whole : List Nat) :
    (whole.flatMap fun i => cells i (frames i) 0 n).length = whole.length * n := by
  induction whole with
  | nil => simp
  | cons i rest ih =>
    rw [List.flatMap_cons, List.length_append, length_cells, ih, List.length_cons, Nat.succ_mul,
      Nat.add_comm]

/-! ## Sending -/

/-- Nothing was sent yet. -/
theorem Upto.start (n : Nat) (frames : Nat → Nat → α) (q : Nat) : Upto n frames [] q 0 :=
  ⟨[], List.Pairwise.nil, fun _ h => absurd h List.not_mem_nil, rfl⟩

/-- The next piece of the frame. -/
theorem Upto.extend (h : Upto n frames wire q k) (d : Nat) :
    Upto n frames (wire ++ cells q (frames q) k d) q (k + d) := by
  obtain ⟨whole, hsorted, hbefore, rfl⟩ := h
  refine ⟨whole, hsorted, hbefore, ?_⟩
  have hpiece := cells_append q (frames q) 0 k d
  rw [Nat.zero_add] at hpiece
  rw [List.append_assoc, hpiece]

/-- When the frame is complete, any later one may follow. -/
theorem Upto.next (h : Upto n frames wire q n) {q' : Nat} (hq : q < q') :
    Upto n frames wire q' 0 := by
  obtain ⟨whole, hsorted, hbefore, rfl⟩ := h
  refine ⟨whole ++ [q], ?_, ?_, ?_⟩
  · rw [List.pairwise_append]
    refine ⟨hsorted, List.pairwise_singleton _ _, ?_⟩
    intro i hi j hj
    rw [List.mem_singleton.mp hj]
    exact hbefore i hi
  · intro i hi
    rcases List.mem_append.mp hi with hold | hnew
    · exact Nat.lt_trans (hbefore i hold) hq
    · rw [List.mem_singleton.mp hnew]
      exact hq
  · rw [List.flatMap_append, List.flatMap_singleton, cells_zero, List.append_nil]

/-- A frame of which nothing is on the wire may be left out. -/
theorem Upto.later (h : Upto n frames wire q 0) {q' : Nat} (hq : q ≤ q') :
    Upto n frames wire q' 0 := by
  obtain ⟨whole, hsorted, hbefore, rfl⟩ := h
  exact ⟨whole, hsorted, fun i hi => Nat.lt_of_lt_of_le (hbefore i hi) hq, rfl⟩

/-- Only the frames up to `q` matter, and `q` itself only if it was begun. -/
theorem Upto.congr (h : Upto n frames wire q k) {frames' : Nat → Nat → α}
    (hbefore : ∀ i, i < q → frames' i = frames i) (hlast : k = 0 ∨ frames' q = frames q) :
    Upto n frames' wire q k := by
  obtain ⟨whole, hsorted, hwhole, rfl⟩ := h
  refine ⟨whole, hsorted, hwhole, ?_⟩
  congr 1
  · rw [List.flatMap_def, List.flatMap_def]
    congr 1
    refine List.map_congr_left ?_
    intro i hi
    rw [hbefore i (hwhole i hi)]
  · rcases hlast with rfl | heq
    · rfl
    · rw [heq]

/-- The length of the wire tells whether the last frame was begun and not finished. -/
theorem Upto.length_mod (h : Upto n frames wire q k) : wire.length % n = k % n := by
  obtain ⟨whole, -, -, rfl⟩ := h
  rw [List.length_append, length_whole, length_cells, Nat.add_comm, Nat.add_mul_mod_self_right]

/-! ## Reading -/

/-- The first `n` cells come from one frame. -/
theorem Framed.first_frame (h : Framed n frames wire) :
    ∃ i, ∀ c ∈ wire.take n, c.src = i := by
  obtain ⟨q, k, -, whole, -, -, rfl⟩ := h
  cases whole with
  | nil => exact ⟨q, fun c hc => src_of_mem_cells (List.mem_of_mem_take hc)⟩
  | cons i rest =>
    refine ⟨i, ?_⟩
    intro c hc
    rw [List.flatMap_cons, List.append_assoc, List.take_left' (length_cells i (frames i) 0 n)] at hc
    exact src_of_mem_cells hc

end Wire
