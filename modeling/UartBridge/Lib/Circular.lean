import UartBridge.Lib.ByteMem

/-!
# Circular ranges

A circular range of a memory of `size` cells starts at some slot and runs on,
past the last slot to slot 0. Positions are wrapped by one comparison, so the
arithmetic stays linear.

* `wrap` — the slot `k` positions on, for `k` below twice the size;
* `slots` — the contents of a circular range;
* `slots_write_append` — writing at the slot after a range extends it;
* `slots_eq_read` — a range that does not wrap is a plain range.
-/

namespace Circular

variable {α : Type*}

/-- The slot a position below `2 * size` falls on. -/
def wrap (size k : Nat) : Nat := if k < size then k else k - size

theorem wrap_of_lt {size k : Nat} (h : k < size) : wrap size k = k := if_pos h

/-- The `count` cells from slot `start` on. -/
def slots (mem : Nat → α) (size start count : Nat) : List α :=
  (List.range count).map fun i => mem (wrap size (start + i))

@[simp] theorem length_slots (mem : Nat → α) (size start count : Nat) :
    (slots mem size start count).length = count := by
  simp [slots]

@[simp] theorem slots_zero (mem : Nat → α) (size start : Nat) :
    slots mem size start 0 = [] := rfl

/-- A circular range is read piecewise. -/
theorem slots_add (mem : Nat → α) (size start a b : Nat)
    (hab : start + a + b ≤ 2 * size) :
    slots mem size start (a + b) =
      slots mem size start a ++ slots mem size (wrap size (start + a)) b := by
  unfold slots
  rw [List.range_add, List.map_append, List.map_map]
  congr 1
  apply List.map_congr_left
  intro i hi
  have hib : i < b := by simpa using hi
  simp only [Function.comp_apply]
  congr 1
  unfold wrap
  split <;> split <;> (try split) <;> omega

/-- A range that ends before the last slot is a plain range. -/
theorem slots_eq_read (mem : Nat → α) (size start count : Nat) (fits : start + count ≤ size) :
    slots mem size start count = ByteMem.read mem start count := by
  unfold slots ByteMem.read
  apply List.map_congr_left
  intro i hi
  have : i < count := by simpa using hi
  rw [wrap_of_lt (by omega)]

/-- A write that misses every slot of a range leaves it alone. -/
theorem slots_write_apart (mem : Nat → α) (size start count off : Nat) (xs : List α)
    (apart : ∀ i, i < count →
      wrap size (start + i) < off ∨ off + xs.length ≤ wrap size (start + i)) :
    slots (ByteMem.write mem off xs) size start count = slots mem size start count := by
  unfold slots
  apply List.map_congr_left
  intro i hi
  exact ByteMem.write_outside mem off xs _ (apart i (by simpa using hi))

/-- Writing into the free slots after a range extends it: the old contents stay
and the new cells follow. -/
theorem slots_write_append (mem : Nat → α) (size start count : Nat) (xs : List α)
    (hstart : start < size) (room : count + xs.length ≤ size)
    (fits : wrap size (start + count) + xs.length ≤ size) :
    slots (ByteMem.write mem (wrap size (start + count)) xs) size start (count + xs.length) =
      slots mem size start count ++ xs := by
  rw [slots_add _ _ _ _ _ (by omega)]
  congr 1
  · apply slots_write_apart
    intro i hi
    unfold wrap at fits ⊢
    split at fits <;> split <;> omega
  · rw [slots_eq_read _ _ _ _ fits, ByteMem.read_write_same]

/-- The first cells of a range. -/
theorem take_slots (mem : Nat → α) (size start count k : Nat) (hk : k ≤ count)
    (hcount : start + count ≤ 2 * size) :
    (slots mem size start count).take k = slots mem size start k := by
  obtain ⟨d, rfl⟩ := Nat.exists_eq_add_of_le hk
  rw [slots_add _ _ _ _ _ (by omega), List.take_left' (by simp)]

/-- The cells of a range after its first ones. -/
theorem drop_slots (mem : Nat → α) (size start count k : Nat) (hk : k ≤ count)
    (hcount : start + count ≤ 2 * size) :
    (slots mem size start count).drop k =
      slots mem size (wrap size (start + k)) (count - k) := by
  obtain ⟨d, rfl⟩ := Nat.exists_eq_add_of_le hk
  rw [slots_add _ _ _ _ _ (by omega), List.drop_left' (by simp), Nat.add_sub_cancel_left]

end Circular
