import Mathlib.Data.List.Basic

/-!
# Bounded queues

What a ring buffer is for: items come out in the order in which they went in, and
no more than a fixed number of them is kept. A queue carries what was pushed and
popped since it was last cleared, and the proof that its items are the difference.

* `push`, `pop`, `clear` — the operations, for any number of items at once;
* `step` — the queue as an event-driven system: an operation that there is no room
  for, or that asks for more than is there, cannot happen;
* `items_eq_drop` — the items are what comes behind the popped ones.
-/

/-- A queue of at most `cap` items, oldest first. -/
structure BoundedFifo (α : Type*) (cap : Nat) where
  items : List α
  pushed : List α
  popped : List α
  length_le : items.length ≤ cap
  order : popped ++ items = pushed

namespace BoundedFifo

variable {α : Type*} {cap : Nat}

/-- The empty queue. -/
def empty : BoundedFifo α cap where
  items := []
  pushed := []
  popped := []
  length_le := Nat.zero_le _
  order := rfl

/-- How many items there is room for. -/
def room (q : BoundedFifo α cap) : Nat := cap - q.items.length

/-- New items go behind the others. -/
def push (q : BoundedFifo α cap) (xs : List α) (hroom : xs.length ≤ q.room) :
    BoundedFifo α cap where
  items := q.items ++ xs
  pushed := q.pushed ++ xs
  popped := q.popped
  length_le := by
    have hle := q.length_le
    unfold room at hroom
    rw [List.length_append]
    omega
  order := by rw [← List.append_assoc, q.order]

/-- The oldest items are taken out. -/
def pop (q : BoundedFifo α cap) (k : Nat) : BoundedFifo α cap where
  items := q.items.drop k
  pushed := q.pushed
  popped := q.popped ++ q.items.take k
  length_le := by
    have hle := q.length_le
    rw [List.length_drop]
    omega
  order := by rw [List.append_assoc, List.take_append_drop, q.order]

/-- What a queue can be asked for; `peek` leaves it as it is. -/
inductive Op (α : Type*) where
  | peek
  | push (xs : List α)
  | pop (k : Nat)
  | clear
  deriving DecidableEq

/-- One operation. -/
def step (q : BoundedFifo α cap) : Op α → Option (BoundedFifo α cap)
  | .peek => some q
  | .push xs => if hroom : xs.length ≤ q.room then some (q.push xs hroom) else none
  | .pop k => if k ≤ q.items.length then some (q.pop k) else none
  | .clear => some empty

theorem step_push {q : BoundedFifo α cap} {xs : List α} (hroom : xs.length ≤ q.room) :
    q.step (.push xs) = some (q.push xs hroom) := dif_pos hroom

theorem step_pop {q : BoundedFifo α cap} {k : Nat} (hk : k ≤ q.items.length) :
    q.step (.pop k) = some (q.pop k) := if_pos hk

/-- What is in the queue is what was pushed and not yet popped. -/
theorem items_eq_drop (q : BoundedFifo α cap) : q.items = q.pushed.drop q.popped.length := by
  rw [← q.order, List.drop_left]

end BoundedFifo
