import UartBridge.Lib.ByteMem

/-!
# Frames of a fixed size in a byte stream

A sender puts frames of `n` cells into a stream, one after the other. A receiver
takes any number of cells at a time, but never more than the current frame still
lacks, and has a frame when it has collected `n` cells. `InTransit` is the
invariant of the two: what is collected and what is still in the stream are the
frames not yet received.

* `InTransit.send` — a frame goes into the stream;
* `InTransit.take` — a part of a frame is taken out;
* `InTransit.complete` — the part that completes a frame: it is the oldest frame;
* `InTransit.frames_eq_nil` — with an empty stream, every frame was received.

`Receiving` is the same for a receiver that collects in the first cells of a
memory and counts the cells that are left.
-/

namespace Framing

variable {α : Type*}

/-- `collected` and `stream` are made up of the frames on their way, oldest
first, and `collected` is not a whole frame. -/
structure InTransit (n : Nat) (collected stream : List α) (frames : List (List α)) : Prop where
  length_eq : ∀ frame ∈ frames, frame.length = n
  bytes_eq : collected ++ stream = frames.flatten
  collected_lt : collected.length < n

variable {n : Nat} {collected stream : List α} {frames : List (List α)}

/-- Nothing is on its way. -/
theorem InTransit.start (hn : 0 < n) : InTransit n ([] : List α) [] [] :=
  ⟨fun _ h => absurd h List.not_mem_nil, rfl, hn⟩

/-- One more frame is sent. -/
theorem InTransit.send (h : InTransit n collected stream frames) {frame : List α}
    (hframe : frame.length = n) : InTransit n collected (stream ++ frame) (frames ++ [frame]) := by
  refine ⟨?_, ?_, h.collected_lt⟩
  · intro f hf
    rcases List.mem_append.mp hf with hold | hnew
    · exact h.length_eq f hold
    · rw [List.mem_singleton.mp hnew, hframe]
  · rw [← List.append_assoc, h.bytes_eq, List.flatten_append, List.flatten_singleton]

/-- A part of a frame is taken. -/
theorem InTransit.take (h : InTransit n collected stream frames) {k : Nat}
    (hk : (collected ++ stream.take k).length < n) :
    InTransit n (collected ++ stream.take k) (stream.drop k) frames :=
  ⟨h.length_eq, by rw [List.append_assoc, List.take_append_drop, h.bytes_eq], hk⟩

/-- What completes a frame completes the oldest one. -/
theorem InTransit.complete (h : InTransit n collected stream frames) {k : Nat}
    (hk : (collected ++ stream.take k).length = n) :
    ∃ rest, frames = (collected ++ stream.take k) :: rest ∧
      InTransit n [] (stream.drop k) rest := by
  have hbytes : (collected ++ stream.take k) ++ stream.drop k = frames.flatten := by
    rw [List.append_assoc, List.take_append_drop, h.bytes_eq]
  have hpos : 0 < n := Nat.lt_of_le_of_lt (Nat.zero_le _) h.collected_lt
  cases frames with
  | nil =>
    -- a frame was collected, so there is one
    have hnil := congrArg List.length hbytes
    rw [List.length_append, hk, List.flatten_nil, List.length_nil] at hnil
    omega
  | cons frame rest =>
    have hframe : frame.length = n := h.length_eq frame List.mem_cons_self
    rw [List.flatten_cons] at hbytes
    obtain ⟨hfirst, hrest⟩ := List.append_inj hbytes (hk.trans hframe.symm)
    exact ⟨rest, by rw [hfirst],
      fun f hf => h.length_eq f (List.mem_cons_of_mem _ hf), hrest, hpos⟩

/-- When the stream is empty, nothing is on its way. -/
theorem InTransit.frames_eq_nil (h : InTransit n collected [] frames) : frames = [] := by
  cases frames with
  | nil => rfl
  | cons frame rest =>
    have hframe : frame.length = n := h.length_eq frame List.mem_cons_self
    have hlen := congrArg List.length h.bytes_eq
    rw [List.append_nil, List.flatten_cons, List.length_append, hframe] at hlen
    have hlt := h.collected_lt
    omega

/-! ## Collecting in a memory -/

/-- The first `n - left` cells of the memory are what is collected. -/
structure Receiving (n : Nat) (mem : Nat → α) (left : Nat) (stream : List α)
    (frames : List (List α)) : Prop where
  transit : InTransit n (ByteMem.read mem 0 (n - left)) stream frames
  left_le : left ≤ n

/-- At the start of a frame, whatever the memory holds. -/
theorem Receiving.restart {frames : List (List α)} (h : InTransit n [] stream frames)
    (mem : Nat → α) : Receiving n mem n stream frames :=
  ⟨by rw [Nat.sub_self, ByteMem.read_zero]; exact h, Nat.le_refl n⟩

theorem Receiving.send {mem : Nat → α} {left : Nat} (h : Receiving n mem left stream frames)
    {frame : List α} (hframe : frame.length = n) :
    Receiving n mem left (stream ++ frame) (frames ++ [frame]) :=
  ⟨h.transit.send hframe, h.left_le⟩

section Store

variable {mem : Nat → α} {left k : Nat}

/-- What is stored comes behind what was collected. -/
theorem read_store (mem : Nat → α) (n left : Nat) (hstream : k ≤ stream.length) :
    ByteMem.read (ByteMem.write mem (n - left) (stream.take k)) 0 (n - left + k) =
      ByteMem.read mem 0 (n - left) ++ stream.take k := by
  have h := ByteMem.read_write_append mem 0 (n - left) (stream.take k)
  rwa [Nat.zero_add, List.length_take, Nat.min_eq_left hstream] at h

/-- A part of a frame is stored. -/
theorem Receiving.store (h : Receiving n mem left stream frames) (hk : k < left)
    (hstream : k ≤ stream.length) :
    Receiving n (ByteMem.write mem (n - left) (stream.take k)) (left - k) (stream.drop k)
      frames := by
  have hleft := h.left_le
  have hread := read_store mem n left hstream
  have hsum : n - (left - k) = n - left + k := by omega
  refine ⟨?_, by omega⟩
  rw [hsum, hread]
  refine h.transit.take ?_
  rw [← hread, ByteMem.length_read]
  omega

/-- The last part of a frame is stored: the memory holds the oldest frame. -/
theorem Receiving.complete (h : Receiving n mem left stream frames)
    (hstream : left ≤ stream.length) :
    ∃ rest, frames =
        ByteMem.read (ByteMem.write mem (n - left) (stream.take left)) 0 n :: rest ∧
      InTransit n [] (stream.drop left) rest := by
  have hleft := h.left_le
  have hread := read_store mem n left hstream
  have hsum : n - left + left = n := by omega
  rw [hsum] at hread
  obtain ⟨rest, hframes, htransit⟩ := h.transit.complete (k := left) (by
    rw [← hread, ByteMem.length_read])
  exact ⟨rest, by rw [hread]; exact hframes, htransit⟩

end Store

end Framing
