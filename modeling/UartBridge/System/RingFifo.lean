import UartBridge.Lib.BoundedFifo
import UartBridge.Lib.Run
import UartBridge.Client.PortWorker
import UartBridge.Firmware.UARTWorker

/-!
# The ring buffer is a bounded queue

A writer and a reader share a ring buffer. Each asks for a range (`GetHead`, `GetTail`),
fills or reads it in his own time and commits a part of it, while the other does the same;
a handle is good until its own side commits or the buffer is reset.

* `step` — the calls, with the handles that are still good;
* `Simulates` — the ring buffer against a queue of at most `size - 1` items;
* `step_simulates` — every call is an operation of the queue;
* `CopyLoop` — the receivers' copy loops, round by round;
* `ring_fifo` — what both programs' buffers and copy loops do.
-/

namespace UartBridge.RingFifo

open Client Firmware EventRun

/-! ## The calls -/

/-- A ring buffer in use. `heads` and `tails` are the handles still good; `written` was
committed at the head, and `taken` at the tail, since the last `Reset`. -/
structure State (α : Type) (size : Nat) where
  ring : DataBuffer α size
  heads : List Handle
  tails : List Handle
  written : List α
  taken : List α

/-- A call, or the writer filling a part of a range that he was given. -/
inductive Event (α : Type) where
  | getHead
  | getTail
  | fill (handle : Handle) (offset : Nat) (xs : List α)
  | commitHead (handle : Handle) (usedSz : Nat)
  | commitTail (handle : Handle) (usedSz : Nat)
  | reset
  deriving DecidableEq

variable {α : Type} {size : Nat}

/-- One call. `getHead` and `getTail` are those of the client or of the firmware; `Commit`
does not know which of the two a handle is from. -/
def step (getHead getTail : DataBuffer α size → Handle) (s : State α size) :
    Event α → Option (State α size)
  | .getHead => some { s with heads := getHead s.ring :: s.heads }
  | .getTail => some { s with tails := getTail s.ring :: s.tails }
  | .fill handle offset xs =>
    if handle ∈ s.heads ∧ offset + xs.length ≤ handle.maxSz then
      some { s with ring := s.ring.memcpy (handle.buffer + offset) xs }
    else none
  | .commitHead handle usedSz =>
    if handle ∈ s.heads ∧ usedSz ≤ handle.maxSz then
      some { s with
        ring := s.ring.commit handle usedSz
        heads := []
        written := s.written ++ ByteMem.read s.ring.storage handle.buffer usedSz }
    else none
  | .commitTail handle usedSz =>
    if handle ∈ s.tails ∧ usedSz ≤ handle.maxSz then
      some { s with
        ring := s.ring.commit handle usedSz
        tails := []
        taken := s.taken ++ ByteMem.read s.ring.storage handle.buffer usedSz }
    else none
  | .reset =>
    some { ring := s.ring.reset, heads := [], tails := [], written := [], taken := [] }

/-- A new ring buffer. -/
def start (storage : Nat → α) (hsize : 0 < size) : State α size :=
  { ring := DataBuffer.create storage hsize, heads := [], tails := [], written := [], taken := [] }

/-! ## The ring buffer as a queue -/

/-- A range that starts at a pointer, inside the array and inside the free (or stored) part. -/
structure Range (size pointer room : Nat) (handle : Handle) : Prop where
  starts : handle.buffer = pointer
  room_le : handle.maxSz ≤ room
  inside : pointer + handle.maxSz ≤ size

/-- The client's handles, when they are taken. -/
theorem range_client (b : DataBuffer α size) :
    Range size b.head b.free b.getHead ∧ Range size b.tail b.stored b.getTail :=
  ⟨⟨rfl, b.getHead_spec.2.1, b.getHead_spec.1⟩, ⟨rfl, b.getTail_spec.2.1, b.getTail_spec.1⟩⟩

/-- The firmware's handles: a narrowed size is no larger. -/
theorem range_firmware (b : DataBuffer α size) :
    Range size b.head b.free (Firmware.DataBuffer.getHead b) ∧
      Range size b.tail b.stored (Firmware.DataBuffer.getTail b) := by
  obtain ⟨⟨-, hroom, hinside⟩, -, hstored, hfits⟩ := range_client b
  have hhead : b.getHead.maxSz % 0x10000 ≤ b.getHead.maxSz := Nat.mod_le _ _
  have htail : b.getTail.maxSz % 0x10000 ≤ b.getTail.maxSz := Nat.mod_le _ _
  exact ⟨⟨rfl, Nat.le_trans hhead hroom, Nat.le_trans (Nat.add_le_add_left hhead _) hinside⟩,
    ⟨rfl, Nat.le_trans htail hstored, Nat.le_trans (Nat.add_le_add_left htail _) hfits⟩⟩

/-- The ring buffer holds the queue's items; every good handle is a range of its own
side. -/
structure Simulates (s : State α size) (q : BoundedFifo α (size - 1)) : Prop where
  items_eq : q.items = s.ring.contents
  pushed_eq : q.pushed = s.written
  popped_eq : q.popped = s.taken
  heads : ∀ handle ∈ s.heads, Range size s.ring.head s.ring.free handle
  tails : ∀ handle ∈ s.tails, Range size s.ring.tail s.ring.stored handle

/-- Filling a free range leaves the stored bytes alone. -/
theorem contents_memcpy_free (b : DataBuffer α size) (offset : Nat) (xs : List α)
    (room : offset + xs.length ≤ b.free) :
    (b.memcpy (b.head + offset) xs).contents = b.contents := by
  have hh := b.head_lt
  have ht := b.tail_lt
  have hlt := b.stored_lt
  have hhead := b.head_eq_wrap
  unfold DataBuffer.free at room
  refine Circular.slots_write_apart _ _ _ _ _ _ fun i hi => ?_
  -- a stored slot is before the head or, past the end of the array, behind the free part
  have hi : i < b.stored := hi
  show Circular.wrap size (b.tail + i) < b.head + offset ∨
    b.head + offset + xs.length ≤ Circular.wrap size (b.tail + i)
  unfold Circular.wrap at hhead ⊢
  split at hhead <;> split <;> omega

/-- Committing at the tail leaves the head where it is, even when the two are equal. -/
theorem commit_tail_head (b : DataBuffer α size) (handle : Handle) (k : Nat)
    (atTail : handle.buffer = b.tail) (hk : k ≤ b.stored) : (b.commit handle k).head = b.head := by
  by_cases hzero : k = 0
  · rw [hzero, DataBuffer.commit_zero]
  · have hapart : handle.buffer ≠ b.head := by
      intro heq
      rw [atTail] at heq
      unfold DataBuffer.stored at hk
      rw [if_pos (Nat.le_of_eq heq)] at hk
      omega
    unfold DataBuffer.commit
    rw [if_neg hapart]

/-- What the head's owner has put at the start of his range is appended by his commit. -/
theorem commit_head_spec (b : DataBuffer α size) (handle : Handle) (k : Nat)
    (atHead : handle.buffer = b.head) (room : k ≤ b.free) (inside : b.head + k ≤ size) :
    (b.commit handle k).contents = b.contents ++ ByteMem.read b.storage handle.buffer k ∧
      (b.commit handle k).stored = b.stored + k ∧ (b.commit handle k).tail = b.tail := by
  -- the bytes are already there: copying them there again changes nothing
  have hsame : b.memcpy handle.buffer (ByteMem.read b.storage handle.buffer k) = b := by
    unfold DataBuffer.memcpy
    rw [ByteMem.write_read_self]
  have hlen : (ByteMem.read b.storage handle.buffer k).length = k := ByteMem.length_read _ _ _
  have h := b.append_spec handle (ByteMem.read b.storage handle.buffer k) atHead
    (by omega) (by omega)
  rwa [hsame, hlen] at h

section Steps

variable {getHead getTail : DataBuffer α size → Handle} {s t : State α size}
  {q : BoundedFifo α (size - 1)} {handle : Handle} {k : Nat}

/-- The queue has room for what the ring buffer has. -/
theorem Simulates.room_eq (h : Simulates s q) : q.room = s.ring.free := by
  unfold BoundedFifo.room DataBuffer.free
  rw [h.items_eq, DataBuffer.length_contents]

/-- The writer's commit is a push. -/
theorem Simulates.commitHead (h : Simulates s q) (hmem : handle ∈ s.heads)
    (hk : k ≤ handle.maxSz) :
    ∃ q', q.step (.push (ByteMem.read s.ring.storage handle.buffer k)) = some q' ∧
      Simulates { s with
        ring := s.ring.commit handle k
        heads := []
        written := s.written ++ ByteMem.read s.ring.storage handle.buffer k } q' := by
  obtain ⟨hstarts, hroom, hinside⟩ := h.heads handle hmem
  have hlen : (ByteMem.read s.ring.storage handle.buffer k).length = k :=
    ByteMem.length_read _ _ _
  obtain ⟨hcontents, hstored, htail⟩ :=
    commit_head_spec s.ring handle k hstarts (by omega) (by omega)
  refine ⟨_, BoundedFifo.step_push (by rw [h.room_eq, hlen]; omega), ?_⟩
  refine ⟨?_, ?_, h.popped_eq, fun _ hnone => absurd hnone List.not_mem_nil, ?_⟩
  · show q.items ++ _ = _
    rw [h.items_eq, hcontents]
  · show q.pushed ++ _ = _
    rw [h.pushed_eq]
  · intro other hother
    obtain ⟨hat, hle, hin⟩ := h.tails other hother
    exact ⟨hat.trans htail.symm, by dsimp only; omega, by dsimp only; omega⟩

/-- The reader's commit is a pop. -/
theorem Simulates.commitTail (h : Simulates s q) (hmem : handle ∈ s.tails)
    (hk : k ≤ handle.maxSz) :
    ∃ q', q.step (.pop k) = some q' ∧
      Simulates { s with
        ring := s.ring.commit handle k
        tails := []
        taken := s.taken ++ ByteMem.read s.ring.storage handle.buffer k } q' := by
  obtain ⟨hstarts, hstored, hinside⟩ := h.tails handle hmem
  have hkept : k ≤ s.ring.stored := Nat.le_trans hk hstored
  have hfits : s.ring.tail + k ≤ size := by omega
  obtain ⟨hcontents, hleft⟩ := s.ring.commit_tail_spec handle k hstarts hkept hfits
  have hhead := commit_tail_head s.ring handle k hstarts hkept
  refine ⟨_, BoundedFifo.step_pop (by rw [h.items_eq, DataBuffer.length_contents]; exact hkept), ?_⟩
  refine ⟨?_, h.pushed_eq, ?_, ?_, fun _ hnone => absurd hnone List.not_mem_nil⟩
  · show q.items.drop k = _
    rw [h.items_eq, hcontents]
  · show q.popped ++ q.items.take k = _
    rw [h.popped_eq, h.items_eq, hstarts, s.ring.read_tail k hkept hfits]
  · intro other hother
    obtain ⟨hat, hle, hin⟩ := h.heads other hother
    refine ⟨hat.trans hhead.symm, ?_, by dsimp only; omega⟩
    -- the other side's room only grows
    unfold DataBuffer.free at hle ⊢
    dsimp only
    omega

/-- **Every call is an operation of the queue.** -/
theorem step_simulates (headRange : ∀ b, Range size b.head b.free (getHead b))
    (tailRange : ∀ b, Range size b.tail b.stored (getTail b)) (h : Simulates s q) {e : Event α}
    (hstep : step getHead getTail s e = some t) :
    ∃ op q', q.step op = some q' ∧ Simulates t q' := by
  cases e with
  | getHead =>
    simp only [step, Option.some.injEq] at hstep
    subst hstep
    refine ⟨.peek, q, rfl, h.items_eq, h.pushed_eq, h.popped_eq, ?_, h.tails⟩
    intro handle hmem
    rcases List.mem_cons.mp hmem with rfl | hold
    · exact headRange s.ring
    · exact h.heads handle hold
  | getTail =>
    simp only [step, Option.some.injEq] at hstep
    subst hstep
    refine ⟨.peek, q, rfl, h.items_eq, h.pushed_eq, h.popped_eq, h.heads, ?_⟩
    intro handle hmem
    rcases List.mem_cons.mp hmem with rfl | hold
    · exact tailRange s.ring
    · exact h.tails handle hold
  | fill handle offset xs =>
    simp only [step, Option.ite_none_right_eq_some, Option.some.injEq] at hstep
    obtain ⟨⟨hmem, hlen⟩, rfl⟩ := hstep
    obtain ⟨hstarts, hroom, hinside⟩ := h.heads handle hmem
    refine ⟨.peek, q, rfl, ?_, h.pushed_eq, h.popped_eq, h.heads, h.tails⟩
    rw [h.items_eq, hstarts, contents_memcpy_free s.ring offset xs (by omega)]
  | commitHead handle k =>
    simp only [step, Option.ite_none_right_eq_some, Option.some.injEq] at hstep
    obtain ⟨⟨hmem, hk⟩, rfl⟩ := hstep
    exact ⟨_, h.commitHead hmem hk⟩
  | commitTail handle k =>
    simp only [step, Option.ite_none_right_eq_some, Option.some.injEq] at hstep
    obtain ⟨⟨hmem, hk⟩, rfl⟩ := hstep
    exact ⟨_, h.commitTail hmem hk⟩
  | reset =>
    simp only [step, Option.some.injEq] at hstep
    subst hstep
    exact ⟨.clear, BoundedFifo.empty, rfl, (DataBuffer.contents_reset s.ring).symm, rfl, rfl,
      fun _ hnone => absurd hnone List.not_mem_nil, fun _ hnone => absurd hnone List.not_mem_nil⟩

end Steps

/-! ## Runs -/

/-- The buffer after a run, against the queue that did the same. -/
structure Ordered (s : State α size) : Prop where
  refines : ∃ ops q, exec BoundedFifo.step (BoundedFifo.empty : BoundedFifo α (size - 1)) ops =
    some q ∧ Simulates s q
  head_inside : s.ring.head < size
  tail_inside : s.ring.tail < size
  order : s.taken ++ s.ring.contents = s.written
  length_le : s.ring.contents.length ≤ size - 1
  tail_reads : ∀ handle ∈ s.tails, ByteMem.read s.ring.storage handle.buffer handle.maxSz =
    (s.written.drop s.taken.length).take handle.maxSz

/-- A range is offered whenever there is something to offer. -/
structure Offers (getHead getTail : DataBuffer α size → Handle) (b : DataBuffer α size) :
    Prop where
  head_pos : 1 ≤ (getHead b).maxSz ↔ b.contents.length < size - 1
  tail_pos : 1 ≤ (getTail b).maxSz ↔ 1 ≤ b.contents.length

/-- **Every run is a run of the queue.** -/
theorem ordered_of_run {getHead getTail : DataBuffer α size → Handle}
    (headRange : ∀ b, Range size b.head b.free (getHead b))
    (tailRange : ∀ b, Range size b.tail b.stored (getTail b)) {storage : Nat → α}
    {hsize : 0 < size} {es : List (Event α)} {s : State α size}
    (hrun : exec (step getHead getTail) (start storage hsize) es = some s) : Ordered s := by
  have hstart : Simulates (start storage hsize) (BoundedFifo.empty : BoundedFifo α (size - 1)) :=
    ⟨(DataBuffer.contents_create storage hsize).symm, rfl, rfl,
      fun _ hnone => absurd hnone List.not_mem_nil, fun _ hnone => absurd hnone List.not_mem_nil⟩
  obtain ⟨ops, q, hops, hq⟩ := exec_simulation Simulates
    (fun _ _ _ _ hsim hstep => step_simulates headRange tailRange hsim hstep) hstart hrun
  refine ⟨⟨ops, q, hops, hq⟩, s.ring.head_lt, s.ring.tail_lt, ?_, ?_, ?_⟩
  · rw [← hq.popped_eq, ← hq.items_eq, ← hq.pushed_eq]
    exact q.order
  · rw [← hq.items_eq]
    exact q.length_le
  · intro handle hmem
    obtain ⟨hstarts, hstored, hinside⟩ := hq.tails handle hmem
    rw [hstarts, s.ring.read_tail _ hstored hinside, ← hq.items_eq, q.items_eq_drop,
      hq.pushed_eq, hq.popped_eq]

/-- The client's buffer offers what there is. -/
theorem offers_client (b : DataBuffer α size) :
    Offers DataBuffer.getHead DataBuffer.getTail b := by
  obtain ⟨-, hroom, hfull⟩ := b.getHead_spec
  obtain ⟨-, hstored, hempty⟩ := b.getTail_spec
  unfold DataBuffer.free at hroom hfull
  refine ⟨?_, ?_⟩
  · rw [DataBuffer.length_contents]
    omega
  · rw [DataBuffer.length_contents]
    omega

/-- So does the firmware's, with an array that a 16-bit size can describe. -/
theorem offers_firmware (hsize : size < 0x10000) (b : DataBuffer α size) :
    Offers Firmware.DataBuffer.getHead Firmware.DataBuffer.getTail b := by
  obtain ⟨hhead, htail⟩ := offers_client b
  refine ⟨?_, ?_⟩
  · rw [Firmware.DataBuffer.getHead_eq hsize]
    exact hhead
  · rw [Firmware.DataBuffer.getTail_eq hsize]
    exact htail

/-! ## The copy loops -/

/-- The receivers' copy loop from a buffer and what is left of the payload to the buffer
and what is left over. It ends when nothing is left or nothing is offered; a round fills
the offered range as far as the payload goes. -/
inductive CopyLoop (getHead : DataBuffer α size → Handle) :
    DataBuffer α size → List α → DataBuffer α size → List α → Prop where
  | stop (b : DataBuffer α size) (rest : List α)
      (why : rest.length = 0 ∨ (getHead b).maxSz = 0) : CopyLoop getHead b rest b rest
  | round (b : DataBuffer α size) (rest : List α) (b' : DataBuffer α size) (rest' : List α)
      (left : 0 < rest.length) (offered : 0 < (getHead b).maxSz)
      (next : CopyLoop getHead
        ((b.memcpy (getHead b).buffer (rest.take (min (getHead b).maxSz rest.length))).commit
          (getHead b) (min (getHead b).maxSz rest.length))
        (rest.drop (min (getHead b).maxSz rest.length)) b' rest') :
      CopyLoop getHead b rest b' rest'

/-- **The loop ends**, after no more rounds than there are bytes. -/
theorem store_copyLoop (getHead : DataBuffer α size → Handle) (fuel : Nat)
    (b : DataBuffer α size) (rest : List α) (enough : rest.length ≤ fuel) :
    CopyLoop getHead b rest (DataBuffer.store getHead fuel b rest).1
      (DataBuffer.store getHead fuel b rest).2 := by
  induction fuel generalizing b rest with
  | zero => exact .stop b rest (Or.inl (Nat.le_zero.mp enough))
  | succ fuel ih =>
    have hmin : (if (getHead b).maxSz < rest.length then (getHead b).maxSz else rest.length) =
        min (getHead b).maxSz rest.length := by
      split <;> omega
    simp only [DataBuffer.store, hmin]
    split
    · rename_i hstop
      exact .stop b rest (by omega)
    · rename_i hgo
      refine .round b rest _ _ (by omega) (by omega) (ih _ _ ?_)
      rw [List.length_drop]
      omega

/-- The payload is copied as far as it fits, in order, by a loop that ends. -/
structure Copies (getHead : DataBuffer α size → Handle) (b : DataBuffer α size)
    (payload : List α) (b' : DataBuffer α size) : Prop where
  ends : ∃ lost, CopyLoop getHead b payload b' lost
  contents_eq : b'.contents =
    b.contents ++ payload.take (min payload.length (size - 1 - b.contents.length))

/-- **The copy loop of both receivers.** -/
theorem copies_store {getHead : DataBuffer α size → Handle}
    (same : ∀ b, getHead b = DataBuffer.getHead b) (b : DataBuffer α size) (payload : List α) :
    Copies getHead b payload (DataBuffer.store getHead payload.length b payload).1 := by
  refine ⟨⟨_, store_copyLoop getHead payload.length b payload (Nat.le_refl _)⟩, ?_⟩
  have htake : payload.take b.free = payload.take (min payload.length b.free) := by
    rw [Nat.min_comm]
    exact List.take_eq_take_min
  rw [(DataBuffer.store_spec getHead same payload.length b payload (Nat.le_refl _)).1, htake,
    DataBuffer.length_contents]
  rfl

/-! ## Both programs -/

/-- **The ring buffer is a bounded queue.** For every size and every run of calls, on the
client and on the firmware, whose sizes are 16-bit numbers. -/
theorem ring_fifo (hsize : 0 < size) (storage : Nat → α) :
    (∀ es s, exec (step DataBuffer.getHead DataBuffer.getTail) (start storage hsize) es = some s →
        Ordered s ∧ Offers DataBuffer.getHead DataBuffer.getTail s.ring) ∧
      (∀ (w : PortWorker α size) (payload : List α),
        Copies DataBuffer.getHead w.rxRingBuff payload (w.rxWrite payload).rxRingBuff) ∧
      (∀ es s, exec (step Firmware.DataBuffer.getHead Firmware.DataBuffer.getTail)
          (start storage hsize) es = some s →
        Ordered s ∧ (size < 0x10000 →
          Offers Firmware.DataBuffer.getHead Firmware.DataBuffer.getTail s.ring)) ∧
      (size < 0x10000 → ∀ (w : UARTWorker size) (now : UInt32) (rxDataBuff : Nat → UInt8)
        (request : Firmware.Request), request.type = .Data →
        Copies Firmware.DataBuffer.getHead w.rxRingBuff
          (ByteMem.read rxDataBuff 0 request.plSz.toNat)
          (w.processRequest now rxDataBuff request).1.rxRingBuff) := by
  refine ⟨?_, ?_, ?_, ?_⟩
  · intro es s hrun
    exact ⟨ordered_of_run (fun b => (range_client b).1) (fun b => (range_client b).2) hrun,
      offers_client s.ring⟩
  · intro w payload
    exact copies_store (fun _ => rfl) w.rxRingBuff payload
  · intro es s hrun
    exact ⟨ordered_of_run (fun b => (range_firmware b).1) (fun b => (range_firmware b).2) hrun,
      fun hlt => offers_firmware hlt s.ring⟩
  · intro hlt w now rxDataBuff request hdata
    unfold UARTWorker.processRequest
    rw [hdata]
    exact copies_store (Firmware.DataBuffer.getHead_eq hlt) w.rxRingBuff _

section Examples

/-- In an array of four bytes: a writer and a reader take ranges, the writer goes twice
round the end of the array, and the reader commits handles that are older than the
writer's last commits. -/
def wraps : List (Event UInt8) :=
  [.getHead, .fill ⟨0, 3⟩ 0 [1, 2], .commitHead ⟨0, 3⟩ 2, .getTail, .getHead,
   .fill ⟨2, 1⟩ 0 [3], .commitHead ⟨2, 1⟩ 1, .commitTail ⟨0, 2⟩ 2, .getHead, .getTail,
   .fill ⟨3, 1⟩ 0 [4], .commitHead ⟨3, 1⟩ 1, .commitTail ⟨2, 1⟩ 1, .getHead,
   .fill ⟨0, 2⟩ 0 [5, 6], .commitHead ⟨0, 2⟩ 2, .getTail]

def afterWraps : State UInt8 4 :=
  (exec (step DataBuffer.getHead DataBuffer.getTail) (start (fun _ => 0) (by decide)) wraps).getD
    (start (fun _ => 0) (by decide))

theorem ring_fifo_wraps : Ordered afterWraps ∧ afterWraps.ring.contents = [4, 5, 6] := by
  have hrun : exec (step DataBuffer.getHead DataBuffer.getTail)
      (start (fun _ => (0 : UInt8)) (by decide : 0 < 4)) wraps = some afterWraps :=
    exec_eq_some_getD (by decide +kernel)
  exact ⟨((ring_fifo (by decide) fun _ => 0).1 wraps afterWraps hrun).1, by decide +kernel⟩

end Examples

end UartBridge.RingFifo
