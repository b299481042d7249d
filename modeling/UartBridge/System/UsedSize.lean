import UartBridge.System.RingFifo

/-!
# What UsedSize counts

`UsedSize` feeds two decisions: the client's writer waits until it is positive, and the
firmware tells the client to hold back while `IsHalfUsed`. The three copies of the class
compute it from the pointers by different expressions.

* `Counts` — what a copy's `UsedSize` and `IsHalfUsed` are for;
* `counts_iff` — the client's and the firmware's are right unless `head` is below `tail`;
* `counts_loopback` — the loopback firmware's are right there too;
* `used_size_exact` — the same for every buffer that a run leads to, and the block bit.
-/

namespace UartBridge.UsedSize

open Client Firmware EventRun RingFifo

variable {α : Type} {size : Nat}

/-- The bytes committed at the head and not yet at the tail, since the last `Reset`. -/
def waiting (s : State α size) : Nat := s.written.length - s.taken.length

/-- The count is the number of bytes that wait, and the half mark is passed when more than
half of the array waits. -/
structure Counts (usedSize : DataBuffer α size → Nat) (isHalfUsed : DataBuffer α size → Bool)
    (s : State α size) : Prop where
  usedSize_eq : usedSize s.ring = waiting s
  isHalfUsed_iff : isHalfUsed s.ring = true ↔ size / 2 < waiting s

/-- What waits is what the pointers of the buffer enclose. -/
theorem waiting_eq {s : State α size} (h : Ordered s) : waiting s = s.ring.stored := by
  have hlen := congrArg List.length h.order
  rw [List.length_append, DataBuffer.length_contents] at hlen
  unfold waiting
  omega

/-- A half mark that looks at an exact count is exact. -/
theorem counts_of_usedSize {usedSize : DataBuffer α size → Nat} {s : State α size}
    (exact_count : usedSize s.ring = waiting s) :
    Counts usedSize (fun b => decide (size / 2 < usedSize b)) s := by
  refine ⟨exact_count, ?_⟩
  rw [decide_eq_true_iff, exact_count]

/-! ## The three copies -/

/-- The client's count is exact unless `head` has wrapped below `tail`. -/
theorem counts_iff {s : State α size} (h : Ordered s) :
    Counts DataBuffer.usedSize DataBuffer.isHalfUsed s ↔ s.ring.tail ≤ s.ring.head := by
  have hcount := s.ring.usedSize_eq
  rw [← waiting_eq h] at hcount
  constructor
  · intro hexact
    have heq := hexact.usedSize_eq
    by_contra hwrapped
    rw [if_neg hwrapped] at hcount
    omega
  · intro hle
    rw [if_pos hle] at hcount
    exact counts_of_usedSize hcount

/-- The half mark of the client is wrong at one fill only. -/
theorem isHalfUsed_iff (b : DataBuffer α size) :
    (b.isHalfUsed = true ↔ size / 2 < b.stored) ↔ b.tail ≤ b.head ∨ b.stored ≠ size / 2 := by
  have hcount := b.usedSize_eq
  unfold DataBuffer.isHalfUsed
  rw [decide_eq_true_iff, hcount]
  split
  · rename_i hle
    exact iff_of_true Iff.rfl (Or.inl hle)
  · rename_i hwrapped
    constructor
    · intro hmark
      exact Or.inr (by omega)
    · rintro (hle | hne)
      · exact absurd hle hwrapped
      · omega

/-- The firmware's count is the client's, in 16 bits. -/
theorem counts_firmware_iff {s : State α size} (h : Ordered s) :
    Counts Firmware.DataBuffer.usedSize Firmware.DataBuffer.isHalfUsed s ↔
      s.ring.tail ≤ s.ring.head ∧ waiting s < 0x10000 := by
  have hcount := s.ring.usedSize_eq
  rw [← waiting_eq h] at hcount
  constructor
  · intro hexact
    have heq : s.ring.usedSize % 0x10000 = waiting s := hexact.usedSize_eq
    rw [hcount] at heq
    by_cases hle : s.ring.tail ≤ s.ring.head
    · rw [if_pos hle] at heq
      exact ⟨hle, by omega⟩
    · rw [if_neg hle] at heq
      omega
  · rintro ⟨hle, hlt⟩
    rw [if_pos hle] at hcount
    refine counts_of_usedSize ?_
    show s.ring.usedSize % 0x10000 = waiting s
    rw [hcount]
    exact Nat.mod_eq_of_lt hlt

/-- With an array that a 16-bit size can describe, the firmware counts as the client does. -/
theorem usedSize_firmware (hsize : size < 0x10000) (b : DataBuffer α size) :
    Firmware.DataBuffer.usedSize b = b.usedSize := by
  have hh := b.head_lt
  have ht := b.tail_lt
  refine Nat.mod_eq_of_lt ?_
  unfold DataBuffer.usedSize
  split <;> omega

/-- The loopback firmware counts what is stored, in 16 bits. -/
theorem usedSize_loopback (b : DataBuffer α size) :
    Loopback.DataBuffer.usedSize b = b.stored % 0x10000 := by
  have hh := b.head_lt
  have ht := b.tail_lt
  unfold Loopback.DataBuffer.usedSize DataBuffer.stored
  split
  · rfl
  · rw [show size - b.tail + b.head = size - (b.tail - b.head) by omega]

/-- The loopback firmware's count is exact wherever the pointers are. -/
theorem counts_loopback_iff {s : State α size} (h : Ordered s) :
    Counts Loopback.DataBuffer.usedSize Loopback.DataBuffer.isHalfUsed s ↔
      waiting s < 0x10000 := by
  have hcount := usedSize_loopback s.ring
  rw [← waiting_eq h] at hcount
  constructor
  · intro hexact
    have heq := hexact.usedSize_eq
    rw [hcount] at heq
    omega
  · intro hlt
    rw [Nat.mod_eq_of_lt hlt] at hcount
    exact counts_of_usedSize hcount

/-! ## The block bit -/

/-- Whether a response tells the client to hold back. -/
def blockBit (w : UARTWorker size) : Bool := w.processTX.arg &&& 0x80 != 0

/-- The block bit is the half mark of the worker's ring buffer. -/
theorem blockBit_eq (w : UARTWorker size) :
    blockBit w = Firmware.DataBuffer.isHalfUsed w.rxRingBuff := by
  have harg : w.processTX.arg = w.responseArg := by
    unfold UARTWorker.processTX
    split
    · rfl
    · rfl
  -- the session tag has the other seven bits
  have hblock (c b : UInt8) : (c ||| b &&& 0x7F) &&& 0x80 = c &&& 0x80 := by
    apply UInt8.eq_of_toBitVec_eq
    have hapart : (0x80 : UInt8).toBitVec &&& (0x7F : UInt8).toBitVec = 0 := by decide
    simp only [UInt8.toBitVec_and, UInt8.toBitVec_or]
    rw [BitVec.and_comm, BitVec.and_or_distrib_left, BitVec.and_comm b.toBitVec,
      ← BitVec.and_assoc, hapart, BitVec.and_comm _ c.toBitVec]
    simp
  unfold blockBit
  rw [harg, UARTWorker.responseArg, hblock]
  cases Firmware.DataBuffer.isHalfUsed w.rxRingBuff with
  | true => rfl
  | false => rfl

/-- With an array that a 16-bit size can describe, the block bit is wrong exactly where the
half mark is. -/
theorem blockBit_iff (hsize : size < 0x10000) (w : UARTWorker size) :
    (blockBit w = true ↔ size / 2 < w.rxRingBuff.stored) ↔
      w.rxRingBuff.tail ≤ w.rxRingBuff.head ∨ w.rxRingBuff.stored ≠ size / 2 := by
  have hsame : Firmware.DataBuffer.isHalfUsed w.rxRingBuff = w.rxRingBuff.isHalfUsed := by
    unfold Firmware.DataBuffer.isHalfUsed DataBuffer.isHalfUsed
    rw [usedSize_firmware hsize]
  rw [blockBit_eq, hsame]
  exact isHalfUsed_iff w.rxRingBuff

/-! ## Runs -/

/-- The three copies make the same steps, with an array that a 16-bit size can describe. -/
theorem step_same (hsize : size < 0x10000) :
    (step Firmware.DataBuffer.getHead Firmware.DataBuffer.getTail :
        State α size → Event α → Option (State α size)) =
        step DataBuffer.getHead DataBuffer.getTail ∧
      (step Loopback.DataBuffer.getHead Loopback.DataBuffer.getTail :
        State α size → Event α → Option (State α size)) =
        step DataBuffer.getHead DataBuffer.getTail := by
  have hhead : (Firmware.DataBuffer.getHead : DataBuffer α size → Handle) = DataBuffer.getHead :=
    funext (Firmware.DataBuffer.getHead_eq hsize)
  have htail : (Firmware.DataBuffer.getTail : DataBuffer α size → Handle) = DataBuffer.getTail :=
    funext (Firmware.DataBuffer.getTail_eq hsize)
  -- the loopback firmware has the firmware's `GetHead` and `GetTail`
  refine ⟨?_, ?_⟩
  · rw [hhead, htail]
  · show step Firmware.DataBuffer.getHead Firmware.DataBuffer.getTail = _
    rw [hhead, htail]

/-- The counts of the three copies in one and the same state. -/
structure Agree (b : DataBuffer α size) : Prop where
  firmware : Firmware.DataBuffer.usedSize b = b.usedSize
  loopback : Loopback.DataBuffer.usedSize b = b.usedSize ↔ b.tail ≤ b.head

/-- The loopback firmware counts as the others do unless `head` is below `tail`. -/
theorem agree (hsize : size < 0x10000) (b : DataBuffer α size) : Agree b := by
  have hlt := b.stored_lt
  refine ⟨usedSize_firmware hsize b, ?_⟩
  rw [usedSize_loopback, Nat.mod_eq_of_lt (by omega), b.usedSize_eq]
  split
  · rename_i hle
    exact iff_of_true rfl hle
  · rename_i hwrapped
    exact iff_of_false (by omega) hwrapped

/-- **When the counts are exact.** In every state that a run of calls leads to, for every
size. -/
theorem used_size_exact (hsize : 0 < size) (storage : Nat → α) :
    (∀ es s, exec (step DataBuffer.getHead DataBuffer.getTail) (start storage hsize) es = some s →
        (Counts DataBuffer.usedSize DataBuffer.isHalfUsed s ↔ s.ring.tail ≤ s.ring.head) ∧
        ((s.ring.isHalfUsed = true ↔ size / 2 < waiting s) ↔
          s.ring.tail ≤ s.ring.head ∨ waiting s ≠ size / 2)) ∧
      (∀ es s, exec (step Firmware.DataBuffer.getHead Firmware.DataBuffer.getTail)
          (start storage hsize) es = some s →
        (Counts Firmware.DataBuffer.usedSize Firmware.DataBuffer.isHalfUsed s ↔
          s.ring.tail ≤ s.ring.head ∧ waiting s < 0x10000)) ∧
      (∀ es s, exec (step Loopback.DataBuffer.getHead Loopback.DataBuffer.getTail)
          (start storage hsize) es = some s →
        (Counts Loopback.DataBuffer.usedSize Loopback.DataBuffer.isHalfUsed s ↔
          waiting s < 0x10000)) ∧
      (size < 0x10000 →
        (∀ es s,
          exec (step DataBuffer.getHead DataBuffer.getTail) (start storage hsize) es = some s →
          exec (step Firmware.DataBuffer.getHead Firmware.DataBuffer.getTail)
              (start storage hsize) es = some s ∧
            exec (step Loopback.DataBuffer.getHead Loopback.DataBuffer.getTail)
              (start storage hsize) es = some s ∧ Agree s.ring) ∧
        ∀ w : UARTWorker size,
          (blockBit w = true ↔ size / 2 < w.rxRingBuff.contents.length) ↔
            w.rxRingBuff.tail ≤ w.rxRingBuff.head ∨
              w.rxRingBuff.contents.length ≠ size / 2) := by
  refine ⟨?_, ?_, ?_, ?_⟩
  · intro es s hrun
    have h := ordered_of_run (fun b => (range_client b).1) (fun b => (range_client b).2) hrun
    refine ⟨counts_iff h, ?_⟩
    rw [waiting_eq h]
    exact isHalfUsed_iff s.ring
  · intro es s hrun
    exact counts_firmware_iff
      (ordered_of_run (fun b => (range_firmware b).1) (fun b => (range_firmware b).2) hrun)
  · intro es s hrun
    exact counts_loopback_iff
      (ordered_of_run (fun b => (range_firmware b).1) (fun b => (range_firmware b).2) hrun)
  · intro hlt
    obtain ⟨hfirmware, hloopback⟩ := step_same (α := α) hlt
    refine ⟨?_, ?_⟩
    · intro es s hrun
      rw [hfirmware, hloopback]
      exact ⟨hrun, hrun, agree hlt s.ring⟩
    · intro w
      rw [DataBuffer.length_contents]
      exact blockBit_iff hlt w

section Examples

/-- The firmware's array of 512 bytes: filled and emptied up to its last slot, then half
filled again, past the end of the array. -/
def halfPastEnd : List (Event UInt8) :=
  [.getHead, .commitHead ⟨0, 511⟩ 511, .getTail, .commitTail ⟨0, 511⟩ 511, .getHead,
   .commitHead ⟨511, 1⟩ 1, .getHead, .commitHead ⟨0, 510⟩ 255]

def afterHalfPastEnd : State UInt8 512 :=
  (exec (step Firmware.DataBuffer.getHead Firmware.DataBuffer.getTail)
    (start (fun _ => 0) Firmware.Configuration.avrPro.dataBufferSize_pos) halfPastEnd).getD
    (start (fun _ => 0) Firmware.Configuration.avrPro.dataBufferSize_pos)

/-- 256 bytes wait: the client's and the firmware's copy count 257 and pass the half mark,
the loopback firmware counts 256 and does not. -/
theorem half_past_end :
    exec (step Firmware.DataBuffer.getHead Firmware.DataBuffer.getTail)
        (start (fun _ => (0 : UInt8)) (by decide : 0 < 512)) halfPastEnd =
        some afterHalfPastEnd ∧
      exec (step DataBuffer.getHead DataBuffer.getTail)
        (start (fun _ => (0 : UInt8)) (by decide : 0 < 512)) halfPastEnd =
        some afterHalfPastEnd ∧
      ¬ Counts Firmware.DataBuffer.usedSize Firmware.DataBuffer.isHalfUsed afterHalfPastEnd ∧
      ¬ Counts DataBuffer.usedSize DataBuffer.isHalfUsed afterHalfPastEnd ∧
      waiting afterHalfPastEnd = 256 ∧
      Firmware.DataBuffer.isHalfUsed afterHalfPastEnd.ring = true ∧
      Loopback.DataBuffer.usedSize afterHalfPastEnd.ring = 256 ∧
      Loopback.DataBuffer.isHalfUsed afterHalfPastEnd.ring = false := by
  have hrun : exec (step Firmware.DataBuffer.getHead Firmware.DataBuffer.getTail)
      (start (fun _ => (0 : UInt8)) (by decide : 0 < 512)) halfPastEnd =
      some afterHalfPastEnd := exec_eq_some_getD (by decide +kernel)
  have hcounts : waiting afterHalfPastEnd = 256 ∧
      Firmware.DataBuffer.usedSize afterHalfPastEnd.ring = 257 ∧
      afterHalfPastEnd.ring.usedSize = 257 ∧
      Firmware.DataBuffer.isHalfUsed afterHalfPastEnd.ring = true ∧
      Loopback.DataBuffer.usedSize afterHalfPastEnd.ring = 256 ∧
      Loopback.DataBuffer.isHalfUsed afterHalfPastEnd.ring = false := by
    decide +kernel
  obtain ⟨hwaiting, hfirmware, hclient, hhalf, hloopback⟩ := hcounts
  refine ⟨hrun, ?_, ?_, ?_, hwaiting, hhalf, hloopback⟩
  · rw [← (step_same (by decide : 512 < 0x10000)).1]
    exact hrun
  · intro hexact
    have heq := hexact.usedSize_eq
    omega
  · intro hexact
    have heq := hexact.usedSize_eq
    omega

theorem used_size_exact_halfPastEnd :
    waiting afterHalfPastEnd < 0x10000 ∧
      Counts Loopback.DataBuffer.usedSize Loopback.DataBuffer.isHalfUsed afterHalfPastEnd := by
  have hrun : exec (step Loopback.DataBuffer.getHead Loopback.DataBuffer.getTail)
      (start (fun _ => (0 : UInt8)) (by decide : 0 < 512)) halfPastEnd =
      some afterHalfPastEnd := exec_eq_some_getD (by decide +kernel)
  have hlt : waiting afterHalfPastEnd < 0x10000 := by decide +kernel
  exact ⟨hlt, (((used_size_exact (by decide) _).2.2.1 _ _ hrun).2 hlt)⟩

end Examples

end UartBridge.UsedSize
