import UartBridge.Lib.LossyFifo
import UartBridge.DataBuffer

/-!
# The firmware for loopback tests

`loop` is one pass: it reads from the serial line into the ring buffer, and writes from there
back to the line. What the hardware has received and takes in the pass is an argument.

* `loop_passes` — a pass loses nothing, and reads no more than it can store;
* `loop_progress` — a pass returns something, as long as there is something to return.
-/

namespace UartBridge.Loopback

open LossyFifo

variable {size : Nat}

/-- What `Serial` has received and `available` tells of it, how many of the requested bytes
`readBytes` returns, and the same for writing. -/
structure SerialInput where
  received : List UInt8
  available : Nat
  readSz : Nat
  availableForWrite : Nat
  writeSz : Nat

/-- What a pass leads to: `read` was read from the line, and `written` was written to it. -/
structure Pass (size : Nat) where
  ringBuffer : DataBuffer UInt8 size
  read : List UInt8
  written : List UInt8

/-- The first half of `loop`. -/
def receive (input : SerialInput) (ringBuffer : DataBuffer UInt8 size) :
    DataBuffer UInt8 size × List UInt8 :=
  let handle := DataBuffer.getHead ringBuffer
  let buffAvail := if input.available < handle.maxSz then input.available else handle.maxSz
  if 0 < buffAvail then
    let bytes := (input.received.take buffAvail).take input.readSz
    ((ringBuffer.memcpy handle.buffer bytes).commit handle bytes.length, bytes)
  else (ringBuffer, [])

/-- The second half. -/
def send (input : SerialInput) (ringBuffer : DataBuffer UInt8 size) :
    DataBuffer UInt8 size × List UInt8 :=
  let handle := DataBuffer.getTail ringBuffer
  let buffAvail := if input.availableForWrite < handle.maxSz then input.availableForWrite
    else handle.maxSz
  if 0 < buffAvail then
    let sz := min input.writeSz buffAvail
    (ringBuffer.commit handle sz, ByteMem.read ringBuffer.storage handle.buffer sz)
  else (ringBuffer, [])

/-- `loop`. -/
def loop (input : SerialInput) (ringBuffer : DataBuffer UInt8 size) : Pass size :=
  let r := receive input ringBuffer
  let t := send input r.1
  { ringBuffer := t.1, read := r.2, written := t.2 }

/-! ## What a pass does -/

/-- With an array that a 16-bit size can describe, narrowing loses nothing. -/
theorem getHead_eq (hsize : size < 0x10000) (b : DataBuffer UInt8 size) :
    DataBuffer.getHead b = b.getHead :=
  Firmware.DataBuffer.getHead_eq hsize b

theorem getTail_eq (hsize : size < 0x10000) (b : DataBuffer UInt8 size) :
    DataBuffer.getTail b = b.getTail :=
  Firmware.DataBuffer.getTail_eq hsize b

/-- Reading stores the first bytes that have arrived. -/
theorem receive_spec (hsize : size < 0x10000) (input : SerialInput) (b : DataBuffer UInt8 size) :
    (receive input b).1.contents = b.contents ++ (receive input b).2 ∧
      (receive input b).2 <+: input.received ∧
      (0 < b.free → 0 < input.available → 0 < input.readSz → input.received ≠ [] →
        (receive input b).2 ≠ []) := by
  obtain ⟨hfits, hroom, hfull⟩ := b.getHead_spec
  unfold receive
  rw [getHead_eq hsize]
  dsimp only
  generalize hsz : (if input.available < b.getHead.maxSz then input.available
    else b.getHead.maxSz) = sz
  have hle : sz ≤ b.getHead.maxSz := by
    rw [← hsz]
    split <;> omega
  split
  · rename_i hpos
    have hlen : ((input.received.take sz).take input.readSz).length ≤ sz := by
      simp only [List.length_take]
      omega
    refine ⟨?_, (List.take_prefix _ _).trans (List.take_prefix _ _), ?_⟩
    · exact (b.append_spec b.getHead _ rfl (by omega) (by omega)).1
    · intro _ _ hread hne hnone
      have hlength := congrArg List.length hnone
      have hreceived := List.length_pos_of_ne_nil hne
      simp only [List.length_take, List.length_nil] at hlength
      omega
  · rename_i hzero
    refine ⟨(List.append_nil _).symm, List.nil_prefix, ?_⟩
    intro hfree havailable _ _
    -- a ring buffer that is not full offers a byte at least
    have hoffers : 0 < b.getHead.maxSz := by
      rcases Nat.eq_zero_or_pos b.getHead.maxSz with hnone | hsome
      · have := hfull hnone
        omega
      · exact hsome
    split at hsz <;> omega

/-- Writing takes the oldest bytes out of the ring buffer. -/
theorem send_spec (hsize : size < 0x10000) (input : SerialInput) (b : DataBuffer UInt8 size) :
    b.contents = (send input b).2 ++ (send input b).1.contents ∧
      (b.contents ≠ [] → 0 < input.availableForWrite → 0 < input.writeSz →
        (send input b).2 ≠ []) := by
  obtain ⟨hfits, hstored, hempty⟩ := b.getTail_spec
  unfold send
  rw [getTail_eq hsize]
  dsimp only
  generalize hsz : (if input.availableForWrite < b.getTail.maxSz then input.availableForWrite
    else b.getTail.maxSz) = sz
  have hle : sz ≤ b.getTail.maxSz := by
    rw [← hsz]
    split <;> omega
  split
  · rename_i hpos
    have hread := b.read_tail (min input.writeSz sz) (by omega) (by omega)
    have hcommit := (b.commit_tail_spec b.getTail (min input.writeSz sz) rfl (by omega)
      (by omega)).1
    refine ⟨?_, ?_⟩
    · rw [hcommit]
      show _ = ByteMem.read b.storage b.tail _ ++ _
      rw [hread, List.take_append_drop]
    · intro _ _ hwrite hnone
      have hlength := congrArg List.length hnone
      rw [ByteMem.length_read, List.length_nil] at hlength
      omega
  · refine ⟨rfl, ?_⟩
    intro hne havailable _
    have hsome : 0 < b.stored := by
      rw [← b.length_contents]
      exact List.length_pos_of_ne_nil hne
    split at hsz <;> omega

/-- **A pass loses nothing.** -/
theorem loop_passes (exact : Prop) (hsize : size < 0x10000) (input : SerialInput)
    (b : DataBuffer UInt8 size) :
    Passes exact b.contents (loop input b).read (loop input b).written
      (loop input b).ringBuffer.contents ∧ (loop input b).read <+: input.received := by
  obtain ⟨hreceived, hprefix, -⟩ := receive_spec hsize input b
  obtain ⟨hsent, -⟩ := send_spec hsize input (receive input b).1
  exact ⟨.of_eq (hsent.symm.trans hreceived), hprefix⟩

/-- The hardware has a byte to read if one has arrived, and takes a byte. -/
structure Responsive (input : SerialInput) : Prop where
  available_pos : input.received ≠ [] → 0 < input.available
  readSz_pos : 0 < input.readSz
  availableForWrite_pos : 0 < input.availableForWrite
  writeSz_pos : 0 < input.writeSz

instance (input : SerialInput) : Decidable (Responsive input) :=
  decidable_of_iff ((input.received ≠ [] → 0 < input.available) ∧ 0 < input.readSz ∧
      0 < input.availableForWrite ∧ 0 < input.writeSz)
    ⟨fun h => ⟨h.1, h.2.1, h.2.2.1, h.2.2.2⟩,
      fun h => ⟨h.available_pos, h.readSz_pos, h.availableForWrite_pos, h.writeSz_pos⟩⟩

/-- **A pass returns something**, as long as something has arrived or is stored. -/
theorem loop_progress (hsize : size < 0x10000) (htwo : 1 < size) {input : SerialInput}
    (hresponsive : Responsive input) (b : DataBuffer UInt8 size)
    (hsome : b.contents ≠ [] ∨ input.received ≠ []) : (loop input b).written ≠ [] := by
  obtain ⟨hreceived, -, hreads⟩ := receive_spec hsize input b
  refine (send_spec hsize input (receive input b).1).2 ?_ hresponsive.availableForWrite_pos
    hresponsive.writeSz_pos
  rw [hreceived]
  intro hnone
  obtain ⟨hempty, hnothing⟩ := List.append_eq_nil_iff.mp hnone
  rcases hsome with hstored | harrived
  · exact hstored hempty
  · -- the ring buffer is empty, so there is room
    have hfree : 0 < b.free := by
      have hzero := b.length_contents
      rw [hempty, List.length_nil] at hzero
      unfold DataBuffer.free
      omega
    exact hreads hfree (hresponsive.available_pos harrived) hresponsive.readSz_pos harrived
      hnothing

end UartBridge.Loopback
