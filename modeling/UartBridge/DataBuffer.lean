import UartBridge.Lib.Circular

/-!
# DataBuffer: the ring buffer of both programs

The client and the firmware carry the same class. Its pointers are modelled by
their offsets from `begin`, its storage by a memory of which only the first
`size` cells are the array. The element type is a parameter: the code stores
`uint8_t`, and never looks at a stored byte, so that a run can carry tagged
bytes through the very same operations.

One byte is always left free: `head = tail` means empty. `stored` and
`contents` say what the three pointer cases of the code stand for, and the spec
lemmas (`getHead_spec`, `contents_append`, `contents_commit_tail`,
`store_spec`) let the rest of the development work with the list alone.

The firmware keeps sizes in `uint16_t`; its own `getHead`, `getTail` and
`usedSize` narrow the same expressions, and agree with them for every array
that a 16-bit size can describe. The firmware for loopback tests carries a third
copy, which differs from the firmware's in `UsedSize` only.
-/

namespace UartBridge

/-- A contiguous free or stored range: where it starts and how long it is. -/
structure Handle where
  buffer : Nat
  maxSz : Nat
  deriving DecidableEq, Repr

/-- The ring buffer. Both pointers are always inside the array. -/
structure DataBuffer (α : Type) (size : Nat) where
  storage : Nat → α
  head : Nat
  tail : Nat
  head_lt : head < size
  tail_lt : tail < size

namespace DataBuffer

variable {α : Type} {size : Nat}

/-- `Reset`: both pointers go back to `begin`; the bytes stay where they are. -/
def reset (b : DataBuffer α size) : DataBuffer α size :=
  { b with head := 0, tail := 0
           head_lt := Nat.lt_of_le_of_lt (Nat.zero_le _) b.head_lt
           tail_lt := Nat.lt_of_le_of_lt (Nat.zero_le _) b.tail_lt }

/-- The constructor: an array of the given cells, reset. -/
def create (storage : Nat → α) (hsize : 0 < size) : DataBuffer α size :=
  { storage := storage, head := 0, tail := 0, head_lt := hsize, tail_lt := hsize }

/-- `GetHead`: the free range the writer may fill. -/
def getHead (b : DataBuffer α size) : Handle :=
  { buffer := b.head
    maxSz := if b.head < b.tail then b.tail - b.head - 1
      else size - b.head - (if 0 < b.tail then 0 else 1) }

/-- `GetTail`: the stored range the reader may take. -/
def getTail (b : DataBuffer α size) : Handle :=
  { buffer := b.tail
    maxSz := if b.tail ≤ b.head then b.head - b.tail else size - b.tail }

/-- `*target += usedSz`, and back to `begin` at or past `end`. -/
def bump (size p usedSz : Nat) : Nat :=
  if size ≤ p + usedSz then 0 else p + usedSz

theorem bump_lt {size p usedSz : Nat} (hsize : 0 < size) : bump size p usedSz < size := by
  unfold bump
  split <;> omega

/-- `Commit`: moves `head` if the handle starts at `head`, and `tail` otherwise. -/
def commit (b : DataBuffer α size) (handle : Handle) (usedSz : Nat) : DataBuffer α size :=
  if handle.buffer = b.head then
    { b with head := bump size b.head usedSz
             head_lt := bump_lt (Nat.lt_of_le_of_lt (Nat.zero_le _) b.head_lt) }
  else
    { b with tail := bump size b.tail usedSz
             tail_lt := bump_lt (Nat.lt_of_le_of_lt (Nat.zero_le _) b.tail_lt) }

/-- `UsedSize`. -/
def usedSize (b : DataBuffer α size) : Nat :=
  if b.tail ≤ b.head then b.head - b.tail else size - (b.tail - b.head - 1)

/-- `IsHalfUsed`. -/
def isHalfUsed (b : DataBuffer α size) : Bool := size / 2 < b.usedSize

/-- `memcpy` into the storage. -/
def memcpy (b : DataBuffer α size) (buffer : Nat) (xs : List α) : DataBuffer α size :=
  { b with storage := ByteMem.write b.storage buffer xs }

/-- The copy loop of both receivers. `rest` is what is left of the payload:
each round fills the free range that `getHead` offers, commits it and goes on
with the bytes after it; a round that cannot copy a byte ends the loop. Every
other round shortens `rest`, so `rest.length` rounds are enough. -/
def store (getHead : DataBuffer α size → Handle) :
    Nat → DataBuffer α size → List α → DataBuffer α size × List α
  | 0, b, rest => (b, rest)
  | fuel + 1, b, rest =>
    let handle := getHead b
    let szToWrite := if handle.maxSz < rest.length then handle.maxSz else rest.length
    if szToWrite < 1 then (b, rest)
    else
      store getHead fuel
        ((b.memcpy handle.buffer (rest.take szToWrite)).commit handle szToWrite)
        (rest.drop szToWrite)

/-! ## What the pointers stand for -/

/-- The number of bytes stored and not yet consumed. -/
def stored (b : DataBuffer α size) : Nat :=
  if b.tail ≤ b.head then b.head - b.tail else size - (b.tail - b.head)

/-- The bytes stored and not yet consumed, oldest first. -/
def contents (b : DataBuffer α size) : List α :=
  Circular.slots b.storage size b.tail b.stored

/-- The number of bytes that can still be stored: one slot stays free. -/
def free (b : DataBuffer α size) : Nat := size - 1 - b.stored

@[simp] theorem length_contents (b : DataBuffer α size) : b.contents.length = b.stored := by
  simp [contents]

theorem stored_lt (b : DataBuffer α size) : b.stored < size := by
  have hh := b.head_lt
  have ht := b.tail_lt
  unfold stored
  split <;> omega

@[simp] theorem stored_reset (b : DataBuffer α size) : b.reset.stored = 0 := by
  simp [stored, reset]

@[simp] theorem contents_reset (b : DataBuffer α size) : b.reset.contents = [] := by
  simp [contents]

@[simp] theorem stored_create (storage : Nat → α) (hsize : 0 < size) :
    (create storage hsize).stored = 0 := by
  simp [stored, create]

@[simp] theorem contents_create (storage : Nat → α) (hsize : 0 < size) :
    (create storage hsize).contents = [] := by
  simp [contents]

/-- Once `head` has wrapped below `tail`, `UsedSize` counts one byte too many. -/
theorem usedSize_eq (b : DataBuffer α size) :
    b.usedSize = b.stored + (if b.tail ≤ b.head then 0 else 1) := by
  have hh := b.head_lt
  have ht := b.tail_lt
  unfold stored usedSize
  split <;> omega

/-- `UsedSize` is zero exactly when nothing is stored. -/
theorem usedSize_pos_iff (b : DataBuffer α size) : 0 < b.usedSize ↔ 0 < b.stored := by
  have hh := b.head_lt
  have ht := b.tail_lt
  unfold stored usedSize
  split <;> omega

/-- The head pointer is the slot after the last stored byte. -/
theorem head_eq_wrap (b : DataBuffer α size) : b.head = Circular.wrap size (b.tail + b.stored) := by
  have hh := b.head_lt
  have ht := b.tail_lt
  unfold stored Circular.wrap
  split <;> split <;> omega

/-- What `GetHead` offers: a range inside the array and inside the free space,
empty only when the ring is full. -/
theorem getHead_spec (b : DataBuffer α size) :
    b.head + b.getHead.maxSz ≤ size ∧ b.getHead.maxSz ≤ b.free ∧
      (b.getHead.maxSz = 0 → b.free = 0) := by
  have hh := b.head_lt
  have ht := b.tail_lt
  unfold getHead free stored
  refine ⟨?_, ?_, ?_⟩
  · dsimp only
    split <;> (try split) <;> omega
  · dsimp only
    split <;> (try split) <;> (try split) <;> omega
  · dsimp only
    split <;> (try split) <;> (try split) <;> omega

/-- What `GetTail` offers: a range inside the array and inside the stored bytes,
empty only when the ring is empty. -/
theorem getTail_spec (b : DataBuffer α size) :
    b.tail + b.getTail.maxSz ≤ size ∧ b.getTail.maxSz ≤ b.stored ∧
      (b.getTail.maxSz = 0 → b.stored = 0) := by
  have hh := b.head_lt
  have ht := b.tail_lt
  unfold getTail stored
  refine ⟨?_, ?_, ?_⟩
  · dsimp only
    split <;> omega
  · dsimp only
    split <;> omega
  · dsimp only
    split <;> omega

/-- The bytes a tail handle points at are the oldest stored ones. -/
theorem read_tail (b : DataBuffer α size) (k : Nat) (hk : k ≤ b.stored)
    (fits : b.tail + k ≤ size) : ByteMem.read b.storage b.tail k = b.contents.take k := by
  have ht := b.tail_lt
  have hs := b.stored_lt
  unfold contents
  rw [Circular.take_slots _ _ _ _ _ hk (by omega), Circular.slots_eq_read _ _ _ _ fits]

/-! ## One write and one read -/

/-- Filling the first bytes of the range a head handle offers and committing
them stores exactly these bytes. -/
theorem append_spec (b : DataBuffer α size) (handle : Handle) (xs : List α)
    (atHead : handle.buffer = b.head) (room : xs.length ≤ b.free)
    (fits : b.head + xs.length ≤ size) :
    ((b.memcpy handle.buffer xs).commit handle xs.length).contents = b.contents ++ xs ∧
      ((b.memcpy handle.buffer xs).commit handle xs.length).stored = b.stored + xs.length ∧
      ((b.memcpy handle.buffer xs).commit handle xs.length).tail = b.tail := by
  have hh := b.head_lt
  have ht := b.tail_lt
  have hlt := b.stored_lt
  have hcommit : (b.memcpy handle.buffer xs).commit handle xs.length =
      { b with storage := ByteMem.write b.storage b.head xs
               head := bump size b.head xs.length
               head_lt := bump_lt (by omega) } := by
    simp [commit, memcpy, atHead]
  have hstored :
      ((b.memcpy handle.buffer xs).commit handle xs.length).stored = b.stored + xs.length := by
    rw [hcommit]
    unfold free stored at room
    simp only [stored, bump]
    split at room <;> split <;> split <;> omega
  refine ⟨?_, hstored, by rw [hcommit]⟩
  have hwrap := b.head_eq_wrap
  unfold free at room
  rw [contents, hstored, hcommit]
  show Circular.slots (ByteMem.write b.storage b.head xs) size b.tail _ = _
  rw [hwrap] at fits ⊢
  exact Circular.slots_write_append b.storage size b.tail b.stored xs ht (by omega) fits

/-- Committing nothing changes nothing, whatever the handle. -/
@[simp] theorem commit_zero (b : DataBuffer α size) (handle : Handle) : b.commit handle 0 = b := by
  have hh := b.head_lt
  have ht := b.tail_lt
  have hbump (p : Nat) (hp : p < size) : bump size p 0 = p := by
    unfold bump
    split <;> omega
  unfold commit
  split
  · simp only [hbump b.head hh]
  · simp only [hbump b.tail ht]

/-- Committing `k` bytes of a tail handle consumes the `k` oldest bytes, even if
bytes were appended since the handle was taken. -/
theorem commit_tail_spec (b : DataBuffer α size) (handle : Handle) (k : Nat)
    (atTail : handle.buffer = b.tail) (hk : k ≤ b.stored) (fits : b.tail + k ≤ size) :
    (b.commit handle k).contents = b.contents.drop k ∧
      (b.commit handle k).stored = b.stored - k := by
  have hh := b.head_lt
  have ht := b.tail_lt
  have hlt := b.stored_lt
  by_cases hempty : b.tail = b.head
  · -- nothing is stored, so nothing can be committed
    have hzero : k = 0 := by
      unfold stored at hk
      split at hk <;> omega
    subst hzero
    simp
  · have hcommit : b.commit handle k =
        { b with tail := bump size b.tail k, tail_lt := bump_lt (by omega) } := by
      simp [commit, atTail, hempty]
    have hstored : (b.commit handle k).stored = b.stored - k := by
      rw [hcommit]
      unfold stored at hk ⊢
      simp only [bump]
      split at hk <;> split <;> split <;> omega
    refine ⟨?_, hstored⟩
    have hbump : bump size b.tail k = Circular.wrap size (b.tail + k) := by
      unfold bump Circular.wrap
      split <;> split <;> omega
    rw [contents, hstored, hcommit]
    show Circular.slots b.storage size (bump size b.tail k) _ = _
    rw [contents, Circular.drop_slots _ _ _ _ _ hk (by omega), hbump]

/-! ## The copy loop -/

/-- A round of the copy loop takes what it copies out of the free space. -/
theorem free_round (b : DataBuffer α size) (rest : List α) {sz : Nat}
    (hmax : sz ≤ b.getHead.maxSz) (hrest : sz ≤ rest.length) :
    ((b.memcpy b.getHead.buffer (rest.take sz)).commit b.getHead sz).free = b.free - sz := by
  obtain ⟨hfits, hroom, -⟩ := b.getHead_spec
  have hlen : (rest.take sz).length = sz := by
    rw [List.length_take]
    omega
  have happ := b.append_spec b.getHead (rest.take sz) rfl (by omega) (by omega)
  rw [hlen] at happ
  obtain ⟨-, hstored, -⟩ := happ
  unfold free at hroom ⊢
  omega

/-- **The copy loop of both receivers.** With a round for each byte it stores
as much of the payload as fits, in order, and leaves the rest over; it never
touches the tail. -/
theorem store_spec (getHead : DataBuffer α size → Handle)
    (same : ∀ b, getHead b = DataBuffer.getHead b) (fuel : Nat) (b : DataBuffer α size)
    (rest : List α) (enough : rest.length ≤ fuel) :
    (store getHead fuel b rest).1.contents = b.contents ++ rest.take b.free ∧
      (store getHead fuel b rest).2 = rest.drop b.free ∧
      (store getHead fuel b rest).1.tail = b.tail := by
  induction fuel generalizing b rest with
  | zero =>
    have hnil : rest = [] := List.length_eq_zero_iff.mp (Nat.le_zero.mp enough)
    subst hnil
    simp [store]
  | succ fuel ih =>
    obtain ⟨hfits, hroom, hfull⟩ := b.getHead_spec
    simp only [store, same]
    generalize hsz : (if b.getHead.maxSz < rest.length then b.getHead.maxSz else rest.length) = sz
    have hsz_max : sz ≤ b.getHead.maxSz := by
      rw [← hsz]
      split <;> omega
    have hsz_rest : sz ≤ rest.length := by
      rw [← hsz]
      split <;> omega
    by_cases hstop : sz < 1
    · -- no byte could be copied: the payload is used up or the ring is full
      rw [if_pos hstop]
      have hcase : rest = [] ∨ b.free = 0 := by
        by_cases hlt : b.getHead.maxSz < rest.length
        · rw [if_pos hlt] at hsz
          exact Or.inr (hfull (by omega))
        · rw [if_neg hlt] at hsz
          exact Or.inl (List.length_eq_zero_iff.mp (by omega))
      rcases hcase with rfl | hzero
      · simp
      · simp [hzero]
    · rw [if_neg hstop]
      have hlen : (rest.take sz).length = sz := by
        rw [List.length_take]
        omega
      have happ := b.append_spec b.getHead (rest.take sz) rfl (by omega)
        (by rw [hlen]; exact Nat.le_trans (Nat.add_le_add_left hsz_max _) hfits)
      rw [hlen] at happ
      obtain ⟨hcontents, hstored, htail⟩ := happ
      have hfree := b.free_round rest hsz_max hsz_rest
      obtain ⟨ihContents, ihRest, ihTail⟩ :=
        ih ((b.memcpy b.getHead.buffer (rest.take sz)).commit b.getHead sz) (rest.drop sz)
          (by rw [List.length_drop]; omega)
      have hsplit : sz + (b.free - sz) = b.free := by omega
      refine ⟨?_, ?_, ihTail.trans htail⟩
      · rw [ihContents, hcontents, hfree, List.append_assoc, ← List.take_add, hsplit]
      · rw [ihRest, hfree, List.drop_drop, hsplit]

/-- The copy loop stores as many bytes as fit. -/
theorem store_stored (getHead : DataBuffer α size → Handle)
    (same : ∀ b, getHead b = DataBuffer.getHead b) (fuel : Nat) (b : DataBuffer α size)
    (rest : List α) (enough : rest.length ≤ fuel) :
    (store getHead fuel b rest).1.stored = b.stored + min b.free rest.length := by
  have h := congrArg List.length (store_spec getHead same fuel b rest enough).1
  simpa using h

/-- The copy loop depends on how long the payload is and on as much of it as fits. -/
theorem store_congr (getHead : DataBuffer α size → Handle)
    (same : ∀ b, getHead b = DataBuffer.getHead b) (fuel : Nat) (b : DataBuffer α size)
    {rest rest' : List α} (hlen : rest.length = rest'.length)
    (htake : rest.take b.free = rest'.take b.free) :
    (store getHead fuel b rest).1 = (store getHead fuel b rest').1 := by
  induction fuel generalizing b rest rest' with
  | zero => rfl
  | succ fuel ih =>
    simp only [store, same, ← hlen]
    generalize hsz : (if b.getHead.maxSz < rest.length then b.getHead.maxSz else rest.length) = sz
    have hsz_max : sz ≤ b.getHead.maxSz := by
      rw [← hsz]
      split <;> omega
    have hsz_rest : sz ≤ rest.length := by
      rw [← hsz]
      split <;> omega
    have hroom := b.getHead_spec.2.1
    split
    · rfl
    · -- the round copies the same bytes, and what is left is alike as far as it still fits
      have hcopied : rest.take sz = rest'.take sz := by
        have h := congrArg (List.take sz) htake
        rwa [List.take_take, List.take_take, Nat.min_eq_left (by omega)] at h
      rw [← hcopied]
      refine ih _ ?_ ?_
      · rw [List.length_drop, List.length_drop, hlen]
      · rw [b.free_round rest hsz_max hsz_rest, ← List.drop_take, ← List.drop_take, htake]

end DataBuffer

/-! ## The firmware's copy -/

namespace Firmware.DataBuffer

variable {α : Type} {size : Nat}

/-- `static_cast<uint16_t>` of a handle's size. -/
def narrow (handle : Handle) : Handle := { handle with maxSz := handle.maxSz % 0x10000 }

def getHead (b : DataBuffer α size) : Handle := narrow b.getHead

def getTail (b : DataBuffer α size) : Handle := narrow b.getTail

def usedSize (b : DataBuffer α size) : Nat := b.usedSize % 0x10000

def isHalfUsed (b : DataBuffer α size) : Bool := size / 2 < usedSize b

/-- With an array that a 16-bit size can describe, narrowing loses nothing. -/
theorem getHead_eq (hsize : size < 0x10000) (b : DataBuffer α size) : getHead b = b.getHead := by
  have hle := b.getHead_spec.1
  unfold getHead narrow
  rw [Nat.mod_eq_of_lt (by omega)]

theorem getTail_eq (hsize : size < 0x10000) (b : DataBuffer α size) : getTail b = b.getTail := by
  have hle := b.getTail_spec.1
  unfold getTail narrow
  rw [Nat.mod_eq_of_lt (by omega)]

end Firmware.DataBuffer

/-! ## The loopback firmware's copy -/

namespace Loopback.DataBuffer

variable {α : Type} {size : Nat}

def getHead (b : DataBuffer α size) : Handle := Firmware.DataBuffer.narrow b.getHead

def getTail (b : DataBuffer α size) : Handle := Firmware.DataBuffer.narrow b.getTail

def usedSize (b : DataBuffer α size) : Nat :=
  (if b.tail ≤ b.head then b.head - b.tail else (size - b.tail) + b.head) % 0x10000

def isHalfUsed (b : DataBuffer α size) : Bool := size / 2 < usedSize b

end Loopback.DataBuffer

end UartBridge
