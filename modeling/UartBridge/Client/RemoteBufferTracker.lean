import Mathlib.Data.List.Basic

/-!
# RemoteBufferTracker: what the client believes is still on its way

One tracker a port. It keeps the size of every Data request with the timer
counter it was sent under, oldest first, and drops the entries that a response
confirms. What may still be sent is the limit less the sizes kept.
-/

namespace UartBridge.Client

/-- `RemoteBufferPkg`. -/
structure RemoteBufferPkg where
  counter : UInt32
  dataSize : Nat
  deriving DecidableEq, Repr

structure RemoteBufferTracker where
  bufferLimit : Nat
  isBlocked : Bool
  dataSent : List RemoteBufferPkg
  deriving DecidableEq, Repr

namespace RemoteBufferTracker

/-- The constructor. -/
def create (bufferLimit : Nat) : RemoteBufferTracker :=
  { bufferLimit := bufferLimit, isBlocked := false, dataSent := [] }

/-- `AddPackage`. -/
def addPackage (t : RemoteBufferTracker) (size : Nat) (counter : UInt32) : RemoteBufferTracker :=
  { t with dataSent := t.dataSent ++ [{ counter := counter, dataSize := size }] }

/-- `ConfirmPackage`: pops from the front while the counters are not above the
confirmed one. -/
def confirmPackage (t : RemoteBufferTracker) (refCounter : UInt32) (writeBlocked : Bool) :
    RemoteBufferTracker :=
  { t with isBlocked := writeBlocked
           dataSent := t.dataSent.dropWhile fun pkg => pkg.counter ≤ refCounter }

/-- The sum that `GetAvailSpace` takes afresh on each call. -/
def totalSent (t : RemoteBufferTracker) : Nat :=
  t.dataSent.foldl (fun totalSent pkg => totalSent + pkg.dataSize) 0

/-- `GetAvailSpace`. -/
def getAvailSpace (t : RemoteBufferTracker) : Nat :=
  if t.isBlocked then 0
  else if t.bufferLimit < t.totalSent then 0
  else t.bufferLimit - t.totalSent

/-- `Reset`: forgets the packages, not the block. -/
def reset (t : RemoteBufferTracker) : RemoteBufferTracker := { t with dataSent := [] }

/-! ## What is on its way -/

/-- The sum of two parts of the list. -/
theorem foldl_dataSize (pkgs more : List RemoteBufferPkg) :
    (pkgs ++ more).foldl (fun totalSent pkg => totalSent + pkg.dataSize) 0 =
      pkgs.foldl (fun totalSent pkg => totalSent + pkg.dataSize) 0 +
        more.foldl (fun totalSent pkg => totalSent + pkg.dataSize) 0 := by
  have hstart (start : Nat) : more.foldl (fun totalSent pkg => totalSent + pkg.dataSize) start =
      start + more.foldl (fun totalSent pkg => totalSent + pkg.dataSize) 0 := by
    induction more generalizing start with
    | nil => rfl
    | cons pkg more ih =>
      rw [List.foldl_cons, List.foldl_cons, ih (start + pkg.dataSize), ih (0 + pkg.dataSize)]
      omega
  rw [List.foldl_append, hstart]

theorem totalSent_addPackage (t : RemoteBufferTracker) (size : Nat) (counter : UInt32) :
    (t.addPackage size counter).totalSent = t.totalSent + size := by
  unfold totalSent addPackage
  rw [foldl_dataSize, List.foldl_cons, List.foldl_nil, Nat.zero_add]

/-- A confirmation, whatever it says, never adds to the sum. -/
theorem totalSent_confirmPackage_le (t : RemoteBufferTracker) (refCounter : UInt32)
    (writeBlocked : Bool) : (t.confirmPackage refCounter writeBlocked).totalSent ≤ t.totalSent := by
  have hsplit : t.dataSent = t.dataSent.takeWhile (fun pkg => pkg.counter ≤ refCounter) ++
      t.dataSent.dropWhile (fun pkg => pkg.counter ≤ refCounter) :=
    List.takeWhile_append_dropWhile.symm
  unfold totalSent confirmPackage
  dsimp only
  conv_rhs => rw [hsplit, foldl_dataSize]
  omega

@[simp] theorem totalSent_reset (t : RemoteBufferTracker) : t.reset.totalSent = 0 := rfl

/-- There is space only while nobody has blocked it, and no more than the limit leaves. -/
theorem getAvailSpace_pos (t : RemoteBufferTracker) (space : 0 < t.getAvailSpace) :
    t.isBlocked = false ∧ t.totalSent + t.getAvailSpace = t.bufferLimit := by
  unfold getAvailSpace at space ⊢
  split at space
  · omega
  · rename_i hopen
    split at space
    · omega
    · rename_i hfits
      rw [if_neg hopen, if_neg hfits]
      exact ⟨by simpa using hopen, by omega⟩

end RemoteBufferTracker

end UartBridge.Client
