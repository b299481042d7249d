import UartBridge.Crc8
import UartBridge.System.Deployment

/-!
# Sealed packages

Before a package leaves, either side overwrites its first two bytes (the UDP
sequence number, the UDP port or zero) and stores the checksum of the metadata
behind it. `sealPackage` is that operation, and `Sealed` what a receiver finds
after it copied the bytes into its own buffer, whatever was in there before.
-/

namespace UartBridge

/-- The header and the checksum, as every sender writes them. -/
def sealPackage (metaSz : Nat) (header : UInt16) (txBuff : Nat → UInt8) : Nat → UInt8 :=
  let txBuff := ByteMem.write txBuff 0 (ByteMem.encode16 header)
  ByteMem.write txBuff metaSz [Client.crc8 (ByteMem.read txBuff 0 metaSz)]

/-- What a receiver that stores `bytes` at the start of its buffer finds there. -/
structure Sealed (metaSz pkgSz : Nat) (header : UInt16) (bytes : List UInt8) : Prop where
  length_eq : bytes.length = pkgSz
  header_eq : ∀ mem : Nat → UInt8,
    ByteMem.decode16 (ByteMem.write mem 0 bytes 0) (ByteMem.write mem 0 bytes 1) = header
  checksum : ∀ mem : Nat → UInt8,
    Client.crc8 (ByteMem.read (ByteMem.write mem 0 bytes) 0 metaSz) =
      ByteMem.write mem 0 bytes metaSz

variable {metaSz pkgSz : Nat}

/-- The checksum does not cover itself. -/
theorem sealPackage_checksum (header : UInt16) (txBuff : Nat → UInt8) :
    Client.crc8 (ByteMem.read (sealPackage metaSz header txBuff) 0 metaSz) =
      sealPackage metaSz header txBuff metaSz := by
  unfold sealPackage
  rw [ByteMem.read_write_outside _ _ _ _ _ (by omega)]
  exact (ByteMem.write_inside _ metaSz [_] 0 (by simp)).symm

/-- Sealing changes the header and the checksum byte only. -/
theorem sealPackage_apart (header : UInt16) (txBuff : Nat → UInt8) (a : Nat) (ha : 2 ≤ a)
    (hne : a ≠ metaSz) : sealPackage metaSz header txBuff a = txBuff a := by
  unfold sealPackage
  rw [ByteMem.write_outside _ _ _ _ (by simp; omega),
    ByteMem.write_outside _ _ _ _ (by simp; omega)]

/-- The header of a sealed package. -/
theorem sealPackage_header (header : UInt16) (txBuff : Nat → UInt8) (hmeta : 2 ≤ metaSz) :
    ByteMem.decode16 (sealPackage metaSz header txBuff 0) (sealPackage metaSz header txBuff 1) =
      header := by
  unfold sealPackage
  rw [ByteMem.write_outside _ _ _ 0 (by simp; omega),
    ByteMem.write_outside _ _ _ 1 (by simp; omega)]
  exact ByteMem.decode16_write txBuff 0 header

/-- **A package that was sealed arrives as sealed.** -/
theorem sealed_read (header : UInt16) (txBuff : Nat → UInt8) (hmeta : 2 ≤ metaSz)
    (hpkg : metaSz < pkgSz) :
    Sealed metaSz pkgSz header (ByteMem.read (sealPackage metaSz header txBuff) 0 pkgSz) := by
  have hcopy (mem : Nat → UInt8) (i : Nat) (hi : i < pkgSz) :
      ByteMem.write mem 0 (ByteMem.read (sealPackage metaSz header txBuff) 0 pkgSz) i =
        sealPackage metaSz header txBuff i := by
    have h := ByteMem.write_read mem (sealPackage metaSz header txBuff) 0 pkgSz i hi
    rwa [Nat.zero_add] at h
  refine ⟨by simp, ?_, ?_⟩
  · intro mem
    rw [hcopy mem 0 (by omega), hcopy mem 1 (by omega)]
    exact sealPackage_header header txBuff hmeta
  · intro mem
    have hmetaBytes : ByteMem.read
        (ByteMem.write mem 0 (ByteMem.read (sealPackage metaSz header txBuff) 0 pkgSz)) 0 metaSz =
        ByteMem.read (sealPackage metaSz header txBuff) 0 metaSz := by
      apply ByteMem.read_congr
      intro i hi
      rw [Nat.zero_add]
      exact hcopy mem i (by omega)
    rw [hmetaBytes, hcopy mem metaSz hpkg]
    exact sealPackage_checksum header txBuff

end UartBridge
