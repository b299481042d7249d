import UartBridge.System.PortLink
import UartBridge.System.Package

/-!
# The parts of a package

A port owns a command header and a payload slot. `PortAgree` says that two
memories agree on both; what either side reads for the port depends on nothing
else (`uplinkData_congr`, `downlinkPair_congr`), and writing another port's parts,
the header or the checksum leaves them alone.
-/

namespace UartBridge

open Client Firmware

/-- The payload that `UARTWorker` number `i` receives in a Data request of the
package in `rxBuff`. -/
def uplinkData (cfg : Configuration) (i : Nat) (rxBuff : Nat → UInt8) : List UInt8 :=
  if (mapRequest i rxBuff).type = .Data then
    ByteMem.read rxBuff (cfg.slotOffset i) (mapRequest i rxBuff).plSz.toNat
  else []

/-- The session tag and the payload that `PortWorker` number `i` is handed from
the package in `rxBuff`. -/
def downlinkPair (config : Config) (i : Nat) (rxBuff : Nat → UInt8) : UInt8 × List UInt8 :=
  ((Client.Response.map i rxBuff).arg &&& 0x7F,
    ByteMem.read rxBuff (config.getPortBuffOffset i)
      (Client.Response.map i rxBuff).plSz.toNat)

/-- Where the command header of a port starts. -/
def headerOffset (i : Nat) : Nat := Configuration.pkgHdrSz + i * Configuration.cmdHdrSize

/-- The memories agree on the header and the slot of port `i`. -/
structure PortAgree (cfg : Configuration) (i : Nat) (mem mem' : Nat → UInt8) : Prop where
  header_eq : ∀ k, k < 3 → mem (headerOffset i + k) = mem' (headerOffset i + k)
  slot_eq : ∀ k, k < cfg.dataPayloadSize →
    mem (cfg.slotOffset i + k) = mem' (cfg.slotOffset i + k)

section Offsets

variable (cfg : Configuration)

/-- The headers lie between the package header and the checksum. -/
theorem header_le {i : Nat} (hi : i < cfg.uartCount) : headerOffset i + 3 ≤ cfg.metaSz := by
  simp only [headerOffset, Configuration.metaSz, Configuration.cmdHdrSize]
  omega

theorem le_header (i : Nat) : 6 ≤ headerOffset i := by
  simp only [headerOffset, Configuration.pkgHdrSz]
  omega

theorem header_apart {i j : Nat} (h : i ≠ j) :
    headerOffset i + 3 ≤ headerOffset j ∨ headerOffset j + 3 ≤ headerOffset i := by
  simp only [headerOffset, Configuration.cmdHdrSize]
  omega

/-- The slots come after the checksum. -/
theorem metaSz_lt_slot (i : Nat) : cfg.metaSz < cfg.slotOffset i := by
  simp only [Configuration.slotOffset, Configuration.metaCrcSz]
  omega

theorem slot_apart {i j : Nat} (h : i ≠ j) :
    cfg.slotOffset i + cfg.dataPayloadSize ≤ cfg.slotOffset j ∨
      cfg.slotOffset j + cfg.dataPayloadSize ≤ cfg.slotOffset i := by
  unfold Configuration.slotOffset
  rcases Nat.lt_or_gt_of_ne h with hlt | hlt
  · have := Nat.mul_le_mul_left cfg.dataPayloadSize hlt
    rw [Nat.mul_succ] at this
    omega
  · have := Nat.mul_le_mul_left cfg.dataPayloadSize hlt
    rw [Nat.mul_succ] at this
    omega

theorem slot_le {i : Nat} (hi : i < cfg.uartCount) :
    cfg.slotOffset i + cfg.dataPayloadSize ≤ cfg.packageSize := by
  unfold Configuration.slotOffset Configuration.packageSize
  have := Nat.mul_le_mul_left cfg.dataPayloadSize hi
  rw [Nat.mul_succ] at this
  omega

end Offsets

namespace PortAgree

variable {cfg : Configuration} {i : Nat} {mem mem' mem'' : Nat → UInt8}

theorem trans (h : PortAgree cfg i mem mem') (h' : PortAgree cfg i mem' mem'') :
    PortAgree cfg i mem mem'' :=
  ⟨fun k hk => (h.header_eq k hk).trans (h'.header_eq k hk),
    fun k hk => (h.slot_eq k hk).trans (h'.slot_eq k hk)⟩

theorem symm (h : PortAgree cfg i mem mem') : PortAgree cfg i mem' mem :=
  ⟨fun k hk => (h.header_eq k hk).symm, fun k hk => (h.slot_eq k hk).symm⟩

/-- Packages that agree outside header and checksum agree on every port. -/
theorem of_agree (hi : i < cfg.uartCount)
    (agree : ∀ a, 6 ≤ a → a ≠ cfg.metaSz → a < cfg.packageSize → mem a = mem' a) :
    PortAgree cfg i mem mem' := by
  have hheader := header_le cfg hi
  have hlow := le_header i
  have hslot := slot_le cfg hi
  have hmeta := metaSz_lt_slot cfg i
  exact ⟨fun k hk => agree _ (by omega) (by omega) (by omega),
    fun k hk => agree _ (by omega) (by omega) (by omega)⟩

/-- Another port's header. -/
theorem write_header {j : Nat} (hij : i ≠ j) (hj : j < cfg.uartCount) (xs : List UInt8)
    (hxs : xs.length ≤ 3) : PortAgree cfg i (ByteMem.write mem (headerOffset j) xs) mem := by
  have hapart := header_apart hij
  have hheader := header_le cfg hj
  have hmeta := metaSz_lt_slot cfg i
  exact ⟨fun k hk => ByteMem.write_outside _ _ _ _ (by omega),
    fun k hk => ByteMem.write_outside _ _ _ _ (by omega)⟩

/-- Another port's slot. -/
theorem write_slot {j : Nat} (hij : i ≠ j) (hi : i < cfg.uartCount) (offset : Nat)
    (xs : List UInt8) (hxs : offset + xs.length ≤ cfg.dataPayloadSize) :
    PortAgree cfg i (ByteMem.write mem (cfg.slotOffset j + offset) xs) mem := by
  have hapart := slot_apart cfg hij
  have hheader := header_le cfg hi
  have hmeta := metaSz_lt_slot cfg j
  exact ⟨fun k hk => ByteMem.write_outside _ _ _ _ (by omega),
    fun k hk => ByteMem.write_outside _ _ _ _ (by omega)⟩

/-- What the firmware reads for a port. -/
theorem mapRequest_eq (h : PortAgree cfg i mem mem') : mapRequest i mem = mapRequest i mem' := by
  have h0 := h.header_eq 0 (by omega)
  have h1 := h.header_eq 1 (by omega)
  have h2 := h.header_eq 2 (by omega)
  unfold headerOffset at h0 h1 h2
  rw [Nat.add_zero] at h0
  simp only [mapRequest, h0, h1, h2]

theorem uplinkData_eq (h : PortAgree cfg i mem mem')
    (hsize : (mapRequest i mem).plSz.toNat ≤ cfg.dataPayloadSize) :
    uplinkData cfg i mem = uplinkData cfg i mem' := by
  unfold uplinkData
  rw [← h.mapRequest_eq]
  split
  · exact ByteMem.read_congr fun k hk => h.slot_eq k (by omega)
  · rfl

end PortAgree

/-- What the client reads for a port. -/
theorem PortAgree.downlinkPair_eq {D : Deployment} {i : Nat} {mem mem' : Nat → UInt8}
    (h : PortAgree D.cfg i mem mem')
    (hsize : (mem (headerOffset i + 2)).toNat ≤ D.cfg.dataPayloadSize) :
    downlinkPair D.config i mem = downlinkPair D.config i mem' := by
  have hlayout : Client.pkgHdrSz + i * Client.cmdHdrSize = headerOffset i := rfl
  simp only [downlinkPair, Client.Response.map, hlayout, ← h.header_eq 1 (by omega),
    ← h.header_eq 2 (by omega)]
  congr 1
  rw [D.slotOffset_eq]
  exact ByteMem.read_congr fun k hk => h.slot_eq k (by omega)

/-! ## Sealed packages -/

/-- Whoever holds the bytes of a sealed package finds header and checksum. -/
theorem Sealed.of_read {metaSz pkgSz : Nat} {header : UInt16} {bytes : List UInt8}
    (h : Sealed metaSz pkgSz header bytes) {mem : Nat → UInt8}
    (hread : ByteMem.read mem 0 pkgSz = bytes) :
    ByteMem.decode16 (mem 0) (mem 1) = header ∧
      Client.crc8 (ByteMem.read mem 0 metaSz) = mem metaSz := by
  have hself : ByteMem.write mem 0 bytes = mem := by rw [← hread, ByteMem.write_read_self]
  have hheader := h.header_eq mem
  have hsum := h.checksum mem
  rw [hself] at hheader hsum
  exact ⟨hheader, hsum⟩

end UartBridge
