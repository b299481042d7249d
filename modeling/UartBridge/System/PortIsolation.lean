import UartBridge.Client.DataProcessor
import UartBridge.Firmware.MainLoop
import UartBridge.System.PackageLayout

/-!
# Does a port see its own part of a package only?

Both receivers hand a port's worker the address of its payload slot and the `plSz` byte of
its header, which no one compares with the size of the slot. The checksum covers the
metadata only, so that the bytes behind the slot may be anything.

* `SamePort` — two packages that differ in other ports' parts, or in what follows them;
* `ClientIsolated`, `FirmwareIsolated` — both leave the port's worker in the same state;
* `ClientInside`, `FirmwareInside` — the worker asks for nothing behind its slot;
* `isolated_iff_inside` — these are the packages for which ports are isolated;
* `foreign_byte_stored` — another port's byte in the ring buffers of both sides.
-/

namespace UartBridge.PortIsolation

open Client Firmware

/-! ## Packages that are the same for a port -/

/-- The checksum that both receivers look at. -/
def Valid (cfg : Configuration) (mem : Nat → UInt8) : Prop :=
  Client.crc8 (ByteMem.read mem 0 cfg.metaSz) = mem cfg.metaSz

/-- Two receive buffers whose packages agree on the package header and on the header and
the slot of port `i`. Other ports' parts may differ, and so may what lies behind the package
in memory: that is not the port's either. -/
structure SamePort (cfg : Configuration) (i : Nat) (mem mem' : Nat → UInt8) : Prop where
  valid : Valid cfg mem
  valid' : Valid cfg mem'
  header_eq : ∀ a, a < 6 → mem a = mem' a
  port : PortAgree cfg i mem mem'

/-- Worker number `i` of the client is in the same state after any such package. -/
def ClientIsolated {size : Nat} (D : Deployment) (i : Nat) (mem : Nat → UInt8)
    (portWorkers : List (PortWorker UInt8 size)) : Prop :=
  ∀ mem', SamePort D.cfg i mem mem' →
    (DataProcessor.onIncomingPackage D.config mem' portWorkers)[i]? =
      (DataProcessor.onIncomingPackage D.config mem portWorkers)[i]?

/-- Worker number `i` of the firmware is in the same state after any such package, and has
made the same calls on its UART. -/
def FirmwareIsolated {size : Nat} (cfg : Configuration) (i : Nat) (mem : Nat → UInt8)
    (now : UInt32) (uartWorker : List (UARTWorker size)) : Prop :=
  ∀ mem', SamePort cfg i mem mem' →
    (MainLoop.processRequests cfg now mem' uartWorker)[i]? =
      (MainLoop.processRequests cfg now mem uartWorker)[i]?

section Package

variable {cfg : Configuration} {i : Nat} {mem mem' : Nat → UInt8}

/-- The client maps the same response. -/
theorem SamePort.response_eq (h : SamePort cfg i mem mem') :
    Client.Response.map i mem' = Client.Response.map i mem := by
  have hlayout : Client.pkgHdrSz + i * Client.cmdHdrSize = headerOffset i := rfl
  have h0 := h.port.header_eq 0 (by omega)
  rw [Nat.add_zero] at h0
  simp only [Client.Response.map, hlayout, h0, h.port.header_eq 1 (by omega),
    h.port.header_eq 2 (by omega), Client.pkgCntOffset, h.header_eq 2 (by omega),
    h.header_eq (2 + 1) (by omega), h.header_eq (2 + 2) (by omega), h.header_eq (2 + 3) (by omega)]

/-- The two payloads agree on what fits, if that ends in the slot. -/
theorem SamePort.payload_take (h : SamePort cfg i mem mem') {len room : Nat}
    (hinside : min len room ≤ cfg.dataPayloadSize) :
    (ByteMem.read mem' (cfg.slotOffset i) len).take room =
      (ByteMem.read mem (cfg.slotOffset i) len).take room := by
  rw [ByteMem.take_read, ByteMem.take_read]
  exact ByteMem.read_congr fun k hk => (h.port.slot_eq k (by omega)).symm

/-- The package with another byte right behind the slot. -/
def foreign (cfg : Configuration) (i : Nat) (mem : Nat → UInt8) : Nat → UInt8 :=
  ByteMem.write mem (cfg.slotOffset i + cfg.dataPayloadSize)
    [mem (cfg.slotOffset i + cfg.dataPayloadSize) + 1]

theorem foreign_ne (cfg : Configuration) (i : Nat) (mem : Nat → UInt8) :
    foreign cfg i mem (cfg.slotOffset i + cfg.dataPayloadSize) ≠
      mem (cfg.slotOffset i + cfg.dataPayloadSize) := by
  have hcell := ByteMem.write_inside mem (cfg.slotOffset i + cfg.dataPayloadSize)
    [mem (cfg.slotOffset i + cfg.dataPayloadSize) + 1] 0 Nat.one_pos
  unfold foreign
  rw [Nat.add_zero] at hcell
  rw [hcell]
  simp

/-- Nothing of this port and nothing under the checksum changes. -/
theorem samePort_foreign (hi : i < cfg.uartCount) (hvalid : Valid cfg mem) :
    SamePort cfg i mem (foreign cfg i mem) := by
  have hheader := header_le cfg hi
  have hmeta := metaSz_lt_slot cfg i
  have hlow := le_header i
  have hsame (a : Nat) (ha : a < cfg.slotOffset i + cfg.dataPayloadSize) :
      foreign cfg i mem a = mem a := ByteMem.write_outside _ _ _ _ (Or.inl ha)
  refine ⟨hvalid, ?_, fun a ha => (hsame a (by omega)).symm, ?_⟩
  · unfold Valid
    rw [hsame _ (by omega), ← hvalid]
    refine congrArg Client.crc8 (ByteMem.read_congr fun a ha => hsame _ (by omega))
  · exact ⟨fun k hk => (hsame _ (by omega)).symm, fun k hk => (hsame _ (by omega)).symm⟩

/-- Payloads that differ behind the slot differ in what fits, if that does not end there. -/
theorem payload_take_foreign {len room : Nat} (houtside : cfg.dataPayloadSize < min len room) :
    (ByteMem.read (foreign cfg i mem) (cfg.slotOffset i) len).take room ≠
      (ByteMem.read mem (cfg.slotOffset i) len).take room := by
  rw [ByteMem.take_read, ByteMem.take_read, Nat.min_comm]
  intro hsame
  exact foreign_ne cfg i mem (ByteMem.agree_of_read hsame _ houtside)

end Package

/-! ## The client -/

section Client

variable {size : Nat} {w : PortWorker UInt8 size} {response : Client.Response}

/-- The response gets as far as the ring buffer. -/
def Accepts (response : Client.Response) (w : PortWorker UInt8 size) : Prop :=
  w.client ≠ none ∧ w.sessionId = response.arg &&& 0x7F ∧ response.type ≠ .NoCommand

/-- What the client copies for the port ends in the port's slot. -/
def ClientInside (D : Deployment) (i : Nat) (mem : Nat → UInt8) (w : PortWorker UInt8 size) :
    Prop :=
  Accepts (Client.Response.map i mem) w →
    min (Client.Response.map i mem).plSz.toNat w.rxRingBuff.free ≤ D.cfg.dataPayloadSize

theorem rxCheck_iff_accepts (response : Client.Response) (w : PortWorker UInt8 size) :
    (w.rxCheck response).2 = true ↔ Accepts response w := by
  unfold PortWorker.rxCheck Accepts
  dsimp only
  split
  · rename_i hnone
    simp [hnone]
  · rename_i hclient
    split
    · rename_i hsession
      simp [hsession]
    · rename_i hsession
      rw [not_not] at hsession
      simp [hclient, hsession]

/-- What a response that is accepted leaves in the ring buffer. -/
theorem processRX_contents (haccepts : Accepts response w) (payload : List UInt8) :
    (w.processRX response payload).rxRingBuff.contents =
      w.rxRingBuff.contents ++ payload.take w.rxRingBuff.free := by
  have hproceed := (rxCheck_iff_accepts response w).mpr haccepts
  have hring := (PortWorker.rxCheck_frame response w).1
  unfold PortWorker.processRX
  dsimp only
  rw [if_pos hproceed]
  show ((w.rxCheck response).1.rxRingBuff.store _ _ _).1.contents = _
  rw [hring]
  exact (DataBuffer.store_spec _ (fun _ => rfl) _ w.rxRingBuff payload (Nat.le_refl _)).1

/-- A worker is in the same state after payloads that agree on what it copies. -/
theorem processRX_congr {payload payload' : List UInt8} (hlen : payload'.length = payload.length)
    (htake : Accepts response w →
      payload'.take w.rxRingBuff.free = payload.take w.rxRingBuff.free) :
    w.processRX response payload' = w.processRX response payload := by
  have hring := (PortWorker.rxCheck_frame response w).1
  unfold PortWorker.processRX
  dsimp only
  split
  · rename_i hproceed
    have hstore := DataBuffer.store_congr DataBuffer.getHead (fun _ => rfl) payload'.length
      w.rxRingBuff hlen (htake ((rxCheck_iff_accepts response w).mp hproceed))
    unfold PortWorker.rxWrite
    rw [hring, hstore, hlen]
  · rfl

/-- What worker number `i` is handed. -/
theorem onIncomingPackage_port (D : Deployment) {i : Nat} (mem : Nat → UInt8)
    {portWorkers : List (PortWorker UInt8 size)} (hw : portWorkers[i]? = some w) :
    (DataProcessor.onIncomingPackage D.config mem portWorkers)[i]? =
      some (w.processRX (Client.Response.map i mem)
        (ByteMem.read mem (D.cfg.slotOffset i) (Client.Response.map i mem).plSz.toNat)) := by
  unfold DataProcessor.onIncomingPackage
  rw [List.getElem?_mapIdx, hw, ← D.slotOffset_eq]
  rfl

/-- **The client.** -/
theorem clientIsolated_iff {D : Deployment} {i : Nat} (hi : i < D.cfg.uartCount)
    {mem : Nat → UInt8} (hvalid : Valid D.cfg mem) {portWorkers : List (PortWorker UInt8 size)}
    (hw : portWorkers[i]? = some w) :
    ClientIsolated D i mem portWorkers ↔ ClientInside D i mem w := by
  constructor
  · intro hisolated haccepts
    have hsame := hisolated _ (samePort_foreign hi hvalid)
    rw [onIncomingPackage_port D mem hw, onIncomingPackage_port D _ hw,
      (samePort_foreign hi hvalid).response_eq, Option.some.injEq] at hsame
    have hcontents := congrArg (fun v => v.rxRingBuff.contents) hsame
    rw [processRX_contents haccepts, processRX_contents haccepts,
      List.append_cancel_left_eq] at hcontents
    by_contra houtside
    exact payload_take_foreign (Nat.lt_of_not_le houtside) hcontents
  · intro hinside mem' hsame
    rw [onIncomingPackage_port D mem hw, onIncomingPackage_port D mem' hw, hsame.response_eq]
    refine congrArg some (processRX_congr ?_ fun haccepts => hsame.payload_take (hinside haccepts))
    rw [ByteMem.length_read, ByteMem.length_read]

end Client

/-! ## The firmware -/

section Firmware

variable {size : Nat} {w : UARTWorker size} {request : Firmware.Request}

/-- What the firmware copies for the port ends in the port's slot, and the slot of a port
that is to be opened has room for the speed. -/
structure FirmwareInside (cfg : Configuration) (i : Nat) (mem : Nat → UInt8)
    (w : UARTWorker size) : Prop where
  data : (mapRequest i mem).type = .Data →
    min (mapRequest i mem).plSz.toNat w.rxRingBuff.free ≤ cfg.dataPayloadSize
  speed : (mapRequest i mem).type = .Open ∨ (mapRequest i mem).type = .ResetOpen →
    isOpen (mapRequest i mem).arg = true → 4 ≤ cfg.dataPayloadSize

/-- The calls that open a UART. -/
def openCalls (speed : UInt32) (mode : UInt8) : List UartCall :=
  if speed < 1 then [] else [.begin speed mode, .setTimeout 0]

/-- The speed that a port is opened with. -/
def speedField (rxDataBuff : Nat → UInt8) : UInt32 :=
  ByteMem.decode32 (rxDataBuff 0) (rxDataBuff 1) (rxDataBuff 2) (rxDataBuff 3)

theorem openPort_uart (rxDataBuff : Nat → UInt8) {arg : UInt8} (hopen : isOpen arg = true)
    (w : UARTWorker size) :
    (w.openPort rxDataBuff arg).uart = w.endUart.uart ++ openCalls (speedField rxDataBuff) arg := by
  unfold UARTWorker.openPort openCalls speedField
  dsimp only
  rw [if_pos hopen]
  split
  · exact (List.append_nil _).symm
  · rfl

/-- A port that is opened starts its UART with the speed of the payload. -/
theorem openCalls_inj {speed speed' : UInt32} {mode : UInt8}
    (h : openCalls speed mode = openCalls speed' mode) : speed = speed' := by
  unfold openCalls at h
  split at h
  · split at h
    · rename_i hzero hzero'
      rw [UInt32.lt_one_iff.mp hzero, UInt32.lt_one_iff.mp hzero']
    · cases h
  · split at h
    · cases h
    · injection h with hbegin
      injection hbegin

/-- The four bytes of the speed. -/
theorem speedField_inj {rxDataBuff rxDataBuff' : Nat → UInt8}
    (h : speedField rxDataBuff = speedField rxDataBuff') (k : Nat) (hk : k < 4) :
    rxDataBuff k = rxDataBuff' k := by
  have hbytes := congrArg ByteMem.encode32 h
  unfold speedField at hbytes
  rw [ByteMem.encode32_decode32, ByteMem.encode32_decode32] at hbytes
  simp only [List.cons.injEq, and_true] at hbytes
  obtain ⟨h0, h1, h2, h3⟩ := hbytes
  match k, hk with
  | 0, _ => exact h0
  | 1, _ => exact h1
  | 2, _ => exact h2
  | 3, _ => exact h3

/-- Opening reads the speed, if it reads anything. -/
theorem openPort_congr {rxDataBuff rxDataBuff' : Nat → UInt8} {arg : UInt8}
    (h : isOpen arg = true → speedField rxDataBuff' = speedField rxDataBuff)
    (w : UARTWorker size) : w.openPort rxDataBuff' arg = w.openPort rxDataBuff arg := by
  unfold UARTWorker.openPort
  dsimp only
  split
  · rename_i hopen
    have hspeed := h hopen
    unfold speedField at hspeed
    rw [hspeed]
  · rfl

/-- What worker number `i` is handed. -/
theorem processRequests_port (cfg : Configuration) (now : UInt32) {i : Nat} (mem : Nat → UInt8)
    {uartWorker : List (UARTWorker size)} (hw : uartWorker[i]? = some w) :
    (MainLoop.processRequests cfg now mem uartWorker)[i]? =
      some (w.processRequest now (fun k => mem (cfg.slotOffset i + k)) (mapRequest i mem)).1 := by
  unfold MainLoop.processRequests
  rw [List.getElem?_mapIdx, hw]
  rfl

/-- What a Data request leaves in the ring buffer. -/
theorem processRequest_contents (hsize : size < 0x10000) (now : UInt32) (rxDataBuff : Nat → UInt8)
    (hdata : request.type = .Data) (w : UARTWorker size) :
    (w.processRequest now rxDataBuff request).1.rxRingBuff.contents =
      w.rxRingBuff.contents ++
        (ByteMem.read rxDataBuff 0 request.plSz.toNat).take w.rxRingBuff.free := by
  unfold UARTWorker.processRequest
  rw [hdata]
  exact (DataBuffer.store_spec _ (Firmware.DataBuffer.getHead_eq hsize) _ w.rxRingBuff _
    (Nat.le_refl _)).1

/-- A request to open starts the UART with the speed in the slot. -/
theorem processRequest_uart (now : UInt32) (rxDataBuff : Nat → UInt8)
    (htype : request.type = .Open ∨ request.type = .ResetOpen)
    (hopen : isOpen request.arg = true) (w : UARTWorker size) :
    (w.processRequest now rxDataBuff request).1.uart =
      w.endUart.uart ++ openCalls (speedField rxDataBuff) request.arg := by
  unfold UARTWorker.processRequest
  rcases htype with h | h
  · rw [h]
    exact openPort_uart rxDataBuff hopen w
  · rw [h]
    refine (openPort_uart rxDataBuff hopen (w.startReset now)).trans ?_
    unfold UARTWorker.endUart UARTWorker.startReset
    dsimp only
    split <;> rfl

/-- A worker is in the same state after slots that agree on what it reads. -/
theorem processRequest_congr (hsize : size < 0x10000) (now : UInt32)
    {rxDataBuff rxDataBuff' : Nat → UInt8}
    (hdata : request.type = .Data →
      (ByteMem.read rxDataBuff' 0 request.plSz.toNat).take w.rxRingBuff.free =
        (ByteMem.read rxDataBuff 0 request.plSz.toNat).take w.rxRingBuff.free)
    (hspeed : request.type = .Open ∨ request.type = .ResetOpen → isOpen request.arg = true →
      speedField rxDataBuff' = speedField rxDataBuff) :
    (w.processRequest now rxDataBuff' request).1 = (w.processRequest now rxDataBuff request).1 := by
  unfold UARTWorker.processRequest
  cases htype : request.type with
  | Data =>
    dsimp only
    have hstore := DataBuffer.store_congr Firmware.DataBuffer.getHead
      (Firmware.DataBuffer.getHead_eq hsize) request.plSz.toNat w.rxRingBuff
      (by rw [ByteMem.length_read, ByteMem.length_read]) (hdata htype)
    rw [ByteMem.length_read, ByteMem.length_read, hstore]
  | Open => exact openPort_congr (hspeed (Or.inl htype)) w
  | ResetOpen => exact openPort_congr (hspeed (Or.inr htype)) (w.startReset now)
  | Reset | Close | NoCommand | other => rfl

/-- **The firmware.** -/
theorem firmwareIsolated_iff {cfg : Configuration} {w : UARTWorker cfg.dataBufferSize} {i : Nat}
    (hi : i < cfg.uartCount) {mem : Nat → UInt8} (hvalid : Valid cfg mem) (now : UInt32)
    {uartWorker : List (UARTWorker cfg.dataBufferSize)} (hw : uartWorker[i]? = some w) :
    FirmwareIsolated cfg i mem now uartWorker ↔ FirmwareInside cfg i mem w := by
  have hsize := cfg.dataBufferSize_lt
  constructor
  · intro hisolated
    have hforeign := samePort_foreign hi hvalid
    have hsame := hisolated _ hforeign
    rw [processRequests_port cfg now mem hw, processRequests_port cfg now _ hw,
      ← hforeign.port.mapRequest_eq, Option.some.injEq] at hsame
    refine ⟨?_, ?_⟩
    · intro hdata
      have hcontents := congrArg (fun v => v.rxRingBuff.contents) hsame
      rw [processRequest_contents hsize now _ hdata, processRequest_contents hsize now _ hdata,
        List.append_cancel_left_eq, ByteMem.read_shift, ByteMem.read_shift] at hcontents
      by_contra houtside
      exact payload_take_foreign (Nat.lt_of_not_le houtside) hcontents
    · intro htype hopen
      have huart := congrArg UARTWorker.uart hsame
      rw [processRequest_uart now _ htype hopen, processRequest_uart now _ htype hopen,
        List.append_cancel_left_eq] at huart
      by_contra hsmall
      -- the byte behind the slot is one of the four
      exact foreign_ne cfg i mem
        (speedField_inj (openCalls_inj huart) cfg.dataPayloadSize (Nat.lt_of_not_le hsmall))
  · intro hinside mem' hsame
    rw [processRequests_port cfg now mem hw, processRequests_port cfg now mem' hw,
      ← hsame.port.mapRequest_eq]
    refine congrArg some (processRequest_congr hsize now ?_ ?_)
    · intro hdata
      rw [ByteMem.read_shift, ByteMem.read_shift]
      exact hsame.payload_take (hinside.data hdata)
    · intro htype hopen
      have hfour := hinside.speed htype hopen
      unfold speedField
      simp only [hsame.port.slot_eq 0 (by omega), hsame.port.slot_eq 1 (by omega),
        hsame.port.slot_eq 2 (by omega), hsame.port.slot_eq 3 (by omega)]

end Firmware

/-! ## Both receivers -/

/-- **Exactly when ports are isolated.** For every deployment, port, package with a valid
checksum and state of the workers. -/
theorem isolated_iff_inside (D : Deployment) {i : Nat} (hi : i < D.cfg.uartCount)
    {mem : Nat → UInt8} (hvalid : Valid D.cfg mem) :
    (∀ {size : Nat} (portWorkers : List (PortWorker UInt8 size)) (w : PortWorker UInt8 size),
        portWorkers[i]? = some w →
        (ClientIsolated D i mem portWorkers ↔ ClientInside D i mem w)) ∧
      ∀ (uartWorker : List (UARTWorker D.cfg.dataBufferSize)) (w : UARTWorker D.cfg.dataBufferSize)
        (now : UInt32), uartWorker[i]? = some w →
        (FirmwareIsolated D.cfg i mem now uartWorker ↔ FirmwareInside D.cfg i mem w) :=
  ⟨fun _ _ hw => clientIsolated_iff hi hvalid hw,
    fun _ _ now hw => firmwareIsolated_iff hi hvalid now hw⟩

section Examples

/-- The larger board: three ports, 50 bytes of payload each. -/
def threePorts : Deployment := Deployment.matching .avrMega2560 true 4300

/-- A package with a Data header for the first port that counts `plSz` bytes; the second
port's slot starts with `stray`. -/
def dataPackage (plSz stray : UInt8) : Nat → UInt8 :=
  sealPackage threePorts.cfg.metaSz 0
    (ByteMem.write (ByteMem.write (fun _ => 0) (headerOffset 0) [0x08, 0, plSz])
      (threePorts.cfg.slotOffset 1) [stray])

theorem dataPackage_valid (plSz stray : UInt8) :
    Valid threePorts.cfg (dataPackage plSz stray) := sealPackage_checksum _ _

/-- A worker of the client with a local connection. -/
def connected : PortWorker UInt8 512 :=
  { PortWorker.create threePorts.config Deployment.ring512 with client := some 0 }

/-- The firmware's workers after `setup`. -/
def idleWorkers : List (UARTWorker threePorts.cfg.dataBufferSize) :=
  List.replicate 3 (UARTWorker.setup (DataBuffer.create (fun _ => 0)
    threePorts.cfg.dataBufferSize_pos))

/-- A package that fills the slot. -/
theorem isolated_fullSlot :
    ClientIsolated threePorts 0 (dataPackage 50 7) [connected, connected, connected] ∧
      FirmwareIsolated threePorts.cfg 0 (dataPackage 50 7) 0 idleWorkers := by
  have hboth := isolated_iff_inside threePorts (i := 0) (by decide) (dataPackage_valid 50 7)
  refine ⟨(hboth.1 _ connected rfl).mpr ?_, (hboth.2 idleWorkers _ 0 rfl).mpr ?_⟩
  · exact fun _ => by decide +kernel
  · exact ⟨fun _ => by decide +kernel, fun _ _ => by decide⟩

/-- **Another port's byte.** The two packages differ in the first byte of the second port's
slot only; one byte more than a slot holds is counted for the first port, and both sides
store it there. -/
theorem foreign_byte_stored :
    SamePort threePorts.cfg 0 (dataPackage 51 7) (dataPackage 51 8) ∧
      ¬ ClientIsolated threePorts 0 (dataPackage 51 7) [connected, connected, connected] ∧
      ¬ FirmwareIsolated threePorts.cfg 0 (dataPackage 51 7) 0 idleWorkers := by
  have hsame : SamePort threePorts.cfg 0 (dataPackage 51 7) (dataPackage 51 8) :=
    ⟨dataPackage_valid 51 7, dataPackage_valid 51 8, by decide +kernel,
      ⟨by decide +kernel, by decide +kernel⟩⟩
  refine ⟨hsame, ?_, ?_⟩
  · intro hisolated
    have hstored := congrArg (Option.map fun v => v.rxRingBuff.contents) (hisolated _ hsame)
    revert hstored
    decide +kernel
  · intro hisolated
    have hstored := congrArg (Option.map fun v => v.rxRingBuff.contents) (hisolated _ hsame)
    revert hstored
    decide +kernel

end Examples

end UartBridge.PortIsolation
