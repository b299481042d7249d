import UartBridge.Client.PortWorker
import UartBridge.Firmware.UARTWorker
import UartBridge.System.Deployment

/-!
# One port across the wire

What one port of the client puts into a package, and what the firmware's worker
for the port makes of it when the package is processed.

* `mapRequest_write` — the command header the firmware reads is the one the
  client wrote;
* `command`, `deliver_command` — what a request does to the worker's mode and
  session;
* `fill`, `deliver_fill` — what it does to the number of bytes in the ring
  buffer, and how many bytes it drops.
-/

namespace UartBridge

open Client Firmware

/-- A request as the firmware reads it. -/
def wireRequest (r : Client.Request) : Firmware.Request :=
  { type := Firmware.ReqType.ofByte r.type.toByte, arg := r.arg, plSz := r.plSz }

/-- **The command header survives the package.** -/
theorem mapRequest_write (r : Client.Request) (i : Nat) (rawBuffer : Nat → UInt8) :
    mapRequest i (r.write i rawBuffer) = wireRequest r := by
  have h0 := ByteMem.write_inside rawBuffer (Client.pkgHdrSz + i * Client.cmdHdrSize)
    [r.type.toByte, r.arg, r.plSz] 0 (by simp)
  have h1 := ByteMem.write_inside rawBuffer (Client.pkgHdrSz + i * Client.cmdHdrSize)
    [r.type.toByte, r.arg, r.plSz] 1 (by simp)
  have h2 := ByteMem.write_inside rawBuffer (Client.pkgHdrSz + i * Client.cmdHdrSize)
    [r.type.toByte, r.arg, r.plSz] 2 (by simp)
  rw [Nat.add_zero] at h0
  have hlayout : Configuration.pkgHdrSz + i * Configuration.cmdHdrSize =
      Client.pkgHdrSz + i * Client.cmdHdrSize := rfl
  simp only [mapRequest, Client.Request.write, hlayout, h0, h1, h2]
  rfl

/-- A port's part of a package: its command header, its payload slot and the
package's counter field. -/
structure UpMsg where
  request : Client.Request
  slot : Nat → UInt8
  counter : UInt32

/-- The firmware's worker gets the request; the number of bytes dropped for lack
of space comes with it. -/
def UpMsg.deliver {size : Nat} (now : UInt32) (m : UpMsg) (w : UARTWorker size) :
    UARTWorker size × Nat :=
  w.processRequest now m.slot (wireRequest m.request)

/-- A response as the client reads it, with the package's counter field. -/
def wireResponse (r : Firmware.Response) (counter : UInt32) : Client.Response :=
  { type := Client.RespType.ofByte r.type.toByte, arg := r.arg, plSz := r.plSz, counter := counter }

/-- **The response header survives the package.** -/
theorem map_writeResponse (r : Firmware.Response) (i : Nat) (rawBuffer : Nat → UInt8) :
    Client.Response.map i (writeResponse r i rawBuffer) =
      wireResponse r (ByteMem.decode32 (rawBuffer Client.pkgCntOffset)
        (rawBuffer (Client.pkgCntOffset + 1)) (rawBuffer (Client.pkgCntOffset + 2))
        (rawBuffer (Client.pkgCntOffset + 3))) := by
  have hlayout : Client.pkgHdrSz + i * Client.cmdHdrSize =
      Configuration.pkgHdrSz + i * Configuration.cmdHdrSize := rfl
  have hpos : Client.pkgCntOffset + 4 ≤ Configuration.pkgHdrSz + i * Configuration.cmdHdrSize := by
    simp only [Client.pkgCntOffset, Configuration.pkgHdrSz]
    omega
  have h0 := ByteMem.write_inside rawBuffer (Configuration.pkgHdrSz + i * Configuration.cmdHdrSize)
    [r.type.toByte, r.arg, r.plSz] 0 (by simp)
  have h1 := ByteMem.write_inside rawBuffer (Configuration.pkgHdrSz + i * Configuration.cmdHdrSize)
    [r.type.toByte, r.arg, r.plSz] 1 (by simp)
  have h2 := ByteMem.write_inside rawBuffer (Configuration.pkgHdrSz + i * Configuration.cmdHdrSize)
    [r.type.toByte, r.arg, r.plSz] 2 (by simp)
  rw [Nat.add_zero] at h0
  have hcounter (k : Nat) (hk : k < 4) :
      ByteMem.write rawBuffer (Configuration.pkgHdrSz + i * Configuration.cmdHdrSize)
        [r.type.toByte, r.arg, r.plSz] (Client.pkgCntOffset + k) =
        rawBuffer (Client.pkgCntOffset + k) :=
    ByteMem.write_outside _ _ _ _ (by omega)
  have hzero := hcounter 0 (by omega)
  rw [Nat.add_zero] at hzero
  simp only [Client.Response.map, writeResponse, wireResponse, hlayout, h0, h1, h2, hzero,
    hcounter 1 (by omega), hcounter 2 (by omega), hcounter 3 (by omega)]
  rfl

/-- What a request does to the mode and the session of a worker. -/
def command (m : UpMsg) (mode session : UInt8) : UInt8 × UInt8 :=
  match m.request.type with
  | .Open =>
    if isOpen m.request.arg &&
        ByteMem.decode32 (m.slot 0) (m.slot 1) (m.slot 2) (m.slot 3) < 1 then (modeClosed, 0)
    else (m.request.arg, 0)
  | .Reset => (mode, m.request.arg)
  | .Close => (modeClosed, session)
  | .Data | .NoCommand => (mode, session)

theorem command_reset {m : UpMsg} (htype : m.request.type = .Reset) (mode session : UInt8) :
    command m mode session = (mode, m.request.arg) := by
  simp only [command, htype]

theorem command_idle {m : UpMsg} (htype : m.request.type = .Data ∨ m.request.type = .NoCommand)
    (mode session : UInt8) : command m mode session = (mode, session) := by
  rcases htype with htype | htype
  · simp only [command, htype]
  · simp only [command, htype]

/-- A request that neither opens nor closes keeps the mode. -/
theorem command_mode {m : UpMsg} (hopen : m.request.type ≠ .Open) (hclose : m.request.type ≠ .Close)
    (mode session : UInt8) : (command m mode session).1 = mode := by
  unfold command
  cases htype : m.request.type with
  | Open => exact absurd htype hopen
  | Close => exact absurd htype hclose
  | Reset | Data | NoCommand => rfl

/-- A request that neither opens nor resets keeps the session. -/
theorem command_session {m : UpMsg} (hopen : m.request.type ≠ .Open)
    (hreset : m.request.type ≠ .Reset) (mode session : UInt8) :
    (command m mode session).2 = session := by
  unfold command
  cases htype : m.request.type with
  | Open => exact absurd htype hopen
  | Reset => exact absurd htype hreset
  | Close | Data | NoCommand => rfl

/-- The mode after a request does not depend on the session before it. -/
theorem command_mode_congr (m : UpMsg) (mode session session' : UInt8) :
    (command m mode session).1 = (command m mode session').1 := by
  unfold command
  cases m.request.type with
  | Open => rfl
  | Reset | Close | Data | NoCommand => rfl

/-- The session after a request does not depend on the mode before it. -/
theorem command_session_congr (m : UpMsg) (mode mode' session : UInt8) :
    (command m mode session).2 = (command m mode' session).2 := by
  unfold command
  cases m.request.type with
  | Open => rfl
  | Reset | Close | Data | NoCommand => rfl

/-- Opening sets the mode asked for, unless the speed is zero, and session 0. -/
theorem openPort_command {size : Nat} (slot : Nat → UInt8) (arg : UInt8) (w : UARTWorker size) :
    ((w.openPort slot arg).curMode, (w.openPort slot arg).sessionId) =
      if isOpen arg && ByteMem.decode32 (slot 0) (slot 1) (slot 2) (slot 3) < 1 then (modeClosed, 0)
      else (arg, 0) := by
  unfold UARTWorker.openPort
  by_cases hopen : isOpen arg = true
  · by_cases hspeed : ByteMem.decode32 (slot 0) (slot 1) (slot 2) (slot 3) < 1
    · simp [hopen, hspeed]
    · simp [hopen, hspeed]
  · simp [hopen]

/-- **A request changes mode and session as `command` says**, whatever the ring
buffer holds. -/
theorem deliver_command {size : Nat} (now : UInt32) (m : UpMsg) (w : UARTWorker size) :
    ((m.deliver now w).1.curMode, (m.deliver now w).1.sessionId) =
      command m w.curMode w.sessionId := by
  unfold UpMsg.deliver wireRequest UARTWorker.processRequest command
  cases htype : m.request.type with
  | NoCommand => rfl
  | Reset => rfl
  | Open => exact openPort_command m.slot m.request.arg w
  | Close =>
    show ((modeClosed, w.endUart.sessionId) : UInt8 × UInt8) = (modeClosed, w.sessionId)
    unfold UARTWorker.endUart
    split <;> rfl
  | Data => rfl

/-! ## The fill of the ring buffer -/

/-- Mode and fill after a request, if nothing has to be dropped. -/
def fill (m : UpMsg) (st : UInt8 × Nat) : UInt8 × Nat :=
  ((command m st.1 0).1,
    match m.request.type with
    | .Data => st.2 + m.request.plSz.toNat
    | .Reset => 0
    | .Open | .Close => if isOpen st.1 then 0 else st.2
    | .NoCommand => st.2)

/-- With less in the buffer before, there is no more in it after. -/
theorem fill_mono (m : UpMsg) (mode : UInt8) {a b : Nat} (hab : a ≤ b) :
    (fill m (mode, a)).2 ≤ (fill m (mode, b)).2 := by
  unfold fill
  cases m.request.type with
  | Data => exact Nat.add_le_add_right hab _
  | Reset => exact Nat.le_refl 0
  | Open | Close =>
    dsimp only
    split
    · exact Nat.le_refl 0
    · exact hab
  | NoCommand => exact hab

/-- A request other than Data adds nothing. -/
theorem fill_le {m : UpMsg} (hdata : m.request.type ≠ .Data) (st : UInt8 × Nat) :
    (fill m st).2 ≤ st.2 := by
  unfold fill
  cases htype : m.request.type with
  | Data => exact absurd htype hdata
  | Reset => exact Nat.zero_le _
  | Open | Close =>
    dsimp only
    split
    · exact Nat.zero_le _
    · exact Nat.le_refl _
  | NoCommand => exact Nat.le_refl _

theorem endUart_stored {size : Nat} (w : UARTWorker size) :
    w.endUart.rxRingBuff.stored = if isOpen w.curMode then 0 else w.rxRingBuff.stored := by
  unfold UARTWorker.endUart
  by_cases hopen : isOpen w.curMode = true
  · simp [hopen]
  · simp [hopen]

theorem openPort_stored {size : Nat} (slot : Nat → UInt8) (arg : UInt8) (w : UARTWorker size) :
    (w.openPort slot arg).rxRingBuff.stored =
      if isOpen w.curMode then 0 else w.rxRingBuff.stored := by
  rw [← endUart_stored]
  unfold UARTWorker.openPort
  dsimp only
  split
  · split
    · rfl
    · rfl
  · rfl

/-- A request other than Data leaves what `fill` says, and drops nothing. -/
theorem deliver_other {size : Nat} (now : UInt32) (m : UpMsg) (w : UARTWorker size)
    (hdata : m.request.type ≠ .Data) :
    (m.deliver now w).1.rxRingBuff.stored = (fill m (w.curMode, w.rxRingBuff.stored)).2 ∧
      (m.deliver now w).2 = 0 := by
  unfold UpMsg.deliver wireRequest UARTWorker.processRequest fill
  cases htype : m.request.type with
  | Data => exact absurd htype hdata
  | NoCommand => exact ⟨rfl, rfl⟩
  | Reset => exact ⟨DataBuffer.stored_reset _, rfl⟩
  | Open => exact ⟨openPort_stored m.slot m.request.arg w, rfl⟩
  | Close => exact ⟨endUart_stored w, rfl⟩

/-- A Data request stores what fits of its payload, and drops the rest. -/
theorem deliver_data {size : Nat} (hsize : size < 0x10000) (now : UInt32) (m : UpMsg)
    (w : UARTWorker size) (htype : m.request.type = .Data) :
    (m.deliver now w).1.rxRingBuff.stored =
        w.rxRingBuff.stored + min w.rxRingBuff.free m.request.plSz.toNat ∧
      (m.deliver now w).2 = m.request.plSz.toNat - w.rxRingBuff.free := by
  have hsame : ∀ b : DataBuffer UInt8 size, Firmware.DataBuffer.getHead b = b.getHead :=
    Firmware.DataBuffer.getHead_eq hsize
  generalize hpayload : ByteMem.read m.slot 0 m.request.plSz.toNat = payload
  have hlen : payload.length = m.request.plSz.toNat := by
    rw [← hpayload, ByteMem.length_read]
  have hdeliver : m.deliver now w =
      ({ w with rxRingBuff :=
          (w.rxRingBuff.store Firmware.DataBuffer.getHead payload.length payload).1 },
        (w.rxRingBuff.store Firmware.DataBuffer.getHead payload.length payload).2.length) := by
    unfold UpMsg.deliver wireRequest UARTWorker.processRequest
    rw [htype, ← hpayload]
    rfl
  have hstored := DataBuffer.store_stored Firmware.DataBuffer.getHead hsame payload.length
    w.rxRingBuff payload (Nat.le_refl _)
  have hrest := (DataBuffer.store_spec Firmware.DataBuffer.getHead hsame payload.length
    w.rxRingBuff payload (Nat.le_refl _)).2.1
  rw [hdeliver, ← hlen]
  refine ⟨hstored, ?_⟩
  show (w.rxRingBuff.store Firmware.DataBuffer.getHead payload.length payload).2.length = _
  rw [hrest, List.length_drop]

/-- **A request leaves in the ring buffer what fits of `fill`, and drops the
rest.** -/
theorem deliver_fill {size : Nat} (hsize : size < 0x10000) (now : UInt32) (m : UpMsg)
    (w : UARTWorker size) :
    (m.deliver now w).1.rxRingBuff.stored =
        min (fill m (w.curMode, w.rxRingBuff.stored)).2 (size - 1) ∧
      (m.deliver now w).2 = (fill m (w.curMode, w.rxRingBuff.stored)).2 - (size - 1) := by
  have hlt := w.rxRingBuff.stored_lt
  by_cases htype : m.request.type = .Data
  · obtain ⟨hstored, hleft⟩ := deliver_data hsize now m w htype
    have hfill : (fill m (w.curMode, w.rxRingBuff.stored)).2 =
        w.rxRingBuff.stored + m.request.plSz.toNat := by
      simp only [fill, htype]
    rw [hstored, hleft, hfill]
    unfold DataBuffer.free
    omega
  · obtain ⟨hstored, hleft⟩ := deliver_other now m w htype
    have hle : (fill m (w.curMode, w.rxRingBuff.stored)).2 ≤ w.rxRingBuff.stored :=
      fill_le htype (w.curMode, w.rxRingBuff.stored)
    omega

end UartBridge
