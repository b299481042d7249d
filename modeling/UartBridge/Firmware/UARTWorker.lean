import UartBridge.DataBuffer
import UartBridge.Firmware.Configuration

/-!
# UARTWorker: one UART of the firmware

`processRequest` takes a command from a package, `processRX` drains the ring
buffer into the UART, `fillTXBuff` collects UART input for the next response and
`processTX` describes it. The calls made on the `HardwareSerial` object are
recorded in `uart`, newest last; nothing reads the record.
-/

namespace UartBridge.Firmware

/-! ## ResetHelper -/

structure ResetHelper where
  startTime : UInt32
  rstTime : UInt16
  started : Bool
  deriving DecidableEq, Repr

namespace ResetHelper

/-- `Setup`. -/
def setup : ResetHelper := { startTime := 0, rstTime := 0, started := false }

/-- `StartReset`, at `millis() = now`. -/
def startReset (msec : UInt16) (now : UInt32) (_h : ResetHelper) : ResetHelper :=
  { startTime := now, rstTime := if msec < 1 then 1 else msec, started := true }

/-- `ResetComplete`, at `millis() = now`. -/
def resetComplete (now : UInt32) (h : ResetHelper) : ResetHelper × Bool :=
  if !h.started then (h, true)
  else if now - h.startTime < h.rstTime.toUInt32 then (h, false)
  else ({ h with started := false }, true)

end ResetHelper

/-! ## The worker -/

def modeClosed : UInt8 := 0xFF

/-- `IS_OPEN`. -/
def isOpen (mode : UInt8) : Bool := mode < modeClosed

/-- A call on the `HardwareSerial` object. -/
inductive UartCall where
  | begin (speed : UInt32) (mode : UInt8)
  | setTimeout (msec : Nat)
  | finish
  | write (bytes : List UInt8)
  | readBytes (bytes : List UInt8)
  deriving DecidableEq, Repr

structure UARTWorker (size : Nat) where
  rxRingBuff : DataBuffer UInt8 size
  curMode : UInt8
  sessionId : UInt8
  txUsedSz : Nat
  resetHelper : ResetHelper
  uart : List UartCall

namespace UARTWorker

variable {size : Nat}

/-- `Setup`. -/
def setup (rxRingBuff : DataBuffer UInt8 size) : UARTWorker size :=
  { rxRingBuff := rxRingBuff, curMode := modeClosed, sessionId := 0, txUsedSz := 0
    resetHelper := ResetHelper.setup, uart := [] }

/-- Closing an open port ends the UART and empties the ring buffer. -/
def endUart (w : UARTWorker size) : UARTWorker size :=
  if isOpen w.curMode then
    { w with uart := w.uart ++ [.finish], rxRingBuff := w.rxRingBuff.reset }
  else w

/-- The `Open` branch. The speed is read from the first four payload bytes; a
speed of zero closes the port again. -/
def openPort (rxDataBuff : Nat → UInt8) (arg : UInt8) (w : UARTWorker size) : UARTWorker size :=
  let w := { w.endUart with sessionId := 0, curMode := arg }
  if isOpen w.curMode then
    let speed := ByteMem.decode32 (rxDataBuff 0) (rxDataBuff 1) (rxDataBuff 2) (rxDataBuff 3)
    if speed < 1 then { w with curMode := modeClosed }
    else { w with uart := w.uart ++ [.begin speed w.curMode, .setTimeout 0] }
  else w

/-- `StartReset(RESET_TIME_MS)`. -/
def startReset (now : UInt32) (w : UARTWorker size) : UARTWorker size :=
  { w with resetHelper := w.resetHelper.startReset resetTimeMS now }

/-- `ProcessRequest`, with the number of payload bytes left over by the copy
loop of a Data request (`szLeft`); these bytes are lost. -/
def processRequest (now : UInt32) (rxDataBuff : Nat → UInt8) (request : Request)
    (w : UARTWorker size) : UARTWorker size × Nat :=
  match request.type with
  | .Data =>
    let payload := ByteMem.read rxDataBuff 0 request.plSz.toNat
    let r := w.rxRingBuff.store Firmware.DataBuffer.getHead payload.length payload
    ({ w with rxRingBuff := r.1 }, r.2.length)
  | .Reset =>
    ({ w.startReset now with sessionId := request.arg, rxRingBuff := w.rxRingBuff.reset }, 0)
  | .ResetOpen => ((w.startReset now).openPort rxDataBuff request.arg, 0)
  | .Open => (w.openPort rxDataBuff request.arg, 0)
  | .Close => ({ w.endUart with curMode := modeClosed }, 0)
  | .NoCommand => (w, 0)
  | .other _ => (w, 0)

/-- A request leaves the bytes collected for the next response alone. -/
theorem processRequest_txUsedSz (now : UInt32) (rxDataBuff : Nat → UInt8) (request : Request)
    (w : UARTWorker size) :
    (w.processRequest now rxDataBuff request).1.txUsedSz = w.txUsedSz := by
  have hend (v : UARTWorker size) : v.endUart.txUsedSz = v.txUsedSz := by
    unfold endUart
    split <;> rfl
  have hopen (v : UARTWorker size) :
      (v.openPort rxDataBuff request.arg).txUsedSz = v.txUsedSz := by
    rw [← hend v]
    unfold openPort
    dsimp only
    split
    · split <;> rfl
    · rfl
  unfold processRequest
  cases request.type with
  | Data | Reset | NoCommand | other => rfl
  | ResetOpen => exact hopen (w.startReset now)
  | Open => exact hopen w
  | Close => exact hend w

/-- The drain loop of `ProcessRX`: one round for each contiguous part of the
stored bytes, until `uartAvail` is used up or nothing is stored. Each round but
the last writes a byte at least, so `uartAvail` rounds are enough. -/
def drain : Nat → Nat → UARTWorker size → UARTWorker size
  | 0, _, w => w
  | fuel + 1, uartAvail, w =>
    if uartAvail = 0 then w
    else
      let tail := Firmware.DataBuffer.getTail w.rxRingBuff
      let szToWrite := if tail.maxSz < uartAvail then tail.maxSz else uartAvail
      if szToWrite < 1 then w
      else
        drain fuel (uartAvail - szToWrite)
          { w with
            uart := w.uart ++ [.write (ByteMem.read w.rxRingBuff.storage tail.buffer szToWrite)]
            rxRingBuff := w.rxRingBuff.commit tail szToWrite }

/-- The drain loop touches the ring buffer and the UART only. -/
theorem drain_frame (fuel uartAvail : Nat) (w : UARTWorker size) :
    (drain fuel uartAvail w).curMode = w.curMode ∧
      (drain fuel uartAvail w).sessionId = w.sessionId ∧
      (drain fuel uartAvail w).txUsedSz = w.txUsedSz ∧
      (drain fuel uartAvail w).resetHelper = w.resetHelper := by
  induction fuel generalizing uartAvail w with
  | zero => exact ⟨rfl, rfl, rfl, rfl⟩
  | succ fuel ih =>
    simp only [drain]
    generalize (if (Firmware.DataBuffer.getTail w.rxRingBuff).maxSz < uartAvail then
      (Firmware.DataBuffer.getTail w.rxRingBuff).maxSz else uartAvail) = sz
    split
    · exact ⟨rfl, rfl, rfl, rfl⟩
    · split
      · exact ⟨rfl, rfl, rfl, rfl⟩
      · exact ih _ _

/-- The drain loop takes the oldest bytes out of the ring buffer. -/
theorem drain_contents (hsize : size < 0x10000) (fuel uartAvail : Nat) (w : UARTWorker size) :
    ∃ k, (drain fuel uartAvail w).rxRingBuff.contents = w.rxRingBuff.contents.drop k := by
  induction fuel generalizing uartAvail w with
  | zero => exact ⟨0, rfl⟩
  | succ fuel ih =>
    simp only [drain, Firmware.DataBuffer.getTail_eq hsize]
    split
    · exact ⟨0, rfl⟩
    · generalize hsz : (if w.rxRingBuff.getTail.maxSz < uartAvail then w.rxRingBuff.getTail.maxSz
        else uartAvail) = sz
      split
      · exact ⟨0, rfl⟩
      · obtain ⟨hfits, hstored, -⟩ := w.rxRingBuff.getTail_spec
        have hle : sz ≤ w.rxRingBuff.getTail.maxSz := by
          rw [← hsz]
          split <;> omega
        obtain ⟨k, hk⟩ := ih (uartAvail - sz)
          { w with
            uart := w.uart ++
              [.write (ByteMem.read w.rxRingBuff.storage w.rxRingBuff.getTail.buffer sz)]
            rxRingBuff := w.rxRingBuff.commit w.rxRingBuff.getTail sz }
        have hcommit := (w.rxRingBuff.commit_tail_spec w.rxRingBuff.getTail sz rfl
          (by omega) (by omega)).1
        refine ⟨sz + k, ?_⟩
        rw [hk, hcommit, List.drop_drop]

/-- `ProcessRX`, at `millis() = now`, with the UART's `availableForWrite()`. -/
def processRX (cfg : Configuration) (now : UInt32) (availableForWrite : Nat)
    (w : UARTWorker size) : UARTWorker size :=
  let (resetHelper, complete) := w.resetHelper.resetComplete now
  let w := { w with resetHelper := resetHelper }
  if !complete || !isOpen w.curMode then w
  else
    let uartAvail := if cfg.portIOSize < availableForWrite then cfg.portIOSize
      else availableForWrite
    drain uartAvail uartAvail w

/-- `ProcessRX` leaves the bytes collected for the next response alone. -/
theorem processRX_txUsedSz (cfg : Configuration) (now : UInt32) (availableForWrite : Nat)
    (w : UARTWorker size) : (w.processRX cfg now availableForWrite).txUsedSz = w.txUsedSz := by
  unfold processRX
  dsimp only
  split
  · rfl
  · exact (drain_frame _ _ _).2.2.1

/-- `ProcessRX` keeps the mode, and at most shortens what is stored. -/
theorem processRX_spec (hsize : size < 0x10000) (cfg : Configuration) (now : UInt32)
    (availableForWrite : Nat) (w : UARTWorker size) :
    (w.processRX cfg now availableForWrite).curMode = w.curMode ∧
      ∃ k, (w.processRX cfg now availableForWrite).rxRingBuff.contents =
        w.rxRingBuff.contents.drop k := by
  unfold processRX
  dsimp only
  split
  · exact ⟨rfl, 0, rfl⟩
  · exact ⟨(drain_frame _ _ _).1, drain_contents hsize _ _ _⟩

/-- `FillTXBuff`: `input` is what the UART has to read; `readBytes` returns at
most the requested number of these bytes. The bytes go to the payload slot in
`txBuff`, after those already collected. -/
def fillTXBuff (cfg : Configuration) (reset : Bool) (input : List UInt8)
    (w : UARTWorker size) (txDataBuff : Nat) (txBuff : Nat → UInt8) :
    UARTWorker size × (Nat → UInt8) :=
  let w := if reset then { w with txUsedSz := 0 } else w
  if !isOpen w.curMode then (w, txBuff)
  else
    let left := cfg.dataPayloadSize - w.txUsedSz
    let sz := if cfg.portIOSize < left then cfg.portIOSize else left
    if sz < 1 then (w, txBuff)
    else
      let bytes := input.take sz
      ({ w with txUsedSz := w.txUsedSz + bytes.length, uart := w.uart ++ [.readBytes bytes] },
        ByteMem.write txBuff (txDataBuff + w.txUsedSz) bytes)

/-- `FillTXBuff` stays within the payload slot. -/
theorem fillTXBuff_slot (cfg : Configuration) (reset : Bool) (input : List UInt8)
    (w : UARTWorker size) (txDataBuff : Nat) (txBuff : Nat → UInt8)
    (hused : w.txUsedSz ≤ cfg.dataPayloadSize) :
    (w.fillTXBuff cfg reset input txDataBuff txBuff).1.txUsedSz ≤ cfg.dataPayloadSize ∧
      ∃ offset bytes, (w.fillTXBuff cfg reset input txDataBuff txBuff).2 =
        ByteMem.write txBuff (txDataBuff + offset) bytes ∧
        offset + bytes.length ≤ cfg.dataPayloadSize := by
  have hstart : (if reset then { w with txUsedSz := 0 } else w).txUsedSz ≤ cfg.dataPayloadSize := by
    cases reset with
    | false => exact hused
    | true => exact Nat.zero_le _
  unfold fillTXBuff
  revert hstart
  generalize (if reset then { w with txUsedSz := 0 } else w) = v
  intro hstart
  dsimp only
  generalize hsz : (if cfg.portIOSize < cfg.dataPayloadSize - v.txUsedSz then cfg.portIOSize
    else cfg.dataPayloadSize - v.txUsedSz) = sz
  have hle : sz ≤ cfg.dataPayloadSize - v.txUsedSz := by
    rw [← hsz]
    split <;> omega
  have hnone : ∃ offset bytes, txBuff = ByteMem.write txBuff (txDataBuff + offset) bytes ∧
      offset + bytes.length ≤ cfg.dataPayloadSize :=
    ⟨0, [], (ByteMem.write_nil _ _).symm, Nat.zero_le _⟩
  split
  · exact ⟨hstart, hnone⟩
  · split
    · exact ⟨hstart, hnone⟩
    · have hlen : (input.take sz).length ≤ sz := by
        rw [List.length_take]
        exact Nat.min_le_left _ _
      exact ⟨by dsimp only; omega, v.txUsedSz, input.take sz, rfl, by omega⟩

/-- `FillTXBuff` touches the send buffer and the UART only. -/
theorem fillTXBuff_frame (cfg : Configuration) (reset : Bool) (input : List UInt8)
    (w : UARTWorker size) (txDataBuff : Nat) (txBuff : Nat → UInt8) :
    (w.fillTXBuff cfg reset input txDataBuff txBuff).1.rxRingBuff = w.rxRingBuff ∧
      (w.fillTXBuff cfg reset input txDataBuff txBuff).1.curMode = w.curMode ∧
      (w.fillTXBuff cfg reset input txDataBuff txBuff).1.sessionId = w.sessionId := by
  have hstart : (if reset then { w with txUsedSz := 0 } else w).rxRingBuff = w.rxRingBuff ∧
      (if reset then { w with txUsedSz := 0 } else w).curMode = w.curMode ∧
      (if reset then { w with txUsedSz := 0 } else w).sessionId = w.sessionId := by
    cases reset with
    | false => exact ⟨rfl, rfl, rfl⟩
    | true => exact ⟨rfl, rfl, rfl⟩
  unfold fillTXBuff
  revert hstart
  generalize (if reset then { w with txUsedSz := 0 } else w) = v
  intro hstart
  dsimp only
  generalize (if cfg.portIOSize < cfg.dataPayloadSize - v.txUsedSz then cfg.portIOSize
    else cfg.dataPayloadSize - v.txUsedSz) = sz
  split
  · exact hstart
  · split
    · exact hstart
    · exact hstart

/-- The `arg` byte of a response: the block bit and the session tag. -/
def responseArg (w : UARTWorker size) : UInt8 :=
  (if Firmware.DataBuffer.isHalfUsed w.rxRingBuff then 0x80 else 0) ||| (w.sessionId &&& 0x7F)

/-- `ProcessTX`. -/
def processTX (w : UARTWorker size) : Response :=
  if 0 < w.txUsedSz then ⟨.Data, w.responseArg, UInt8.ofNat w.txUsedSz⟩
  else ⟨.NoCommand, w.responseArg, 0⟩

/-- The length in a response is the number of bytes collected. -/
theorem processTX_plSz (cfg : Configuration) (w : UARTWorker size)
    (hused : w.txUsedSz ≤ cfg.dataPayloadSize) : w.processTX.plSz.toNat = w.txUsedSz := by
  have hle := cfg.payload_le
  unfold Configuration.dataPayloadSize at hused
  unfold processTX
  split
  · dsimp only
    rw [UInt8.toNat_ofNat']
    exact Nat.mod_eq_of_lt (by omega)
  · dsimp only
    rw [UInt8.toNat_zero]
    omega

end UARTWorker

end UartBridge.Firmware
