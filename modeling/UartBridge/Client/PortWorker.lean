import UartBridge.DataBuffer
import UartBridge.Client.Connection
import UartBridge.Client.RemoteBufferTracker

/-!
# PortWorker: one local port of the client

Four parties call into a port worker: the listener's thread (`onPortOpen`), the
transport that established the connection (`onConnected`), the poll thread
(`processTX`), the receiving transports (`processRX`); its own thread writes the
received bytes to the local client. Each mutex-protected section and each system
call is a function of its own here, so that a system model can interleave them:
`processRX` is `rxCheck` then `rxWrite`, and a round of the worker thread is the
chain of `Writer` states.

The ring buffer's element type is a parameter, as in `DataBuffer`.
-/

namespace UartBridge.Client

/-- What `read` does with the local client's descriptor: it returns at most the
requested number of the available bytes (none at end of file), or -1. -/
inductive ReadResult where
  | bytes (avail : List UInt8)
  | error (errno : Errno)
  deriving DecidableEq, Repr

structure PortWorker (α : Type) (size : Nat) where
  connected : Bool
  openPending : Bool
  client : Option ConnId
  resetPending : Bool
  sessionId : UInt8
  oldSessionPkgCount : Nat
  remoteBufferTracker : RemoteBufferTracker
  rxRingBuff : DataBuffer α size

namespace PortWorker

variable {α : Type} {size : Nat}

/-- The constructor. -/
def create (config : Config) (rxRingBuff : DataBuffer α size) : PortWorker α size :=
  { connected := false, openPending := true, client := none, resetPending := false
    sessionId := 0, oldSessionPkgCount := 0
    remoteBufferTracker := RemoteBufferTracker.create config.remoteRingBuffSize
    rxRingBuff := rxRingBuff }

/-- `OnConnected`. -/
def onConnected (w : PortWorker α size) : PortWorker α size := { w with connected := true }

/-- The session id after `sessionId`: 1 to 127, round and round. -/
def nextSession (sessionId : UInt8) : UInt8 :=
  if 0x7F < sessionId + 1 then 0x01 else sessionId + 1

/-- `OnPortOpen`: the message's connection replaces the client, and with
`resetOnConnect` a new session starts with an empty tracker and ring buffer. -/
def onPortOpen (portConfig : PortConfig) (id : Nat) (connection : ConnId)
    (w : PortWorker α size) : PortWorker α size :=
  if id ≠ portConfig.portID then w
  else if portConfig.resetOnConnect then
    { w with
      client := some connection
      resetPending := true
      sessionId := nextSession w.sessionId
      remoteBufferTracker := w.remoteBufferTracker.reset
      rxRingBuff := w.rxRingBuff.reset }
  else
    { w with client := some connection, resetPending := false }

/-- **The three ways through `OnPortOpen`**, each with the message it is taken for. -/
theorem onPortOpen_cases (portConfig : PortConfig) (id : Nat) (connection : ConnId)
    (w : PortWorker α size) :
    id ≠ portConfig.portID ∧ w.onPortOpen portConfig id connection = w ∨
      (id = portConfig.portID ∧ portConfig.resetOnConnect = false) ∧
        w.onPortOpen portConfig id connection =
          { w with client := some connection, resetPending := false } ∨
      (id = portConfig.portID ∧ portConfig.resetOnConnect = true) ∧
        w.onPortOpen portConfig id connection =
          { w with
            client := some connection
            resetPending := true
            sessionId := nextSession w.sessionId
            remoteBufferTracker := w.remoteBufferTracker.reset
            rxRingBuff := w.rxRingBuff.reset } := by
  unfold onPortOpen
  by_cases hid : id = portConfig.portID
  · rw [if_neg (not_not.mpr hid)]
    cases hreset : portConfig.resetOnConnect with
    | false => exact Or.inr (Or.inl ⟨⟨hid, rfl⟩, rfl⟩)
    | true => exact Or.inr (Or.inr ⟨⟨hid, rfl⟩, rfl⟩)
  · exact Or.inl ⟨hid, if_pos hid⟩

/-- Only a message for this port changes the client. -/
theorem onPortOpen_client (portConfig : PortConfig) (id : Nat) (connection : ConnId)
    (w : PortWorker α size) : (w.onPortOpen portConfig id connection).client =
      if id = portConfig.portID then some connection else w.client := by
  rcases w.onPortOpen_cases portConfig id connection with
    ⟨hid, heq⟩ | ⟨⟨hid, -⟩, heq⟩ | ⟨⟨hid, -⟩, heq⟩
  · rw [heq, if_neg hid]
  · rw [heq, if_pos hid]
  · rw [heq, if_pos hid]

/-- How much `ProcessTX` asks `read` for. -/
def dataToRead (config : Config) (w : PortWorker α size) : Nat :=
  if w.remoteBufferTracker.getAvailSpace < config.portPLSize then
    w.remoteBufferTracker.getAvailSpace
  else config.portPLSize

/-- The last part of `ProcessTX`, reached with a client and something to ask
for: the bytes read are the request's payload. -/
def readClient (config : Config) (counter : UInt32) (input : ReadResult)
    (w : PortWorker α size) : PortWorker α size × Request × List UInt8 :=
  match input with
  | .bytes avail =>
    let data := avail.take (w.dataToRead config)
    if data.length = 0 then
      -- end of file: the client is gone
      ({ w with client := none }, ⟨.NoCommand, 0, 0⟩, [])
    else
      ({ w with remoteBufferTracker := w.remoteBufferTracker.addPackage data.length counter },
        ⟨.Data, 0, UInt8.ofNat data.length⟩, data)
  | .error errno =>
    if errno ≠ .EINTR ∧ errno ≠ .EAGAIN then
      ({ w with client := none }, ⟨.NoCommand, 0, 0⟩, [])
    else (w, ⟨.NoCommand, 0, 0⟩, [])

/-- `ProcessTX`: the request for this tick, and the bytes it left at the start
of the port's slot in `txBuff`. -/
def processTX (config : Config) (portConfig : PortConfig) (counter : UInt32)
    (input : ReadResult) (w : PortWorker α size) :
    PortWorker α size × Request × List UInt8 :=
  if !w.connected then (w, ⟨.NoCommand, 0, 0⟩, [])
  else if w.openPending then
    ({ w with openPending := false }, ⟨.Open, portConfig.mode, 4⟩,
      ByteMem.encode32 portConfig.speed)
  else if w.resetPending then
    ({ w with resetPending := false }, ⟨.Reset, w.sessionId, 0⟩, [])
  else if w.dataToRead config = 0 ∨ w.client = none then (w, ⟨.NoCommand, 0, 0⟩, [])
  else w.readClient config counter input

section Ticks

variable {config : Config} {portConfig : PortConfig} {counter : UInt32} {input : ReadResult}
  {w : PortWorker α size}

/-- The five ways through `ProcessTX`, each with the state it is taken in. -/
inductive Tick (config : Config) (portConfig : PortConfig) (counter : UInt32)
    (input : ReadResult) (w : PortWorker α size) :
    PortWorker α size × Request × List UInt8 → Prop where
  /-- Nothing happens before the first connect-confirmation, without a client,
  without space in the remote buffer, or while the client has sent nothing. -/
  | idle (why : w.connected = false ∨ w.dataToRead config = 0 ∨ w.client = none ∨
      ∃ errno, input = .error errno) :
      Tick config portConfig counter input w (w, ⟨.NoCommand, 0, 0⟩, [])
  /-- The first tick of all opens the port. -/
  | openPort (pending : w.openPending = true) :
      Tick config portConfig counter input w
        ({ w with openPending := false }, ⟨.Open, portConfig.mode, 4⟩,
          ByteMem.encode32 portConfig.speed)
  /-- A new session is announced. -/
  | reset (opened : w.openPending = false) (pending : w.resetPending = true) :
      Tick config portConfig counter input w
        ({ w with resetPending := false }, ⟨.Reset, w.sessionId, 0⟩, [])
  /-- The client is gone. -/
  | gone (why : input = .bytes [] ∨ ∃ errno, input = .error errno) :
      Tick config portConfig counter input w
        ({ w with client := none }, ⟨.NoCommand, 0, 0⟩, [])
  /-- What the client has sent is passed on, as far as it fits. -/
  | data (avail : List UInt8) (read : input = .bytes avail) (connected : w.connected = true)
      (opened : w.openPending = false) (announced : w.resetPending = false)
      (client : w.client.isSome = true) (nonempty : 0 < (avail.take (w.dataToRead config)).length) :
      Tick config portConfig counter input w
        ({ w with
            remoteBufferTracker := w.remoteBufferTracker.addPackage
              (avail.take (w.dataToRead config)).length counter },
          ⟨.Data, 0, UInt8.ofNat (avail.take (w.dataToRead config)).length⟩,
          avail.take (w.dataToRead config))

/-- With a client and something to ask for, a tick reads. -/
theorem readClient_tick (connected : w.connected = true) (opened : w.openPending = false)
    (announced : w.resetPending = false) (asked : w.dataToRead config ≠ 0)
    (client : w.client ≠ none) :
    Tick config portConfig counter input w (w.readClient config counter input) := by
  unfold readClient
  cases input with
  | bytes avail =>
    dsimp only
    split
    · rename_i hempty
      -- at least one byte is asked for, so only the end of file gives none
      rw [List.length_eq_zero_iff, List.take_eq_nil_iff] at hempty
      rcases hempty with hzero | hnil
      · exact absurd hzero asked
      · exact .gone (Or.inl (by rw [hnil]))
    · rename_i hsome
      exact .data avail rfl connected opened announced (Option.isSome_iff_ne_none.mpr client)
        (Nat.pos_of_ne_zero hsome)
  | error errno =>
    dsimp only
    split
    · exact .gone (Or.inr ⟨errno, rfl⟩)
    · exact .idle (Or.inr (Or.inr (Or.inr ⟨errno, rfl⟩)))

/-- **A tick takes one of these ways.** -/
theorem processTX_tick (config : Config) (portConfig : PortConfig) (counter : UInt32)
    (input : ReadResult) (w : PortWorker α size) :
    Tick config portConfig counter input w (w.processTX config portConfig counter input) := by
  unfold processTX
  split
  · rename_i hconnected
    exact .idle (Or.inl (by simpa using hconnected))
  · rename_i hconnected
    split
    · rename_i hopen
      exact .openPort hopen
    · rename_i hopen
      split
      · rename_i hreset
        exact .reset (Bool.eq_false_iff.mpr hopen) hreset
      · rename_i hreset
        split
        · rename_i hidle
          rcases hidle with hzero | hnone
          · exact .idle (Or.inr (Or.inl hzero))
          · exact .idle (Or.inr (Or.inr (Or.inl hnone)))
        · rename_i hidle
          rw [not_or] at hidle
          exact readClient_tick (by simpa using hconnected) (Bool.eq_false_iff.mpr hopen)
            (Bool.eq_false_iff.mpr hreset) hidle.1 hidle.2

/-- Before the first connect-confirmation a tick does nothing. -/
theorem processTX_waiting (waiting : w.connected = false) :
    w.processTX config portConfig counter input = (w, ⟨.NoCommand, 0, 0⟩, []) := by
  unfold processTX
  rw [waiting]
  rfl

/-- The first tick after it opens the port. -/
theorem processTX_open (connected : w.connected = true) (pending : w.openPending = true) :
    w.processTX config portConfig counter input =
      ({ w with openPending := false }, ⟨.Open, portConfig.mode, 4⟩,
        ByteMem.encode32 portConfig.speed) := by
  unfold processTX
  rw [connected, pending]
  rfl

/-- A new session is announced before anything is read. -/
theorem processTX_reset (connected : w.connected = true) (opened : w.openPending = false)
    (pending : w.resetPending = true) :
    w.processTX config portConfig counter input =
      ({ w with resetPending := false }, ⟨.Reset, w.sessionId, 0⟩, []) := by
  unfold processTX
  rw [connected, opened, pending]
  rfl

/-- A tick never asks for more than the payload size. -/
theorem dataToRead_le : w.dataToRead config ≤ config.portPLSize := by
  unfold dataToRead
  split <;> omega

/-- A tick never touches the ring buffer or the session, and at most drops the
client. -/
theorem processTX_frame (config : Config) (portConfig : PortConfig) (counter : UInt32)
    (input : ReadResult) (w : PortWorker α size) :
    (w.processTX config portConfig counter input).1.rxRingBuff = w.rxRingBuff ∧
      (w.processTX config portConfig counter input).1.sessionId = w.sessionId ∧
      ((w.processTX config portConfig counter input).1.client = w.client ∨
        (w.processTX config portConfig counter input).1.client = none) := by
  have htick := processTX_tick config portConfig counter input w
  generalize w.processTX config portConfig counter input = r at htick ⊢
  cases htick with
  | idle | openPort | reset | data => exact ⟨rfl, rfl, Or.inl rfl⟩
  | gone => exact ⟨rfl, rfl, Or.inr rfl⟩

end Ticks

/-- `ProcessRX` up to the ring buffer: the section under `clientLock`, and the
bookkeeping right after it. The flag says whether the call goes on. -/
def rxCheck (response : Response) (w : PortWorker α size) : PortWorker α size × Bool :=
  let w := { w with
    remoteBufferTracker :=
      w.remoteBufferTracker.confirmPackage response.counter (response.arg &&& 0x80 != 0) }
  if w.client = none then (w, false)
  else if w.sessionId ≠ response.arg &&& 0x7F then
    ({ w with oldSessionPkgCount := w.oldSessionPkgCount + 1 }, false)
  else ({ w with oldSessionPkgCount := 0 }, response.type != .NoCommand)

/-- The check keeps client, session and ring buffer; it lets through what
carries the session of a client that is there. -/
theorem rxCheck_frame (response : Response) (w : PortWorker α size) :
    (w.rxCheck response).1.rxRingBuff = w.rxRingBuff ∧
      (w.rxCheck response).1.sessionId = w.sessionId ∧
      (w.rxCheck response).1.client = w.client ∧
      ((w.rxCheck response).2 = true → w.sessionId = response.arg &&& 0x7F) := by
  unfold rxCheck
  dsimp only
  split
  · exact ⟨rfl, rfl, rfl, fun h => by cases h⟩
  · split
    · exact ⟨rfl, rfl, rfl, fun h => by cases h⟩
    · rename_i hsession
      exact ⟨rfl, rfl, rfl, fun _ => not_not.mp hsession⟩

/-- The check keeps the flags of `ProcessTX`. -/
theorem rxCheck_flags (response : Response) (w : PortWorker α size) :
    (w.rxCheck response).1.connected = w.connected ∧
      (w.rxCheck response).1.openPending = w.openPending ∧
      (w.rxCheck response).1.resetPending = w.resetPending := by
  unfold rxCheck
  dsimp only
  split
  · exact ⟨rfl, rfl, rfl⟩
  · split
    · exact ⟨rfl, rfl, rfl⟩
    · exact ⟨rfl, rfl, rfl⟩

/-- The check confirms, whatever follows. -/
theorem rxCheck_tracker (response : Response) (w : PortWorker α size) :
    (w.rxCheck response).1.remoteBufferTracker =
      w.remoteBufferTracker.confirmPackage response.counter (response.arg &&& 0x80 != 0) := by
  unfold rxCheck
  dsimp only
  split
  · rfl
  · split
    · rfl
    · rfl

/-- The section of `ProcessRX` under `ringBuffLock`: what does not fit into the
ring buffer is lost. -/
def rxWrite (payload : List α) (w : PortWorker α size) : PortWorker α size :=
  { w with
    rxRingBuff := (w.rxRingBuff.store DataBuffer.getHead payload.length payload).1 }

/-- `ProcessRX` when nothing comes between its two sections. -/
def processRX (response : Response) (payload : List α) (w : PortWorker α size) :
    PortWorker α size :=
  let (w, proceed) := w.rxCheck response
  if proceed then w.rxWrite payload else w

end PortWorker

/-! ## The worker thread -/

/-- Where the worker thread stands: what it holds between two atomic steps of a
round. `crashed` is a null `client` dereferenced. -/
inductive Writer where
  | start
  | tailTaken (tail : Handle)
  | clientTaken (tail : Handle) (currConn : Option ConnId)
  | toDispose (tail : Handle)
  | toWrite (tail : Handle)
  | toCommit (tail : Handle) (szToWrite : Nat)
  | crashed
  deriving DecidableEq, Repr

/-- What `poll` reports: a failure, a hang-up or error, room to write, or none
of these within the service interval. -/
inductive PollResult where
  | failed | hup | ready | timeout
  deriving DecidableEq, Repr

namespace Writer

variable {α : Type} {size : Nat}

/-- The wait ends and `GetTail` is called, under `ringBuffLock`. -/
def takeTail (w : PortWorker α size) : Writer :=
  if w.rxRingBuff.getTail.maxSz < 1 then .start else .tailTaken w.rxRingBuff.getTail

/-- The client is fetched under `clientLock`. -/
def takeClient (w : PortWorker α size) (tail : Handle) : Writer := .clientTaken tail w.client

/-- `poll` on the fetched client; without one everything offered is dropped. -/
def polled (tail : Handle) : Option ConnId → PollResult → Writer
  | none, _ => .toCommit tail tail.maxSz
  | some _, .failed => .toDispose tail
  | some _, .hup => .toDispose tail
  | some _, .ready => .toWrite tail
  | some _, .timeout => .toCommit tail tail.maxSz

/-- `client->Dispose()`: the connection disposed is the member's, not the
fetched one. -/
def dispose (w : PortWorker α size) (tail : Handle) : Writer × Option ConnId :=
  match w.client with
  | none => (.crashed, none)
  | some c => (.toCommit tail tail.maxSz, some c)

/-- The bytes passed to `write`. -/
def offered (w : PortWorker α size) (tail : Handle) : List α :=
  ByteMem.read w.rxRingBuff.storage tail.buffer tail.maxSz

/-- `write(client->fd, …)`: `none` is -1, a number is what was accepted. -/
def write (w : PortWorker α size) (tail : Handle) (result : Option Nat) : Writer :=
  match w.client, result with
  | none, _ => .crashed
  | some _, none => .toDispose tail
  | some _, some dw => .toCommit tail dw

/-- `Commit` at the end of the round, under `ringBuffLock`. -/
def commit (w : PortWorker α size) (tail : Handle) (szToWrite : Nat) : PortWorker α size :=
  { w with rxRingBuff := w.rxRingBuff.commit tail szToWrite }

end Writer

end UartBridge.Client
