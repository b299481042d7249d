import Mathlib.Data.List.Perm.Subperm
import UartBridge.Lib.Run
import UartBridge.Client.PortWorker
import UartBridge.System.Deployment

/-!
# The requests of a port

One `PortWorker` and everybody who calls it: the listener (`OnPortOpen`), whoever connects
(`OnConnected`), the receiving transports (`ProcessRX`, in two sections) and the poll thread
(`ProcessTX`), in any order and with any arguments. Every request returned is logged with
what the callers knew at that moment.

* `step`, `Call` — the calls, and the log;
* `Window`, `window_bound` — what is sent and not confirmed stays below the remote ring
  buffer's size, whatever the responses say;
* `Grammar`, `Stage` — the order of the requests, and where the worker stands in it;
* `sessionOf` — the session of each `OnPortOpen`;
* `request_grammar` — the requests of every run.
-/

namespace UartBridge.PortRequests

open Client EventRun

/-! ## The calls -/

/-- A local client that was announced by `OnPortOpen`, and the session it was given. -/
structure Opened where
  connection : ConnId
  sessionId : UInt8
  deriving DecidableEq

/-- A call of `ProcessTX`. `announced`: `OnConnected` came before it; `opens`: how many
`OnPortOpen` for this port came before it, and `latest`: the last of them. `client`,
`totalSent`: the member and the tracker's sum when it was called; `blocked`: the block bit
of the last response before it. -/
structure Call where
  announced : Bool
  opens : Nat
  latest : Option Opened
  client : Option ConnId
  totalSent : Nat
  blocked : Bool
  input : ReadResult
  request : Request
  data : List UInt8
  deriving DecidableEq

structure State (α : Type) (size : Nat) where
  port : PortWorker α size
  announced : Bool
  opened : List Opened
  blocked : Bool
  calls : List Call

inductive Event (α : Type) where
  | connected
  | portOpen (id : Nat) (connection : ConnId)
  /-- `ProcessRX` up to the ring buffer. -/
  | rxCheck (response : Response)
  /-- The rest of `ProcessRX`. -/
  | rxWrite (payload : List α)
  | processTX (counter : UInt32) (input : ReadResult)

variable {α : Type} {size : Nat}

def init (config : Config) (rxRingBuff : DataBuffer α size) : State α size :=
  { port := PortWorker.create config rxRingBuff, announced := false, opened := []
    blocked := false, calls := [] }

/-- What is logged of a call. -/
def call (s : State α size) (input : ReadResult) (request : Request) (data : List UInt8) : Call :=
  { announced := s.announced, opens := s.opened.length, latest := s.opened.getLast?
    client := s.port.client, totalSent := s.port.remoteBufferTracker.totalSent
    blocked := s.blocked, input := input, request := request, data := data }

def step (config : Config) (portConfig : PortConfig) (s : State α size) :
    Event α → Option (State α size)
  | .connected => some { s with port := s.port.onConnected, announced := true }
  | .portOpen id connection =>
    let port := s.port.onPortOpen portConfig id connection
    some { s with
      port := port
      opened := if id = portConfig.portID then
          s.opened ++ [{ connection := connection, sessionId := port.sessionId }]
        else s.opened }
  | .rxCheck response =>
    some { s with
      port := (s.port.rxCheck response).1
      blocked := response.arg &&& 0x80 != 0 }
  | .rxWrite payload => some { s with port := s.port.rxWrite payload }
  | .processTX counter input =>
    let r := s.port.processTX config portConfig counter input
    some { s with port := r.1, calls := s.calls ++ [call s input r.2.1 r.2.2] }

/-! ## The window -/

/-- A Data request carries what was read, as much as the window had room for, and the last
response did not block it. -/
structure InWindow (config : Config) (c : Call) : Prop where
  pos : 1 ≤ c.request.plSz.toNat
  le_payload : c.request.plSz.toNat ≤ config.portPLSize
  le_room : c.request.plSz.toNat ≤ config.remoteRingBuffSize - c.totalSent
  read_eq : ∃ avail, c.input = .bytes avail ∧ c.data = avail.take c.request.plSz.toNat
  length_eq : c.data.length = c.request.plSz.toNat
  unblocked : c.blocked = false

/-- **The property.** -/
structure Window (config : Config) (s : State α size) : Prop where
  totalSent_le : s.port.remoteBufferTracker.totalSent ≤ config.remoteRingBuffSize
  data : ∀ c ∈ s.calls, c.request.type = .Data → InWindow config c

/-- The tracker has the limit it was made with, and the block of the last response. -/
structure Bounded (config : Config) (s : State α size) : Prop where
  limit_eq : s.port.remoteBufferTracker.bufferLimit = config.remoteRingBuffSize
  blocked_eq : s.port.remoteBufferTracker.isBlocked = s.blocked
  window : Window config s

variable {config : Config} {portConfig : PortConfig} {s t : State α size}

theorem Bounded.init (config : Config) (rxRingBuff : DataBuffer α size) :
    Bounded config (init config rxRingBuff) :=
  ⟨rfl, rfl, Nat.zero_le _, fun _ hnone => absurd hnone List.not_mem_nil⟩

/-- A call that asks the tracker for space and reads. -/
theorem Bounded.data_call (h : Bounded config s) (narrow : config.portPLSize ≤ 255)
    (counter : UInt32) (avail : List UInt8)
    (nonempty : 0 < (avail.take (s.port.dataToRead config)).length) :
    ((s.port.remoteBufferTracker.addPackage (avail.take (s.port.dataToRead config)).length
        counter).totalSent ≤ config.remoteRingBuffSize) ∧
      InWindow config (call s (.bytes avail)
        ⟨.Data, 0, UInt8.ofNat (avail.take (s.port.dataToRead config)).length⟩
        (avail.take (s.port.dataToRead config))) := by
  have hle : (avail.take (s.port.dataToRead config)).length ≤ s.port.dataToRead config :=
    List.length_take_le _ _
  have hpayload : s.port.dataToRead config ≤ config.portPLSize := s.port.dataToRead_le
  have hspace : s.port.dataToRead config ≤ s.port.remoteBufferTracker.getAvailSpace := by
    unfold PortWorker.dataToRead
    split <;> omega
  obtain ⟨hopen, hroom⟩ := s.port.remoteBufferTracker.getAvailSpace_pos (by omega)
  rw [h.limit_eq] at hroom
  -- what was read fits the one byte of the header
  have hplSz : (UInt8.ofNat (avail.take (s.port.dataToRead config)).length).toNat =
      (avail.take (s.port.dataToRead config)).length := by
    rw [UInt8.toNat_ofNat']
    exact Nat.mod_eq_of_lt (by omega)
  refine ⟨?_, ?_⟩
  · rw [RemoteBufferTracker.totalSent_addPackage]
    omega
  · refine ⟨?_, ?_, ?_, ⟨avail, rfl, ?_⟩, hplSz.symm, ?_⟩
    · show 1 ≤ (UInt8.ofNat _).toNat
      omega
    · show (UInt8.ofNat _).toNat ≤ _
      omega
    · show (UInt8.ofNat _).toNat ≤ _ - s.port.remoteBufferTracker.totalSent
      omega
    · show avail.take _ = avail.take (UInt8.ofNat _).toNat
      rw [hplSz, List.length_take]
      exact List.take_eq_take_min
    · exact h.blocked_eq.symm.trans hopen

/-- `ProcessTX` adds to the tracker what it reads, and reads what there is space for. -/
theorem Bounded.processTX (h : Bounded config s) (narrow : config.portPLSize ≤ 255)
    {counter : UInt32} {input : ReadResult}
    (hstep : step config portConfig s (.processTX counter input) = some t) : Bounded config t := by
  simp only [step, Option.some.injEq] at hstep
  have htick := s.port.processTX_tick config portConfig counter input
  revert hstep htick
  generalize s.port.processTX config portConfig counter input = r
  intro hstep htick
  subst hstep
  -- a request without data is under no bound
  have other {request : Request} {data : List UInt8} (hother : request.type ≠ .Data) :
      ∀ c ∈ s.calls ++ [call s input request data], c.request.type = .Data →
        InWindow config c := by
    intro c hc htype
    rcases List.mem_append.mp hc with hold | hnew
    · exact h.window.data c hold htype
    · rw [List.mem_singleton.mp hnew] at htype
      exact absurd htype hother
  cases htick with
  | idle | openPort | reset | gone =>
    exact ⟨h.limit_eq, h.blocked_eq, h.window.totalSent_le, other (fun heq => by cases heq)⟩
  | data avail read connected opened announced client nonempty =>
    subst read
    obtain ⟨hsum, hcall⟩ := h.data_call narrow counter avail nonempty
    refine ⟨h.limit_eq, h.blocked_eq, hsum, ?_⟩
    intro c hc htype
    rcases List.mem_append.mp hc with hold | hnew
    · exact h.window.data c hold htype
    · rw [List.mem_singleton.mp hnew]
      exact hcall

/-- **One step.** -/
theorem Bounded.step (h : Bounded config s) (narrow : config.portPLSize ≤ 255) {e : Event α}
    (hstep : step config portConfig s e = some t) : Bounded config t := by
  cases e with
  | connected =>
    simp only [PortRequests.step, Option.some.injEq] at hstep
    subst hstep
    exact ⟨h.limit_eq, h.blocked_eq, h.window.totalSent_le, h.window.data⟩
  | portOpen id connection =>
    simp only [PortRequests.step, Option.some.injEq] at hstep
    subst hstep
    rcases s.port.onPortOpen_cases portConfig id connection with
      ⟨-, heq⟩ | ⟨-, heq⟩ | ⟨-, heq⟩
    · rw [heq]
      exact ⟨h.limit_eq, h.blocked_eq, h.window.totalSent_le, h.window.data⟩
    · rw [heq]
      exact ⟨h.limit_eq, h.blocked_eq, h.window.totalSent_le, h.window.data⟩
    · -- a new session forgets what is on its way, not the block
      rw [heq]
      exact ⟨h.limit_eq, h.blocked_eq, Nat.zero_le _, h.window.data⟩
  | rxCheck response =>
    simp only [PortRequests.step, Option.some.injEq] at hstep
    subst hstep
    have htracker := PortWorker.rxCheck_tracker response s.port
    have hless := s.port.remoteBufferTracker.totalSent_confirmPackage_le response.counter
      (response.arg &&& 0x80 != 0)
    refine ⟨?_, ?_, ?_, h.window.data⟩
    · dsimp only
      rw [htracker]
      exact h.limit_eq
    · dsimp only
      rw [htracker]
      rfl
    · dsimp only
      rw [htracker]
      exact Nat.le_trans hless h.window.totalSent_le
  | rxWrite payload =>
    simp only [PortRequests.step, Option.some.injEq] at hstep
    subst hstep
    exact ⟨h.limit_eq, h.blocked_eq, h.window.totalSent_le, h.window.data⟩
  | processTX counter input => exact h.processTX narrow hstep

/-- **The window bound.** In every run of calls, with any responses. -/
theorem window_bound (config : Config) (narrow : config.portPLSize ≤ 255)
    (portConfig : PortConfig) (rxRingBuff : DataBuffer α size) {es : List (Event α)}
    {u : State α size}
    (run : exec (PortRequests.step config portConfig) (init config rxRingBuff) es = some u) :
    Window config u :=
  (exec_invariant (Bounded config) (fun _ _ _ h hstep => h.step narrow hstep)
    (Bounded.init config rxRingBuff) run).window

section Examples

open Deployment (avrPro ring16 port57600)

def created : State UInt8 16 := init (avrPro false).config (ring16 0)

/-- Bytes are read until the window is used up, and a forged response comes in between. -/
def flooded : List (Event UInt8) :=
  [.connected, .portOpen 0 4, .processTX 1 (.bytes []),
    .processTX 2 (.bytes (List.replicate 200 7)), .rxCheck ⟨.NoCommand, 0x80, 0, 0xFFFFFFFF⟩,
    .processTX 3 (.bytes [1]), .rxCheck ⟨.NoCommand, 0, 0, 1⟩,
    .processTX 4 (.bytes (List.replicate 200 7))]

def afterFlooded : State UInt8 16 :=
  (exec (step (avrPro false).config (port57600 false 0)) created flooded).getD created

theorem window_bound_flooded : Window (avrPro false).config afterFlooded ∧
    afterFlooded.calls.map (fun c => c.request.plSz) = [4, 128, 0, 128] := by
  have hrun : (exec (step (avrPro false).config (port57600 false 0)) created flooded).isSome =
        true ∧
      afterFlooded.calls.map (fun c => c.request.plSz) = [4, 128, 0, 128] := by
    decide +kernel
  exact ⟨window_bound (avrPro false).config (by decide) (port57600 false 0) (ring16 0)
    (exec_eq_some_getD hrun.1), hrun.2⟩

end Examples

/-! ## The order of the requests -/

/-- What a call after the Open returns, given the calls between it and the Open: with
`resetOnConnect` the first one after an `OnPortOpen` announces its session, and nothing is
read from a client before that. -/
structure Follows (portConfig : PortConfig) (before : List Call) (c : Call) : Prop where
  type_of : c.request.type = .NoCommand ∨ c.request.type = .Data ∨ c.request.type = .Reset
  first_reset : portConfig.resetOnConnect = true → ∀ opened, c.latest = some opened →
    (∀ earlier ∈ before, earlier.opens ≠ c.opens) → c.request = ⟨.Reset, opened.sessionId, 0⟩
  one_reset : c.request.type = .Reset →
    0 < c.opens ∧ ∀ earlier ∈ before, earlier.opens ≠ c.opens
  data_after : portConfig.resetOnConnect = true → c.request.type = .Data →
    ∃ opened, c.latest = some opened ∧ c.client = some opened.connection ∧
      ∃ earlier ∈ before, earlier.opens = c.opens ∧
        earlier.request = ⟨.Reset, opened.sessionId, 0⟩

/-- **The property.** `early`: the calls before the first `OnConnected`; `late`: those after
it. -/
structure Grammar (portConfig : PortConfig) (early late : List Call) : Prop where
  silent : ∀ c ∈ early, c.request = ⟨.NoCommand, 0, 0⟩
  opened : late = [] ∨ ∃ first rest, late = first :: rest ∧
    first.request = ⟨.Open, portConfig.mode, 4⟩ ∧
    first.data = ByteMem.encode32 portConfig.speed ∧
    EachAfter (Follows portConfig) rest

/-- The calls before the first `OnConnected`. -/
def early (s : State α size) : List Call := s.calls.filter fun c => !c.announced

/-- The calls after it. -/
def late (s : State α size) : List Call := s.calls.filter fun c => c.announced

/-- The sessions of the `OnPortOpen` calls, and the member `sessionId`. -/
structure Sessions (s : State α size) : Prop where
  current_le : s.port.sessionId ≤ 0x7F
  current_ne : s.opened ≠ [] → s.port.sessionId ≠ 0
  apart : ∀ i j a b, s.opened[i]? = some a → s.opened[j]? = some b → i < j → j < i + 127 →
    a.sessionId ≠ b.sessionId

/-! ## Session numbers -/

/-- The session of the `OnPortOpen` number `k`, counted from 0. -/
def sessionOf (k : Nat) : UInt8 := UInt8.ofNat (k % 127 + 1)

theorem toNat_sessionOf (k : Nat) : (sessionOf k).toNat = k % 127 + 1 := by
  have hlt := Nat.mod_lt k (by decide : 0 < 127)
  unfold sessionOf
  rw [UInt8.toNat_ofNat']
  exact Nat.mod_eq_of_lt (by omega)

/-- The first session is 1. -/
theorem nextSession_zero : PortWorker.nextSession 0 = sessionOf 0 := by decide

/-- The sessions go round. -/
theorem nextSession_sessionOf (k : Nat) :
    PortWorker.nextSession (sessionOf k) = sessionOf (k + 1) := by
  have hk := toNat_sessionOf k
  have hnext := toNat_sessionOf (k + 1)
  have hsum : (sessionOf k + 1).toNat = k % 127 + 2 := by
    rw [UInt8.toNat_add, hk]
    show (k % 127 + 1 + 1) % 256 = _
    omega
  apply UInt8.toNat_inj.mp
  unfold PortWorker.nextSession
  split
  · rename_i hwrap
    rw [UInt8.lt_iff_toNat_lt, hsum] at hwrap
    have hwrap : 127 < k % 127 + 2 := hwrap
    rw [hnext]
    show 1 = _
    omega
  · rename_i hplain
    rw [UInt8.lt_iff_toNat_lt, hsum] at hplain
    have hplain : ¬ 127 < k % 127 + 2 := hplain
    rw [hnext, hsum]
    omega

/-- `sessionId` after so many `OnPortOpen` calls. -/
def sessionAfter : Nat → UInt8
  | 0 => 0
  | k + 1 => sessionOf k

theorem nextSession_sessionAfter (k : Nat) :
    PortWorker.nextSession (sessionAfter k) = sessionOf k := by
  cases k with
  | zero => exact nextSession_zero
  | succ k => exact nextSession_sessionOf k

/-! ## Where the worker stands -/

/-- With `resetOnConnect`, each `OnPortOpen` has the session of its number. -/
structure Numbered (s : State α size) : Prop where
  current : s.port.sessionId = sessionAfter s.opened.length
  opened : ∀ i a, s.opened[i]? = some a → a.sessionId = sessionOf i

/-- What `resetPending` and the client say, given the calls since the Open. -/
structure Flags (portConfig : PortConfig) (s : State α size) (rest : List Call) : Prop where
  pending : s.port.resetPending = true →
    portConfig.resetOnConnect = true ∧ s.opened ≠ [] ∧ ∀ c ∈ rest, c.opens ≠ s.opened.length
  done : portConfig.resetOnConnect = true → s.port.resetPending = false →
    ∀ opened, s.opened.getLast? = some opened →
      ∃ c ∈ rest, c.opens = s.opened.length ∧ c.request = ⟨.Reset, opened.sessionId, 0⟩
  opens_le : ∀ c ∈ rest, c.opens ≤ s.opened.length
  client : ∀ connection, s.port.client = some connection →
    ∃ opened, s.opened.getLast? = some opened ∧ opened.connection = connection

structure Stage (portConfig : PortConfig) (s : State α size) : Prop where
  connected_eq : s.port.connected = s.announced
  grammar : Grammar portConfig (early s) (late s)
  opening : s.port.openPending = true ↔ late s = []
  flags : Flags portConfig s (late s).tail
  numbered : portConfig.resetOnConnect = true → Numbered s

theorem Stage.init (config : Config) (portConfig : PortConfig) (rxRingBuff : DataBuffer α size) :
    Stage portConfig (init config rxRingBuff) := by
  have hnone {P : Call → Prop} : ∀ c ∈ ([] : List Call), P c := fun _ h => absurd h List.not_mem_nil
  refine ⟨rfl, ⟨hnone, Or.inl rfl⟩, iff_of_true rfl rfl, ⟨?_, ?_, hnone, ?_⟩, ?_⟩
  · intro hpending
    cases hpending
  · intro _ _ opened hopened
    cases hopened
  · intro connection hclient
    cases hclient
  · exact fun _ => ⟨rfl, fun i a ha => by cases ha⟩

/-- A step that returns no request and is no `OnPortOpen` for this port. -/
theorem Stage.frame (h : Stage portConfig s) (hcalls : t.calls = s.calls)
    (hopened : t.opened = s.opened) (hconnected : t.port.connected = t.announced)
    (hopen : t.port.openPending = s.port.openPending)
    (hreset : t.port.resetPending = s.port.resetPending) (hclient : t.port.client = s.port.client)
    (hsession : t.port.sessionId = s.port.sessionId) : Stage portConfig t := by
  have hearly : early t = early s := by unfold early; rw [hcalls]
  have hlate : late t = late s := by unfold late; rw [hcalls]
  refine ⟨hconnected, ?_, ?_, ⟨?_, ?_, ?_, ?_⟩, fun hset => ⟨?_, ?_⟩⟩
  · rw [hearly, hlate]
    exact h.grammar
  · rw [hopen, hlate]
    exact h.opening
  · rw [hreset, hlate, hopened]
    exact h.flags.pending
  · rw [hreset, hlate, hopened]
    exact h.flags.done
  · rw [hlate, hopened]
    exact h.flags.opens_le
  · rw [hclient, hopened]
    exact h.flags.client
  · rw [hsession, hopened]
    exact (h.numbered hset).current
  · rw [hopened]
    exact (h.numbered hset).opened

/-- A new client's session is the next one. -/
theorem Numbered.concat (h : Numbered s) {connection : ConnId}
    (hsession : t.port.sessionId = PortWorker.nextSession s.port.sessionId)
    (hopened : t.opened = s.opened ++ [⟨connection, t.port.sessionId⟩]) : Numbered t := by
  have hnumber : t.port.sessionId = sessionOf s.opened.length := by
    rw [hsession, h.current, nextSession_sessionAfter]
  refine ⟨?_, ?_⟩
  · rw [hopened, List.length_append, hnumber]
    rfl
  · intro i a ha
    rw [hopened, List.getElem?_append] at ha
    split at ha
    · exact h.opened i a ha
    · rename_i hbehind
      have hzero : i = s.opened.length := by
        have hlt := (List.getElem?_eq_some_iff.mp ha).1
        rw [List.length_singleton] at hlt
        omega
      rw [hzero, Nat.sub_self, List.getElem?_cons_zero, Option.some.injEq] at ha
      rw [← ha, hzero]
      exact hnumber

/-- For a new client everything returned so far is from before. -/
theorem Flags.concat {rest : List Call} (hle : ∀ c ∈ rest, c.opens ≤ s.opened.length)
    {opened : Opened} (hopened : t.opened = s.opened ++ [opened])
    (hclient : t.port.client = some opened.connection)
    (hpending : t.port.resetPending = portConfig.resetOnConnect) : Flags portConfig t rest := by
  have hmore : t.opened.length = s.opened.length + 1 := by
    rw [hopened, List.length_append, List.length_singleton]
  refine ⟨?_, ?_, ?_, ?_⟩
  · intro hset
    refine ⟨hpending.symm.trans hset, ?_, ?_⟩
    · rw [hopened]
      exact List.append_ne_nil_of_right_ne_nil _ (List.cons_ne_nil _ _)
    · intro c hc
      rw [hmore]
      exact Nat.ne_of_lt (Nat.lt_succ_of_le (hle c hc))
  · intro hset hdone
    rw [hpending, hset] at hdone
    cases hdone
  · intro c hc
    rw [hmore]
    exact Nat.le_succ_of_le (hle c hc)
  · intro connection hconnection
    rw [hclient] at hconnection
    exact ⟨opened, by rw [hopened]; exact List.getLast?_concat .., Option.some.inj hconnection⟩

/-- `OnPortOpen`: whatever was returned so far belongs to an earlier one. -/
theorem Stage.portOpen (h : Stage portConfig s) {id : Nat} {connection : ConnId}
    (hstep : step config portConfig s (.portOpen id connection) = some t) :
    Stage portConfig t := by
  simp only [step, Option.some.injEq] at hstep
  rcases s.port.onPortOpen_cases portConfig id connection with
    ⟨hid, heq⟩ | ⟨⟨hid, hreset⟩, heq⟩ | ⟨⟨hid, hreset⟩, heq⟩
  · rw [heq, if_neg hid] at hstep
    subst hstep
    exact h.frame rfl rfl h.connected_eq rfl rfl rfl rfl
  · rw [heq, if_pos hid] at hstep
    subst hstep
    refine ⟨h.connected_eq, h.grammar, h.opening, .concat h.flags.opens_le rfl rfl hreset.symm,
      fun hset => ?_⟩
    rw [hreset] at hset
    cases hset
  · rw [heq, if_pos hid] at hstep
    subst hstep
    exact ⟨h.connected_eq, h.grammar, h.opening, .concat h.flags.opens_le rfl rfl hreset.symm,
      fun _ => (h.numbered hreset).concat rfl rfl⟩

/-- The last `OnPortOpen` set the session that the member has. -/
theorem Numbered.last (h : Numbered s) {opened : Opened}
    (hlast : s.opened.getLast? = some opened) : opened.sessionId = s.port.sessionId := by
  rw [List.getLast?_eq_getElem?] at hlast
  have hnumber := h.opened _ opened hlast
  have hpos := (List.getElem?_eq_some_iff.mp hlast).1
  have hlen : s.opened.length = s.opened.length - 1 + 1 := by omega
  rw [hnumber, h.current, hlen]
  rfl

/-- A call before the first `OnConnected` is one more of the early ones. -/
theorem calls_early {c : Call} (hcalls : t.calls = s.calls ++ [c]) (hc : c.announced = false) :
    early t = early s ++ [c] ∧ late t = late s := by
  unfold early late
  rw [hcalls, List.filter_append, List.filter_append, List.filter_cons_of_pos (by simp [hc]),
    List.filter_cons_of_neg (by simp [hc]), List.filter_nil, List.filter_nil, List.append_nil]
  exact ⟨rfl, rfl⟩

/-- A call after it is one more of the late ones. -/
theorem calls_late {c : Call} (hcalls : t.calls = s.calls ++ [c]) (hc : c.announced = true) :
    early t = early s ∧ late t = late s ++ [c] := by
  unfold early late
  rw [hcalls, List.filter_append, List.filter_append, List.filter_cons_of_neg (by simp [hc]),
    List.filter_cons_of_pos (by simp [hc]), List.filter_nil, List.filter_nil, List.append_nil]
  exact ⟨rfl, rfl⟩

/-- Before the first `OnConnected` nothing is returned but NoCommand. -/
theorem Stage.waiting (h : Stage portConfig s) (hwaiting : s.announced = false)
    (input : ReadResult) :
    Stage portConfig { s with calls := s.calls ++ [call s input ⟨.NoCommand, 0, 0⟩ []] } := by
  obtain ⟨hearly, hlate⟩ := calls_early (s := s)
    (t := { s with calls := s.calls ++ [call s input ⟨.NoCommand, 0, 0⟩ []] }) rfl hwaiting
  refine ⟨h.connected_eq, ?_, ?_, ?_, fun hset => ⟨(h.numbered hset).current,
    (h.numbered hset).opened⟩⟩
  · rw [hearly, hlate]
    refine ⟨fun c hc => ?_, h.grammar.opened⟩
    rcases List.mem_append.mp hc with hold | hnew
    · exact h.grammar.silent c hold
    · rw [List.mem_singleton.mp hnew]
      rfl
  · rw [hlate]
    exact h.opening
  · rw [hlate]
    exact ⟨h.flags.pending, h.flags.done, h.flags.opens_le, h.flags.client⟩

/-- The first request after the first `OnConnected` is the Open. -/
theorem Stage.openPort (h : Stage portConfig s) (hannounced : s.announced = true)
    (hpending : s.port.openPending = true) (input : ReadResult) :
    Stage portConfig { s with
      port := { s.port with openPending := false }
      calls := s.calls ++ [call s input ⟨.Open, portConfig.mode, 4⟩
        (ByteMem.encode32 portConfig.speed)] } := by
  obtain ⟨hearly, hlate⟩ := calls_late (s := s)
    (t := { s with
      port := { s.port with openPending := false }
      calls := s.calls ++ [call s input ⟨.Open, portConfig.mode, 4⟩
        (ByteMem.encode32 portConfig.speed)] }) rfl hannounced
  have hnone := h.opening.mp hpending
  have hflags := h.flags
  rw [hnone, List.tail_nil] at hflags
  rw [hnone, List.nil_append] at hlate
  refine ⟨h.connected_eq, ?_, ?_, ?_, fun hset => ⟨(h.numbered hset).current,
    (h.numbered hset).opened⟩⟩
  · rw [hearly, hlate]
    exact ⟨h.grammar.silent, Or.inr ⟨_, [], rfl, rfl, rfl, EachAfter.nil⟩⟩
  · rw [hlate]
    exact iff_of_false Bool.false_ne_true (fun hnil => by cases hnil)
  · rw [hlate, List.tail_cons]
    exact ⟨hflags.pending, hflags.done, hflags.opens_le, hflags.client⟩

/-- A call after the Open has to follow the calls before it. -/
theorem Stage.answer (h : Stage portConfig s) {first : Call} {rest : List Call}
    {port : PortWorker α size} {input : ReadResult} {request : Request} {data : List UInt8}
    (hlate : late s = first :: rest) (hannounced : s.announced = true)
    (hfollows : Follows portConfig rest (call s input request data))
    (hconnected : port.connected = s.port.connected)
    (hopened : port.openPending = s.port.openPending)
    (hsession : port.sessionId = s.port.sessionId)
    (hflags : Flags portConfig { s with port := port }
      (rest ++ [call s input request data])) :
    Stage portConfig { s with
      port := port
      calls := s.calls ++ [call s input request data] } := by
  obtain ⟨hearly, hnext⟩ := calls_late (s := s)
    (t := { s with
      port := port
      calls := s.calls ++ [call s input request data] }) rfl hannounced
  rw [hlate, List.cons_append] at hnext
  have hpending := h.opening
  rw [hlate] at hpending
  refine ⟨hconnected.trans h.connected_eq, ?_, ?_, ?_, fun hset => ⟨?_, ?_⟩⟩
  · rw [hearly, hnext]
    refine ⟨h.grammar.silent, Or.inr ?_⟩
    rcases h.grammar.opened with hnil | ⟨first', rest', heq, hrequest, hdata, heach⟩
    · rw [hlate] at hnil
      cases hnil
    · rw [hlate] at heq
      cases heq
      exact ⟨first, _, rfl, hrequest, hdata, heach.concat hfollows⟩
  · rw [hnext]
    dsimp only
    rw [hopened]
    exact iff_of_false (fun hopen => by cases hpending.mp hopen) (fun hnil => by cases hnil)
  · rw [hnext]
    exact ⟨hflags.pending, hflags.done, hflags.opens_le, hflags.client⟩
  · dsimp only
    rw [hsession]
    exact (h.numbered hset).current
  · exact (h.numbered hset).opened

/-- The Reset that announces a session. -/
theorem Stage.announce (h : Stage portConfig s) {first : Call} {rest : List Call}
    (hlate : late s = first :: rest) (hannounced : s.announced = true)
    (hpending : s.port.resetPending = true) (input : ReadResult) :
    Stage portConfig { s with
      port := { s.port with resetPending := false }
      calls := s.calls ++ [call s input ⟨.Reset, s.port.sessionId, 0⟩ []] } := by
  have hflags := h.flags
  rw [hlate, List.tail_cons] at hflags
  obtain ⟨hreset, hopened, hnew⟩ := hflags.pending hpending
  have hsession (opened : Opened) (hlast : s.opened.getLast? = some opened) :
      (⟨.Reset, s.port.sessionId, 0⟩ : Request) = ⟨.Reset, opened.sessionId, 0⟩ := by
    rw [(h.numbered hreset).last hlast]
  refine h.answer hlate hannounced ⟨Or.inr (Or.inr rfl), ?_, ?_, ?_⟩ rfl rfl rfl ⟨?_, ?_, ?_, ?_⟩
  · exact fun _ opened hlast _ => hsession opened hlast
  · intro _
    exact ⟨List.length_pos_iff.mpr hopened, hnew⟩
  · intro _ hdata
    cases hdata
  · intro hstill
    cases hstill
  · intro _ _ opened hlast
    exact ⟨_, List.mem_append_right _ (List.mem_singleton_self _), rfl, hsession opened hlast⟩
  · intro c hc
    rcases List.mem_append.mp hc with hold | hthis
    · exact hflags.opens_le c hold
    · rw [List.mem_singleton.mp hthis]
      exact Nat.le_refl _
  · exact hflags.client

/-- A call after the Open and the Reset: NoCommand, or Data of the announced client. -/
theorem Stage.serve (h : Stage portConfig s) {first : Call} {rest : List Call}
    {port : PortWorker α size} {input : ReadResult} {request : Request} {data : List UInt8}
    (hlate : late s = first :: rest) (hannounced : s.announced = true)
    (hquiet : s.port.resetPending = false)
    (htype : request.type = .NoCommand ∨ request.type = .Data ∧ s.port.client.isSome = true)
    (hconnected : port.connected = s.port.connected)
    (hopened : port.openPending = s.port.openPending)
    (hreset : port.resetPending = s.port.resetPending)
    (hsession : port.sessionId = s.port.sessionId)
    (hclient : ∀ connection, port.client = some connection → s.port.client = some connection) :
    Stage portConfig { s with
      port := port
      calls := s.calls ++ [call s input request data] } := by
  have hflags := h.flags
  rw [hlate, List.tail_cons] at hflags
  have hnotReset : request.type ≠ .Reset := by
    rcases htype with hnone | ⟨hdata, -⟩
    · rw [hnone]
      exact fun heq => by cases heq
    · rw [hdata]
      exact fun heq => by cases heq
  refine h.answer hlate hannounced ⟨?_, ?_, ?_, ?_⟩ hconnected hopened hsession ⟨?_, ?_, ?_, ?_⟩
  · rcases htype with hnone | ⟨hdata, -⟩
    · exact Or.inl hnone
    · exact Or.inr (Or.inl hdata)
  · -- the session was announced before
    intro hset opened hlast hfirst
    obtain ⟨earlier, hmem, hopens, -⟩ := hflags.done hset hquiet opened hlast
    exact absurd hopens (hfirst earlier hmem)
  · exact fun hreset => absurd hreset hnotReset
  · intro hset hdata
    rcases htype with hnone | ⟨-, hsome⟩
    · have hdata : request.type = .Data := hdata
      rw [hnone] at hdata
      cases hdata
    · obtain ⟨connection, hconnection⟩ := Option.isSome_iff_exists.mp hsome
      obtain ⟨opened, hlast, rfl⟩ := hflags.client connection hconnection
      exact ⟨opened, hlast, hconnection, hflags.done hset hquiet opened hlast⟩
  · intro hpending
    dsimp only at hpending
    rw [hreset, hquiet] at hpending
    cases hpending
  · intro hset _ opened hlast
    obtain ⟨earlier, hmem, hearlier⟩ := hflags.done hset hquiet opened hlast
    exact ⟨earlier, List.mem_append_left _ hmem, hearlier⟩
  · intro c hc
    rcases List.mem_append.mp hc with hold | hthis
    · exact hflags.opens_le c hold
    · rw [List.mem_singleton.mp hthis]
      exact Nat.le_refl _
  · exact fun connection hconnection => hflags.client connection (hclient connection hconnection)

/-- **A request.** -/
theorem Stage.processTX (h : Stage portConfig s) {counter : UInt32} {input : ReadResult}
    (hstep : step config portConfig s (.processTX counter input) = some t) :
    Stage portConfig t := by
  simp only [step, Option.some.injEq] at hstep
  cases hannounced : s.announced with
  | false =>
    have hwaiting : s.port.connected = false := h.connected_eq.trans hannounced
    rw [PortWorker.processTX_waiting hwaiting] at hstep
    subst hstep
    exact h.waiting hannounced input
  | true =>
    have hconnected : s.port.connected = true := h.connected_eq.trans hannounced
    cases hopening : s.port.openPending with
    | true =>
      rw [PortWorker.processTX_open hconnected hopening] at hstep
      subst hstep
      exact h.openPort hannounced hopening input
    | false =>
      have hsome : late s ≠ [] := fun hnil => by
        have := h.opening.mpr hnil
        rw [hopening] at this
        cases this
      obtain ⟨first, rest, hlate⟩ := List.exists_cons_of_ne_nil hsome
      cases hpending : s.port.resetPending with
      | true =>
        rw [PortWorker.processTX_reset hconnected hopening hpending] at hstep
        subst hstep
        exact h.announce hlate hannounced hpending input
      | false =>
        have htick := s.port.processTX_tick config portConfig counter input
        revert hstep htick
        generalize s.port.processTX config portConfig counter input = r
        intro hstep htick
        subst hstep
        cases htick with
        | idle =>
          exact h.serve hlate hannounced hpending (Or.inl rfl) rfl rfl rfl rfl (fun _ hc => hc)
        | openPort stillOpening =>
          rw [hopening] at stillOpening
          cases stillOpening
        | reset opened stillPending =>
          rw [hpending] at stillPending
          cases stillPending
        | gone =>
          exact h.serve hlate hannounced hpending (Or.inl rfl) rfl rfl rfl rfl
            (fun _ hc => by cases hc)
        | data avail read connected opened announced client nonempty =>
          exact h.serve hlate hannounced hpending (Or.inr ⟨rfl, client⟩) rfl rfl rfl rfl
            (fun _ hc => hc)

/-- **One step.** -/
theorem Stage.step (h : Stage portConfig s) {e : Event α}
    (hstep : step config portConfig s e = some t) : Stage portConfig t := by
  cases e with
  | connected =>
    simp only [PortRequests.step, Option.some.injEq] at hstep
    subst hstep
    exact h.frame rfl rfl rfl rfl rfl rfl rfl
  | portOpen id connection => exact h.portOpen hstep
  | rxCheck response =>
    simp only [PortRequests.step, Option.some.injEq] at hstep
    subst hstep
    obtain ⟨hconnected, hopen, hreset⟩ := PortWorker.rxCheck_flags response s.port
    obtain ⟨-, hsession, hclient, -⟩ := PortWorker.rxCheck_frame response s.port
    exact h.frame rfl rfl (hconnected.trans h.connected_eq) hopen hreset hclient hsession
  | rxWrite payload =>
    simp only [PortRequests.step, Option.some.injEq] at hstep
    subst hstep
    exact h.frame rfl rfl h.connected_eq rfl rfl rfl rfl
  | processTX counter input => exact h.processTX hstep

/-! ## Runs -/

/-- The Reset requests returned so far. -/
def resets (s : State α size) : List Call := s.calls.filter fun c => c.request.type == .Reset

/-- They all come after the Open. -/
theorem Stage.resets_eq (h : Stage portConfig s) :
    resets s = (late s).tail.filter fun c => c.request.type == .Reset := by
  have hlate : resets s = (late s).filter fun c => c.request.type == .Reset := by
    unfold resets late
    rw [List.filter_filter]
    refine List.filter_congr fun c hc => ?_
    cases hannounced : c.announced with
    | true => rw [Bool.and_true]
    | false =>
      have hmem : c ∈ early s := List.mem_filter.mpr ⟨hc, by rw [hannounced]; rfl⟩
      rw [h.grammar.silent c hmem]
      rfl
  rw [hlate]
  rcases h.grammar.opened with hnil | ⟨first, rest, heq, hrequest, -, -⟩
  · rw [hnil]
    rfl
  · rw [heq, List.filter_cons_of_neg (by rw [hrequest]; exact Bool.false_ne_true), List.tail_cons]

/-- There is at most one Reset for each `OnPortOpen`. -/
theorem Stage.resets_le (h : Stage portConfig s) :
    ((resets s).map Call.opens).Nodup ∧ (resets s).length ≤ s.opened.length := by
  have hfollows : EachAfter (Follows portConfig) (late s).tail := by
    rcases h.grammar.opened with hnil | ⟨first, rest, heq, -, -, heach⟩
    · rw [hnil]
      exact EachAfter.nil
    · rw [heq]
      exact heach
  rw [h.resets_eq]
  have hnodup : (((late s).tail.filter fun c => c.request.type == .Reset).map
      Call.opens).Nodup := by
    have hpairs : (late s).tail.Pairwise
        fun earlier c => c.request.type = .Reset → earlier.opens ≠ c.opens :=
      (hfollows.imp fun before c hc earlier hmem hreset => (hc.one_reset hreset).2 earlier
        hmem).pairwise
    refine List.pairwise_map.mpr ?_
    refine (hpairs.sublist List.filter_sublist).imp_of_mem ?_
    intro earlier c _ hc happart
    exact happart (eq_of_beq (List.mem_filter.mp hc).2)
  refine ⟨hnodup, ?_⟩
  -- the numbers are those of `OnPortOpen` calls
  have hnumbers : ((late s).tail.filter fun c => c.request.type == .Reset).map Call.opens ⊆
      List.range' 1 s.opened.length := by
    intro k hk
    obtain ⟨c, hc, rfl⟩ := List.mem_map.mp hk
    obtain ⟨hmem, hreset⟩ := List.mem_filter.mp hc
    obtain ⟨before, after, hsplit⟩ := List.append_of_mem hmem
    have hpos := ((hfollows before c after hsplit).one_reset (eq_of_beq hreset)).1
    have hle := h.flags.opens_le c hmem
    exact List.mem_range'_1.mpr ⟨hpos, by omega⟩
  have hlen := (hnodup.subperm hnumbers).length_le
  rwa [List.length_map, List.length_range'] at hlen

/-- The sessions go round: 1 to 127, and none twice in 127 calls. -/
theorem Numbered.sessions (h : Numbered s) : Sessions s := by
  refine ⟨?_, ?_, ?_⟩
  · rw [h.current, UInt8.le_iff_toNat_le]
    cases s.opened.length with
    | zero => exact Nat.zero_le _
    | succ k =>
      have hlt := Nat.mod_lt k (by decide : 0 < 127)
      show (sessionOf k).toNat ≤ 127
      rw [toNat_sessionOf]
      omega
  · intro hopened
    obtain ⟨k, hk⟩ := Nat.exists_eq_succ_of_ne_zero
      (Nat.ne_of_gt (List.length_pos_iff.mpr hopened))
    rw [h.current, hk]
    intro hzero
    have hnat := congrArg UInt8.toNat hzero
    rw [show sessionAfter (k + 1) = sessionOf k from rfl, toNat_sessionOf, UInt8.toNat_zero] at hnat
    omega
  · intro i j a b ha hb hlt hnear heq
    rw [h.opened i a ha, h.opened j b hb] at heq
    have hnat := congrArg UInt8.toNat heq
    rw [toNat_sessionOf, toNat_sessionOf] at hnat
    omega

/-- **The request stream of a port.** In every run of calls the requests follow the grammar;
with `resetOnConnect` the sessions are numbered, and each is announced at most once. -/
theorem request_grammar (config : Config) (portConfig : PortConfig)
    (rxRingBuff : DataBuffer α size) {es : List (Event α)} {u : State α size}
    (run : exec (PortRequests.step config portConfig) (init config rxRingBuff) es = some u) :
    Grammar portConfig (early u) (late u) ∧
      (((resets u).map Call.opens).Nodup ∧ (resets u).length ≤ u.opened.length) ∧
      (portConfig.resetOnConnect = true → Sessions u) := by
  have hstage := exec_invariant (Stage portConfig) (fun _ _ _ h hstep => h.step hstep)
    (Stage.init config portConfig rxRingBuff) run
  exact ⟨hstage.grammar, hstage.resets_le, fun hreset => (hstage.numbered hreset).sessions⟩

section Examples

open Deployment (avrPro ring16 port57600)

/-- A client connects before the connection is there, and two more after the Open. -/
def threeClients : List (Event UInt8) :=
  [.portOpen 0 4, .processTX 1 (.bytes [1]), .connected, .processTX 2 (.bytes [1]),
    .processTX 3 (.bytes [1]), .processTX 4 (.bytes [1]), .portOpen 0 5, .portOpen 1 6,
    .portOpen 0 7, .processTX 5 (.bytes [2]), .processTX 6 (.bytes [2])]

def afterThreeClients : State UInt8 16 :=
  (exec (step (avrPro false).config (port57600 true 0)) created threeClients).getD created

theorem request_grammar_threeClients :
    Grammar (port57600 true 0) (early afterThreeClients) (late afterThreeClients) ∧
      afterThreeClients.calls.map Call.request =
        [⟨.NoCommand, 0, 0⟩, ⟨.Open, 6, 4⟩, ⟨.Reset, 1, 0⟩, ⟨.Data, 0, 1⟩, ⟨.Reset, 3, 0⟩,
          ⟨.Data, 0, 1⟩] := by
  have hrun : (exec (step (avrPro false).config (port57600 true 0)) created
        threeClients).isSome = true ∧
      afterThreeClients.calls.map Call.request =
        [⟨.NoCommand, 0, 0⟩, ⟨.Open, 6, 4⟩, ⟨.Reset, 1, 0⟩, ⟨.Data, 0, 1⟩, ⟨.Reset, 3, 0⟩,
          ⟨.Data, 0, 1⟩] := by
    decide +kernel
  exact ⟨(request_grammar (avrPro false).config (port57600 true 0) (ring16 0)
    (exec_eq_some_getD hrun.1)).1, hrun.2⟩

end Examples

end UartBridge.PortRequests
