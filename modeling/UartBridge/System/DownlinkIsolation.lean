import UartBridge.Lib.Run
import UartBridge.Client.PortWorker
import UartBridge.System.Deployment

/-!
# Do a session's bytes reach its client only?

Three threads work on one `PortWorker` with `resetOnConnect`: the receiving
transport (`ProcessRX`: session check, then ring write), the worker thread
(`GetTail`, fetch the client, poll, write, `Commit`) and the listener
(`OnPortOpen`). Each section under a mutex and each system call is one step. The
bytes carry the session tag of their response and their place in the order of
arrival.

* `Isolation` — what holds between the handles, the ring buffer, the current
  session and the log of `write` calls;
* `isolation_step` — every step keeps it, unless `OnPortOpen` comes between the
  two halves of `ProcessRX` or while the worker thread holds a handle;
* `isolated_of_quiet` — then every byte written belongs to the session of the
  client it is written to, and the bytes come out in the order they arrived.
-/

namespace UartBridge.DownlinkIsolation

open EventRun Client

variable {size : Nat}

/-- A received byte with the session tag of its response and its place in the
order of arrival. -/
structure RxByte where
  value : UInt8
  session : UInt8
  pos : Nat
  deriving DecidableEq, Repr

/-- The bytes of a payload; the first of them is number `pos`. -/
def tagged (session : UInt8) : Nat → List UInt8 → List RxByte
  | _, [] => []
  | pos, value :: data => ⟨value, session, pos⟩ :: tagged session (pos + 1) data

/-- A call of `write`: the connection, what the last `OnPortOpen` installed (its
connection and the session it set), the bytes passed, and how many were taken. -/
structure WriteCall where
  conn : ConnId
  installed : Option (ConnId × UInt8)
  offered : List RxByte
  count : Nat
  deriving DecidableEq, Repr

/-- The bytes that went out. -/
def WriteCall.accepted (call : WriteCall) : List RxByte := call.offered.take call.count

/-- `rx`: the payload of a response that passed the session check and is not in
the ring buffer yet. `arrived`: the number of bytes received so far. -/
structure State (size : Nat) where
  port : PortWorker RxByte size
  rx : Option (List RxByte)
  writer : Writer
  arrived : Nat
  installed : Option (ConnId × UInt8)
  log : List WriteCall

inductive Event where
  | portOpen (connection : ConnId)
  | connected
  | processTX (counter : UInt32) (input : ReadResult)
  /-- `ProcessRX` up to the ring buffer. -/
  | rxCheck (response : Response) (data : List UInt8)
  /-- The rest of `ProcessRX`. -/
  | rxWrite
  /-- The worker thread wakes up and takes the tail. -/
  | takeTail
  | takeClient
  | poll (result : PollResult)
  | dispose
  | write (result : Option Nat)
  | commit
  deriving Repr

def init (config : Config) (rxRingBuff : DataBuffer RxByte size) : State size :=
  { port := PortWorker.create config rxRingBuff, rx := none, writer := .start, arrived := 0
    installed := none, log := [] }

def step (config : Config) (portConfig : PortConfig) (s : State size) :
    Event → Option (State size)
  | .portOpen connection =>
    let port := s.port.onPortOpen portConfig portConfig.portID connection
    some { s with port := port, installed := some (connection, port.sessionId) }
  | .connected => some { s with port := s.port.onConnected }
  | .processTX counter input =>
    some { s with port := (s.port.processTX config portConfig counter input).1 }
  | .rxCheck response data =>
    match s.rx with
    | some _ => none
    | none =>
      if data.length = response.plSz.toNat then
        let r := s.port.rxCheck response
        some { s with
          port := r.1
          rx := if r.2 then some (tagged (response.arg &&& 0x7F) s.arrived data) else none
          arrived := s.arrived + data.length }
      else none
  | .rxWrite =>
    match s.rx with
    | none => none
    | some payload => some { s with port := s.port.rxWrite payload, rx := none }
  | .takeTail =>
    match s.writer with
    | .start =>
      if s.port.rxRingBuff.usedSize < 1 then none
      else some { s with writer := Writer.takeTail s.port }
    | _ => none
  | .takeClient =>
    match s.writer with
    | .tailTaken tail => some { s with writer := Writer.takeClient s.port tail }
    | _ => none
  | .poll result =>
    match s.writer with
    | .clientTaken tail currConn => some { s with writer := Writer.polled tail currConn result }
    | _ => none
  | .dispose =>
    match s.writer with
    | .toDispose tail => some { s with writer := (Writer.dispose s.port tail).1 }
    | _ => none
  | .write result =>
    match s.writer with
    | .toWrite tail =>
      if result.getD 0 ≤ tail.maxSz then
        some { s with
          writer := Writer.write s.port tail result
          log := match s.port.client with
            | none => s.log
            | some conn =>
              s.log ++ [{ conn := conn, installed := s.installed
                          offered := Writer.offered s.port tail, count := result.getD 0 }] }
      else none
    | _ => none
  | .commit =>
    match s.writer with
    | .toCommit tail szToWrite =>
      some { s with port := Writer.commit s.port tail szToWrite, writer := .start }
    | _ => none

/-- Everything that went out, in the order it did. -/
def accepted (s : State size) : List RxByte := s.log.flatMap WriteCall.accepted

/-- **The property.** Every byte passed to `write` carries the session set by the
`OnPortOpen` that installed the connection, and the bytes come out in the order
they arrived. -/
structure Isolated (s : State size) : Prop where
  session_eq : ∀ call ∈ s.log, ∃ session, call.installed = some (call.conn, session) ∧
    ∀ b ∈ call.offered, b.session = session
  in_order : (accepted s).Pairwise fun a b => a.pos < b.pos

/-- The worker thread holds no handle, or is to commit nothing. -/
def IsQuiet : Writer → Prop
  | .start | .crashed => True
  | .toCommit _ szToWrite => szToWrite = 0
  | _ => False

/-- The payload that `ProcessRX` is about to store. -/
def pending (s : State size) : List RxByte := s.rx.getD []

/-- **The condition.** `OnPortOpen` does not come while `ProcessRX` is about to
store a payload, nor while the worker thread holds a handle it may use. -/
def Quiet (s : State size) : Event → Prop
  | .portOpen _ => pending s = [] ∧ IsQuiet s.writer
  | _ => True

/-! ## Bytes in the order of arrival -/

theorem session_of_mem_tagged {session : UInt8} {pos : Nat} {data : List UInt8} {b : RxByte}
    (hb : b ∈ tagged session pos data) : b.session = session := by
  induction data generalizing pos with
  | nil => exact absurd hb List.not_mem_nil
  | cons value data ih =>
    rcases List.mem_cons.mp hb with rfl | hrest
    · rfl
    · exact ih hrest

theorem pos_of_mem_tagged {session : UInt8} {pos : Nat} {data : List UInt8} {b : RxByte}
    (hb : b ∈ tagged session pos data) : pos ≤ b.pos ∧ b.pos < pos + data.length := by
  induction data generalizing pos with
  | nil => exact absurd hb List.not_mem_nil
  | cons value data ih =>
    rw [List.length_cons]
    rcases List.mem_cons.mp hb with rfl | hrest
    · exact ⟨Nat.le_refl _, by dsimp only; omega⟩
    · have := ih hrest
      omega

theorem tagged_in_order (session : UInt8) (pos : Nat) (data : List UInt8) :
    (tagged session pos data).Pairwise fun a b => a.pos < b.pos := by
  induction data generalizing pos with
  | nil => exact List.Pairwise.nil
  | cons value data ih =>
    exact List.Pairwise.cons (fun b hb => (pos_of_mem_tagged hb).1) (ih (pos + 1))

/-- The bytes are in the order of arrival, and all have arrived. -/
structure Arrived (arrived : Nat) (bytes : List RxByte) : Prop where
  in_order : bytes.Pairwise fun a b => a.pos < b.pos
  before : ∀ b ∈ bytes, b.pos < arrived

theorem Arrived.sublist {arrived : Nat} {bytes fewer : List RxByte} (h : Arrived arrived bytes)
    (hsub : List.Sublist fewer bytes) : Arrived arrived fewer :=
  ⟨h.in_order.sublist hsub, fun b hb => h.before b (hsub.subset hb)⟩

/-- A payload arrives after everything else. -/
theorem Arrived.append_tagged {arrived : Nat} {bytes : List RxByte} (h : Arrived arrived bytes)
    (session : UInt8) (data : List UInt8) :
    Arrived (arrived + data.length) (bytes ++ tagged session arrived data) := by
  refine ⟨List.pairwise_append.mpr ⟨h.in_order, tagged_in_order _ _ _, ?_⟩, ?_⟩
  · intro a ha b hb
    exact Nat.lt_of_lt_of_le (h.before a ha) (pos_of_mem_tagged hb).1
  · intro b hb
    rcases List.mem_append.mp hb with hold | hnew
    · exact Nat.lt_of_lt_of_le (h.before b hold) (Nat.le_add_right _ _)
    · exact (pos_of_mem_tagged hnew).2

/-! ## What a handle is good for -/

/-- The handle names the `k` oldest bytes of the ring buffer. -/
structure Holds (b : DataBuffer RxByte size) (tail : Handle) (k : Nat) : Prop where
  at_tail : tail.buffer = b.tail
  le_stored : k ≤ b.stored
  fits : b.tail + k ≤ size

/-- The handle that the worker thread holds, if any, is good. -/
def WriterOk (b : DataBuffer RxByte size) : Writer → Prop
  | .start | .crashed => True
  | .tailTaken tail | .clientTaken tail _ | .toDispose tail | .toWrite tail =>
    Holds b tail tail.maxSz
  | .toCommit tail szToWrite => szToWrite = 0 ∨ Holds b tail szToWrite

/-- The number of bytes that went out, or were given up, and are still in the
ring buffer. -/
def gone : Writer → Nat
  | .toCommit _ szToWrite => szToWrite
  | _ => 0

theorem gone_le {b : DataBuffer RxByte size} {writer : Writer} (h : WriterOk b writer) :
    gone writer ≤ b.stored := by
  cases writer with
  | toCommit tail szToWrite =>
    rcases h with rfl | hholds
    · exact Nat.zero_le _
    · exact hholds.le_stored
  | start | crashed | tailTaken | clientTaken | toDispose | toWrite => exact Nat.zero_le _

/-- A good handle stays good while bytes are appended. -/
theorem WriterOk.append {b b' : DataBuffer RxByte size} {writer : Writer} (h : WriterOk b writer)
    (htail : b'.tail = b.tail) (hstored : b.stored ≤ b'.stored) : WriterOk b' writer := by
  have holds {tail : Handle} {k : Nat} (hb : Holds b tail k) : Holds b' tail k :=
    ⟨hb.at_tail.trans htail.symm, Nat.le_trans hb.le_stored hstored, by rw [htail]; exact hb.fits⟩
  cases writer with
  | toCommit tail szToWrite => exact h.imp_right holds
  | start | crashed => trivial
  | tailTaken tail | clientTaken tail | toDispose tail | toWrite tail => exact holds h

/-! ## The invariant -/

/-- The bytes in the ring buffer that have not gone out. -/
def unread (s : State size) : List RxByte := s.port.rxRingBuff.contents.drop (gone s.writer)

/-- Everything that went out, will go out, or is about to be stored. -/
def stream (s : State size) : List RxByte := accepted s ++ unread s ++ pending s

structure Isolation (s : State size) : Prop where
  writer_ok : WriterOk s.port.rxRingBuff s.writer
  installed : ∀ conn, s.port.client = some conn → s.installed = some (conn, s.port.sessionId)
  session_eq : ∀ b ∈ s.port.rxRingBuff.contents ++ pending s, b.session = s.port.sessionId
  log_ok : ∀ call ∈ s.log, ∃ session, call.installed = some (call.conn, session) ∧
    ∀ b ∈ call.offered, b.session = session
  arrived : Arrived s.arrived (stream s)

variable {config : Config} {portConfig : PortConfig} {s t : State size}

theorem Isolation.start (config : Config) (storage : Nat → RxByte) (hsize : 0 < size) :
    Isolation (init config (DataBuffer.create storage hsize)) := by
  refine ⟨trivial, fun _ h => (by cases h), ?_, fun _ h => absurd h List.not_mem_nil, ?_, ?_⟩
  · intro b hb
    simp [init, PortWorker.create, pending] at hb
  · simp [stream, accepted, unread, pending, init, PortWorker.create, gone]
  · intro b hb
    simp [stream, accepted, unread, pending, init, PortWorker.create, gone] at hb

/-- A step that changes neither session nor log, and adds no byte. -/
theorem Isolation.thin (h : Isolation s) (hwriter : WriterOk t.port.rxRingBuff t.writer)
    (hclient : t.port.client = s.port.client ∨ t.port.client = none)
    (hsession : t.port.sessionId = s.port.sessionId) (hinstalled : t.installed = s.installed)
    (hmem : ∀ b ∈ t.port.rxRingBuff.contents ++ pending t,
      b ∈ s.port.rxRingBuff.contents ++ pending s)
    (hlog : t.log = s.log) (harrived : t.arrived = s.arrived)
    (hstream : List.Sublist (stream t) (stream s)) : Isolation t := by
  refine ⟨hwriter, ?_, ?_, hlog ▸ h.log_ok, ?_⟩
  · intro conn hconn
    rcases hclient with hsame | hnone
    · rw [hinstalled, hsession]
      exact h.installed conn (hsame.symm.trans hconn)
    · rw [hnone] at hconn
      cases hconn
  · intro b hb
    rw [hsession]
    exact h.session_eq b (hmem b hb)
  · rw [harrived]
    exact h.arrived.sublist hstream

/-- A step of the worker thread that only changes what it holds. -/
theorem Isolation.writer (h : Isolation s) {writer : Writer}
    (hwriter : WriterOk s.port.rxRingBuff writer) (hgone : gone s.writer ≤ gone writer) :
    Isolation { s with writer := writer } := by
  refine h.thin hwriter (Or.inl rfl) rfl rfl (fun _ hb => hb) rfl rfl ?_
  refine List.Sublist.append_right (List.Sublist.append_left ?_ _) _
  exact List.drop_sublist_drop_left _ hgone

/-! ## One step -/

theorem Isolation.portOpen (h : Isolation s) (hreset : portConfig.resetOnConnect = true)
    {connection : ConnId} (hquiet : Quiet s (.portOpen connection))
    (hstep : step config portConfig s (.portOpen connection) = some t) : Isolation t := by
  rw [step, Option.some.injEq] at hstep
  obtain ⟨hpending, hwriter⟩ := hquiet
  have hopen : s.port.onPortOpen portConfig portConfig.portID connection =
      { s.port with
        client := some connection
        resetPending := true
        sessionId := PortWorker.nextSession s.port.sessionId
        remoteBufferTracker := s.port.remoteBufferTracker.reset
        rxRingBuff := s.port.rxRingBuff.reset } := by
    simp [PortWorker.onPortOpen, hreset]
  rw [hopen] at hstep
  subst hstep
  have hempty : s.port.rxRingBuff.reset.contents = [] := DataBuffer.contents_reset _
  refine ⟨?_, ?_, ?_, h.log_ok, ?_⟩
  · show WriterOk s.port.rxRingBuff.reset s.writer
    cases hw : s.writer with
    | start | crashed => trivial
    | toCommit tail szToWrite =>
      -- only a commit of nothing may meet a reset
      rw [hw] at hwriter
      exact Or.inl hwriter
    | tailTaken | clientTaken | toDispose | toWrite =>
      rw [hw] at hwriter
      exact absurd hwriter id
  · intro conn hconn
    exact congrArg some (congrArg (·, _) (Option.some.inj hconn))
  · intro b hb
    change b ∈ s.port.rxRingBuff.reset.contents ++ pending s at hb
    rw [hempty, hpending] at hb
    exact absurd hb List.not_mem_nil
  · refine h.arrived.sublist ?_
    show List.Sublist
      (accepted s ++ s.port.rxRingBuff.reset.contents.drop (gone s.writer) ++ pending s) (stream s)
    rw [hempty, hpending, List.drop_nil, List.append_nil, List.append_nil, stream,
      List.append_assoc]
    exact List.sublist_append_left _ _

theorem Isolation.rxCheck (h : Isolation s) {response : Response} {data : List UInt8}
    (hstep : step config portConfig s (.rxCheck response data) = some t) : Isolation t := by
  simp only [step] at hstep
  cases hrx : s.rx with
  | some payload =>
    rw [hrx] at hstep
    cases hstep
  | none =>
    rw [hrx] at hstep
    dsimp only at hstep
    split at hstep
    · rw [Option.some.injEq] at hstep
      obtain ⟨hring, hsession, hclient, hproceed⟩ := s.port.rxCheck_frame response
      have hnone : pending s = [] := by simp [pending, hrx]
      subst hstep
      -- what is pending now was received with the current session, after all the rest
      have hpending (b : RxByte) (hb : b ∈ (if (s.port.rxCheck response).2 = true then
          some (tagged (response.arg &&& 0x7F) s.arrived data) else none).getD []) :
          b.session = s.port.sessionId := by
        split at hb
        · rename_i htrue
          exact (session_of_mem_tagged hb).trans (hproceed htrue).symm
        · exact absurd hb List.not_mem_nil
      refine ⟨?_, ?_, ?_, h.log_ok, ?_⟩
      · show WriterOk (s.port.rxCheck response).1.rxRingBuff s.writer
        rw [hring]
        exact h.writer_ok
      · intro conn hconn
        dsimp only at hconn ⊢
        rw [hsession]
        exact h.installed conn (hclient.symm.trans hconn)
      · intro b hb
        dsimp only [pending] at hb ⊢
        rw [hring] at hb
        rw [hsession]
        rcases List.mem_append.mp hb with hold | hnew
        · exact h.session_eq b (List.mem_append_left _ hold)
        · exact hpending b hnew
      · have hstream : stream s = accepted s ++ unread s := by
          rw [stream, hnone, List.append_nil]
        have harrived := h.arrived
        rw [hstream] at harrived
        dsimp only [stream, accepted, unread, pending]
        rw [hring]
        refine (harrived.append_tagged (response.arg &&& 0x7F) data).sublist ?_
        refine List.Sublist.append_left ?_ _
        split
        · exact List.Sublist.refl _
        · exact List.nil_sublist _
    · cases hstep

theorem Isolation.rxWrite (h : Isolation s)
    (hstep : step config portConfig s .rxWrite = some t) : Isolation t := by
  simp only [step] at hstep
  cases hrx : s.rx with
  | none =>
    rw [hrx] at hstep
    cases hstep
  | some payload =>
    rw [hrx, Option.some.injEq] at hstep
    subst hstep
    have hpending : pending s = payload := by simp [pending, hrx]
    obtain ⟨hcontents, -, htail⟩ := DataBuffer.store_spec DataBuffer.getHead (fun _ => rfl)
      payload.length s.port.rxRingBuff payload (Nat.le_refl _)
    have hstored := DataBuffer.store_stored DataBuffer.getHead (fun _ => rfl) payload.length
      s.port.rxRingBuff payload (Nat.le_refl _)
    -- the payload moves from the pending bytes to the ring buffer; what does not fit is lost
    refine h.thin ?_ (Or.inl rfl) rfl rfl ?_ rfl rfl ?_
    · exact h.writer_ok.append htail
        (Nat.le_trans (Nat.le_add_right _ _) (Nat.le_of_eq hstored.symm))
    · intro b hb
      dsimp only [PortWorker.rxWrite, pending] at hb
      rw [hcontents, Option.getD_none, List.append_nil] at hb
      rw [hpending]
      rcases List.mem_append.mp hb with hold | hnew
      · exact List.mem_append_left _ hold
      · exact List.mem_append_right _ (List.mem_of_mem_take hnew)
    · have hle := gone_le h.writer_ok
      rw [← DataBuffer.length_contents] at hle
      dsimp only [stream, accepted, unread, pending, PortWorker.rxWrite]
      rw [hcontents, Option.getD_none, List.append_nil, List.drop_append_of_le_length hle, hrx,
        Option.getD_some, List.append_assoc]
      exact List.Sublist.append_left
        (List.Sublist.append_left (List.take_sublist _ _) _) _

theorem Isolation.write (h : Isolation s) {result : Option Nat}
    (hstep : step config portConfig s (.write result) = some t) : Isolation t := by
  simp only [step] at hstep
  cases hw : s.writer with
  | toWrite tail =>
    rw [hw] at hstep
    dsimp only at hstep
    split at hstep
    · rename_i hcount
      rw [Option.some.injEq] at hstep
      have hholds : Holds s.port.rxRingBuff tail tail.maxSz := by
        have := h.writer_ok
        rwa [hw] at this
      have hoffered : Writer.offered s.port tail =
          s.port.rxRingBuff.contents.take tail.maxSz := by
        rw [Writer.offered, hholds.at_tail]
        exact s.port.rxRingBuff.read_tail _ hholds.le_stored hholds.fits
      cases hclient : s.port.client with
      | none =>
        rw [hclient] at hstep
        subst hstep
        refine h.writer ?_ ?_
        · simp [Writer.write, hclient, WriterOk]
        · simp [hw, gone]
      | some conn =>
        rw [hclient] at hstep
        subst hstep
        have hgone : gone s.writer = 0 := by rw [hw]; rfl
        -- what was taken moves from the unread bytes to the accepted ones
        have hwriter : WriterOk s.port.rxRingBuff (Writer.write s.port tail result) ∧
            gone (Writer.write s.port tail result) = result.getD 0 := by
          cases result with
          | none => simp [Writer.write, hclient, WriterOk, gone, hholds]
          | some dw =>
            simp only [Option.getD_some] at hcount
            simp only [Writer.write, hclient, WriterOk, gone, Option.getD_some, and_true]
            exact Or.inr ⟨hholds.at_tail, Nat.le_trans hcount hholds.le_stored,
              Nat.le_trans (Nat.add_le_add_left hcount _) hholds.fits⟩
        refine ⟨hwriter.1, h.installed, h.session_eq, ?_, ?_⟩
        · intro call hcall
          rcases List.mem_append.mp hcall with hold | hnew
          · exact h.log_ok call hold
          · rw [List.mem_singleton] at hnew
            subst hnew
            refine ⟨s.port.sessionId, h.installed conn hclient, ?_⟩
            intro b hb
            rw [hoffered] at hb
            exact h.session_eq b (List.mem_append_left _ (List.mem_of_mem_take hb))
        · have hsame := h.arrived
          rw [stream, unread, hgone, List.drop_zero] at hsame
          dsimp only [stream, accepted, unread]
          rw [hwriter.2, List.flatMap_append, List.flatMap_singleton, WriteCall.accepted]
          dsimp only
          rw [hoffered, List.take_take, Nat.min_eq_left hcount, List.append_assoc _ (List.take _ _),
            List.take_append_drop]
          exact hsame
    · cases hstep
  | start | crashed | tailTaken | clientTaken | toDispose | toCommit =>
    rw [hw] at hstep
    cases hstep

theorem Isolation.commit (h : Isolation s)
    (hstep : step config portConfig s .commit = some t) : Isolation t := by
  simp only [step] at hstep
  cases hw : s.writer with
  | toCommit tail szToWrite =>
    rw [hw, Option.some.injEq] at hstep
    subst hstep
    have hok : szToWrite = 0 ∨ Holds s.port.rxRingBuff tail szToWrite := by
      have := h.writer_ok
      rwa [hw] at this
    have hcontents : (s.port.rxRingBuff.commit tail szToWrite).contents =
        s.port.rxRingBuff.contents.drop szToWrite := by
      rcases hok with rfl | hholds
      · simp
      · exact (s.port.rxRingBuff.commit_tail_spec tail szToWrite hholds.at_tail
          hholds.le_stored hholds.fits).1
    -- the bytes dropped are those that had gone out
    refine h.thin trivial (Or.inl rfl) rfl rfl ?_ rfl rfl ?_
    · intro b hb
      dsimp only [Writer.commit, pending] at hb
      rw [hcontents] at hb
      rcases List.mem_append.mp hb with hold | hnew
      · exact List.mem_append_left _ (List.mem_of_mem_drop hold)
      · exact List.mem_append_right _ hnew
    · dsimp only [stream, accepted, unread, pending, Writer.commit]
      rw [hcontents, hw]
      exact List.Sublist.refl _
  | start | crashed | tailTaken | clientTaken | toDispose | toWrite =>
    rw [hw] at hstep
    cases hstep

theorem Isolation.processTX (h : Isolation s) (counter : UInt32) (input : ReadResult) :
    Isolation { s with port := (s.port.processTX config portConfig counter input).1 } := by
  obtain ⟨hring, hsession, hclient⟩ :=
    PortWorker.processTX_frame config portConfig counter input s.port
  refine h.thin ?_ hclient hsession rfl ?_ rfl rfl ?_
  · show WriterOk (s.port.processTX config portConfig counter input).1.rxRingBuff s.writer
    rw [hring]
    exact h.writer_ok
  · intro b hb
    dsimp only at hb
    rwa [hring] at hb
  · dsimp only [stream, unread]
    rw [hring]
    exact List.Sublist.refl _

theorem Isolation.takeTail (h : Isolation s)
    (hstep : step config portConfig s .takeTail = some t) : Isolation t := by
  simp only [step] at hstep
  cases hw : s.writer with
  | start =>
    rw [hw] at hstep
    dsimp only at hstep
    split at hstep
    · cases hstep
    · rw [Option.some.injEq] at hstep
      refine hstep ▸ h.writer ?_ (by simp [hw, gone])
      obtain ⟨hfits, hstored, -⟩ := s.port.rxRingBuff.getTail_spec
      unfold Writer.takeTail
      split
      · trivial
      · exact ⟨rfl, hstored, hfits⟩
  | crashed | tailTaken | clientTaken | toDispose | toWrite | toCommit =>
    rw [hw] at hstep
    cases hstep

theorem Isolation.takeClient (h : Isolation s)
    (hstep : step config portConfig s .takeClient = some t) : Isolation t := by
  simp only [step] at hstep
  cases hw : s.writer with
  | tailTaken tail =>
    rw [hw, Option.some.injEq] at hstep
    have hok := h.writer_ok
    rw [hw] at hok
    exact hstep ▸ h.writer hok (by simp [hw, gone])
  | start | crashed | clientTaken | toDispose | toWrite | toCommit =>
    rw [hw] at hstep
    cases hstep

theorem Isolation.poll (h : Isolation s) {result : PollResult}
    (hstep : step config portConfig s (.poll result) = some t) : Isolation t := by
  simp only [step] at hstep
  cases hw : s.writer with
  | clientTaken tail currConn =>
    rw [hw, Option.some.injEq] at hstep
    have hok : Holds s.port.rxRingBuff tail tail.maxSz := by
      have := h.writer_ok
      rwa [hw] at this
    refine hstep ▸ h.writer ?_ (by simp [hw, gone])
    cases currConn with
    | none => exact Or.inr hok
    | some conn =>
      cases result with
      | failed | hup | ready => exact hok
      | timeout => exact Or.inr hok
  | start | crashed | tailTaken | toDispose | toWrite | toCommit =>
    rw [hw] at hstep
    cases hstep

theorem Isolation.dispose (h : Isolation s)
    (hstep : step config portConfig s .dispose = some t) : Isolation t := by
  simp only [step] at hstep
  cases hw : s.writer with
  | toDispose tail =>
    rw [hw, Option.some.injEq] at hstep
    have hok : Holds s.port.rxRingBuff tail tail.maxSz := by
      have := h.writer_ok
      rwa [hw] at this
    refine hstep ▸ h.writer ?_ (by simp [hw, gone])
    unfold Writer.dispose
    split
    · trivial
    · exact Or.inr hok
  | start | crashed | tailTaken | clientTaken | toWrite | toCommit =>
    rw [hw] at hstep
    cases hstep

/-- **One step**, if `OnPortOpen` finds nobody in between. -/
theorem isolation_step (hreset : portConfig.resetOnConnect = true) (h : Isolation s) {e : Event}
    (hquiet : Quiet s e) (hstep : step config portConfig s e = some t) : Isolation t := by
  cases e with
  | portOpen connection => exact h.portOpen hreset hquiet hstep
  | connected =>
    rw [step, Option.some.injEq] at hstep
    exact hstep ▸ ⟨h.writer_ok, h.installed, h.session_eq, h.log_ok, h.arrived⟩
  | processTX counter input =>
    rw [step, Option.some.injEq] at hstep
    exact hstep ▸ h.processTX counter input
  | rxCheck response data => exact h.rxCheck hstep
  | rxWrite => exact h.rxWrite hstep
  | takeTail => exact h.takeTail hstep
  | takeClient => exact h.takeClient hstep
  | poll result => exact h.poll hstep
  | dispose => exact h.dispose hstep
  | write result => exact h.write hstep
  | commit => exact h.commit hstep

/-! ## Whole runs -/

theorem Isolation.isolated (h : Isolation s) : Isolated s := by
  refine ⟨h.log_ok, h.arrived.in_order.sublist ?_⟩
  rw [stream, List.append_assoc]
  exact List.sublist_append_left _ _

/-- **Downlink session isolation.** In every run where `OnPortOpen` never comes
between the two halves of `ProcessRX`, or while the worker thread holds a handle,
every byte written belongs to the session of its client, and the bytes come out
in the order they arrived. -/
theorem isolated_of_quiet (config : Config) (portConfig : PortConfig)
    (hreset : portConfig.resetOnConnect = true) (storage : Nat → RxByte) (hsize : 0 < size)
    (es : List Event) (s : State size)
    (along : Along (step config portConfig) Quiet
      (init config (DataBuffer.create storage hsize)) es)
    (hrun : exec (step config portConfig) (init config (DataBuffer.create storage hsize)) es =
      some s) : Isolated s :=
  (exec_invariant_along Isolation
    (fun _ _ _ h hquiet hstep => isolation_step hreset h hquiet hstep)
    (Isolation.start config storage hsize) along hrun).isolated

instance (s : State size) (e : Event) : Decidable (Quiet s e) :=
  match e with
  | .portOpen _ =>
    have : Decidable (IsQuiet s.writer) :=
      match s.writer with
      | .start | .crashed => isTrue trivial
      | .toCommit _ szToWrite => inferInstanceAs (Decidable (szToWrite = 0))
      | .tailTaken _ | .clientTaken _ _ | .toDispose _ | .toWrite _ => isFalse id
    inferInstanceAs (Decidable (_ ∧ _))
  | .connected | .processTX _ _ | .rxCheck _ _ | .rxWrite | .takeTail | .takeClient | .poll _
  | .dispose | .write _ | .commit => isTrue trivial

open Deployment (avrPro ring16 port57600)

def switchedOn : State 16 := init (avrPro false).config (ring16 ⟨0, 0, 0⟩)

/-- A response of session `session` with two bytes. -/
def response (session : UInt8) : Event := .rxCheck ⟨.Data, session, 2, 7⟩ [0x41, 0x42]

/-- Two clients, one after the other. -/
def twoClients : List Event :=
  [.portOpen 4, response 1, .rxWrite, .takeTail, .takeClient, .poll .ready, .write (some 1),
    .commit, .portOpen 5, response 2, .rxWrite, .takeTail, .takeClient, .poll .ready,
    .write (some 2)]

def afterTwoClients : State 16 :=
  (exec (step (avrPro false).config (port57600 true 0)) switchedOn twoClients).getD switchedOn

/-- The second client gets nothing of what the first one left over. -/
theorem isolated_two_clients : Isolated afterTwoClients ∧
    (accepted afterTwoClients).map (·.pos) = [0, 2, 3] :=
  ⟨isolated_of_quiet (avrPro false).config (port57600 true 0) rfl (fun _ => ⟨0, 0, 0⟩) (by decide)
    twoClients afterTwoClients (by decide +kernel) (exec_eq_some_getD (by decide +kernel)),
    by decide +kernel⟩

/-- A response is checked, then the next client connects, then its payload is stored. -/
def overtaken : List Event :=
  [.portOpen 4, response 1, .portOpen 5, .rxWrite, .takeTail, .takeClient, .poll .ready,
    .write (some 2)]

def afterOvertaken : State 16 :=
  (exec (step (avrPro false).config (port57600 true 0)) switchedOn overtaken).getD switchedOn

/-- The client of session 2 is sent the bytes of session 1. -/
theorem overtaken_leaks :
    ¬ ∀ (es : List Event) (s : State 16),
      exec (step (avrPro false).config (port57600 true 0)) switchedOn es = some s → Isolated s := by
  intro hall
  have hisolated := hall overtaken afterOvertaken (exec_eq_some_getD (by decide +kernel))
  have hlog : afterOvertaken.log = [⟨5, some (5, 2), [⟨0x41, 1, 0⟩, ⟨0x42, 1, 1⟩], 2⟩] := by
    decide +kernel
  obtain ⟨session, hinstalled, hbytes⟩ := hisolated.session_eq _ (hlog ▸ List.mem_singleton_self _)
  have hsession : (2 : UInt8) = session := congrArg Prod.snd (Option.some.inj hinstalled)
  have hbyte : (1 : UInt8) = session := hbytes ⟨0x41, 1, 0⟩ List.mem_cons_self
  rw [← hbyte] at hsession
  exact absurd hsession (by decide)

end UartBridge.DownlinkIsolation
