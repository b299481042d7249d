import UartBridge.Lib.LossyFifo
import UartBridge.System.WriterThread

/-!
# What a local client is written

The last hop of the downlink: what `ProcessRX` is handed goes through the ring buffer of the port
to the `write` of the worker thread. Polls time out, clients hang up or are gone, a `write` fails
or takes a part: each time bytes are lost, and the others keep their order.

* `Settled` — the ring buffer is emptied between two rounds only;
* `Delivers` — a step that loses nothing;
* `InHand` — the range of the round, and what of it is written;
* `written_in_order` — every run is that of a queue that may lose.
-/

namespace UartBridge.LocalClient

open Client EventRun LossyFifo WriterThread

variable {α : Type} {size : Nat} {config : Config} {portConfig : PortConfig} {s t : State α size}

/-! ## The stage -/

/-- The bytes stored, without those that this round has written or given up. -/
def ringWaiting (s : State α size) : List α :=
  match s.writer with
  | .toCommit _ szToWrite => s.port.rxRingBuff.contents.drop szToWrite
  | .start | .tailTaken _ | .clientTaken _ _ | .toDispose _ | .toWrite _ | .crashed =>
    s.port.rxRingBuff.contents

/-- What waits for the local client: also a payload that is not stored yet. -/
def waiting (s : State α size) : List α := ringWaiting s ++ s.rx.getD []

/-- What `ProcessRX` is handed. -/
def handed (_ : State α size) : Event α → List α
  | .rxCheck _ data => data
  | .portOpen _ | .connected | .processTX _ _ | .rxWrite | .takeTail | .takeClient | .poll _
  | .dispose | .write _ | .commit => []

/-- A client that resets the port does not come while the thread has a range in its hands. -/
def Settled (portConfig : PortConfig) (s : State α size) : Event α → Prop
  | .portOpen id => id = portConfig.portID → portConfig.resetOnConnect = true → s.writer = .start
  | .connected | .processTX _ _ | .rxCheck _ _ | .rxWrite | .takeTail | .takeClient | .poll _
  | .dispose | .write _ | .commit => True

/-- The poll reports room at a client. -/
def Ready : Writer → PollResult → Prop
  | .clientTaken _ (some _), result => result = .ready
  | _, _ => False

/-- The step loses no byte: the payload passes the check and fits, a client that resets the port
finds nothing stored, and the round comes to a `write` that does not fail. -/
def Delivers (portConfig : PortConfig) (s : State α size) : Event α → Prop
  | .portOpen id => id = portConfig.portID → portConfig.resetOnConnect = true →
    s.port.rxRingBuff.contents = []
  | .rxCheck response data => (s.port.rxCheck response).2 = true ∨ data = []
  | .rxWrite => (s.rx.getD []).length ≤ s.port.rxRingBuff.free
  | .poll result => Ready s.writer result
  | .dispose => False
  | .connected | .processTX _ _ | .takeTail | .takeClient | .write _ | .commit => True

/-- Where the round stands: the range at the tail, and nothing written before `write`. -/
def InHand (s : State α size) : Writer → Prop
  | .start | .crashed => s.accepted = []
  | .tailTaken tail | .clientTaken tail _ | .toDispose tail | .toWrite tail =>
    TailRange s.port.rxRingBuff tail ∧ s.accepted = []
  | .toCommit tail szToWrite => TailRange s.port.rxRingBuff tail ∧ szToWrite ≤ tail.maxSz

/-- What one step does to the stage. -/
def Moved (portConfig : PortConfig) (s : State α size) (e : Event α) (t : State α size) : Prop :=
  InHand t t.writer ∧ ∃ out, acceptedBytes t = acceptedBytes s ++ out ∧
    Passes (Delivers portConfig s e) (waiting s) (handed s e) out (waiting t)

/-! ## The other parties -/

/-- A step of another party stores bytes behind the range, or none. -/
theorem InHand.other (h : InHand s s.writer) (more : List α) (hwriter : t.writer = s.writer)
    (haccepted : t.accepted = s.accepted)
    (htail : t.port.rxRingBuff.tail = s.port.rxRingBuff.tail)
    (hcontents : t.port.rxRingBuff.contents = s.port.rxRingBuff.contents ++ more) :
    InHand t t.writer ∧ ringWaiting t = ringWaiting s ++ more := by
  have hlen := congrArg List.length hcontents
  simp only [List.length_append, DataBuffer.length_contents] at hlen
  have hstored : s.port.rxRingBuff.stored ≤ t.port.rxRingBuff.stored := by omega
  unfold ringWaiting
  rw [hwriter]
  cases hw : s.writer with
  | start | crashed =>
    rw [hw] at h
    exact ⟨haccepted.trans h, hcontents⟩
  | tailTaken tail | clientTaken tail _ | toDispose tail | toWrite tail =>
    rw [hw] at h
    exact ⟨⟨h.1.append htail hstored, haccepted.trans h.2⟩, hcontents⟩
  | toCommit tail szToWrite =>
    rw [hw] at h
    obtain ⟨hrange, hle⟩ := h
    have hfit : szToWrite ≤ s.port.rxRingBuff.contents.length := by
      rw [DataBuffer.length_contents]
      exact Nat.le_trans hle hrange.range.room_le
    refine ⟨⟨hrange.append htail hstored, hle⟩, ?_⟩
    dsimp only
    rw [hcontents, List.drop_append_of_le_length hfit]

/-- A step that neither stores bytes nor is of the worker thread. -/
theorem moved_of_same {e : Event α} (h : InHand s s.writer) (hwriter : t.writer = s.writer)
    (haccepted : t.accepted = s.accepted) (hrounds : t.rounds = s.rounds)
    (hring : t.port.rxRingBuff = s.port.rxRingBuff) (hrx : t.rx = s.rx)
    (hhanded : handed s e = []) : Moved portConfig s e t := by
  obtain ⟨hin, hwaiting⟩ := h.other [] hwriter haccepted (by rw [hring])
    (by rw [hring, List.append_nil])
  refine ⟨hin, [], ?_, ?_⟩
  · unfold acceptedBytes
    rw [hrounds, haccepted, List.append_nil]
  · unfold waiting
    rw [hwaiting, hrx, hhanded, List.append_nil]
    exact Passes.refl _

/-- `OnPortOpen`, between two rounds if it empties the ring buffer. -/
theorem moved_portOpen (h : InHand s s.writer) (id : Nat)
    (hsettled : Settled portConfig s (.portOpen id)) :
    Moved portConfig s (.portOpen id) { s with
      port := s.port.onPortOpen portConfig id s.opened
      opened := s.opened + 1
      disturbed := s.disturbed || id == portConfig.portID } := by
  rcases s.port.onPortOpen_cases portConfig id s.opened with
    ⟨-, heq⟩ | ⟨-, heq⟩ | ⟨⟨hid, hreset⟩, heq⟩
  · rw [heq]
    exact moved_of_same h rfl rfl rfl rfl rfl rfl
  · rw [heq]
    exact moved_of_same h rfl rfl rfl rfl rfl rfl
  · rw [heq]
    have hstart : s.writer = .start := hsettled hid hreset
    have hnothing : s.accepted = [] := by
      rw [hstart] at h
      exact h
    refine ⟨?_, [], (List.append_nil _).symm, ?_⟩
    · show InHand _ s.writer
      rw [hstart]
      exact hnothing
    · -- what is stored is gone
      unfold waiting ringWaiting
      rw [hstart]
      dsimp only
      rw [DataBuffer.contents_reset, List.nil_append]
      refine Passes.lose (List.sublist_append_right _ _) ?_
      intro hkept
      rw [hkept hid hreset, List.nil_append]

/-- `ProcessRX` lets a payload through, or drops it. -/
theorem moved_rxCheck (h : InHand s s.writer) (hrx : s.rx = none) (response : Response)
    (data : List α) :
    Moved portConfig s (.rxCheck response data) { s with
      port := (s.port.rxCheck response).1
      rx := if (s.port.rxCheck response).2 then some data else none } := by
  obtain ⟨hring, -, -, -⟩ := PortWorker.rxCheck_frame response s.port
  obtain ⟨hin, hwaiting⟩ := h.other (t := { s with
      port := (s.port.rxCheck response).1
      rx := if (s.port.rxCheck response).2 then some data else none })
    [] rfl rfl (by dsimp only; rw [hring]) (by dsimp only; rw [hring, List.append_nil])
  refine ⟨hin, [], (List.append_nil _).symm, ?_⟩
  unfold waiting
  rw [hwaiting, hrx, List.append_nil, Option.getD_none, List.append_nil]
  show Passes _ _ data [] (ringWaiting s ++
    (if (s.port.rxCheck response).2 = true then some data else none).getD [])
  cases hcheck : (s.port.rxCheck response).2 with
  | true => exact Passes.arrive _ _
  | false =>
    rw [if_neg Bool.false_ne_true, Option.getD_none, List.append_nil]
    have hkept (hdelivers : Delivers portConfig s (.rxCheck response data)) :
        ringWaiting s = ringWaiting s ++ data := by
      have hdata : data = [] := hdelivers.resolve_left (by rw [hcheck]; exact Bool.false_ne_true)
      rw [hdata, List.append_nil]
    have hdropped := (Passes.arrive (ringWaiting s) data).trans
      (Passes.lose (List.sublist_append_left _ _) hkept)
    rwa [List.append_nil] at hdropped

/-- `ProcessRX` stores what there is room for. -/
theorem moved_rxWrite (h : InHand s s.writer) {payload : List α} (hrx : s.rx = some payload) :
    Moved portConfig s .rxWrite { s with
      port := s.port.rxWrite payload
      rx := none
      appended := s.appended ++ added s.port.rxRingBuff (s.port.rxWrite payload).rxRingBuff } := by
  obtain ⟨hcontents, -, htail⟩ := DataBuffer.store_spec DataBuffer.getHead (fun _ => rfl)
    payload.length s.port.rxRingBuff payload (Nat.le_refl _)
  obtain ⟨hin, hwaiting⟩ := h.other (t := { s with
      port := s.port.rxWrite payload
      rx := none
      appended := s.appended ++ added s.port.rxRingBuff (s.port.rxWrite payload).rxRingBuff })
    (payload.take s.port.rxRingBuff.free) rfl rfl htail hcontents
  refine ⟨hin, [], (List.append_nil _).symm, ?_⟩
  unfold waiting
  rw [hwaiting, hrx, Option.getD_some, Option.getD_none, List.append_nil]
  refine Passes.lose ((List.take_sublist _ _).append_left _) ?_
  intro hfits
  have hlen : payload.length ≤ s.port.rxRingBuff.free := by
    have hroom : (s.rx.getD []).length ≤ s.port.rxRingBuff.free := hfits
    rwa [hrx] at hroom
  rw [List.take_of_length_le hlen]

/-! ## The worker thread -/

/-- The thread goes on, with what is stored as it was. -/
theorem moved_of_thread {e : Event α} (hrx : t.rx = s.rx)
    (hrounds : t.rounds = s.rounds) (haccepted : s.accepted = []) (haccepted' : t.accepted = [])
    (hwaiting : ringWaiting s = s.port.rxRingBuff.contents) (hin : InHand t t.writer)
    (hlost : ringWaiting t = s.port.rxRingBuff.contents ∨
      (ringWaiting t).Sublist s.port.rxRingBuff.contents ∧ ¬ Delivers portConfig s e)
    (hhanded : handed s e = []) : Moved portConfig s e t := by
  refine ⟨hin, [], ?_, ?_⟩
  · unfold acceptedBytes
    rw [hrounds, haccepted, haccepted', List.append_nil, List.append_nil]
  · unfold waiting
    rw [hwaiting, hrx, hhanded]
    rcases hlost with heq | ⟨hless, hloses⟩
    · rw [heq]
      exact Passes.refl _
    · exact Passes.lose (hless.append_right _) fun hdelivers => absurd hdelivers hloses

theorem moved_poll (h : InHand s s.writer) {tail : Handle} {currConn : Option ConnId}
    (hwriter : s.writer = .clientTaken tail currConn) (result : PollResult) :
    Moved portConfig s (.poll result) { s with
      writer := Writer.polled tail currConn result
      timedOut := result == .timeout } := by
  rw [hwriter] at h
  obtain ⟨hrange, hnothing⟩ := h
  have hwaiting : ringWaiting s = s.port.rxRingBuff.contents := by
    unfold ringWaiting
    rw [hwriter]
  cases currConn with
  | none =>
    have hloses : ¬ Delivers portConfig s (.poll result) := by
      show ¬ Ready s.writer result
      rw [hwriter]
      exact id
    exact moved_of_thread rfl rfl hnothing hnothing hwaiting ⟨hrange, Nat.le_refl _⟩
      (Or.inr ⟨List.drop_sublist _ _, hloses⟩) rfl
  | some conn =>
    cases result with
    | failed | hup | ready =>
      exact moved_of_thread rfl rfl hnothing hnothing hwaiting ⟨hrange, hnothing⟩ (Or.inl rfl) rfl
    | timeout =>
      have hloses : ¬ Delivers portConfig s (.poll .timeout) := by
        show ¬ Ready s.writer .timeout
        rw [hwriter]
        exact nofun
      exact moved_of_thread rfl rfl hnothing hnothing hwaiting ⟨hrange, Nat.le_refl _⟩
        (Or.inr ⟨List.drop_sublist _ _, hloses⟩) rfl

theorem moved_dispose (h : InHand s s.writer) {tail : Handle}
    (hwriter : s.writer = .toDispose tail) :
    Moved portConfig s .dispose { s with
      writer := (Writer.dispose s.port tail).1
      uses := s.uses ++
        [{ currConn := s.currConn, member := (Writer.dispose s.port tail).2 }] } := by
  rw [hwriter] at h
  obtain ⟨hrange, hnothing⟩ := h
  have hwaiting : ringWaiting s = s.port.rxRingBuff.contents := by
    unfold ringWaiting
    rw [hwriter]
  cases hclient : s.port.client with
  | none =>
    have hcrashed : (Writer.dispose s.port tail).1 = .crashed := by
      unfold Writer.dispose
      rw [hclient]
    rw [hcrashed]
    exact moved_of_thread rfl rfl hnothing hnothing hwaiting hnothing (Or.inl rfl) rfl
  | some conn =>
    have hcommits : (Writer.dispose s.port tail).1 = .toCommit tail tail.maxSz := by
      unfold Writer.dispose
      rw [hclient]
    rw [hcommits]
    exact moved_of_thread rfl rfl hnothing hnothing hwaiting ⟨hrange, Nat.le_refl _⟩
      (Or.inr ⟨List.drop_sublist _ _, id⟩) rfl

theorem moved_write (h : InHand s s.writer) {tail : Handle} (hwriter : s.writer = .toWrite tail)
    (result : Option Nat) (hle : result.getD 0 ≤ tail.maxSz) :
    Moved portConfig s (.write result) { s with
      writer := Writer.write s.port tail result
      accepted := if s.port.client = none then []
        else (Writer.offered s.port tail).take (result.getD 0)
      uses := s.uses ++ [{ currConn := s.currConn, member := s.port.client }] } := by
  rw [hwriter] at h
  obtain ⟨hrange, hnothing⟩ := h
  have hwaiting : ringWaiting s = s.port.rxRingBuff.contents := by
    unfold ringWaiting
    rw [hwriter]
  cases hclient : s.port.client with
  | none =>
    have hcrashed : Writer.write s.port tail result = .crashed := by
      unfold Writer.write
      rw [hclient]
    rw [hcrashed]
    exact moved_of_thread rfl rfl hnothing rfl hwaiting rfl (Or.inl rfl) rfl
  | some conn =>
    cases result with
    | none =>
      have hfails : Writer.write s.port tail none = .toDispose tail := by
        unfold Writer.write
        rw [hclient]
      rw [hfails]
      exact moved_of_thread rfl rfl hnothing rfl hwaiting ⟨hrange, rfl⟩ (Or.inl rfl) rfl
    | some dw =>
      have hcommits : Writer.write s.port tail (some dw) = .toCommit tail dw := by
        unfold Writer.write
        rw [hclient]
      rw [hcommits, hrange.offered_take hle]
      refine ⟨⟨hrange, hle⟩, s.port.rxRingBuff.contents.take dw, ?_, ?_⟩
      · unfold acceptedBytes
        rw [hnothing, List.append_nil]
        rfl
      · -- the oldest bytes depart
        have hall : waiting s = s.port.rxRingBuff.contents.take dw ++
            (s.port.rxRingBuff.contents.drop dw ++ s.rx.getD []) := by
          unfold waiting
          rw [hwaiting, ← List.append_assoc, List.take_append_drop]
        rw [hall]
        exact Passes.depart _ _

theorem moved_commit (h : InHand s s.writer) {tail : Handle} {szToWrite : Nat}
    (hwriter : s.writer = .toCommit tail szToWrite) :
    Moved portConfig s .commit { s with
      port := Writer.commit s.port tail szToWrite
      writer := .start
      accepted := []
      rounds := s.rounds ++ [{
        accepted := s.accepted
        removed := removed s.port.rxRingBuff
          (Writer.commit s.port tail szToWrite).rxRingBuff }] } := by
  rw [hwriter] at h
  obtain ⟨hrange, hle⟩ := h
  refine ⟨rfl, [], ?_, ?_⟩
  · unfold acceptedBytes
    rw [List.flatMap_append, List.flatMap_singleton, List.append_nil]
  · have hkept : (s.port.rxRingBuff.commit tail szToWrite).contents = ringWaiting s := by
      unfold ringWaiting
      rw [hwriter]
      exact (hrange.removed_eq hle).2
    show Passes _ (ringWaiting s ++ s.rx.getD []) [] []
      ((s.port.rxRingBuff.commit tail szToWrite).contents ++ s.rx.getD [])
    rw [hkept]
    exact Passes.refl _

/-! ## Runs -/

theorem rxWrite_of_step (hstep : step config portConfig s .rxWrite = some t) :
    ∃ payload, s.rx = some payload ∧ t = { s with
      port := s.port.rxWrite payload
      rx := none
      appended := s.appended ++ added s.port.rxRingBuff (s.port.rxWrite payload).rxRingBuff } := by
  simp only [step] at hstep
  cases hrx : s.rx with
  | none => simp [hrx] at hstep
  | some payload =>
    simp only [hrx, Option.some.injEq] at hstep
    exact ⟨payload, rfl, hstep.symm⟩

/-- **One step.** -/
theorem moved_of_step {e : Event α} (h : InHand s s.writer) (hsettled : Settled portConfig s e)
    (hstep : step config portConfig s e = some t) : Moved portConfig s e t := by
  cases stepped_of_step hstep with
  | portOpen id => exact moved_portOpen h id hsettled
  | connected => exact moved_of_same h rfl rfl rfl rfl rfl rfl
  | processTX counter input =>
    obtain ⟨hring, -, -⟩ := PortWorker.processTX_frame config portConfig counter input s.port
    exact moved_of_same h rfl rfl rfl hring rfl rfl
  | rxCheck response data =>
    cases hrx : s.rx with
    | some payload => simp [step, hrx] at hstep
    | none => exact moved_rxCheck h hrx response data
  | rxWrite payload =>
    obtain ⟨payload', hrx, heq⟩ := rxWrite_of_step hstep
    rw [heq]
    exact moved_rxWrite h hrx
  | takeTail hwriter waited =>
    rw [hwriter] at h
    have hrange := tailRange_takeTail waited
    have htaken : Writer.takeTail s.port = .tailTaken s.port.rxRingBuff.getTail :=
      if_neg (Nat.not_lt.mpr hrange.pos)
    have hwaiting : ringWaiting s = s.port.rxRingBuff.contents := by
      unfold ringWaiting
      rw [hwriter]
    rw [htaken]
    exact moved_of_thread rfl rfl h h hwaiting ⟨hrange, h⟩ (Or.inl rfl) rfl
  | takeClient hwriter =>
    rw [hwriter] at h
    have hwaiting : ringWaiting s = s.port.rxRingBuff.contents := by
      unfold ringWaiting
      rw [hwriter]
    exact moved_of_thread rfl rfl h.2 h.2 hwaiting h (Or.inl rfl) rfl
  | poll result hwriter => exact moved_poll h hwriter result
  | dispose hwriter => exact moved_dispose h hwriter
  | write result hwriter offered => exact moved_write h hwriter result offered
  | commit hwriter => exact moved_commit h hwriter

/-- **A whole run**, from any state on. -/
theorem passes_of_settled {es : List (Event α)} {u : State α size} (h : InHand s s.writer)
    (settled : Along (step config portConfig) (Settled portConfig) s es)
    (run : exec (step config portConfig) s es = some u) :
    ∃ out, acceptedBytes u = acceptedBytes s ++ out ∧
      Passes (Along (step config portConfig) (Delivers portConfig) s es) (waiting s)
        (outputs (step config portConfig) handed s es) out (waiting u) :=
  passes_of_run (fun s => InHand s s.writer)
    (fun _ _ _ hin hsettled hstep => moved_of_step hin hsettled hstep) h settled run

theorem acceptedBytes_start (w : PortWorker α size) : acceptedBytes (start w) = [] := rfl

theorem waiting_start (w : PortWorker α size) :
    waiting (start w) = w.rxRingBuff.contents := List.append_nil _

/-- **The local client is written what came, in order.** Whatever the polls and the writes of the
worker thread give, clients come and go, and the ring buffer overruns: if no client that resets
the port comes while the thread has a range in its hands, then the bytes that `write` took, and
those that wait, are among those that were stored at the start or that `ProcessRX` was handed, in
order and each once. They are all of them if no step lost any. -/
theorem written_in_order (config : Config) (portConfig : PortConfig) (w : PortWorker α size)
    {es : List (Event α)} {u : State α size}
    (settled : Along (step config portConfig) (Settled portConfig) (start w) es)
    (run : exec (step config portConfig) (start w) es = some u) :
    Passes (Along (step config portConfig) (Delivers portConfig) (start w) es)
      w.rxRingBuff.contents (outputs (step config portConfig) handed (start w) es)
      (acceptedBytes u) (waiting u) := by
  have hstart : InHand (start w) (start w).writer := rfl
  obtain ⟨out, hout, hpasses⟩ := passes_of_settled hstart settled run
  rw [acceptedBytes_start, List.nil_append] at hout
  rwa [hout, ← waiting_start]

section Examples

instance (s : State α size) (e : Event α) : Decidable (Settled portConfig s e) :=
  match e with
  | .portOpen id => inferInstanceAs
    (Decidable (id = portConfig.portID → portConfig.resetOnConnect = true → s.writer = .start))
  | .connected | .processTX _ _ | .rxCheck _ _ | .rxWrite | .takeTail | .takeClient | .poll _
  | .dispose | .write _ | .commit => isTrue trivial

instance (writer : Writer) (result : PollResult) : Decidable (Ready writer result) :=
  match writer with
  | .clientTaken _ (some _) => inferInstanceAs (Decidable (result = .ready))
  | .clientTaken _ none | .start | .tailTaken _ | .toDispose _ | .toWrite _ | .toCommit _ _
  | .crashed => isFalse id

instance [DecidableEq α] (s : State α size) (e : Event α) : Decidable (Delivers portConfig s e) :=
  match e with
  | .portOpen id => inferInstanceAs (Decidable (id = portConfig.portID →
    portConfig.resetOnConnect = true → s.port.rxRingBuff.contents = []))
  | .rxCheck response data =>
    inferInstanceAs (Decidable ((s.port.rxCheck response).2 = true ∨ data = []))
  | .rxWrite => inferInstanceAs (Decidable ((s.rx.getD []).length ≤ s.port.rxRingBuff.free))
  | .poll result => inferInstanceAs (Decidable (Ready s.writer result))
  | .dispose => isFalse id
  | .connected | .processTX _ _ | .takeTail | .takeClient | .write _ | .commit => isTrue trivial

open Deployment (avrPro ring16 port57600)

/-- The ring buffer of 16 bytes overruns, the client hangs up, another one comes, resets the port
and takes a part of what arrives for it. -/
def troubled : List (Event UInt8) :=
  receive [1, 2, 3] ++ writeRound 2 ++ receive [4, 5, 6, 7, 8, 9, 10, 11, 12, 13] ++
    receive [14, 15, 16, 17, 18, 19] ++ [.takeTail, .takeClient, .poll .hup, .dispose, .commit] ++
    receive [20, 21] ++ [.portOpen 0, .rxCheck ⟨.Data, 0, 1, 8⟩ [22]] ++
    [.rxCheck ⟨.Data, 1, 2, 9⟩ [23, 24], .rxWrite] ++ writeRound 1

def afterTroubled : State UInt8 16 :=
  (exec (step (avrPro false).config (port57600 true 0)) (start withClient) troubled).getD
    (start withClient)

/-- The first run loses bytes of each kind; in the other one nothing is lost. -/
theorem written_in_order_troubled :
    (Passes (Along (step (avrPro false).config (port57600 true 0))
        (Delivers (port57600 true 0)) (start withClient) troubled) []
      (outputs (step (avrPro false).config (port57600 true 0)) handed (start withClient) troubled)
      (acceptedBytes afterTroubled) (waiting afterTroubled) ∧
      acceptedBytes afterTroubled = [1, 2, 23]) ∧
    Passes True [] (outputs (step (avrPro false).config (port57600 false 0)) handed
      (start withClient) arriving) (acceptedBytes afterArriving) (waiting afterArriving) := by
  have hempty : withClient.rxRingBuff.contents = [] := by decide +kernel
  have hrun : Along (step (avrPro false).config (port57600 true 0))
        (Settled (port57600 true 0)) (start withClient) troubled ∧
      (exec (step (avrPro false).config (port57600 true 0)) (start withClient)
        troubled).isSome = true ∧
      acceptedBytes afterTroubled = [1, 2, 23] := by
    decide +kernel
  have hquiet : Along (step (avrPro false).config (port57600 false 0))
        (Settled (port57600 false 0)) (start withClient) arriving ∧
      Along (step (avrPro false).config (port57600 false 0))
        (Delivers (port57600 false 0)) (start withClient) arriving ∧
      (exec (step (avrPro false).config (port57600 false 0)) (start withClient)
        arriving).isSome = true := by
    decide +kernel
  obtain ⟨hsettled, hsome, haccepted⟩ := hrun
  obtain ⟨hsettled', hdelivers, hsome'⟩ := hquiet
  have hfirst := written_in_order (avrPro false).config (port57600 true 0) withClient
    (u := afterTroubled) hsettled (exec_eq_some_getD hsome)
  have hother := written_in_order (avrPro false).config (port57600 false 0) withClient
    (u := afterArriving) hsettled' (exec_eq_some_getD hsome')
  rw [hempty] at hfirst hother
  exact ⟨⟨hfirst, haccepted⟩, hother.imp fun _ => hdelivers⟩

end Examples

end UartBridge.LocalClient
