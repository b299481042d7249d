import UartBridge.Lib.Run
import UartBridge.Client.PortWorker
import UartBridge.System.RingFifo
import UartBridge.System.Deployment

/-!
# The port writer

The worker thread of a `PortWorker` takes a range of stored bytes, fetches the client,
polls it, writes and commits. Each section under a mutex and each system call is one step,
and everything else that works on the same port may come in between.

* `step` — the worker thread among `OnPortOpen`, `ProcessTX` and `ProcessRX`;
* `Rounds` — what a round has written and what it is about to free;
* `in_step_iff` — a round frees what it wrote, unless its poll reported nothing;
* `Fetched` — how the fetched connection and the member are related;
* `acts_on_polled_iff` — the thread acts on the connection it polled, unless the member was
  replaced or dropped since.
-/

namespace UartBridge.WriterThread

open Client EventRun

/-! ## The steps -/

/-- A finished round: what `write` took, and what `Commit` removed. -/
structure Round (α : Type) where
  accepted : List α
  removed : List α
  deriving DecidableEq

/-- A `write` or `Dispose`: the connection that was fetched and polled, and the one the call
is made on; `none` is a null pointer. -/
structure Use where
  currConn : Option ConnId
  member : Option ConnId
  deriving DecidableEq

/-- `rx`: the payload of a response that passed the check and is not stored yet. `currConn`:
what the worker thread fetched last; `disturbed`: the member was replaced or dropped since.
`opened`: the connections made so far. `appended`: everything stored; `accepted`: what
`write` took in this round. -/
structure State (α : Type) (size : Nat) where
  port : PortWorker α size
  rx : Option (List α)
  writer : Writer
  currConn : Option ConnId
  disturbed : Bool
  timedOut : Bool
  opened : Nat
  appended : List α
  accepted : List α
  rounds : List (Round α)
  uses : List Use

inductive Event (α : Type) where
  /-- A local client connects to a port; every connection is a new object. -/
  | portOpen (id : Nat)
  | connected
  | processTX (counter : UInt32) (input : ReadResult)
  /-- `ProcessRX` up to the ring buffer. -/
  | rxCheck (response : Response) (data : List α)
  /-- The rest of `ProcessRX`. -/
  | rxWrite
  /-- The worker thread wakes up and takes the tail. -/
  | takeTail
  | takeClient
  | poll (result : PollResult)
  | dispose
  | write (result : Option Nat)
  | commit

variable {α : Type} {size : Nat}

/-- A worker as it stands, its thread at the start of a round. -/
def start (w : PortWorker α size) : State α size :=
  { port := w, rx := none, writer := .start, currConn := none, disturbed := false
    timedOut := false, opened := 0, appended := w.rxRingBuff.contents, accepted := []
    rounds := [], uses := [] }

/-- What one ring buffer has and another has not: the bytes at its end. -/
def added (before after : DataBuffer α size) : List α :=
  after.contents.drop before.contents.length

/-- The oldest bytes of one ring buffer that the other has no more. -/
def removed (before after : DataBuffer α size) : List α :=
  before.contents.take (before.contents.length - after.contents.length)

def step (config : Config) (portConfig : PortConfig) (s : State α size) :
    Event α → Option (State α size)
  | .portOpen id =>
    some { s with
      port := s.port.onPortOpen portConfig id s.opened
      opened := s.opened + 1
      disturbed := s.disturbed || id == portConfig.portID }
  | .connected => some { s with port := s.port.onConnected }
  | .processTX counter input =>
    let port := (s.port.processTX config portConfig counter input).1
    some { s with port := port, disturbed := s.disturbed || port.client != s.port.client }
  | .rxCheck response data =>
    match s.rx with
    | some _ => none
    | none =>
      if data.length = response.plSz.toNat then
        let r := s.port.rxCheck response
        some { s with port := r.1, rx := if r.2 then some data else none }
      else none
  | .rxWrite =>
    match s.rx with
    | none => none
    | some payload =>
      let port := s.port.rxWrite payload
      some { s with
        port := port
        rx := none
        appended := s.appended ++ added s.port.rxRingBuff port.rxRingBuff }
  | .takeTail =>
    match s.writer with
    | .start =>
      if s.port.rxRingBuff.usedSize < 1 then none
      else some { s with writer := Writer.takeTail s.port }
    | _ => none
  | .takeClient =>
    match s.writer with
    | .tailTaken tail =>
      some { s with
        writer := Writer.takeClient s.port tail
        currConn := s.port.client
        disturbed := false }
    | _ => none
  | .poll result =>
    match s.writer with
    | .clientTaken tail currConn =>
      some { s with
        writer := Writer.polled tail currConn result
        timedOut := result == .timeout }
    | _ => none
  | .dispose =>
    match s.writer with
    | .toDispose tail =>
      let r := Writer.dispose s.port tail
      some { s with
        writer := r.1
        uses := s.uses ++ [{ currConn := s.currConn, member := r.2 }] }
    | _ => none
  | .write result =>
    match s.writer with
    | .toWrite tail =>
      if result.getD 0 ≤ tail.maxSz then
        some { s with
          writer := Writer.write s.port tail result
          accepted := if s.port.client = none then []
            else (Writer.offered s.port tail).take (result.getD 0)
          uses := s.uses ++ [{ currConn := s.currConn, member := s.port.client }] }
      else none
    | _ => none
  | .commit =>
    match s.writer with
    | .toCommit tail szToWrite =>
      let port := Writer.commit s.port tail szToWrite
      some { s with
        port := port
        writer := .start
        accepted := []
        rounds := s.rounds ++
          [{ accepted := s.accepted, removed := removed s.port.rxRingBuff port.rxRingBuff }] }
    | _ => none

/-- A step that was taken, and the state that it leads to. -/
inductive Stepped (config : Config) (portConfig : PortConfig) (s : State α size) :
    Event α → State α size → Prop where
  | portOpen (id : Nat) : Stepped config portConfig s (.portOpen id) { s with
      port := s.port.onPortOpen portConfig id s.opened
      opened := s.opened + 1
      disturbed := s.disturbed || id == portConfig.portID }
  | connected : Stepped config portConfig s .connected { s with port := s.port.onConnected }
  | processTX (counter : UInt32) (input : ReadResult) :
    Stepped config portConfig s (.processTX counter input) { s with
      port := (s.port.processTX config portConfig counter input).1
      disturbed := s.disturbed ||
        (s.port.processTX config portConfig counter input).1.client != s.port.client }
  | rxCheck (response : Response) (data : List α) :
    Stepped config portConfig s (.rxCheck response data) { s with
      port := (s.port.rxCheck response).1
      rx := if (s.port.rxCheck response).2 then some data else none }
  | rxWrite (payload : List α) : Stepped config portConfig s .rxWrite { s with
      port := s.port.rxWrite payload
      rx := none
      appended := s.appended ++ added s.port.rxRingBuff (s.port.rxWrite payload).rxRingBuff }
  | takeTail (hwriter : s.writer = .start) (waited : ¬ s.port.rxRingBuff.usedSize < 1) :
    Stepped config portConfig s .takeTail { s with writer := Writer.takeTail s.port }
  | takeClient {tail : Handle} (hwriter : s.writer = .tailTaken tail) :
    Stepped config portConfig s .takeClient { s with
      writer := Writer.takeClient s.port tail
      currConn := s.port.client
      disturbed := false }
  | poll (result : PollResult) {tail : Handle} {currConn : Option ConnId}
      (hwriter : s.writer = .clientTaken tail currConn) :
    Stepped config portConfig s (.poll result) { s with
      writer := Writer.polled tail currConn result
      timedOut := result == .timeout }
  | dispose {tail : Handle} (hwriter : s.writer = .toDispose tail) :
    Stepped config portConfig s .dispose { s with
      writer := (Writer.dispose s.port tail).1
      uses := s.uses ++ [{ currConn := s.currConn, member := (Writer.dispose s.port tail).2 }] }
  | write (result : Option Nat) {tail : Handle} (hwriter : s.writer = .toWrite tail)
      (offered : result.getD 0 ≤ tail.maxSz) :
    Stepped config portConfig s (.write result) { s with
      writer := Writer.write s.port tail result
      accepted := if s.port.client = none then []
        else (Writer.offered s.port tail).take (result.getD 0)
      uses := s.uses ++ [{ currConn := s.currConn, member := s.port.client }] }
  | commit {tail : Handle} {szToWrite : Nat} (hwriter : s.writer = .toCommit tail szToWrite) :
    Stepped config portConfig s .commit { s with
      port := Writer.commit s.port tail szToWrite
      writer := .start
      accepted := []
      rounds := s.rounds ++ [{
        accepted := s.accepted
        removed := removed s.port.rxRingBuff (Writer.commit s.port tail szToWrite).rxRingBuff }] }

/-- **What a step can do.** The thread's steps come one after the other. -/
theorem stepped_of_step {config : Config} {portConfig : PortConfig} {s t : State α size}
    {e : Event α} (hstep : step config portConfig s e = some t) :
    Stepped config portConfig s e t := by
  cases e with
  | portOpen | connected | processTX =>
    cases hstep
    constructor
  | rxCheck response data =>
    simp only [step] at hstep
    cases hrx : s.rx with
    | some payload => simp [hrx] at hstep
    | none =>
      simp only [hrx, Option.ite_none_right_eq_some, Option.some.injEq] at hstep
      obtain ⟨-, rfl⟩ := hstep
      exact .rxCheck response data
  | rxWrite =>
    simp only [step] at hstep
    cases hrx : s.rx with
    | none => simp [hrx] at hstep
    | some payload =>
      simp only [hrx, Option.some.injEq] at hstep
      subst hstep
      exact .rxWrite payload
  | takeTail =>
    simp only [step] at hstep
    cases hw : s.writer with
    | start =>
      simp only [hw, Option.ite_none_left_eq_some, Option.some.injEq] at hstep
      obtain ⟨hwaited, rfl⟩ := hstep
      exact .takeTail hw hwaited
    | tailTaken | clientTaken | toDispose | toWrite | toCommit | crashed => simp [hw] at hstep
  | takeClient =>
    simp only [step] at hstep
    cases hw : s.writer with
    | tailTaken tail =>
      simp only [hw, Option.some.injEq] at hstep
      subst hstep
      exact .takeClient hw
    | start | clientTaken | toDispose | toWrite | toCommit | crashed => simp [hw] at hstep
  | poll result =>
    simp only [step] at hstep
    cases hw : s.writer with
    | clientTaken tail currConn =>
      simp only [hw, Option.some.injEq] at hstep
      subst hstep
      exact .poll result hw
    | start | tailTaken | toDispose | toWrite | toCommit | crashed => simp [hw] at hstep
  | dispose =>
    simp only [step] at hstep
    cases hw : s.writer with
    | toDispose tail =>
      simp only [hw, Option.some.injEq] at hstep
      subst hstep
      exact .dispose hw
    | start | tailTaken | clientTaken | toWrite | toCommit | crashed => simp [hw] at hstep
  | write result =>
    simp only [step] at hstep
    cases hw : s.writer with
    | toWrite tail =>
      simp only [hw, Option.ite_none_right_eq_some, Option.some.injEq] at hstep
      obtain ⟨hle, rfl⟩ := hstep
      exact .write result hw hle
    | start | tailTaken | clientTaken | toDispose | toCommit | crashed => simp [hw] at hstep
  | commit =>
    simp only [step] at hstep
    cases hw : s.writer with
    | toCommit tail szToWrite =>
      simp only [hw, Option.some.injEq] at hstep
      subst hstep
      exact .commit hw
    | start | tailTaken | clientTaken | toDispose | toWrite | crashed => simp [hw] at hstep

/-! ## What a round frees -/

/-- What is considered for the rounds: the client stays installed, and neither its poll nor
its write fails. -/
def Healthy (config : Config) (portConfig : PortConfig) (s : State α size) : Event α → Prop
  | .portOpen _ => False
  | .processTX counter input =>
    (s.port.processTX config portConfig counter input).1.client = s.port.client
  | .poll .failed | .poll .hup => False
  | .write none => False
  | _ => True

/-- **The condition.** A round is committed only if its poll reported the room to write. -/
def Answered (s : State α size) : Event α → Prop
  | .commit => s.timedOut = false
  | _ => True

/-- Everything that `write` took, in the order it did. -/
def acceptedBytes (s : State α size) : List α := s.rounds.flatMap Round.accepted ++ s.accepted

/-- **The property.** What was written is the beginning of what was stored, and every round
freed what it wrote. -/
structure InStep (s : State α size) : Prop where
  accepted_first : acceptedBytes s <+: s.appended
  round_eq : ∀ round ∈ s.rounds, round.removed = round.accepted

/-- The range in the thread's hands: not empty, and at the tail. -/
structure TailRange (b : DataBuffer α size) (tail : Handle) : Prop where
  range : RingFifo.Range size b.tail b.stored tail
  pos : 1 ≤ tail.maxSz

/-- Where the round stands. -/
def Phase (s : State α size) : Writer → Prop
  | .start => s.accepted = []
  | .tailTaken tail => TailRange s.port.rxRingBuff tail ∧ s.accepted = []
  | .clientTaken tail currConn =>
    TailRange s.port.rxRingBuff tail ∧ s.accepted = [] ∧ currConn.isSome = true
  | .toWrite tail => TailRange s.port.rxRingBuff tail ∧ s.accepted = [] ∧ s.timedOut = false
  | .toCommit tail szToWrite =>
    TailRange s.port.rxRingBuff tail ∧ szToWrite ≤ tail.maxSz ∧
      if s.timedOut then szToWrite = tail.maxSz ∧ s.accepted = []
      else s.accepted = s.port.rxRingBuff.contents.take szToWrite
  | .toDispose _ | .crashed => False

structure Rounds (s : State α size) : Prop where
  client : s.port.client.isSome = true
  phase : Phase s s.writer
  appended_eq : s.rounds.flatMap Round.removed ++ s.port.rxRingBuff.contents = s.appended

variable {config : Config} {portConfig : PortConfig} {s t : State α size}

/-- In step means that every round freed what it wrote: the order of the bytes follows. -/
theorem Rounds.inStep_iff (h : Rounds s) :
    InStep s ↔ ∀ round ∈ s.rounds, round.removed = round.accepted := by
  refine ⟨fun hin => hin.round_eq, fun hall => ⟨?_, hall⟩⟩
  have hsame : s.rounds.flatMap Round.accepted = s.rounds.flatMap Round.removed :=
    List.flatMap_congr fun round hmem => (hall round hmem).symm
  have hopen : s.accepted <+: s.port.rxRingBuff.contents := by
    have hphase := h.phase
    cases hwriter : s.writer with
    | start =>
      rw [hwriter] at hphase
      exact hphase ▸ List.nil_prefix
    | tailTaken tail =>
      rw [hwriter] at hphase
      exact hphase.2 ▸ List.nil_prefix
    | clientTaken | toWrite =>
      rw [hwriter] at hphase
      exact hphase.2.1 ▸ List.nil_prefix
    | toCommit tail szToWrite =>
      rw [hwriter] at hphase
      obtain ⟨-, -, hwritten⟩ := hphase
      split at hwritten
      · exact hwritten.2 ▸ List.nil_prefix
      · exact hwritten ▸ List.take_prefix _ _
    | toDispose tail | crashed =>
      rw [hwriter] at hphase
      exact hphase.elim
  unfold acceptedBytes
  rw [hsame, ← h.appended_eq]
  exact List.prefix_append_right_inj _ |>.mpr hopen

/-- The range stays good while bytes are stored behind it. -/
theorem TailRange.append {b b' : DataBuffer α size} {tail : Handle} (h : TailRange b tail)
    (htail : b'.tail = b.tail) (hstored : b.stored ≤ b'.stored) : TailRange b' tail :=
  ⟨⟨h.range.starts.trans htail.symm, Nat.le_trans h.range.room_le hstored,
    by rw [htail]; exact h.range.inside⟩, h.pos⟩

/-- A step of another party leaves the round where it stands: it may store bytes behind
those in the thread's hands. -/
theorem Rounds.other (h : Rounds s) (more : List α) (hclient : t.port.client = s.port.client)
    (hwriter : t.writer = s.writer) (htimedOut : t.timedOut = s.timedOut)
    (haccepted : t.accepted = s.accepted) (hrounds : t.rounds = s.rounds)
    (htail : t.port.rxRingBuff.tail = s.port.rxRingBuff.tail)
    (hcontents : t.port.rxRingBuff.contents = s.port.rxRingBuff.contents ++ more)
    (happended : t.appended = s.appended ++ more) : Rounds t := by
  have hlen := congrArg List.length hcontents
  simp only [List.length_append, DataBuffer.length_contents] at hlen
  have hstored : s.port.rxRingBuff.stored ≤ t.port.rxRingBuff.stored := by omega
  refine ⟨by rw [hclient]; exact h.client, ?_, ?_⟩
  · have hphase := h.phase
    rw [hwriter]
    cases hw : s.writer with
    | start =>
      rw [hw] at hphase
      exact haccepted.trans hphase
    | tailTaken tail =>
      rw [hw] at hphase
      exact ⟨hphase.1.append htail hstored, haccepted.trans hphase.2⟩
    | clientTaken tail currConn =>
      rw [hw] at hphase
      exact ⟨hphase.1.append htail hstored, haccepted.trans hphase.2.1, hphase.2.2⟩
    | toWrite tail =>
      rw [hw] at hphase
      exact ⟨hphase.1.append htail hstored, haccepted.trans hphase.2.1,
        htimedOut.trans hphase.2.2⟩
    | toCommit tail szToWrite =>
      rw [hw] at hphase
      obtain ⟨hrange, hle, hwritten⟩ := hphase
      -- the bytes written are still the oldest
      have hfit : szToWrite ≤ s.port.rxRingBuff.contents.length := by
        rw [DataBuffer.length_contents]
        exact Nat.le_trans hle hrange.range.room_le
      refine ⟨hrange.append htail hstored, hle, ?_⟩
      rw [htimedOut, haccepted, hcontents, List.take_append_of_le_length hfit]
      exact hwritten
    | toDispose tail | crashed =>
      rw [hw] at hphase
      exact hphase.elim
  · rw [hrounds, hcontents, happended, ← List.append_assoc, h.appended_eq]

/-- A step of the thread before its `Commit`. -/
theorem Rounds.advance (h : Rounds s) (hport : t.port = s.port) (hphase : Phase t t.writer)
    (hrounds : t.rounds = s.rounds) (happended : t.appended = s.appended) : Rounds t :=
  ⟨hport ▸ h.client, hphase, by rw [hport, hrounds, happended]; exact h.appended_eq⟩

theorem Rounds.start {w : PortWorker α size} (installed : w.client.isSome = true) :
    Rounds (start w) :=
  ⟨installed, rfl, List.nil_append _⟩

/-- `ProcessRX` stores at the end. -/
theorem Rounds.rxWrite (h : Rounds s) (payload : List α) :
    Rounds { s with
      port := s.port.rxWrite payload
      rx := none
      appended := s.appended ++ added s.port.rxRingBuff (s.port.rxWrite payload).rxRingBuff } := by
  obtain ⟨hcontents, -, htail⟩ := DataBuffer.store_spec DataBuffer.getHead (fun _ => rfl)
    payload.length s.port.rxRingBuff payload (Nat.le_refl _)
  have hadded : added s.port.rxRingBuff (s.port.rxWrite payload).rxRingBuff =
      payload.take s.port.rxRingBuff.free := by
    unfold added PortWorker.rxWrite
    rw [hcontents, List.drop_left]
  exact h.other (payload.take s.port.rxRingBuff.free) rfl rfl rfl rfl rfl htail hcontents
    (by rw [hadded])

/-- The range is not empty: the thread has waited for that. -/
theorem tailRange_takeTail {b : DataBuffer α size} (waited : ¬ b.usedSize < 1) :
    TailRange b b.getTail := by
  obtain ⟨hinside, hstored, hempty⟩ := b.getTail_spec
  have hpos := b.usedSize_pos_iff
  exact ⟨⟨rfl, hstored, hinside⟩, by omega⟩

/-- What `write` takes are the oldest bytes. -/
theorem TailRange.offered_take {w : PortWorker α size} {tail : Handle}
    (h : TailRange w.rxRingBuff tail) {k : Nat} (hk : k ≤ tail.maxSz) :
    (Writer.offered w tail).take k = w.rxRingBuff.contents.take k := by
  unfold Writer.offered
  rw [h.range.starts, w.rxRingBuff.read_tail _ h.range.room_le h.range.inside, List.take_take,
    Nat.min_eq_left hk]

/-- `Commit` removes the oldest bytes, as many as it is told to. -/
theorem TailRange.removed_eq {b : DataBuffer α size} {tail : Handle} (h : TailRange b tail)
    {k : Nat} (hk : k ≤ tail.maxSz) :
    removed b (b.commit tail k) = b.contents.take k ∧
      (b.commit tail k).contents = b.contents.drop k := by
  have hkept : k ≤ b.stored := Nat.le_trans hk h.range.room_le
  obtain ⟨hcontents, hstored⟩ := b.commit_tail_spec tail k h.range.starts hkept
    (Nat.le_trans (Nat.add_le_add_left hk _) h.range.inside)
  refine ⟨?_, hcontents⟩
  unfold removed
  rw [DataBuffer.length_contents, DataBuffer.length_contents, hstored,
    show b.stored - (b.stored - k) = k by omega]

/-- **The commit.** It frees what was written exactly when the poll reported something. -/
theorem Rounds.commit (h : Rounds s) {tail : Handle} {szToWrite : Nat}
    (hwriter : s.writer = .toCommit tail szToWrite) (hstep : t = { s with
      port := Writer.commit s.port tail szToWrite
      writer := .start
      accepted := []
      rounds := s.rounds ++ [{
        accepted := s.accepted
        removed := removed s.port.rxRingBuff
          (Writer.commit s.port tail szToWrite).rxRingBuff }] }) :
    Rounds t ∧ ((∀ round ∈ t.rounds, round.removed = round.accepted) ↔
      (∀ round ∈ s.rounds, round.removed = round.accepted) ∧ s.timedOut = false) := by
  have hphase := h.phase
  rw [hwriter] at hphase
  obtain ⟨hrange, hle, hwritten⟩ := hphase
  obtain ⟨hremoved, hcontents⟩ := hrange.removed_eq hle
  subst hstep
  refine ⟨⟨h.client, rfl, ?_⟩, ?_⟩
  · -- the bytes removed move from the ring buffer to the finished rounds
    have happended := h.appended_eq
    dsimp only [Writer.commit]
    rw [List.flatMap_append, List.flatMap_singleton, hremoved, hcontents, List.append_assoc,
      List.take_append_drop, happended]
  · have hlast : removed s.port.rxRingBuff (s.port.rxRingBuff.commit tail szToWrite) =
        s.accepted ↔ s.timedOut = false := by
      rw [hremoved]
      cases htimedOut : s.timedOut with
      | false =>
        rw [htimedOut, if_neg Bool.false_ne_true] at hwritten
        exact iff_of_true hwritten.symm rfl
      | true =>
        -- nothing was written, and at least one byte is freed
        rw [htimedOut, if_pos rfl] at hwritten
        obtain ⟨hall, hnothing⟩ := hwritten
        refine iff_of_false ?_ Bool.noConfusion
        intro heq
        have hlen := congrArg List.length heq
        rw [hnothing, List.length_take, DataBuffer.length_contents, List.length_nil] at hlen
        have hpos := hrange.pos
        have hroom := hrange.range.room_le
        omega
    simp only [Writer.commit, List.forall_mem_append, List.forall_mem_singleton, hlast]

/-- The poll of a round, with or without an answer. -/
theorem Rounds.poll (h : Rounds s) {tail : Handle} {currConn : Option ConnId}
    (hwriter : s.writer = .clientTaken tail currConn) {result : PollResult}
    (healthy : Healthy config portConfig s (.poll result)) :
    Rounds { s with
      writer := Writer.polled tail currConn result
      timedOut := result == .timeout } := by
  have hphase := h.phase
  rw [hwriter] at hphase
  obtain ⟨hrange, hnothing, hclient⟩ := hphase
  obtain ⟨conn, rfl⟩ := Option.isSome_iff_exists.mp hclient
  refine h.advance rfl ?_ rfl rfl
  cases result with
  | failed | hup => exact healthy.elim
  | ready => exact ⟨hrange, hnothing, rfl⟩
  | timeout => exact ⟨hrange, Nat.le_refl _, rfl, hnothing⟩

/-- The write of a round: the oldest bytes. -/
theorem Rounds.write (h : Rounds s) {tail : Handle} (hwriter : s.writer = .toWrite tail)
    {result : Option Nat} (hle : result.getD 0 ≤ tail.maxSz)
    (healthy : Healthy config portConfig s (.write result)) :
    Rounds { s with
      writer := Writer.write s.port tail result
      accepted := if s.port.client = none then []
        else (Writer.offered s.port tail).take (result.getD 0)
      uses := s.uses ++ [{ currConn := s.currConn, member := s.port.client }] } := by
  have hphase := h.phase
  rw [hwriter] at hphase
  obtain ⟨hrange, -, htimedOut⟩ := hphase
  obtain ⟨conn, hconn⟩ := Option.isSome_iff_exists.mp h.client
  refine h.advance rfl ?_ rfl rfl
  cases result with
  | none => exact healthy.elim
  | some dw =>
    have hcommits : Writer.write s.port tail (some dw) = .toCommit tail dw := by
      unfold Writer.write
      rw [hconn]
    have htaken := hrange.offered_take hle
    dsimp only
    rw [hcommits]
    refine ⟨hrange, hle, ?_⟩
    rw [if_neg (by rw [htimedOut]; exact Bool.false_ne_true),
      if_neg (by rw [hconn]; exact Option.some_ne_none conn)]
    exact htaken

/-- **One step.** It keeps the round's account, and rounds are added by `Commit` only. -/
theorem Rounds.step (h : Rounds s) {e : Event α} (healthy : Healthy config portConfig s e)
    (hstep : step config portConfig s e = some t) :
    Rounds t ∧ ((∀ round ∈ t.rounds, round.removed = round.accepted) ↔
      (∀ round ∈ s.rounds, round.removed = round.accepted) ∧ Answered s e) := by
  have hphase := h.phase
  -- a step that finishes no round needs no answer
  have same (hrounds : t.rounds = s.rounds) (hanswered : Answered s e) :
      (∀ round ∈ t.rounds, round.removed = round.accepted) ↔
        (∀ round ∈ s.rounds, round.removed = round.accepted) ∧ Answered s e := by
    rw [hrounds]
    exact ⟨fun hall => ⟨hall, hanswered⟩, fun hboth => hboth.1⟩
  cases stepped_of_step hstep with
  | portOpen => exact healthy.elim
  | connected =>
    exact ⟨h.other [] rfl rfl rfl rfl rfl rfl (List.append_nil _).symm
      (List.append_nil _).symm, same rfl trivial⟩
  | processTX counter input =>
    obtain ⟨hring, -, -⟩ := PortWorker.processTX_frame config portConfig counter input s.port
    exact ⟨h.other [] healthy rfl rfl rfl rfl (by dsimp only; rw [hring])
      (by dsimp only; rw [hring, List.append_nil]) (List.append_nil _).symm, same rfl trivial⟩
  | rxCheck response =>
    obtain ⟨hring, -, hclient, -⟩ := PortWorker.rxCheck_frame response s.port
    exact ⟨h.other [] hclient rfl rfl rfl rfl (by dsimp only; rw [hring])
      (by dsimp only; rw [hring, List.append_nil]) (List.append_nil _).symm, same rfl trivial⟩
  | rxWrite payload => exact ⟨h.rxWrite payload, same rfl trivial⟩
  | takeTail hwriter waited =>
    rw [hwriter] at hphase
    have hrange := tailRange_takeTail waited
    refine ⟨h.advance rfl ?_ rfl rfl, same rfl trivial⟩
    dsimp only [Writer.takeTail]
    rw [if_neg (by have := hrange.pos; omega)]
    exact ⟨hrange, hphase⟩
  | takeClient hwriter =>
    rw [hwriter] at hphase
    exact ⟨h.advance rfl ⟨hphase.1, hphase.2, h.client⟩ rfl rfl, same rfl trivial⟩
  | poll result hwriter => exact ⟨h.poll hwriter healthy, same rfl trivial⟩
  | dispose hwriter =>
    rw [hwriter] at hphase
    exact hphase.elim
  | write result hwriter offered => exact ⟨h.write hwriter offered healthy, same rfl trivial⟩
  | commit hwriter => exact h.commit hwriter rfl

/-- **The writer frees only what it wrote.** In a run in which the client stays installed and
healthy, the port writer stays in step exactly when no round is committed whose poll
reported nothing. -/
theorem in_step_iff (config : Config) (portConfig : PortConfig) (w : PortWorker α size)
    (installed : w.client.isSome = true) {es : List (Event α)} {u : State α size}
    (healthy : Along (step config portConfig) (Healthy config portConfig) (start w) es)
    (run : exec (step config portConfig) (start w) es = some u) :
    InStep u ↔ Along (step config portConfig) Answered (start w) es := by
  have hstart : Rounds (start w) := Rounds.start installed
  have hrounds : Rounds u := exec_invariant_along Rounds
    (fun _ _ _ hinv hhealthy hstep => (hinv.step hhealthy hstep).1) hstart healthy run
  have hkept := exec_iff_along Rounds
    (fun s => ∀ round ∈ s.rounds, round.removed = round.accepted)
    (fun _ _ _ hinv hhealthy hstep => hinv.step hhealthy hstep) hstart healthy run
  rw [hrounds.inStep_iff, hkept]
  constructor
  · exact fun hboth => hboth.2
  · exact fun halong => ⟨fun _ hnone => absurd hnone List.not_mem_nil, halong⟩

section Examples

instance (s : State α size) (e : Event α) : Decidable (Healthy config portConfig s e) :=
  match e with
  | .portOpen _ | .poll .failed | .poll .hup | .write none => isFalse id
  | .processTX counter input =>
    inferInstanceAs (Decidable
      ((s.port.processTX config portConfig counter input).1.client = s.port.client))
  | .connected | .rxCheck _ _ | .rxWrite | .takeTail | .takeClient | .poll .ready
  | .poll .timeout | .dispose | .write (some _) | .commit => isTrue trivial

instance (s : State α size) (e : Event α) : Decidable (Answered s e) :=
  match e with
  | .commit => inferInstanceAs (Decidable (s.timedOut = false))
  | .portOpen _ | .connected | .processTX _ _ | .rxCheck _ _ | .rxWrite | .takeTail
  | .takeClient | .poll _ | .dispose | .write _ => isTrue trivial

open Deployment (avrPro ring16 port57600)

/-- A port with a client and an empty ring buffer of 16 bytes. -/
def withClient : PortWorker UInt8 16 :=
  (PortWorker.create (avrPro false).config (ring16 0)).onPortOpen (port57600 false 0) 0 0

/-- A response with some bytes, received and stored. -/
def receive (data : List UInt8) : List (Event UInt8) :=
  [.rxCheck ⟨.Data, 0, UInt8.ofNat data.length, 7⟩ data, .rxWrite]

/-- A round of the worker thread in which `write` takes `dw` bytes. -/
def writeRound (dw : Nat) : List (Event UInt8) :=
  [.takeTail, .takeClient, .poll .ready, .write (some dw), .commit]

/-- Bytes arrive while the thread writes, and past the end of the array. -/
def arriving : List (Event UInt8) :=
  receive [1, 2, 3, 4, 5, 6, 7, 8, 9, 10, 11, 12] ++ [.takeTail, .takeClient, .poll .ready] ++
    receive [13, 14] ++ [.write (some 10), .commit] ++ receive [15, 16, 17, 18] ++
    writeRound 6 ++ writeRound 1

def afterArriving : State UInt8 16 :=
  (exec (step (avrPro false).config (port57600 false 0)) (start withClient) arriving).getD
    (start withClient)

theorem in_step_arriving : InStep afterArriving ∧
    acceptedBytes afterArriving = [1, 2, 3, 4, 5, 6, 7, 8, 9, 10, 11, 12, 13, 14, 15, 16, 17] := by
  have hrun : Along (step (avrPro false).config (port57600 false 0))
        (Healthy (avrPro false).config (port57600 false 0)) (start withClient) arriving ∧
      Along (step (avrPro false).config (port57600 false 0)) Answered (start withClient)
        arriving ∧
      (exec (step (avrPro false).config (port57600 false 0)) (start withClient)
        arriving).isSome = true ∧
      acceptedBytes afterArriving =
        [1, 2, 3, 4, 5, 6, 7, 8, 9, 10, 11, 12, 13, 14, 15, 16, 17] := by
    decide +kernel
  obtain ⟨hhealthy, hanswered, hsome, haccepted⟩ := hrun
  exact ⟨(in_step_iff (avrPro false).config (port57600 false 0) withClient (by decide) hhealthy
    (exec_eq_some_getD hsome)).mpr hanswered, haccepted⟩

/-- The poll of the first round reports nothing within the service interval. -/
def impatient : List (Event UInt8) :=
  receive [1, 2] ++ [.takeTail, .takeClient, .poll .timeout, .commit] ++ receive [3] ++
    writeRound 1

def afterImpatient : State UInt8 16 :=
  (exec (step (avrPro false).config (port57600 false 0)) (start withClient) impatient).getD
    (start withClient)

/-- The client is healthy, and never sees the first two bytes. -/
theorem unanswered_frees :
    ¬ ∀ (es : List (Event UInt8)) (u : State UInt8 16),
      Along (step (avrPro false).config (port57600 false 0))
        (Healthy (avrPro false).config (port57600 false 0)) (start withClient) es →
      exec (step (avrPro false).config (port57600 false 0)) (start withClient) es = some u →
      InStep u := by
  intro hall
  have hrun : Along (step (avrPro false).config (port57600 false 0))
        (Healthy (avrPro false).config (port57600 false 0)) (start withClient) impatient ∧
      (exec (step (avrPro false).config (port57600 false 0)) (start withClient)
        impatient).isSome = true ∧
      acceptedBytes afterImpatient = [3] ∧ afterImpatient.appended = [1, 2, 3] := by
    decide +kernel
  obtain ⟨hhealthy, hsome, haccepted, happended⟩ := hrun
  have hin := (hall impatient afterImpatient hhealthy (exec_eq_some_getD hsome)).accepted_first
  rw [haccepted, happended] at hin
  exact absurd hin (by decide)

end Examples

/-! ## What the thread acts on -/

/-- The call is made on the connection that was polled. -/
def Use.OnPolled (use : Use) : Prop :=
  ∃ conn, use.currConn = some conn ∧ use.member = some conn

/-- **The property.** -/
def ActsOnPolled (s : State α size) : Prop := ∀ use ∈ s.uses, use.OnPolled

/-- **The condition.** Since the thread fetched the client, no `OnPortOpen` has replaced it
and no `ProcessTX` has dropped it. -/
def Undisturbed (s : State α size) : Event α → Prop
  | .dispose | .write _ => s.disturbed = false
  | _ => True

/-- The thread is about to call only if it has polled a connection. -/
def Polled (currConn : Option ConnId) : Writer → Prop
  | .clientTaken _ fetched => fetched = currConn
  | .toDispose _ | .toWrite _ => currConn.isSome = true
  | _ => True

/-- How the fetched connection and the member are related. -/
structure Fetched (s : State α size) : Prop where
  client_lt : ∀ conn, s.port.client = some conn → conn < s.opened
  currConn_lt : ∀ conn, s.currConn = some conn → conn < s.opened
  same : s.disturbed = false → s.port.client = s.currConn
  apart : s.disturbed = true → ∀ conn, s.currConn = some conn → s.port.client ≠ some conn
  polled : Polled s.currConn s.writer

theorem Fetched.start (config : Config) (rxRingBuff : DataBuffer α size) :
    Fetched (start (PortWorker.create config rxRingBuff)) :=
  ⟨fun _ h => (by cases h), fun _ h => (by cases h), fun _ => rfl, fun h => (by cases h), trivial⟩

/-- A call on the member is a call on the polled connection exactly as long as nothing has
happened to the member. -/
theorem Fetched.onPolled_iff (h : Fetched s) (polled : s.currConn.isSome = true) :
    Use.OnPolled { currConn := s.currConn, member := s.port.client } ↔ s.disturbed = false := by
  obtain ⟨conn, hconn⟩ := Option.isSome_iff_exists.mp polled
  constructor
  · rintro ⟨other, hcurr, hmember⟩
    by_contra hdisturbed
    exact h.apart (Bool.not_eq_false _ ▸ hdisturbed) other hcurr hmember
  · intro hsame
    exact ⟨conn, hconn, (h.same hsame).trans hconn⟩

/-- `OnPortOpen` for this port installs a connection that nobody has fetched. -/
theorem Fetched.portOpen (h : Fetched s) (id : Nat) :
    Fetched { s with
      port := s.port.onPortOpen portConfig id s.opened
      opened := s.opened + 1
      disturbed := s.disturbed || id == portConfig.portID } := by
  have hclient := PortWorker.onPortOpen_client portConfig id s.opened s.port
  refine ⟨?_, ?_, ?_, ?_, h.polled⟩
  · intro conn hconn
    dsimp only at hconn ⊢
    rw [hclient] at hconn
    split at hconn
    · rw [Option.some.injEq] at hconn
      exact Nat.lt_succ_of_le (Nat.le_of_eq hconn.symm)
    · exact Nat.lt_succ_of_lt (h.client_lt conn hconn)
  · exact fun conn hconn => Nat.lt_succ_of_lt (h.currConn_lt conn hconn)
  · intro hsame
    rw [Bool.or_eq_false_iff] at hsame
    dsimp only
    rw [hclient, if_neg (by simpa using hsame.2)]
    exact h.same hsame.1
  · intro hdisturbed conn hconn
    dsimp only at hdisturbed hconn ⊢
    rw [hclient]
    split
    · -- the new connection is another one
      intro heq
      rw [Option.some.injEq] at heq
      exact absurd (h.currConn_lt conn hconn) (Nat.not_lt.mpr (Nat.le_of_eq heq))
    · rename_i hother
      rw [Bool.or_eq_true] at hdisturbed
      rcases hdisturbed with hold | hthis
      · exact h.apart hold conn hconn
      · exact absurd (by simpa using hthis) hother

/-- `ProcessTX` keeps the client or drops it. -/
theorem Fetched.processTX (h : Fetched s) (counter : UInt32) (input : ReadResult) :
    Fetched { s with
      port := (s.port.processTX config portConfig counter input).1
      disturbed := s.disturbed ||
        (s.port.processTX config portConfig counter input).1.client != s.port.client } := by
  obtain ⟨-, -, hclient⟩ := PortWorker.processTX_frame config portConfig counter input s.port
  generalize (s.port.processTX config portConfig counter input).1 = port at hclient
  have hsub : ∀ conn, port.client = some conn → s.port.client = some conn := by
    intro conn hconn
    rcases hclient with hkept | hdropped
    · exact hkept.symm.trans hconn
    · rw [hdropped] at hconn
      cases hconn
  refine ⟨fun conn hconn => h.client_lt conn (hsub conn hconn), h.currConn_lt, ?_, ?_, h.polled⟩
  · intro hsame
    rw [Bool.or_eq_false_iff] at hsame
    have hkept : port.client = s.port.client := by simpa using hsame.2
    exact hkept.trans (h.same hsame.1)
  · intro hdisturbed conn hconn heq
    rw [Bool.or_eq_true] at hdisturbed
    rcases hdisturbed with hold | hchanged
    · exact h.apart hold conn hconn (hsub conn heq)
    · have hkept : port.client = s.port.client := heq.trans (hsub conn heq).symm
      simp [hkept] at hchanged

/-- A step that changes neither the client nor what the thread knows of it. -/
theorem Fetched.frame (h : Fetched s) (hclient : t.port.client = s.port.client)
    (hopened : t.opened = s.opened) (hcurr : t.currConn = s.currConn)
    (hdisturbed : t.disturbed = s.disturbed)
    (hpolled : Polled t.currConn t.writer) : Fetched t :=
  ⟨by rw [hclient, hopened]; exact h.client_lt, by rw [hcurr, hopened]; exact h.currConn_lt,
    by rw [hclient, hcurr, hdisturbed]; exact h.same,
    by rw [hclient, hcurr, hdisturbed]; exact h.apart, hpolled⟩

/-- What the poll leads to is a call only if a connection was polled. -/
theorem polled_of_poll {tail : Handle} {currConn : Option ConnId} (result : PollResult) :
    Polled currConn (Writer.polled tail currConn result) := by
  cases currConn with
  | none => trivial
  | some conn =>
    cases result with
    | failed | hup | ready => rfl
    | timeout => trivial

/-- `Dispose` is called on the member. -/
theorem dispose_member (w : PortWorker α size) (tail : Handle) :
    (Writer.dispose w tail).2 = w.client := by
  unfold Writer.dispose
  split
  · rename_i hnone
    exact hnone.symm
  · rename_i conn hconn
    exact hconn.symm

/-- **One step.** Every call is on the polled connection exactly as long as nothing has
happened to the member. -/
theorem Fetched.step (h : Fetched s) {e : Event α}
    (hstep : step config portConfig s e = some t) :
    Fetched t ∧ (ActsOnPolled t ↔ ActsOnPolled s ∧ Undisturbed s e) := by
  have hpolled := h.polled
  -- a step without a call is under no condition
  have quiet (huses : t.uses = s.uses) (hquiet : Undisturbed s e) :
      ActsOnPolled t ↔ ActsOnPolled s ∧ Undisturbed s e := by
    unfold ActsOnPolled
    rw [huses]
    exact ⟨fun hall => ⟨hall, hquiet⟩, fun hboth => hboth.1⟩
  cases stepped_of_step hstep with
  | portOpen id => exact ⟨h.portOpen id, quiet rfl trivial⟩
  | connected => exact ⟨h.frame rfl rfl rfl rfl hpolled, quiet rfl trivial⟩
  | processTX counter input => exact ⟨h.processTX counter input, quiet rfl trivial⟩
  | rxCheck response =>
    obtain ⟨-, -, hclient, -⟩ := PortWorker.rxCheck_frame response s.port
    exact ⟨h.frame hclient rfl rfl rfl hpolled, quiet rfl trivial⟩
  | rxWrite => exact ⟨h.frame rfl rfl rfl rfl hpolled, quiet rfl trivial⟩
  | takeTail =>
    refine ⟨h.frame rfl rfl rfl rfl ?_, quiet rfl trivial⟩
    unfold Writer.takeTail
    dsimp only
    split
    · trivial
    · trivial
  | takeClient =>
    exact ⟨⟨h.client_lt, h.client_lt, fun _ => rfl, fun hnever => Bool.noConfusion hnever, rfl⟩,
      quiet rfl trivial⟩
  | poll result hwriter =>
    rw [hwriter] at hpolled
    have hfetched : _ = s.currConn := hpolled
    refine ⟨h.frame rfl rfl rfl rfl ?_, quiet rfl trivial⟩
    dsimp only
    rw [← hfetched]
    exact polled_of_poll result
  | dispose hwriter =>
    rw [hwriter] at hpolled
    refine ⟨h.frame rfl rfl rfl rfl ?_, ?_⟩
    · unfold Writer.dispose
      dsimp only
      split
      · trivial
      · trivial
    · unfold ActsOnPolled
      rw [List.forall_mem_append, List.forall_mem_singleton, dispose_member,
        h.onPolled_iff hpolled]
      exact Iff.rfl
  | write result hwriter =>
    rw [hwriter] at hpolled
    refine ⟨h.frame rfl rfl rfl rfl ?_, ?_⟩
    · unfold Writer.write
      dsimp only
      split
      · trivial
      · exact hpolled
      · trivial
    · unfold ActsOnPolled
      rw [List.forall_mem_append, List.forall_mem_singleton, h.onPolled_iff hpolled]
      exact Iff.rfl
  | commit => exact ⟨h.frame rfl rfl rfl rfl trivial, quiet rfl trivial⟩

/-- **The writer acts on what it polled.** From the constructor on, in every interleaving,
exactly as long as no call comes after the member was replaced or dropped. -/
theorem acts_on_polled_iff (config : Config) (portConfig : PortConfig)
    (rxRingBuff : DataBuffer α size) {es : List (Event α)} {u : State α size}
    (run : exec (step config portConfig) (start (PortWorker.create config rxRingBuff)) es =
      some u) :
    ActsOnPolled u ↔
      Along (step config portConfig) Undisturbed (start (PortWorker.create config rxRingBuff))
        es := by
  have hkept := exec_iff_along Fetched ActsOnPolled (Q := fun _ _ => True)
    (fun _ _ _ hinv _ hstep => hinv.step hstep) (Fetched.start config rxRingBuff)
    (Along.of_forall (fun _ _ => trivial) _ es) run
  rw [hkept]
  constructor
  · exact fun hboth => hboth.2
  · exact fun halong => ⟨fun _ hnone => absurd hnone List.not_mem_nil, halong⟩

section Examples

instance (s : State α size) (e : Event α) : Decidable (Undisturbed s e) :=
  match e with
  | .dispose | .write _ => inferInstanceAs (Decidable (s.disturbed = false))
  | .portOpen _ | .connected | .processTX _ _ | .rxCheck _ _ | .rxWrite | .takeTail
  | .takeClient | .poll _ | .commit => isTrue trivial

open Deployment (avrPro ring16 port57600)

def created : State UInt8 16 := start (PortWorker.create (avrPro false).config (ring16 0))

/-- The client hangs up after the write; the reader drops it, and the next one is written
to. -/
def replaced : List (Event UInt8) :=
  [.portOpen 0, .connected, .processTX 1 (.bytes [])] ++ receive [1, 2] ++ writeRound 2 ++
    [.processTX 2 (.bytes []), .portOpen 0] ++ receive [3, 4] ++ writeRound 1 ++
    [.takeTail, .takeClient, .poll .hup, .dispose]

def afterReplaced : State UInt8 16 :=
  (exec (step (avrPro false).config (port57600 false 0)) created replaced).getD created

theorem acts_on_polled_replaced : ActsOnPolled afterReplaced ∧
    afterReplaced.uses.map Use.member = [some 0, some 1, some 1] := by
  have hrun : Along (step (avrPro false).config (port57600 false 0)) Undisturbed created
        replaced ∧
      (exec (step (avrPro false).config (port57600 false 0)) created replaced).isSome = true ∧
      afterReplaced.uses.map Use.member = [some 0, some 1, some 1] := by
    decide +kernel
  obtain ⟨hundisturbed, hsome, huses⟩ := hrun
  exact ⟨(acts_on_polled_iff (avrPro false).config (port57600 false 0) (ring16 0)
    (exec_eq_some_getD hsome)).mpr hundisturbed, huses⟩

/-- The client hangs up while the thread polls it: the reader notices first. -/
def droppedInPoll : List (Event UInt8) :=
  [.portOpen 0, .connected, .processTX 1 (.bytes [])] ++ receive [1, 2] ++
    [.takeTail, .takeClient, .processTX 2 (.bytes []), .poll .hup, .dispose]

def afterDroppedInPoll : State UInt8 16 :=
  (exec (step (avrPro false).config (port57600 false 0)) created droppedInPoll).getD created

/-- The same, and the next client has connected before the thread goes on. -/
def replacedInPoll : List (Event UInt8) :=
  [.portOpen 0, .connected, .processTX 1 (.bytes [])] ++ receive [1, 2] ++
    [.takeTail, .takeClient, .processTX 2 (.bytes []), .portOpen 0, .poll .hup, .dispose]

def afterReplacedInPoll : State UInt8 16 :=
  (exec (step (avrPro false).config (port57600 false 0)) created replacedInPoll).getD created

/-- The thread calls through a null pointer, or disposes of the new client. -/
theorem disturbed_uses :
    (¬ ∀ (es : List (Event UInt8)) (u : State UInt8 16),
      exec (step (avrPro false).config (port57600 false 0)) created es = some u →
      ActsOnPolled u) ∧
    afterDroppedInPoll.uses = [⟨some 0, none⟩] ∧ afterDroppedInPoll.writer = .crashed ∧
    afterReplacedInPoll.uses = [⟨some 0, some 1⟩] := by
  have hruns : (exec (step (avrPro false).config (port57600 false 0)) created
        droppedInPoll).isSome = true ∧
      afterDroppedInPoll.uses = [⟨some 0, none⟩] ∧ afterDroppedInPoll.writer = .crashed ∧
      (exec (step (avrPro false).config (port57600 false 0)) created
        replacedInPoll).isSome = true ∧
      afterReplacedInPoll.uses = [⟨some 0, some 1⟩] := by
    decide +kernel
  obtain ⟨hdropped, hnull, hcrashed, -, hother⟩ := hruns
  refine ⟨?_, hnull, hcrashed, hother⟩
  intro hall
  obtain ⟨conn, -, hmember⟩ := hall droppedInPoll afterDroppedInPoll (exec_eq_some_getD hdropped)
    ⟨some 0, none⟩ (hnull ▸ List.mem_singleton_self _)
  cases hmember

end Examples

end UartBridge.WriterThread
