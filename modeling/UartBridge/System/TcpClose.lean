import UartBridge.Lib.Run
import UartBridge.Client.TCPTransport

/-!
# Does the end of the stream end the round?

When the peer has closed a connection, `recv` returns 0, now and at every later call. The
worker thread looks at `errno` then, which holds what an earlier call left: a receive timeout
leaves `EAGAIN` on every idle connection.

* `step` — the inner loop of `Worker` on one connection, with any results of `recv`;
* `EndsRound` — the first 0 ends the loop and the connection;
* `Clean` — what `errno` and the results before the first 0 have to be for that;
* `endsRound_iff` — it is exactly that, for every sequence of results.
-/

namespace UartBridge.TcpClose

open EventRun Client
open TCPTransport (WorkerState RxState RecvResult workerRound receiveFailed retries received)

/-- The worker and whether it is still in the inner loop; `closed` once `recv` has returned
0. -/
structure State where
  worker : WorkerState
  inLoop : Bool
  closed : Bool

/-- The inner loop begins, with a package still to come. -/
def start (config : Config) (transport : TCPTransport) (rxBuff : Nat → UInt8) (errno : Errno) :
    State :=
  { worker := { transport := transport
                rx := { rxBuff := rxBuff, dataLeft := config.getNetPackageSz }
                errno := errno }
    inLoop := true, closed := false }

/-- What `recv` can return: some of the bytes asked for, and nothing but 0 after a 0. -/
def possible (s : State) : RecvResult → Bool
  | .bytes data => !s.closed && 0 < data.length && data.length ≤ s.worker.rx.dataLeft
  | .error _ => !s.closed
  | .closed => true

/-- One round of the inner loop. -/
def step (config : Config) (id : ConnId) (s : State) (result : RecvResult) : Option State :=
  if s.inLoop && possible s result then
    let r := workerRound config id result s.worker
    some { worker := r.1, inLoop := r.2, closed := s.closed || result = .closed }
  else none

/-- **The property**: the first 0 is the last result that `recv` returns on the connection;
the loop is left, and the connection is not handed out again. -/
structure EndsRound (id : ConnId) (results : List RecvResult) (s : State) : Prop where
  once : results.count .closed ≤ 1
  left : .closed ∈ results → s.inLoop = false
  disposed : .closed ∈ results → s.worker.transport.getStatus id = false

/-- **The condition**: no value that makes the worker try again is in `errno` at the beginning,
and none comes; and `Dispose` is not disarmed by an earlier call of it. -/
structure Clean (falseVal : Bool) (errno : Errno) (results : List RecvResult) : Prop where
  errno_eq : retries errno = false
  results_eq : ∀ e, .error e ∈ results → retries e = false
  falseVal_eq : falseVal = false

variable {config : Config} {id : ConnId} {s t u : State} {results : List RecvResult}

/-- After the loop there are no more calls of `recv`. -/
theorem exec_left (hleft : s.inLoop = false)
    (run : exec (step config id) s results = some u) : results = [] ∧ u = s := by
  cases results with
  | nil =>
    rw [exec_nil, Option.some.injEq] at run
    exact ⟨rfl, run.symm⟩
  | cons r rs =>
    obtain ⟨t, hstep, -⟩ := exec_cons_eq_some.mp run
    unfold step at hstep
    rw [hleft] at hstep
    cases hstep

/-- A round with a value that makes the worker try again, and one with another. -/
theorem receiveFailed_eq (id : ConnId) (w : WorkerState) :
    (retries w.errno = true → receiveFailed id w = (w, true)) ∧
      (retries w.errno = false → receiveFailed id w =
        ({ w with transport := (w.transport.dispose id).1 }, false)) := by
  unfold receiveFailed
  exact ⟨fun hyes => if_pos hyes, fun hno => if_neg (by rw [hno]; exact Bool.false_ne_true)⟩

/-- Bytes that were read leave `errno` alone, and the connection if the loop goes on. -/
theorem workerRound_bytes (config : Config) (id : ConnId) (data : List UInt8) (w : WorkerState) :
    (workerRound config id (.bytes data) w).2 = false ∨
      ((workerRound config id (.bytes data) w).2 = true ∧
        (workerRound config id (.bytes data) w).1.transport = w.transport ∧
        (workerRound config id (.bytes data) w).1.errno = w.errno) := by
  unfold workerRound
  dsimp only
  cases (received config data w.rx).2 with
  | goOn => exact Or.inr ⟨rfl, rfl, rfl⟩
  | package => exact Or.inr ⟨rfl, rfl, rfl⟩
  | disposed => exact Or.inl rfl

/-- Another result in front changes nothing. -/
theorem endsRound_cons {result : RecvResult} (hresult : result ≠ .closed) :
    EndsRound id (result :: results) u ↔ EndsRound id results u := by
  have hmem : RecvResult.closed ∈ result :: results ↔ .closed ∈ results := by
    rw [List.mem_cons, or_iff_right hresult.symm]
  constructor
  · rintro ⟨honce, hleft, hdisposed⟩
    rw [List.count_cons_of_ne hresult] at honce
    exact ⟨honce, fun h => hleft (hmem.mpr h), fun h => hdisposed (hmem.mpr h)⟩
  · rintro ⟨honce, hleft, hdisposed⟩
    refine ⟨?_, fun h => hleft (hmem.mp h), fun h => hdisposed (hmem.mp h)⟩
    rw [List.count_cons_of_ne hresult]
    exact honce

/-- Without a 0 there is nothing to show. -/
theorem endsRound_of_notMem (h : .closed ∉ results) : EndsRound id results u :=
  ⟨Nat.le_trans (Nat.le_of_eq (List.count_eq_zero.mpr h)) (Nat.zero_le _),
    fun hmem => absurd hmem h, fun hmem => absurd hmem h⟩

/-- A round that ends the loop without a 0 is the last one. -/
theorem endsRound_last {result : RecvResult} (hresult : result ≠ .closed)
    (hleft : t.inLoop = false) (run : exec (step config id) t results = some u) (P : Prop) :
    EndsRound id (result :: results) u ↔ (.closed ∈ result :: results → P) := by
  obtain ⟨rfl, -⟩ := exec_left hleft run
  have hnone : RecvResult.closed ∉ [result] := by
    rw [List.mem_singleton]
    exact hresult.symm
  exact iff_of_true (endsRound_of_notMem hnone) fun hmem => absurd hmem hnone

/-- A first 0 after which the worker tries again: the loop is not left, or there is a second
0. -/
theorem not_endsRound_again (hon : t.inLoop = true) (hclosed : t.closed = true)
    (run : exec (step config id) t results = some u) :
    ¬ EndsRound id (.closed :: results) u := by
  intro h
  cases results with
  | nil =>
    rw [exec_nil, Option.some.injEq] at run
    have hleft := h.left List.mem_cons_self
    rw [← run] at hleft
    exact Bool.false_ne_true (hleft.symm.trans hon)
  | cons r rs =>
    obtain ⟨v, hnext, -⟩ := exec_cons_eq_some.mp run
    simp only [step, Bool.and_eq_true, Option.ite_none_right_eq_some] at hnext
    obtain ⟨⟨-, hpossible⟩, -⟩ := hnext
    have hzero : r = .closed := by
      cases r with
      | closed => rfl
      | bytes data => simp [possible, hclosed] at hpossible
      | error e => simp [possible, hclosed] at hpossible
    have honce := h.once
    rw [hzero, List.count_cons_self, List.count_cons_self] at honce
    omega

/-- The round of the first 0. -/
theorem endsRound_closed (hlive : s.worker.transport.getStatus id = true)
    (hstep : step config id s .closed = some t)
    (run : exec (step config id) t results = some u) :
    EndsRound id (.closed :: results) u ↔
      (RecvResult.closed ∈ .closed :: results →
        Clean s.worker.transport.falseVal s.worker.errno (.closed :: results)) := by
  obtain ⟨hretry, hfail⟩ := receiveFailed_eq id s.worker
  simp only [step, Bool.and_eq_true, Option.ite_none_right_eq_some, Option.some.injEq] at hstep
  obtain ⟨-, rfl⟩ := hstep
  cases hagain : retries s.worker.errno with
  | true =>
    refine iff_of_false (not_endsRound_again ?_ (by simp) run) fun h => ?_
    · exact congrArg Prod.snd (hretry hagain)
    · exact Bool.false_ne_true ((h List.mem_cons_self).errno_eq.symm.trans hagain)
  | false =>
    have hround : workerRound config id .closed s.worker =
        ({ s.worker with transport := (s.worker.transport.dispose id).1 }, false) := hfail hagain
    rw [hround] at run
    obtain ⟨rfl, rfl⟩ := exec_left rfl run
    have hstatus : (s.worker.transport.dispose id).1.getStatus id =
        s.worker.transport.falseVal := by
      rw [TCPTransport.getStatus_dispose, hlive]
      simp
    constructor
    · intro h _
      have hgone := h.disposed List.mem_cons_self
      refine ⟨hagain, fun e he => ?_, hstatus.symm.trans hgone⟩
      rw [List.mem_singleton] at he
      cases he
    · intro h
      have hclean := h List.mem_cons_self
      exact ⟨Nat.le_refl _, fun _ => rfl, fun _ => hstatus.trans hclean.falseVal_eq⟩

/-- Bytes are under no condition. -/
theorem clean_bytes_cons {falseVal : Bool} {errno : Errno} (data : List UInt8) :
    Clean falseVal errno (.bytes data :: results) ↔ Clean falseVal errno results := by
  constructor
  · intro h
    exact ⟨h.errno_eq, fun e he => h.results_eq e (List.mem_cons_of_mem _ he), h.falseVal_eq⟩
  · intro h
    refine ⟨h.errno_eq, fun e he => ?_, h.falseVal_eq⟩
    rcases List.mem_cons.mp he with hhead | htail
    · cases hhead
    · exact h.results_eq e htail

/-- **From any moment before the first 0.** -/
theorem endsRound_iff_of_open (hopen : s.closed = false)
    (hlive : s.worker.transport.getStatus id = true)
    (run : exec (step config id) s results = some u) :
    EndsRound id results u ↔ (.closed ∈ results →
      Clean s.worker.transport.falseVal s.worker.errno results) := by
  induction results generalizing s with
  | nil =>
    exact iff_of_true (endsRound_of_notMem List.not_mem_nil) fun h => absurd h List.not_mem_nil
  | cons result rest ih =>
    obtain ⟨t, hstep, hrest⟩ := exec_cons_eq_some.mp run
    cases result with
    | closed => exact endsRound_closed hlive hstep hrest
    | bytes data =>
      have hother : RecvResult.bytes data ≠ .closed := fun h => by cases h
      simp only [step, Bool.and_eq_true, Option.ite_none_right_eq_some, Option.some.injEq] at hstep
      obtain ⟨-, rfl⟩ := hstep
      rcases workerRound_bytes config id data s.worker with hleft | ⟨-, htransport, herrno⟩
      · exact endsRound_last hother hleft hrest _
      · have hnext := ih (by simp [hopen]) (by rw [htransport]; exact hlive) hrest
        dsimp only at hnext
        rw [htransport, herrno] at hnext
        rw [endsRound_cons hother, hnext, clean_bytes_cons, List.mem_cons,
          or_iff_right hother.symm]
    | error e =>
      have hother : RecvResult.error e ≠ .closed := fun h => by cases h
      obtain ⟨hretry, hfail⟩ := receiveFailed_eq id { s.worker with errno := e }
      simp only [step, Bool.and_eq_true, Option.ite_none_right_eq_some, Option.some.injEq] at hstep
      obtain ⟨-, rfl⟩ := hstep
      cases hagain : retries e with
      | true =>
        -- from now on `errno` is such a value
        have hround : workerRound config id (.error e) s.worker =
            ({ s.worker with errno := e }, true) := hretry hagain
        rw [hround] at hrest
        have hnext := ih (by simp [hopen]) (by exact hlive) hrest
        rw [endsRound_cons hother, hnext, List.mem_cons, or_iff_right hother.symm]
        refine imp_congr_right fun _ => iff_of_false (fun h => ?_) fun h => ?_
        · exact Bool.false_ne_true (h.errno_eq.symm.trans hagain)
        · exact Bool.false_ne_true ((h.results_eq e List.mem_cons_self).symm.trans hagain)
      | false =>
        have hround : (workerRound config id (.error e) s.worker).2 = false :=
          congrArg Prod.snd (hfail hagain)
        exact endsRound_last hother hround hrest _

/-- **Every sequence of results**, on any connection of the transport that is live. -/
theorem endsRound_iff (config : Config) (id : ConnId) (transport : TCPTransport)
    (rxBuff : Nat → UInt8) (errno : Errno) (hlive : transport.getStatus id = true)
    (results : List RecvResult) (s : State)
    (run : exec (step config id) (start config transport rxBuff errno) results = some s) :
    EndsRound id results s ↔ (.closed ∈ results → Clean transport.falseVal errno results) :=
  endsRound_iff_of_open rfl hlive run

/-! ## A connection that was idle for a while -/

/-- A client with one port of one byte: a package has 11 bytes. -/
def smallClient : Config :=
  { portCount := 1, portPLSize := 1, remoteRingBuffSize := 16, enableUDP := false
    remotePollInterval := 0 }

def liveTransport : TCPTransport :=
  { conns := [TCPConnection.create 4 49152], falseVal := false, remoteConn := some 0
    udpPort := 49153 }

/-- The peer closes before anything has timed out. -/
def closesAtOnce : List RecvResult := [.bytes [0, 0, 0], .closed]

def afterClosesAtOnce : State :=
  (exec (step smallClient 0) (start smallClient liveTransport (fun _ => 0) (.other 2))
    closesAtOnce).getD (start smallClient liveTransport (fun _ => 0) (.other 2))

theorem endsRound_closesAtOnce : EndsRound 0 closesAtOnce afterClosesAtOnce :=
  (endsRound_iff smallClient 0 liveTransport (fun _ => 0) (.other 2) rfl closesAtOnce
    afterClosesAtOnce (exec_eq_some_getD (by decide))).mpr fun _ =>
      ⟨by decide, fun e he => (by simp [closesAtOnce] at he), rfl⟩

/-- The peer closes after a receive timeout: `recv` returns 0 again and again. -/
def closesIdle : List RecvResult := [.error .EAGAIN, .closed, .closed, .closed]

def afterClosesIdle : State :=
  (exec (step smallClient 0) (start smallClient liveTransport (fun _ => 0) (.other 2))
    closesIdle).getD (start smallClient liveTransport (fun _ => 0) (.other 2))

theorem idle_then_closed :
    ¬ ∀ (config : Config) (id : ConnId) (transport : TCPTransport) (rxBuff : Nat → UInt8)
      (errno : Errno) (results : List RecvResult) (s : State),
      transport.getStatus id = true →
      exec (step config id) (start config transport rxBuff errno) results = some s →
      EndsRound id results s := by
  intro hall
  have hends := hall smallClient 0 liveTransport (fun _ => 0) (.other 2) closesIdle
    afterClosesIdle rfl (exec_eq_some_getD (by decide))
  have hleft := hends.left (by decide)
  have hon : afterClosesIdle.inLoop = true := by decide
  exact Bool.false_ne_true (hleft.symm.trans hon)

end UartBridge.TcpClose
