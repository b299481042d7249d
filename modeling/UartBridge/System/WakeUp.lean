import UartBridge.Lib.Run
import UartBridge.Client.PortWorker
import UartBridge.System.Deployment

/-!
# The port writer's condition variable

`Worker` waits for the ring buffer to hold data, or for the shutdown. It has
`ringBuffLock` from before it looks until it blocks. `ProcessRX` stores under the lock and
notifies; `OnShutdown` sets the flag and notifies, without the lock.

* `step` — the three, one access to what they share at a time;
* `Stored` — what the lock is good for: no data comes between the look and the block;
* `notLost_iff` — `Worker` does not sleep through anything, unless it blocks when all the
  notifications are over.
-/

namespace UartBridge.WakeUp

open Client EventRun

/-! ## The steps -/

/-- Where `Worker` stands. It has the lock when it is `locked` or `checked`: in the first it
looks at the ring buffer and the flag, and in the second it found neither and is about to
block. In a `round` it writes what is stored from `tail` on. -/
inductive Waiter where
  | loopHead | toLock | locked | checked | blocked | ended
  | round (tail : Handle)
  deriving DecidableEq, Repr

def Waiter.holdsLock : Waiter → Bool
  | .locked | .checked => true
  | .loopHead | .toLock | .blocked | .ended | .round _ => false

/-- `notify_one`. -/
def Waiter.notify : Waiter → Waiter
  | .blocked => .toLock
  | w => w

/-- `arrived`: the payloads of the `ProcessRX` calls that passed the check and have not stored
them; `toNotify`: the calls that have, and are about to notify. `returned`: the `OnShutdown`
calls that have returned; `notifying`: another one has set the flag. -/
structure State (α : Type) (size : Nat) where
  port : PortWorker α size
  worker : Waiter
  arrived : List (List α)
  toNotify : Nat
  shutdownPending : Bool
  notifying : Bool
  returned : Nat

inductive Event (α : Type) where
  /-- `ProcessRX` up to the ring buffer. -/
  | rxCheck (response : Response) (data : List α)
  /-- One of the calls stores its payload. -/
  | rxWrite (call : Nat)
  | rxNotify
  | shutdownStore
  | shutdownNotify
  /-- The condition of `Worker`'s loop. -/
  | loopHead
  | lock
  /-- The condition of the inner loop; if it does not wait, the tail is taken and the lock is
  released. -/
  | check
  | block
  /-- `wait` may return without a notification. -/
  | spurious
  /-- The end of a round. -/
  | commit (szToWrite : Nat)

variable {α : Type} {size : Nat}

def start (port : PortWorker α size) : State α size :=
  { port := port, worker := .loopHead, arrived := [], toNotify := 0, shutdownPending := false
    notifying := false, returned := 0 }

/-- After the wait: with nothing in the ring buffer `Worker` goes back to the loop's head. -/
def afterWait (port : PortWorker α size) : Waiter :=
  if port.rxRingBuff.getTail.maxSz < 1 then .loopHead else .round port.rxRingBuff.getTail

/-- One step. `OnShutdown` is called `calls` times, one call after the other: by
`RequestShutdown`, and by `Shutdown`. -/
def step (calls : Nat) (s : State α size) : Event α → Option (State α size)
  | .rxCheck response data =>
    if data.length = response.plSz.toNat then
      some { s with
        port := (s.port.rxCheck response).1
        arrived := if (s.port.rxCheck response).2 then s.arrived ++ [data] else s.arrived }
    else none
  | .rxWrite call =>
    match s.arrived[call]? with
    | none => none
    | some payload =>
      if s.worker.holdsLock then none
      else some { s with
        port := s.port.rxWrite payload
        arrived := s.arrived.eraseIdx call
        toNotify := s.toNotify + 1 }
  | .rxNotify =>
    if s.toNotify = 0 then none
    else some { s with worker := s.worker.notify, toNotify := s.toNotify - 1 }
  | .shutdownStore =>
    if s.notifying || calls ≤ s.returned then none
    else some { s with shutdownPending := true, notifying := true }
  | .shutdownNotify =>
    if s.notifying then
      some { s with worker := s.worker.notify, notifying := false, returned := s.returned + 1 }
    else none
  | .loopHead =>
    if s.worker = .loopHead then
      some { s with worker := if s.shutdownPending then .ended else .toLock }
    else none
  | .lock => if s.worker = .toLock then some { s with worker := .locked } else none
  | .check =>
    if s.worker = .locked then
      some { s with
        worker := if s.port.rxRingBuff.usedSize < 1 ∧ s.shutdownPending = false then .checked
          else afterWait s.port }
    else none
  | .block => if s.worker = .checked then some { s with worker := .blocked } else none
  | .spurious => if s.worker = .blocked then some { s with worker := .toLock } else none
  | .commit szToWrite =>
    match s.worker with
    | .round tail =>
      if szToWrite ≤ tail.maxSz then
        some { s with port := Writer.commit s.port tail szToWrite, worker := .loopHead }
      else none
    | _ => none

/-! ## What is to hold -/

/-- No `ProcessRX` call is under way. -/
def RxReturned (s : State α size) : Prop := s.arrived = [] ∧ s.toNotify = 0

/-- No `OnShutdown` call is under way, and none is to come. -/
def ShutdownReturned (calls : Nat) (s : State α size) : Prop :=
  s.notifying = false ∧ s.returned = calls

/-- **The property of a state.** Once the calls have returned, `Worker` is not blocked with
data in the ring buffer or with the flag set. -/
structure NotLost (calls : Nat) (s : State α size) : Prop where
  data : RxReturned s → s.worker = .blocked → s.port.rxRingBuff.contents = []
  shutdown : RxReturned s → ShutdownReturned calls s → s.worker = .blocked →
    s.shutdownPending = false

/-- A step that `Worker` does not regret: it does not block when the flag is set and nobody
is left to notify it. -/
def Heard (calls : Nat) (s : State α size) : Event α → Prop
  | .block => ¬ (s.shutdownPending = true ∧ RxReturned s ∧ ShutdownReturned calls s)
  | _ => True

/-! ## The lock -/

/-- What is in the ring buffer when `Worker` waits: nothing at all before it blocks, and
nothing without a notification to come afterwards. -/
structure Stored (s : State α size) : Prop where
  checked : s.worker = .checked → s.port.rxRingBuff.contents = []
  blocked : s.worker = .blocked → s.port.rxRingBuff.contents = [] ∨ 0 < s.toNotify

theorem notify_ne_blocked (w : Waiter) : w.notify ≠ .blocked := by
  cases w <;> exact Waiter.noConfusion

/-- A notification changes nothing for a `Worker` that has looked and not blocked. -/
theorem notify_eq_checked {w : Waiter} (h : w.notify = .checked) : w = .checked := by
  cases w with
  | checked => rfl
  | loopHead | toLock | locked | blocked | ended | round => cases h

theorem afterWait_awake (port : PortWorker α size) :
    afterWait port ≠ .checked ∧ afterWait port ≠ .blocked := by
  unfold afterWait
  split <;> exact ⟨Waiter.noConfusion, Waiter.noConfusion⟩

theorem Stored.start (port : PortWorker α size) : Stored (start port) :=
  ⟨fun h => (by cases h), fun h => (by cases h)⟩

/-- A `Worker` that is neither about to block nor blocked. -/
theorem Stored.of_awake {s : State α size} (hchecked : s.worker ≠ .checked)
    (hblocked : s.worker ≠ .blocked) : Stored s :=
  ⟨fun h => absurd h hchecked, fun h => absurd h hblocked⟩

theorem NotLost.of_awake {calls : Nat} {s : State α size} (hblocked : s.worker ≠ .blocked) :
    NotLost calls s :=
  ⟨fun _ h => absurd h hblocked, fun _ _ h => absurd h hblocked⟩

/-- With a `ProcessRX` call under way there is nothing to show. -/
theorem NotLost.of_underWay {calls : Nat} {s : State α size} (h : ¬ RxReturned s) :
    NotLost calls s :=
  ⟨fun hreturned => absurd hreturned h, fun hreturned => absurd hreturned h⟩

/-- The code's test for data. -/
theorem usedSize_lt_one_iff (b : DataBuffer α size) : b.usedSize < 1 ↔ b.contents = [] := by
  rw [← List.length_eq_zero_iff, DataBuffer.length_contents]
  have h := b.usedSize_pos_iff
  omega

variable {calls : Nat} {s t : State α size}

/-- A step after which `Worker` is neither about to block nor blocked. -/
theorem notLost_of_awake {e : Event α} (hheard : Heard calls s e)
    (hawake : t.worker ≠ .checked ∧ t.worker ≠ .blocked) :
    Stored t ∧ (NotLost calls t ↔ Heard calls s e) :=
  ⟨Stored.of_awake hawake.1 hawake.2, iff_of_true (NotLost.of_awake hawake.2) hheard⟩

/-- A notification: `Worker` is not blocked any more. -/
theorem notLost_of_notify {e : Event α} (h : Stored s) (hheard : Heard calls s e)
    (hworker : t.worker = s.worker.notify) (hport : t.port = s.port) :
    Stored t ∧ (NotLost calls t ↔ Heard calls s e) := by
  have hblocked : t.worker ≠ .blocked := by
    rw [hworker]
    exact notify_ne_blocked _
  refine ⟨⟨?_, fun hw => absurd hw hblocked⟩, iff_of_true (NotLost.of_awake hblocked) hheard⟩
  intro hw
  rw [hport]
  exact h.checked (notify_eq_checked (hworker.symm.trans hw))

/-- A `ProcessRX` call that has looked at its response stores nothing yet. -/
theorem notLost_rxCheck {response : Response} {data : List α} (h : Stored s)
    (hgood : NotLost calls s) (hstep : step calls s (.rxCheck response data) = some t) :
    Stored t ∧ NotLost calls t := by
  simp only [step, Option.ite_none_right_eq_some, Option.some.injEq] at hstep
  obtain ⟨-, rfl⟩ := hstep
  have hring := (s.port.rxCheck_frame response).1
  refine ⟨⟨fun hw => ?_, fun hw => ?_⟩, ?_⟩
  · rw [hring]
    exact h.checked hw
  · rw [hring]
    exact h.blocked hw
  · cases hpassed : (s.port.rxCheck response).2 with
    | true =>
      refine NotLost.of_underWay fun hreturned => ?_
      simp [RxReturned] at hreturned
    | false =>
      -- the call has returned
      refine ⟨fun hreturned hw => ?_, fun hreturned => ?_⟩
      · simp only [RxReturned, Bool.false_eq_true, if_false] at hreturned
        rw [hring]
        exact hgood.data hreturned hw
      · simp only [RxReturned, Bool.false_eq_true, if_false] at hreturned
        exact hgood.shutdown hreturned

/-- A `ProcessRX` call stores while it has the lock, and has a notification to make. -/
theorem notLost_rxWrite {call : Nat} (hstep : step calls s (.rxWrite call) = some t) :
    Stored t ∧ NotLost calls t := by
  simp only [step] at hstep
  cases hcall : s.arrived[call]? with
  | none => simp [hcall] at hstep
  | some payload =>
    simp only [hcall, Option.ite_none_left_eq_some, Option.some.injEq] at hstep
    obtain ⟨hfree, rfl⟩ := hstep
    refine ⟨⟨fun hw => ?_, fun _ => Or.inr (Nat.succ_pos _)⟩, ?_⟩
    · -- the lock is taken
      refine absurd ?_ hfree
      dsimp only at hw
      rw [hw]
      rfl
    · exact NotLost.of_underWay fun hreturned => Nat.succ_ne_zero _ hreturned.2

/-- `Worker` blocks. -/
theorem notLost_block (h : Stored s) (hstep : step calls s .block = some t) :
    Stored t ∧ (NotLost calls t ↔ Heard calls s .block) := by
  simp only [step, Option.ite_none_right_eq_some, Option.some.injEq] at hstep
  obtain ⟨hchecked, rfl⟩ := hstep
  have hempty := h.checked hchecked
  refine ⟨⟨fun hw => (by cases hw), fun _ => Or.inl hempty⟩, ?_⟩
  constructor
  · rintro hlost ⟨hflag, hrx, hreturned⟩
    exact Bool.noConfusion (hflag.symm.trans (hlost.shutdown hrx hreturned rfl))
  · intro hheard
    refine ⟨fun _ _ => hempty, fun hrx hreturned _ => ?_⟩
    exact Bool.eq_false_iff.mpr fun hflag => hheard ⟨hflag, hrx, hreturned⟩

/-- **A step.** No data is stored while `Worker` has the lock, and every step but the block
itself keeps the property. -/
theorem step_notLost {e : Event α} (h : Stored s) (hgood : NotLost calls s)
    (hstep : step calls s e = some t) : Stored t ∧ (NotLost calls t ↔ Heard calls s e) := by
  cases e with
  | rxCheck response data =>
    obtain ⟨hstored, hlost⟩ := notLost_rxCheck h hgood hstep
    exact ⟨hstored, iff_of_true hlost trivial⟩
  | rxWrite call =>
    obtain ⟨hstored, hlost⟩ := notLost_rxWrite hstep
    exact ⟨hstored, iff_of_true hlost trivial⟩
  | rxNotify =>
    simp only [step, Option.ite_none_left_eq_some, Option.some.injEq] at hstep
    obtain ⟨-, rfl⟩ := hstep
    exact notLost_of_notify h trivial rfl rfl
  | shutdownStore =>
    simp only [step, Option.ite_none_left_eq_some, Option.some.injEq] at hstep
    obtain ⟨-, rfl⟩ := hstep
    -- the call that has set the flag is still to notify
    have hshutdown (hreturned : true = false ∧ s.returned = calls) : False :=
      Bool.noConfusion hreturned.1
    exact ⟨⟨h.checked, h.blocked⟩,
      iff_of_true ⟨hgood.data, fun _ hreturned => (hshutdown hreturned).elim⟩ trivial⟩
  | shutdownNotify =>
    simp only [step, Option.ite_none_right_eq_some, Option.some.injEq] at hstep
    obtain ⟨-, rfl⟩ := hstep
    exact notLost_of_notify h trivial rfl rfl
  | loopHead =>
    simp only [step, Option.ite_none_right_eq_some, Option.some.injEq] at hstep
    obtain ⟨-, rfl⟩ := hstep
    refine notLost_of_awake trivial ?_
    dsimp only
    split <;> exact ⟨Waiter.noConfusion, Waiter.noConfusion⟩
  | lock =>
    simp only [step, Option.ite_none_right_eq_some, Option.some.injEq] at hstep
    obtain ⟨-, rfl⟩ := hstep
    exact notLost_of_awake trivial ⟨Waiter.noConfusion, Waiter.noConfusion⟩
  | check =>
    simp only [step, Option.ite_none_right_eq_some, Option.some.injEq] at hstep
    obtain ⟨-, rfl⟩ := hstep
    by_cases hwaits : s.port.rxRingBuff.usedSize < 1 ∧ s.shutdownPending = false
    · rw [if_pos hwaits]
      exact ⟨⟨fun _ => (usedSize_lt_one_iff _).mp hwaits.1, fun hw => (by cases hw)⟩,
        iff_of_true (NotLost.of_awake Waiter.noConfusion) trivial⟩
    · rw [if_neg hwaits]
      exact notLost_of_awake trivial (afterWait_awake s.port)
  | block => exact notLost_block h hstep
  | spurious =>
    simp only [step, Option.ite_none_right_eq_some, Option.some.injEq] at hstep
    obtain ⟨-, rfl⟩ := hstep
    exact notLost_of_awake trivial ⟨Waiter.noConfusion, Waiter.noConfusion⟩
  | commit szToWrite =>
    simp only [step] at hstep
    cases hw : s.worker with
    | round tail =>
      simp only [hw, Option.ite_none_right_eq_some, Option.some.injEq] at hstep
      obtain ⟨-, rfl⟩ := hstep
      exact notLost_of_awake trivial ⟨Waiter.noConfusion, Waiter.noConfusion⟩
    | loopHead | toLock | locked | checked | blocked | ended => simp [hw] at hstep

/-- **When no wake-up is lost.** Along a run, `Worker` is never left blocked with data or with
the flag set exactly if it never blocks when the flag is set and all the calls have
returned. -/
theorem notLost_iff (calls : Nat) (port : PortWorker α size) (es : List (Event α))
    (s : State α size) (run : exec (step calls) (start port) es = some s) :
    (∀ fs v, fs <+: es → exec (step calls) (start port) fs = some v → NotLost calls v) ↔
      Along (step calls) (Heard calls) (start port) es :=
  reached_iff_along Stored (NotLost calls)
    (fun _ _ _ hstored hgood hstep => step_notLost hstored hgood hstep) (Stored.start port)
    (NotLost.of_awake Waiter.noConfusion) run

/-! ## A client with one port -/

/-- An idle port worker. -/
def idle : State UInt8 16 :=
  WakeUp.start (PortWorker.create (Deployment.avrPro false).config (Deployment.ring16 0))

def stateAfter (es : List (Event UInt8)) : State UInt8 16 := (exec (step 2) idle es).getD idle

/-- `Worker` looks, and finds nothing. -/
def looks : List (Event UInt8) := [.loopHead, .lock, .check]

instance [DecidableEq α] (calls : Nat) (s : State α size) :
    (e : Event α) → Decidable (Heard calls s e)
  | .block => inferInstanceAs (Decidable (¬ (s.shutdownPending = true ∧
    (s.arrived = [] ∧ s.toNotify = 0) ∧ s.notifying = false ∧ s.returned = calls)))
  | .rxCheck _ _ | .rxWrite _ | .rxNotify | .shutdownStore | .shutdownNotify | .loopHead | .lock
  | .check | .spurious | .commit _ => isTrue trivial

/-- A port worker with a client. -/
def withClient : State UInt8 16 :=
  WakeUp.start { PortWorker.create (Deployment.avrPro false).config (Deployment.ring16 0) with
    client := some 3 }

/-- `Worker` blocks at once. `ProcessRX` stores two bytes and wakes it up, and it writes them and
blocks again. `RequestShutdown` wakes it up, and it leaves its loop. -/
def shutsDown : List (Event UInt8) :=
  looks ++ [.block, .rxCheck ⟨.Data, 0, 2, 5⟩ [1, 2], .rxWrite 0, .rxNotify, .lock, .check,
    .commit 2] ++ looks ++ [.block, .shutdownStore, .shutdownNotify, .lock, .check, .loopHead,
    .shutdownStore, .shutdownNotify]

def afterShutsDown : State UInt8 16 := (exec (step 2) withClient shutsDown).getD withClient

theorem notLost_shutsDown : afterShutsDown.worker = .ended ∧
    ∀ fs v, fs <+: shutsDown → exec (step 2) withClient fs = some v → NotLost 2 v := by
  have hthrough : (exec (step 2) withClient shutsDown).isSome = true := by decide +kernel
  have hheard : Along (step 2) (Heard 2) withClient shutsDown := by decide +kernel
  exact ⟨by decide +kernel, (notLost_iff 2 _ shutsDown afterShutsDown
    (exec_eq_some_getD hthrough)).mpr hheard⟩

/-- Both calls of `OnShutdown` come after `Worker` has looked and before it blocks. -/
def bothBetween : List (Event UInt8) :=
  looks ++ [.shutdownStore, .shutdownNotify, .shutdownStore, .shutdownNotify, .block]

/-- `Worker` sleeps on, and `Shutdown` waits for it. -/
theorem shutdown_lost : exec (step 2) idle bothBetween = some (stateAfter bothBetween) ∧
    ¬ NotLost 2 (stateAfter bothBetween) := by
  refine ⟨exec_eq_some_getD (by decide), ?_⟩
  intro h
  exact Bool.noConfusion (h.shutdown ⟨rfl, rfl⟩ ⟨rfl, rfl⟩ rfl)

end UartBridge.WakeUp
