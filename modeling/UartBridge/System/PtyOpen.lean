import UartBridge.Lib.Run
import UartBridge.Client.PTYListener

/-!
# When does the listener announce a client?

The events on the slave end come to the listener in batches, and it decides by the
number of handles that are open after a batch. Beside the listener stands that
number as the events make it, and a record of the rounds.

* `exists_raise` — a count that comes to be positive passes from 0 to 1 on the way;
* `announces_iff` — for which batches the decision is right.
-/

namespace UartBridge.PtyOpen

open EventRun Client

/-! ## The handles -/

/-- What happens to a handle of the slave end. -/
inductive Handle where
  | opened | closed
  deriving DecidableEq, Repr

def Handle.count (n : Int) : Handle → Int
  | .opened => n + 1
  | .closed => n - 1

/-- The number of open handles after some events. -/
def countAfter (n : Int) (events : List Handle) : Int := events.foldl Handle.count n

/-- What an event of the watch says, by its mask. -/
def handles (mask : UInt32) : List Handle :=
  (if mask &&& inOpen ≠ 0 then [.opened] else []) ++
    (if mask &&& inClose ≠ 0 then [.closed] else [])

theorem countAfter_append (n : Int) (events later : List Handle) :
    countAfter n (events ++ later) = countAfter (countAfter n events) later :=
  List.foldl_append

/-- The listener counts the handles. -/
theorem foldl_countEvent (n : Int) (masks : List UInt32) :
    masks.foldl PTYListener.countEvent n = countAfter n (masks.flatMap handles) := by
  induction masks generalizing n with
  | nil => rfl
  | cons mask masks ih =>
    have hhead : PTYListener.countEvent n mask = countAfter n (handles mask) := by
      unfold PTYListener.countEvent handles
      dsimp only
      split <;> split <;> rfl
    rw [List.foldl_cons, List.flatMap_cons, countAfter_append, ih, hhead]

/-- **A count that comes to be positive passes from 0 to 1**, as each event changes it by
one. -/
theorem exists_raise {n : Int} {events : List Handle} (hstart : n ≤ 0)
    (hafter : 1 ≤ countAfter n events) :
    ∃ k, events[k]? = some .opened ∧ countAfter n (events.take k) = 0 := by
  induction events generalizing n with
  | nil => exact absurd (Int.le_trans hafter hstart) (by decide)
  | cons e events ih =>
    by_cases hnow : e = .opened ∧ n = 0
    · obtain ⟨rfl, rfl⟩ := hnow
      exact ⟨0, rfl, rfl⟩
    · have hnext : e.count n ≤ 0 := by
        cases e with
        | opened =>
          have hne : n ≠ 0 := fun hzero => hnow ⟨rfl, hzero⟩
          simp only [Handle.count]
          omega
        | closed =>
          simp only [Handle.count]
          omega
      obtain ⟨k, hopened, hzero⟩ := ih hnext hafter
      exact ⟨k + 1, hopened, hzero⟩

/-! ## The rounds -/

/-- A round of the listener's loop: the handles open before it, the events read in it,
whether these were all there were, and whether a `PortOpenMessage` was sent after it. -/
structure Round where
  before : Int
  events : List Handle
  complete : Bool
  sent : Bool
  deriving DecidableEq, Repr

structure State where
  listener : PTYListener
  openHandles : Int
  log : List Round

def init : State := { listener := .start, openHandles := 0, log := [] }

inductive Event where
  | poll (result : WatchResult)
  | shutdown

/-- The events read in a round. -/
def eventsRead : WatchResult → List Handle
  | .readable masks _ => masks.flatMap handles
  | .failed _ | .hangup | .timeout => []

/-- A batch, as `read` ends it without an error. -/
def isBatch : WatchResult → Bool
  | .readable _ errno => errno = .EAGAIN
  | .failed _ | .hangup | .timeout => false

/-- One round; there is none after the loop was left. -/
def step (portID : Nat) (s : State) : Event → Option State
  | .shutdown => some { s with listener := s.listener.onShutdown }
  | .poll result =>
    if s.listener.shutdownPending || s.listener.left then none
    else
      let r := s.listener.round portID result
      some { listener := r.1
             openHandles := countAfter s.openHandles (eventsRead result)
             log := s.log ++ [{ before := s.openHandles, events := eventsRead result
                                complete := isBatch result
                                sent := r.2.contains (.portOpen portID) }] }

/-- **The property of a round.** A client is announced only if an event of the round raised
the number of open handles from 0 to 1, and after each batch that took it from 0 to a positive
value. -/
structure Announces (r : Round) : Prop where
  not_spurious : r.sent = true → ∃ k, r.events[k]? = some .opened ∧
    countAfter r.before (r.events.take k) = 0
  not_missing : r.complete = true → r.before = 0 → 0 < countAfter r.before r.events →
    r.sent = true

/-- The batches for which the number of handles after the batch says enough. From none, it
ends with one handle at most; and if some were open before and one is open after it, none was
in between. -/
def Clear (before : Int) (events : List Handle) : Prop :=
  (before = 0 → countAfter before events ≤ 1) ∧
    (1 ≤ before → countAfter before events = 1 →
      ∃ k, k ≤ events.length ∧ countAfter before (events.take k) ≤ 0)

/-- What the step does with the handles is as `Clear` says, if it is a batch. -/
def ClearStep (s : State) : Event → Prop
  | .shutdown => True
  | .poll result => isBatch result = true → Clear s.openHandles (eventsRead result)

/-! ## Right decisions -/

/-- What `Worker` decides. -/
theorem round_sent (portID : Nat) (result : WatchResult) (s : PTYListener) :
    (s.round portID result).2.contains (.portOpen portID) = true ↔
      isBatch result = true ∧ countAfter s.openCount (eventsRead result) = 1 := by
  cases result with
  | failed errno =>
    unfold PTYListener.round isBatch
    dsimp only
    split <;> simp
  | hangup | timeout => simp [PTYListener.round, isBatch]
  | readable masks errno =>
    unfold PTYListener.round isBatch eventsRead
    dsimp only
    rw [← foldl_countEvent]
    by_cases hlast : errno = .EAGAIN
    · rw [if_neg (not_not.mpr hlast)]
      split
      · rename_i hone
        simp [hlast, hone]
      · rename_i hother
        simp [hlast, hother]
    · rw [if_pos hlast]
      simp [hlast]

theorem round_openCount (portID : Nat) (result : WatchResult) (s : PTYListener) :
    (s.round portID result).1.openCount = countAfter s.openCount (eventsRead result) := by
  cases result with
  | failed errno =>
    unfold PTYListener.round
    dsimp only
    split <;> rfl
  | hangup | timeout => rfl
  | readable masks errno =>
    unfold PTYListener.round eventsRead
    dsimp only
    rw [← foldl_countEvent]
    split
    · rfl
    · split <;> rfl

/-- **When a decision is right.** -/
theorem announces_round_iff {r : Round}
    (hsent : r.sent = true ↔ r.complete = true ∧ countAfter r.before r.events = 1) :
    Announces r ↔ (r.complete = true → Clear r.before r.events) := by
  constructor
  · intro h hcomplete
    refine ⟨?_, ?_⟩
    · intro hzero
      by_contra hmore
      have hpos : 0 < countAfter r.before r.events := by omega
      have hone := (hsent.mp (h.not_missing hcomplete hzero hpos)).2
      omega
    · intro _ hone
      obtain ⟨k, hopened, hnone⟩ := h.not_spurious (hsent.mpr ⟨hcomplete, hone⟩)
      have hk : k < r.events.length := (List.getElem?_eq_some_iff.mp hopened).1
      exact ⟨k, Nat.le_of_lt hk, Int.le_of_eq hnone⟩
  · intro h
    refine ⟨?_, ?_⟩
    · intro hsaid
      obtain ⟨hcomplete, hone⟩ := hsent.mp hsaid
      by_cases hbefore : r.before ≤ 0
      · exact exists_raise hbefore (Int.le_of_eq hone.symm)
      · -- some were open: look behind the point at which none was
        obtain ⟨k, hk, hnone⟩ := (h hcomplete).2 (by omega) hone
        have hrest : countAfter (countAfter r.before (r.events.take k)) (r.events.drop k) = 1 := by
          rw [← countAfter_append, List.take_append_drop, hone]
        obtain ⟨j, hopened, hzero⟩ := exists_raise hnone (Int.le_of_eq hrest.symm)
        refine ⟨k + j, ?_, ?_⟩
        · rw [List.getElem?_drop] at hopened
          exact hopened
        · rw [List.take_add, countAfter_append, hzero]
    · intro hcomplete hzero hpos
      have hle := (h hcomplete).1 hzero
      exact hsent.mpr ⟨hcomplete, by omega⟩

variable {portID : Nat} {s t : State}

/-- **A round.** The listener's count is the number of open handles, and its decision is
right exactly if the batch is as `Clear` says. -/
theorem round_step {e : Event} (hcount : s.listener.openCount = s.openHandles)
    (hstep : step portID s e = some t) :
    t.listener.openCount = t.openHandles ∧
      ((∀ r ∈ t.log, Announces r) ↔ (∀ r ∈ s.log, Announces r) ∧ ClearStep s e) := by
  cases e with
  | shutdown =>
    obtain rfl := Option.some.inj hstep
    exact ⟨hcount, (and_iff_left trivial).symm⟩
  | poll result =>
    unfold step at hstep
    dsimp only at hstep
    split at hstep
    · cases hstep
    · obtain rfl := Option.some.inj hstep
      refine ⟨(round_openCount portID result s.listener).trans (by rw [hcount]), ?_⟩
      have hsent := round_sent portID result s.listener
      rw [hcount] at hsent
      rw [List.forall_mem_append, List.forall_mem_singleton, announces_round_iff hsent]
      exact Iff.rfl

/-- **When clients are announced as they come.** In a run, every announcement is right and
none is missing exactly if all its batches are as `Clear` says. -/
theorem announces_iff (portID : Nat) (es : List Event) (s : State)
    (run : exec (step portID) init es = some s) :
    (∀ r ∈ s.log, Announces r) ↔ Along (step portID) ClearStep init es := by
  have h := exec_iff_along (fun s => s.listener.openCount = s.openHandles)
    (fun s => ∀ r ∈ s.log, Announces r) (P := ClearStep) (Q := fun _ _ => True)
    (fun _ _ _ hcount _ hstep => round_step hcount hstep) rfl
    (Along.of_forall (fun _ _ => trivial) init es) run
  exact h.trans (and_iff_right fun r hr => absurd hr List.not_mem_nil)

/-! ## Batches of one event -/

/-- A batch with one event. -/
def single (mask : UInt32) : Event := .poll (.readable [mask] .EAGAIN)

def stateAfter (es : List Event) : State := (exec (step 0) init es).getD init

/-- A client comes and goes, and another one comes. -/
def oneAfterTheOther : List Event := [single inOpen, single 0x10, single inOpen]

theorem announces_oneAfterTheOther : (stateAfter oneAfterTheOther).log.map (·.sent) =
      [true, false, true] ∧
    ∀ r ∈ (stateAfter oneAfterTheOther).log, Announces r := by
  refine ⟨by decide, (announces_iff 0 oneAfterTheOther (stateAfter oneAfterTheOther)
    (exec_eq_some_getD (by decide))).mpr ?_⟩
  refine Along.cons (fun _ => ⟨by decide, by decide⟩) rfl ?_
  refine Along.cons (fun _ => ⟨by decide, by decide⟩) rfl ?_
  exact Along.cons (fun _ => ⟨by decide, by decide⟩) rfl trivial

/-- Two clients, and one of them leaves. -/
def secondLeaves : List Event := [single inOpen, single inOpen, single 0x10]

/-- The client that stays is announced again. -/
theorem announced_again : exec (step 0) init secondLeaves = some (stateAfter secondLeaves) ∧
    ¬ ∀ r ∈ (stateAfter secondLeaves).log, Announces r := by
  refine ⟨exec_eq_some_getD (by decide), ?_⟩
  intro h
  have hlast := h { before := 2, events := [.closed], complete := true, sent := true } (by decide)
  obtain ⟨k, hopened, -⟩ := hlast.not_spurious rfl
  cases k with
  | zero => cases hopened
  | succ k => cases hopened

end UartBridge.PtyOpen
