import UartBridge.Client.Timer
import UartBridge.Lib.Run

/-!
# The client's ticks

The time from the start of the timer's thread is cut into slots of one interval each. A round
sleeps, sends its tick, which may take any time, and reads the clock.

* `aimed` — a round wakes up in the next slot, or less than a microsecond before it;
* `tick_counters` — the ticks are numbered without a gap, past the wrap of the counter;
* `ticks_apart` — no two rounds end in one slot, also after a delay: the lost time is not made
  up for;
* `ticks_on_time` — while no round is late by a whole slot, tick `k` belongs to slot `k`, so the
  lag does not add up. Both rest on the microsecond that the handling of a tick takes at least.
-/

namespace UartBridge.Ticks

open EventRun Client

/-- A tick: its counter, and when it was sent and handled. -/
structure Tick where
  counter : UInt32
  sentAt : Nat
  doneAt : Nat
  deriving DecidableEq, Repr

/-- The timer, when its thread last read the clock, and the ticks so far. -/
structure State where
  timer : Timer
  now : Nat
  ticks : List Tick

inductive Event where
  /-- A round: the tick is sent at `sentAt`, and `SendMessage` returns at `doneAt`. -/
  | round (sentAt doneAt : Nat)
  | onShutdown
  deriving DecidableEq, Repr

def init (reqIntervalUsec now : Nat) : State :=
  { timer := Timer.start reqIntervalUsec now, now := now, ticks := [] }

/-- `sleep_for` sleeps for the interval at least. -/
def step (s : State) : Event → Option State
  | .round sentAt doneAt =>
    if s.timer.shutdownPending then none
    else if sentAt < s.now + s.timer.intervalUsec * Timer.nsecPerUsec ∨ doneAt < sentAt then none
    else some
      { timer := s.timer.tune doneAt, now := doneAt
        ticks := s.ticks ++ [⟨s.timer.nextCounter, sentAt, doneAt⟩] }
  | .onShutdown => some { s with timer := s.timer.onShutdown }

/-- The slot that a time is in. -/
def slot (t : Timer) (time : Nat) : Nat := (time - t.startTime) / t.reqInterval

/-- The slots in which the rounds ended. -/
def State.slots (s : State) : List Nat := s.ticks.map fun tick => slot s.timer tick.doneAt

/-- The handling of a tick, from the sending to the return of `SendMessage`, takes a microsecond at
least. -/
def TakesTime (_ : State) : Event → Prop
  | .round sentAt doneAt => sentAt + Timer.nsecPerUsec ≤ doneAt
  | .onShutdown => True

instance : ∀ s e, Decidable (TakesTime s e)
  | _, .round sentAt doneAt => inferInstanceAs (Decidable (sentAt + Timer.nsecPerUsec ≤ doneAt))
  | _, .onShutdown => isTrue trivial

/-- The handling takes a microsecond at least, and the round ends in the slot that its tick belongs
to. -/
def InTime (s : State) : Event → Prop
  | .round sentAt doneAt =>
    sentAt + Timer.nsecPerUsec ≤ doneAt ∧ slot s.timer doneAt ≤ slot s.timer s.now + 1
  | .onShutdown => True

instance : ∀ s e, Decidable (InTime s e)
  | s, .round sentAt doneAt =>
    inferInstanceAs (Decidable
      (sentAt + Timer.nsecPerUsec ≤ doneAt ∧ slot s.timer doneAt ≤ slot s.timer s.now + 1))
  | _, .onShutdown => isTrue trivial

variable {s t : State} {e : Event}

/-! ## One round -/

/-- A round sleeps up to the next slot, as far as microseconds go. -/
theorem aimed {timer : Timer} {now : Nat} (hpos : 0 < timer.reqInterval)
    (hstart : timer.startTime ≤ now) :
    now + (timer.tune now).intervalUsec * Timer.nsecPerUsec ≤
        timer.startTime + (slot timer now + 1) * timer.reqInterval ∧
      timer.startTime + (slot timer now + 1) * timer.reqInterval <
        now + (timer.tune now).intervalUsec * Timer.nsecPerUsec + Timer.nsecPerUsec := by
  have hdiv := Nat.div_add_mod (now - timer.startTime) timer.reqInterval
  have hlt := Nat.mod_lt (now - timer.startTime) hpos
  have hnext : (slot timer now + 1) * timer.reqInterval =
      timer.reqInterval * ((now - timer.startTime) / timer.reqInterval) + timer.reqInterval := by
    rw [slot, Nat.mul_comm, Nat.mul_succ]
  rw [hnext]
  simp only [Timer.tune, Timer.nsecPerUsec]
  omega

/-- What a step does: a round that is not too early, or a request to stop. -/
theorem step_cases (hstep : step s e = some t) :
    (∃ sentAt doneAt, e = .round sentAt doneAt ∧
      s.now + s.timer.intervalUsec * Timer.nsecPerUsec ≤ sentAt ∧ sentAt ≤ doneAt ∧
      t = { timer := s.timer.tune doneAt, now := doneAt
            ticks := s.ticks ++ [⟨s.timer.nextCounter, sentAt, doneAt⟩] }) ∨
    t = { s with timer := s.timer.onShutdown } := by
  cases e with
  | onShutdown => exact Or.inr (Option.some.inj hstep).symm
  | round sentAt doneAt =>
    simp only [step] at hstep
    split at hstep
    · cases hstep
    · split at hstep
      · cases hstep
      · exact Or.inl ⟨sentAt, doneAt, rfl, by omega, by omega, (Option.some.inj hstep).symm⟩

/-! ## Counters -/

/-- The ticks so far are numbered from 1. -/
def Numbered (s : State) : Prop :=
  s.timer.eventCounter = UInt32.ofNat s.ticks.length ∧
    s.ticks.map Tick.counter = (List.range s.ticks.length).map fun k => UInt32.ofNat (k + 1)

theorem numbered_step (h : Numbered s) (hstep : step s e = some t) : Numbered t := by
  rcases step_cases hstep with ⟨sentAt, doneAt, rfl, -, -, rfl⟩ | rfl
  · have hnext : s.timer.nextCounter = UInt32.ofNat (s.ticks.length + 1) := by
      rw [Timer.nextCounter, h.1, UInt32.ofNat_add]
      rfl
    refine ⟨?_, ?_⟩
    · rw [List.length_append]
      exact hnext
    · rw [List.map_append, h.2, List.length_append, List.length_singleton, List.range_succ,
        List.map_append, List.map_singleton, List.map_singleton, hnext]
  · exact h

/-- **Tick `k` carries `k`**, modulo 2^32, in every run. -/
theorem tick_counters (reqIntervalUsec now : Nat) (es : List Event) (s : State)
    (hrun : exec step (init reqIntervalUsec now) es = some s) :
    s.ticks.map Tick.counter = (List.range s.ticks.length).map fun k => UInt32.ofNat (k + 1) :=
  (exec_invariant Numbered (fun _ _ _ h hstep => numbered_step h hstep) ⟨rfl, rfl⟩ hrun).2

/-! ## Slots -/

/-- The timer keeps its slots, and the next round cannot wake up a microsecond before the slot
after the one in which the last round ended. -/
structure Aiming (reqIntervalUsec start : Nat) (s : State) : Prop where
  interval : s.timer.reqIntervalUsec = reqIntervalUsec
  startTime : s.timer.startTime = start
  started : start ≤ s.now
  wakesUp : start + (slot s.timer s.now + 1) * s.timer.reqInterval <
    s.now + s.timer.intervalUsec * Timer.nsecPerUsec + Timer.nsecPerUsec

theorem Aiming.init (reqIntervalUsec now : Nat) :
    Aiming reqIntervalUsec now (init reqIntervalUsec now) where
  interval := rfl
  startTime := rfl
  started := Nat.le_refl now
  wakesUp := by
    have hslot : slot (Ticks.init reqIntervalUsec now).timer now = 0 := by
      rw [slot]
      change (now - now) / _ = 0
      rw [Nat.sub_self, Nat.zero_div]
    change now + (slot (Ticks.init reqIntervalUsec now).timer now + 1) *
      (reqIntervalUsec * Timer.nsecPerUsec) < now + reqIntervalUsec * Timer.nsecPerUsec + 1000
    rw [hslot]
    omega

/-- A round keeps the slots. -/
theorem slot_tune (timer : Timer) (now time : Nat) : slot (timer.tune now) time = slot timer time :=
  rfl

theorem reqInterval_pos {reqIntervalUsec start : Nat} (h : Aiming reqIntervalUsec start s)
    (hpos : 0 < reqIntervalUsec) : 0 < s.timer.reqInterval := by
  rw [Timer.reqInterval, h.interval]
  exact Nat.mul_pos hpos (by decide)

theorem Aiming.step {reqIntervalUsec start : Nat} (h : Aiming reqIntervalUsec start s)
    (hpos : 0 < reqIntervalUsec) (hstep : step s e = some t) : Aiming reqIntervalUsec start t := by
  rcases step_cases hstep with ⟨sentAt, doneAt, rfl, hsent, hdone, rfl⟩ | rfl
  · have hstarted : start ≤ doneAt := by
      have := h.started
      omega
    have haimed := aimed (reqInterval_pos h hpos) (h.startTime.symm ▸ hstarted)
    rw [h.startTime] at haimed
    exact
      { interval := h.interval
        startTime := h.startTime
        started := hstarted
        wakesUp := haimed.2 }
  · exact { h with }

/-- **A round ends in a later slot** than the round before it. -/
theorem Aiming.later {reqIntervalUsec start sentAt doneAt : Nat}
    (h : Aiming reqIntervalUsec start s) (hpos : 0 < reqIntervalUsec)
    (hsent : s.now + s.timer.intervalUsec * Timer.nsecPerUsec ≤ sentAt)
    (htakes : sentAt + Timer.nsecPerUsec ≤ doneAt) : slot s.timer s.now < slot s.timer doneAt := by
  have hwakes := h.wakesUp
  have hend : (slot s.timer s.now + 1) * s.timer.reqInterval ≤ doneAt - s.timer.startTime := by
    rw [h.startTime]
    omega
  exact (Nat.le_div_iff_mul_le (reqInterval_pos h hpos)).mpr hend

theorem slots_round (s : State) (counter : UInt32) (sentAt doneAt : Nat) :
    State.slots
        { timer := s.timer.tune doneAt, now := doneAt
          ticks := s.ticks ++ [⟨counter, sentAt, doneAt⟩] } =
      s.slots ++ [slot s.timer doneAt] := by
  simp only [State.slots, List.map_append, List.map_singleton, slot_tune]

/-- The rounds so far ended in different slots, the last one in the slot of the clock. -/
structure Apart (reqIntervalUsec start : Nat) (s : State) : Prop
    extends Aiming reqIntervalUsec start s where
  sorted : (0 :: s.slots).Pairwise (· < ·)
  past : ∀ n ∈ 0 :: s.slots, n ≤ slot s.timer s.now
  enough : s.slots.length ≤ slot s.timer s.now

theorem Apart.step {reqIntervalUsec start : Nat} (h : Apart reqIntervalUsec start s)
    (hpos : 0 < reqIntervalUsec) (htakes : TakesTime s e) (hstep : step s e = some t) :
    Apart reqIntervalUsec start t := by
  have haiming := h.toAiming.step hpos hstep
  rcases step_cases hstep with ⟨sentAt, doneAt, rfl, hsent, hdone, rfl⟩ | rfl
  · have hlater := h.later hpos hsent htakes
    refine { haiming with sorted := ?_, past := ?_, enough := ?_ }
    · rw [slots_round, ← List.cons_append]
      refine List.pairwise_append.mpr ⟨h.sorted, List.pairwise_singleton _ _, ?_⟩
      intro n hn m hm
      rw [List.mem_singleton.mp hm]
      exact Nat.lt_of_le_of_lt (h.past n hn) hlater
    · rw [slots_round, ← List.cons_append]
      intro n hn
      rcases List.mem_append.mp hn with hn | hn
      · exact Nat.le_trans (h.past n hn) (Nat.le_of_lt hlater)
      · exact Nat.le_of_eq (List.mem_singleton.mp hn)
    · rw [slots_round, List.length_append, List.length_singleton]
      exact Nat.lt_of_le_of_lt h.enough hlater
  · exact { haiming with sorted := h.sorted, past := h.past, enough := h.enough }

/-- **Ticks stay apart.** If the handling of each tick takes a microsecond at least, no two rounds
end in one slot, however late a round is: so there are no more ticks than intervals have
passed. -/
theorem ticks_apart (reqIntervalUsec start : Nat) (hpos : 0 < reqIntervalUsec) (es : List Event)
    (s : State) (htakes : Along step TakesTime (init reqIntervalUsec start) es)
    (hrun : exec step (init reqIntervalUsec start) es = some s) :
    (0 :: s.slots).Pairwise (· < ·) ∧
      s.ticks.length * (reqIntervalUsec * Timer.nsecPerUsec) ≤ s.now - start := by
  have hinit : Apart reqIntervalUsec start (init reqIntervalUsec start) :=
    { Aiming.init reqIntervalUsec start with
      sorted := List.pairwise_singleton _ _
      past := fun n hn => List.mem_singleton.mp hn ▸ Nat.zero_le _
      enough := Nat.zero_le _ }
  have h := exec_invariant_along (Apart reqIntervalUsec start)
    (fun _ _ _ h htakes hstep => h.step hpos htakes hstep) hinit htakes hrun
  refine ⟨h.sorted, ?_⟩
  have henough := (Nat.le_div_iff_mul_le (reqInterval_pos h.toAiming hpos)).mp h.enough
  rw [State.slots, List.length_map, Timer.reqInterval, h.interval, h.startTime] at henough
  exact henough

/-- Each slot that is over, and the one that the clock is in, has its tick. -/
structure OnTime (reqIntervalUsec start : Nat) (s : State) : Prop
    extends Aiming reqIntervalUsec start s where
  slots : s.slots = List.range' 1 s.ticks.length
  current : slot s.timer s.now = s.ticks.length

theorem OnTime.step {reqIntervalUsec start : Nat} (h : OnTime reqIntervalUsec start s)
    (hpos : 0 < reqIntervalUsec) (hin : InTime s e) (hstep : step s e = some t) :
    OnTime reqIntervalUsec start t := by
  have haiming := h.toAiming.step hpos hstep
  rcases step_cases hstep with ⟨sentAt, doneAt, rfl, hsent, hdone, rfl⟩ | rfl
  · have hlater := h.later hpos hsent hin.1
    have hslot : slot s.timer doneAt = s.ticks.length + 1 := by
      rw [← h.current]
      exact Nat.le_antisymm hin.2 hlater
    refine { haiming with slots := ?_, current := ?_ }
    · rw [slots_round, hslot, h.slots, List.length_append, List.length_singleton,
        List.range'_1_concat, Nat.add_comm 1]
    · rw [List.length_append, List.length_singleton]
      exact hslot
  · exact { haiming with slots := h.slots, current := h.current }

/-- **Ticks are on time.** While the handling of each tick takes a microsecond at least and no
round is late by a whole slot, tick `k` carries `k` modulo 2^32 and its round ends in slot `k`, so
what the rounds lag behind does not add up. -/
theorem ticks_on_time (reqIntervalUsec start : Nat) (hpos : 0 < reqIntervalUsec) (es : List Event)
    (s : State) (hin : Along step InTime (init reqIntervalUsec start) es)
    (hrun : exec step (init reqIntervalUsec start) es = some s) :
    s.ticks.map Tick.counter = s.slots.map UInt32.ofNat ∧
      s.slots = List.range' 1 ((s.now - start) / (reqIntervalUsec * Timer.nsecPerUsec)) := by
  have hinit : OnTime reqIntervalUsec start (init reqIntervalUsec start) :=
    { Aiming.init reqIntervalUsec start with
      slots := rfl
      current := by
        change (start - start) / _ = 0
        rw [Nat.sub_self, Nat.zero_div] }
  have h := exec_invariant_along (OnTime reqIntervalUsec start)
    (fun _ _ _ h hin hstep => h.step hpos hin hstep) hinit hin hrun
  have hcurrent := h.current
  rw [slot, Timer.reqInterval, h.interval, h.startTime] at hcurrent
  refine ⟨?_, by rw [hcurrent, h.slots]⟩
  rw [tick_counters reqIntervalUsec start es s hrun, h.slots, List.range'_eq_map_range,
    List.map_map]
  congr 1
  funext k
  rw [Function.comp_apply, Nat.add_comm]

/-- Three rounds at one millisecond; the second is late by two slots, which get no tick. -/
theorem ticks_apart_late :
    (exec step (init 1000 0)
        [.round 1000000 1001000, .round 2000000 4500000, .round 5000000 5100000]).map
        State.slots = some [1, 4, 5] ∧
      3 * (1000 * Timer.nsecPerUsec) ≤ 5100000 := by
  have hrun := exec_eq_some_getD (d := init 1000 0)
    (show (exec step (init 1000 0)
      [.round 1000000 1001000, .round 2000000 4500000, .round 5000000 5100000]).isSome = true from
        by decide)
  exact ⟨by decide, (ticks_apart 1000 0 (by decide) _ _ (by decide) hrun).2⟩

/-- Two rounds in time. -/
theorem ticks_on_time_twice :
    ((exec step (init 1000 0) [.round 1000000 1001000, .round 2000000 2900000]).getD
        (init 1000 0)).slots = [1, 2] := by
  have hrun := exec_eq_some_getD (d := init 1000 0)
    (show (exec step (init 1000 0)
      [.round 1000000 1001000, .round 2000000 2900000]).isSome = true from by decide)
  exact (ticks_on_time 1000 0 (by decide) _ _ (by decide) hrun).2

-- The sleep is rounded down to microseconds: a tick handled in less than one leaves its round in
-- the slot that already had it.
example : (exec step (init 1000 0) [.round 1000000 1000500, .round 1999500 1999900]).map
    State.slots = some [1, 1] := by decide

end UartBridge.Ticks
