import UartBridge.Lib.Run
import UartBridge.Client.DataProcessor
import UartBridge.System.PassLink

/-!
# The firmware's poll timer

`micros()` is the true time modulo `2^32`, and so are the check point and the
difference that `Update` compares with the interval. The times here are unbounded.

* `loop_pollTimer` — what a pass of the loop does to the poll timer: its turn of
  `Update` and `Next`, after the intervals that events and packages set;
* `update_iff` — while the lag is below `2^32`, `Update` compares the true times;
* `drift_free` — over every run the check points are the multiples of the interval;
* `interval_of_equal_bytes` — a value that is read right, because its bytes 2 and 3 are equal;
* `interval_iff` — the interval that the loop takes from a package, against the one that the
  client has put into it.
-/

namespace UartBridge.PollTimer

open EventRun Client Firmware

/-- What `micros()` returns at a true time. -/
def micros (t : Nat) : UInt32 := UInt32.ofNat t

/-- The poll timer's turn in a pass: `Next` if `Update` says so. -/
def turn (now : UInt32) (timer : IntervalTimer) : IntervalTimer :=
  if timer.update now then timer.next else timer

@[simp] theorem turn_interval (now : UInt32) (timer : IntervalTimer) :
    (turn now timer).interval = timer.interval := by
  unfold turn
  split <;> rfl

/-! ## The poll timer in a pass -/

section Pass

variable {size : Nat} (cfg : Configuration) (input : LoopInput) (s : MainLoop size)

theorem transmit_pollTimer : (s.transmit cfg input).1.pollTimer = s.pollTimer := by
  unfold MainLoop.transmit
  dsimp only
  split
  · rfl
  · split <;> rfl

/-- The poll. -/
theorem pollUARTs_pollTimer :
    (s.pollUARTs cfg input).1.pollTimer = turn input.micros s.pollTimer := by
  unfold MainLoop.pollUARTs turn
  cases hdue : s.pollTimer.update input.micros with
  | false => rfl
  | true =>
    simp only [Bool.not_true, Bool.false_eq_true, if_false, if_true]
    split
    · split
      · rfl
      · exact transmit_pollTimer cfg input _
    · exact transmit_pollTimer cfg input _

variable {cfg input s} {p : Pass size}

/-- **The poll timer in a pass.** `Update` and `Next` come last. -/
theorem loop_pollTimer (hp : s.loop cfg input = some p) :
    p.state.pollTimer = turn input.micros (beforePoll cfg input s).pollTimer := by
  rw [(loop_poll hp).1]
  exact pollUARTs_pollTimer cfg input _

/-- A pass that comes to a new request is one without a connect or disconnect. -/
theorem receive_newRequest {data : NewRequestData}
    (hevent : (s.receive cfg input).2.1 = .NewRequest data) :
    (s.receive cfg input).1.pollTimer = s.pollTimer ∧
      (s.receive cfg input).1.pollIntervalSetPending = s.pollIntervalSetPending := by
  unfold MainLoop.receive at hevent ⊢
  generalize TCPServer.processRX cfg.packageSize cfg.metaSz input.tcp input.millis
    { server := s.tcpServer, rxBuff := s.rxBuff, alarmTimer := s.alarmTimer } = r at hevent ⊢
  dsimp only at hevent ⊢
  cases hcontrol : r.2.1 with
  | Connected | Disconnected =>
    -- the UDP server returns these events as they are
    rw [hcontrol] at hevent
    cases hevent
  | NoEvent | NewRequest => exact ⟨rfl, rfl⟩

/-- The timer when the first package of a connection has been handled. -/
theorem beforePoll_interval {data : NewRequestData}
    (hevent : (s.receive cfg input).2.1 = .NewRequest data)
    (hpending : s.pollIntervalSetPending = true) :
    (beforePoll cfg input s).pollTimer.interval =
      if 0 < MainLoop.pollInterval cfg (s.receive cfg input).1.rxBuff then
        MainLoop.pollInterval cfg (s.receive cfg input).1.rxBuff
      else s.pollTimer.interval := by
  obtain ⟨htimer, hflag⟩ := receive_newRequest hevent
  unfold beforePoll
  dsimp only
  rw [hevent]
  simp only [MainLoop.handle, MainLoop.takeCounter, hflag, hpending, if_true, htimer]
  split
  · rename_i hpos
    simp only [IntervalTimer.setInterval, if_pos hpos]
  · rfl

end Pass

/-! ## Deadlines -/

/-- `polls`: the times of the passes in which `Next` was called. -/
structure State where
  timer : IntervalTimer
  polls : List Nat
  now : Nat

/-- The interval is set at `setAt`, whatever the timer was before. -/
def start (interval : UInt32) (setAt : Nat) (before : IntervalTimer) : State :=
  { timer := before.setInterval interval (micros setAt), polls := [], now := setAt }

/-- A pass at a later time. -/
def step (s : State) (t : Nat) : Option State :=
  if t < s.now then none
  else
    some {
      timer := turn (micros t) s.timer
      polls := if s.timer.update (micros t) then s.polls ++ [t] else s.polls
      now := t }

/-- The deadline after `k` polls. -/
def deadline (interval : UInt32) (setAt k : Nat) : Nat := setAt + k * interval.toNat

/-- The lag behind the deadline served last is below `2^32`. -/
def InTime (interval : UInt32) (setAt : Nat) (s : State) (t : Nat) : Prop :=
  t < deadline interval setAt s.polls.length + 0x100000000

instance (interval : UInt32) (setAt : Nat) (s : State) (t : Nat) :
    Decidable (InTime interval setAt s t) :=
  inferInstanceAs (Decidable (t < _))

/-- The timer is on time: its check point is the deadline served last, and no poll came
before its own deadline. -/
structure OnTime (interval : UInt32) (setAt : Nat) (s : State) : Prop where
  interval_eq : s.timer.interval = interval
  checkPoint_eq : s.timer.checkPoint = micros (deadline interval setAt s.polls.length)
  reached : deadline interval setAt s.polls.length ≤ s.now
  not_early : ∀ k t, s.polls[k]? = some t → deadline interval setAt (k + 1) ≤ t

variable {interval : UInt32} {setAt : Nat} {s s' : State} {t : Nat}

theorem deadline_succ (interval : UInt32) (setAt k : Nat) :
    deadline interval setAt (k + 1) = deadline interval setAt k + interval.toNat := by
  unfold deadline
  rw [Nat.succ_mul, Nat.add_assoc]

/-- The wrapped difference of two times less than `2^32` apart. -/
theorem toNat_micros_sub {c t : Nat} (hle : c ≤ t) (hlt : t < c + 0x100000000) :
    (micros t - micros c).toNat = t - c := by
  unfold micros
  rw [UInt32.toNat_sub, UInt32.toNat_ofNat', UInt32.toNat_ofNat']
  omega

/-- Consecutive check points wrap like the times. -/
theorem micros_add (c : Nat) (interval : UInt32) :
    micros c + interval = micros (c + interval.toNat) := by
  apply UInt32.toNat_inj.mp
  unfold micros
  rw [UInt32.toNat_add, UInt32.toNat_ofNat', UInt32.toNat_ofNat']
  omega

/-- **`Update` compares the true times.** -/
theorem OnTime.update_iff (h : OnTime interval setAt s) (hnow : s.now ≤ t)
    (hlag : InTime interval setAt s t) :
    s.timer.update (micros t) = true ↔ deadline interval setAt (s.polls.length + 1) ≤ t := by
  have hreached := Nat.le_trans h.reached hnow
  unfold IntervalTimer.update
  rw [h.interval_eq, h.checkPoint_eq, decide_eq_true_iff, UInt32.le_iff_toNat_le,
    toNat_micros_sub hreached hlag, deadline_succ]
  omega

/-- **One pass**: a due deadline is served, one at a time. -/
theorem OnTime.step (h : OnTime interval setAt s) (hlag : InTime interval setAt s t)
    (hstep : step s t = some s') : OnTime interval setAt s' := by
  unfold PollTimer.step at hstep
  split at hstep
  · cases hstep
  · rename_i hnow
    rw [Option.some.injEq] at hstep
    subst hstep
    have hiff := h.update_iff (Nat.not_lt.mp hnow) hlag
    have hinterval := (turn_interval (micros t) s.timer).trans h.interval_eq
    by_cases hdue : s.timer.update (micros t) = true
    · have hdeadline := hiff.mp hdue
      have hturn : turn (micros t) s.timer = s.timer.next := if_pos hdue
      refine ⟨hinterval, ?_, ?_, ?_⟩
      · simp only [hturn, if_pos hdue, IntervalTimer.next, h.checkPoint_eq, h.interval_eq,
          List.length_append, List.length_singleton, deadline_succ, micros_add]
      · simpa only [if_pos hdue, List.length_append, List.length_singleton] using hdeadline
      · intro k u hu
        simp only [if_pos hdue] at hu
        rcases Nat.lt_or_ge k s.polls.length with hlt | hge
        · rw [List.getElem?_append_left hlt] at hu
          exact h.not_early k u hu
        · rw [List.getElem?_append_right hge] at hu
          obtain ⟨hzero, hlast⟩ := List.getElem?_eq_some_iff.mp hu
          rw [List.length_singleton] at hzero
          rw [List.getElem_singleton] at hlast
          rwa [← hlast, show k = s.polls.length by omega]
    · have hturn : turn (micros t) s.timer = s.timer := if_neg hdue
      refine ⟨hinterval, ?_, ?_, ?_⟩
      · simpa only [hturn, if_neg hdue] using h.checkPoint_eq
      · simpa only [if_neg hdue] using Nat.le_trans h.reached (Nat.not_lt.mp hnow)
      · simpa only [if_neg hdue] using h.not_early

theorem OnTime.start (hpos : 0 < interval) (setAt : Nat) (before : IntervalTimer) :
    OnTime interval setAt (start interval setAt before) := by
  refine ⟨if_pos hpos, ?_, ?_, fun k t ht => by cases ht⟩
  · show micros setAt = micros (setAt + 0 * interval.toNat)
    rw [Nat.zero_mul, Nat.add_zero]
  · show setAt + 0 * interval.toNat ≤ setAt
    rw [Nat.zero_mul]
    exact Nat.le_refl _

/-- **No drift.** After every run whose passes were in time, `k` polls have brought the check
point to the deadline `k`; none of them was early; and the next pass polls exactly if the next
deadline has come, one deadline a pass. -/
theorem drift_free (interval : UInt32) (hpos : 0 < interval) (setAt : Nat)
    (before : IntervalTimer) (ts : List Nat)
    (inTime : Along step (InTime interval setAt) (start interval setAt before) ts) (s : State)
    (run : exec step (start interval setAt before) ts = some s) :
    s.timer.checkPoint = micros (setAt + s.polls.length * interval.toNat) ∧
      (∀ k t, s.polls[k]? = some t → setAt + (k + 1) * interval.toNat ≤ t) ∧
      ∀ t, s.now ≤ t → InTime interval setAt s t →
        (s.timer.update (micros t) = true ↔
          setAt + (s.polls.length + 1) * interval.toNat ≤ t) := by
  have h := exec_invariant_along (OnTime interval setAt)
    (fun _ _ _ h hlag hstep => h.step hlag hstep) (OnTime.start hpos setAt before) inTime run
  exact ⟨h.checkPoint_eq, h.not_early, fun t hnow hlag => h.update_iff hnow hlag⟩

/-- An interval set shortly before the wrap of `micros()`, and passes behind it, one of them
two intervals late. -/
theorem drift_free_wraps :
    (exec step (start 4096 0xFFFFF800 { checkPoint := 0, interval := 1 })
        [0xFFFFFFFF, 0x100000800, 0x100003000, 0x100003001]).map (·.polls) =
      some [0x100000800, 0x100003000, 0x100003001] ∧
    ∀ s, exec step (start 4096 0xFFFFF800 { checkPoint := 0, interval := 1 })
        [0xFFFFFFFF, 0x100000800, 0x100003000, 0x100003001] = some s →
      s.timer.checkPoint = micros (0xFFFFF800 + s.polls.length * 4096) := by
  refine ⟨by decide, ?_⟩
  intro s run
  exact (drift_free 4096 (by decide) 0xFFFFF800 _ _ (by decide) s run).1

/-! ## The interval of a package -/

/-- The field as the loop reads it: its highest byte is that of the place below. -/
def topFromBelow (v : UInt32) : Nat := v.toNat % 0x1000000 + v.toNat / 0x10000 % 0x100 * 0x1000000

/-- The interval that a value is meant to set: its share of a response, or none. -/
def meant (cfg : Configuration) (v old : UInt32) : UInt32 :=
  if 0 < v.toNat / cfg.ioAggregateMultiplier then UInt32.ofNat (v.toNat / cfg.ioAggregateMultiplier)
  else old

/-- Nothing is misread of a value with equal bytes 2 and 3. -/
theorem topFromBelow_eq_iff (v : UInt32) :
    topFromBelow v = v.toNat ↔ v.toNat / 0x1000000 = v.toNat / 0x10000 % 0x100 := by
  have hlt := v.toNat_lt
  unfold topFromBelow
  omega

theorem topFromBelow_lt (v : UInt32) : topFromBelow v < 0x100000000 := by
  unfold topFromBelow
  omega

/-- What the loop reads of a value that the client has written. -/
theorem toNat_intervalField {rxBuff txBuff : Nat → UInt8} {v : UInt32}
    (hpackage : ByteMem.read rxBuff Configuration.pkgCntOffset 4 =
      ByteMem.read (Client.writeU32Value v Client.pkgCntOffset txBuff) Client.pkgCntOffset 4) :
    (MainLoop.intervalField rxBuff).toNat = topFromBelow v := by
  have hwritten : ByteMem.read (Client.writeU32Value v Client.pkgCntOffset txBuff)
      Client.pkgCntOffset 4 = ByteMem.encode32 v := ByteMem.read_write_same _ _ _
  rw [hwritten] at hpackage
  obtain ⟨h0, h1, h2, -⟩ : rxBuff Configuration.pkgCntOffset = v.toUInt8 ∧
      rxBuff (Configuration.pkgCntOffset + 1) = (v >>> 8).toUInt8 ∧
      rxBuff (Configuration.pkgCntOffset + 2) = (v >>> 16).toUInt8 ∧
      rxBuff (Configuration.pkgCntOffset + 3) = (v >>> 24).toUInt8 := by
    simpa [ByteMem.read, ByteMem.encode32, List.range_succ] using hpackage
  have hbyte (k : Nat) (hk : k < 32) :
      (v >>> UInt32.ofNat k).toUInt8.toNat = v.toNat / 2 ^ k % 0x100 := by
    rw [UInt32.toNat_toUInt8, UInt32.toNat_shiftRight, UInt32.toNat_ofNat',
      Nat.mod_eq_of_lt (by omega : k < 2 ^ 32), Nat.mod_eq_of_lt hk, Nat.shiftRight_eq_div_pow]
  have h8 := hbyte 8 (by omega)
  have h16 := hbyte 16 (by omega)
  unfold MainLoop.intervalField topFromBelow
  rw [ByteMem.toNat_decode32, h0, h1, h2, UInt32.toNat_toUInt8,
    show (8 : UInt32) = UInt32.ofNat 8 from rfl, h8,
    show (16 : UInt32) = UInt32.ofNat 16 from rfl, h16]
  omega

/-- What the loop makes of it. -/
theorem toNat_pollInterval (cfg : Configuration) {rxBuff txBuff : Nat → UInt8} {v : UInt32}
    (hpackage : ByteMem.read rxBuff Configuration.pkgCntOffset 4 =
      ByteMem.read (Client.writeU32Value v Client.pkgCntOffset txBuff) Client.pkgCntOffset 4) :
    (MainLoop.pollInterval cfg rxBuff).toNat = topFromBelow v / cfg.ioAggregateMultiplier := by
  have hle := Nat.div_le_self (topFromBelow v) cfg.ioAggregateMultiplier
  have hlt := topFromBelow_lt v
  rw [MainLoop.pollInterval, toNat_intervalField hpackage, UInt32.toNat_ofNat']
  exact Nat.mod_eq_of_lt (by omega)

section Interval

variable {size : Nat}

/-- What the timer's interval is after the pass that consumes the package. -/
theorem loop_interval {cfg : Configuration} {input : LoopInput} {s : MainLoop size}
    {p : Pass size} {data : NewRequestData} (hp : s.loop cfg input = some p)
    (hevent : p.event = .NewRequest data) (hpending : s.pollIntervalSetPending = true) :
    p.state.pollTimer.interval = if 0 < MainLoop.pollInterval cfg p.state.rxBuff then
      MainLoop.pollInterval cfg p.state.rxBuff else s.pollTimer.interval := by
  have hreceived : (s.receive cfg input).2.1 = .NewRequest data :=
    (loop_event hp).1.symm.trans hevent
  rw [loop_pollTimer hp, turn_interval, beforePoll_interval hreceived hpending, loop_rxBuff hp]

/-- If the bytes 2 and 3 of the value are equal, the interval is the client's, divided. -/
theorem interval_of_equal_bytes {cfg : Configuration} {input : LoopInput} {s : MainLoop size}
    {p : Pass size} {data : NewRequestData} (hp : s.loop cfg input = some p)
    (hevent : p.event = .NewRequest data) (hpending : s.pollIntervalSetPending = true)
    {v : UInt32} {txBuff : Nat → UInt8}
    (hpackage : ByteMem.read p.state.rxBuff Configuration.pkgCntOffset 4 =
      ByteMem.read (Client.writeU32Value v Client.pkgCntOffset txBuff) Client.pkgCntOffset 4)
    (hbytes : v.toNat / 0x1000000 = v.toNat / 0x10000 % 0x100) :
    p.state.pollTimer.interval = meant cfg v s.pollTimer.interval := by
  have hfield : (MainLoop.pollInterval cfg p.state.rxBuff).toNat =
      v.toNat / cfg.ioAggregateMultiplier := by
    rw [toNat_pollInterval cfg hpackage, (topFromBelow_eq_iff v).mpr hbytes]
  have hshare : MainLoop.pollInterval cfg p.state.rxBuff =
      UInt32.ofNat (v.toNat / cfg.ioAggregateMultiplier) := by
    rw [← hfield, UInt32.ofNat_toNat]
  have hset : 0 < MainLoop.pollInterval cfg p.state.rxBuff ↔
      0 < v.toNat / cfg.ioAggregateMultiplier := by
    rw [UInt32.lt_iff_toNat_lt, hfield]
    exact Iff.rfl
  rw [loop_interval hp hevent hpending]
  unfold meant
  by_cases hpos : 0 < v.toNat / cfg.ioAggregateMultiplier
  · rw [if_pos (hset.mpr hpos), if_pos hpos, hshare]
  · rw [if_neg fun h => hpos (hset.mp h), if_neg hpos]

/-- **The interval of a package.** It is the client's, divided, exactly if the misread highest
byte does not matter: to the quotient, or because one quotient is zero and the other is the
interval that the timer has already. -/
theorem interval_iff (cfg : Configuration) (input : LoopInput) (s : MainLoop size)
    (p : Pass size) (hp : s.loop cfg input = some p) (data : NewRequestData)
    (hevent : p.event = .NewRequest data) (hpending : s.pollIntervalSetPending = true)
    (v : UInt32) (txBuff : Nat → UInt8)
    (hpackage : ByteMem.read p.state.rxBuff Configuration.pkgCntOffset 4 =
      ByteMem.read (Client.writeU32Value v Client.pkgCntOffset txBuff) Client.pkgCntOffset 4) :
    p.state.pollTimer.interval = meant cfg v s.pollTimer.interval ↔
      topFromBelow v / cfg.ioAggregateMultiplier = v.toNat / cfg.ioAggregateMultiplier ∨
      topFromBelow v / cfg.ioAggregateMultiplier = 0 ∧
        v.toNat / cfg.ioAggregateMultiplier = s.pollTimer.interval.toNat ∨
      v.toNat / cfg.ioAggregateMultiplier = 0 ∧
        topFromBelow v / cfg.ioAggregateMultiplier = s.pollTimer.interval.toNat := by
  have hfield := toNat_pollInterval cfg hpackage
  have hmeant : (UInt32.ofNat (v.toNat / cfg.ioAggregateMultiplier)).toNat =
      v.toNat / cfg.ioAggregateMultiplier := by
    have hle := Nat.div_le_self v.toNat cfg.ioAggregateMultiplier
    have hlt := v.toNat_lt
    rw [UInt32.toNat_ofNat']
    exact Nat.mod_eq_of_lt (by omega)
  have hset : 0 < MainLoop.pollInterval cfg p.state.rxBuff ↔
      0 < topFromBelow v / cfg.ioAggregateMultiplier := by
    rw [UInt32.lt_iff_toNat_lt, hfield]
    exact Iff.rfl
  rw [loop_interval hp hevent hpending, ← UInt32.toNat_inj]
  unfold meant
  by_cases hread : 0 < MainLoop.pollInterval cfg p.state.rxBuff
  · have hq := hset.mp hread
    rw [if_pos hread, hfield]
    split
    · rw [hmeant]
      omega
    · omega
  · have hq : topFromBelow v / cfg.ioAggregateMultiplier = 0 := by
      rw [hset] at hread
      exact Nat.eq_zero_of_not_pos hread
    rw [if_neg hread]
    split
    · rw [hmeant]
      omega
    · omega

end Interval

/-- The smaller board with a client just connected. -/
def connected : MainLoop 512 :=
  (((MainLoop.setup .avrPro [Deployment.ring512] 0 0).loop .avrPro (.accepts .avrPro)).map
    (·.state)).getD (MainLoop.setup .avrPro [Deployment.ring512] 0 0)

/-- The client's first package arrives, with `v` for the interval. -/
def intervalInput (v : UInt32) : LoopInput :=
  .stream .avrPro 0 (ByteMem.read (sealPackage Configuration.avrPro.metaSz 0
    (Client.writeU32Value v Client.pkgCntOffset fun _ => 0)) 0 Configuration.avrPro.packageSize)

/-- The pass that consumes it. -/
def intervalPass (v : UInt32) : Option (Pass 512) := connected.loop .avrPro (intervalInput v)

/-- The client's default interval is set as it was meant. -/
theorem interval_iff_default : ∃ p, intervalPass 8192 = some p ∧
    p.state.pollTimer.interval = meant .avrPro 8192 connected.pollTimer.interval := by
  obtain ⟨p, hp⟩ := Option.isSome_iff_exists.mp (by decide +kernel : (intervalPass 8192).isSome)
  have hevent : (intervalPass 8192).map (·.event) = some (.NewRequest (.udpPort 0)) := by
    decide +kernel
  have hread : (intervalPass 8192).map (fun p => ByteMem.read p.state.rxBuff 2 4) =
      some (ByteMem.encode32 8192) := by
    decide +kernel
  rw [hp, Option.map_some, Option.some.injEq] at hevent hread
  exact ⟨p, hp, (interval_iff .avrPro (intervalInput 8192) connected p hp _ hevent
    (by decide +kernel) 8192 (fun _ => 0)
    (hread.trans (ByteMem.read_write_same _ _ _).symm)).mpr (Or.inl (by decide))⟩

/-- An interval of 70000 microseconds: the timer is set to more than eight seconds. -/
theorem interval_70000 : ¬ ∀ (cfg : Configuration) (input : LoopInput) (s : MainLoop 512)
    (p : Pass 512), s.loop cfg input = some p → ∀ data : NewRequestData,
    p.event = .NewRequest data → s.pollIntervalSetPending = true → ∀ (v : UInt32)
    (txBuff : Nat → UInt8),
    ByteMem.read p.state.rxBuff Configuration.pkgCntOffset 4 =
      ByteMem.read (Client.writeU32Value v Client.pkgCntOffset txBuff) Client.pkgCntOffset 4 →
    p.state.pollTimer.interval = meant cfg v s.pollTimer.interval := by
  intro hall
  obtain ⟨p, hp⟩ := Option.isSome_iff_exists.mp (by decide +kernel : (intervalPass 70000).isSome)
  have hevent : (intervalPass 70000).map (·.event) = some (.NewRequest (.udpPort 0)) := by
    decide +kernel
  have hread : (intervalPass 70000).map (fun p => ByteMem.read p.state.rxBuff 2 4) =
      some (ByteMem.encode32 70000) := by
    decide +kernel
  have hset : (intervalPass 70000).map (·.state.pollTimer.interval) = some 8423608 := by
    decide +kernel
  rw [hp, Option.map_some, Option.some.injEq] at hevent hread hset
  have hmeant := hall .avrPro (intervalInput 70000) connected p hp _ hevent (by decide +kernel)
    70000 (fun _ => 0) (hread.trans (ByteMem.read_write_same _ _ _).symm)
  rw [hset] at hmeant
  exact absurd hmeant (by decide +kernel)

end UartBridge.PollTimer
