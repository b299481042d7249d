import UartBridge.Lib.Run
import UartBridge.Client.PortWorker
import UartBridge.System.Deployment

/-!
# What an echoed counter confirms

Every tick of the poll timer has a number; the package it sends carries the low 32 bits of
it. The firmware processes the packages in the order they were sent and puts the counter of
the last one into its responses, and the tracker drops the packages up to that counter.

* `step` — the ticks, the packages and the responses under way, for one port;
* `Unwrapped` — the counters of the packages held compare like the numbers of their ticks;
* `confirm_iff` — then the pop loop drops the confirmed packages and no others, and only
  then;
* `confirmed_of_unwrapped` — a run whose responses all meet the condition.
-/

namespace UartBridge.Confirmation

open Client EventRun

/-- A Data request, by the number of the tick that sent it. -/
structure Package where
  tick : Nat
  dataSize : Nat
  deriving DecidableEq

/-- The low 32 bits of `eventCounter`, had it more. -/
def counterOf (tick : Nat) : UInt32 := UInt32.ofNat tick

/-- What `AddPackage` stores. -/
def Package.entry (p : Package) : RemoteBufferPkg :=
  { counter := counterOf p.tick, dataSize := p.dataSize }

/-- A package on its way to the firmware; with `openTriggered` it carries the remote poll
interval instead of the counter. -/
structure UpMsg where
  tick : Nat
  openTriggered : Bool
  deriving DecidableEq

/-- The counter field of a response, and the tick whose counter it is: none before the
first counter after `Connected`, or if the field of an Open package was taken for one. -/
structure Echo where
  counter : UInt32
  tick : Option Nat
  deriving DecidableEq

/-- `up` and `down`: the packages and the responses that will arrive, oldest first.
`added`: the packages given to `AddPackage` since the last `Reset`; `confirmed`: the tick
echoed last. -/
structure State (α : Type) (size : Nat) where
  port : PortWorker α size
  ticks : Nat
  up : List UpMsg
  pollIntervalSetPending : Bool
  echo : Echo
  down : List Echo
  added : List Package
  confirmed : Nat

inductive Event (α : Type) where
  | portOpen (id : Nat) (connection : ConnId)
  | connected
  /-- The next tick. Without a connection, or if it fails, the package does not arrive;
  `otherOpen`: another port puts an Open request into it. -/
  | tick (arrives otherOpen : Bool) (input : ReadResult)
  /-- The firmware sees a new connection. -/
  | accept
  /-- The firmware processes a package. -/
  | process
  /-- The firmware sends a response that will arrive. -/
  | respond
  /-- `ProcessRX` up to the ring buffer. -/
  | response (type : RespType) (arg plSz : UInt8)
  /-- The rest of `ProcessRX`. -/
  | rxWrite (payload : List α)

variable {α : Type} {size : Nat}

/-- Both programs after the start. -/
def init (config : Config) (rxRingBuff : DataBuffer α size) : State α size :=
  { port := PortWorker.create config rxRingBuff, ticks := 0, up := []
    pollIntervalSetPending := false, echo := { counter := 0, tick := none }, down := []
    added := [], confirmed := 0 }

/-- What the firmware makes of a package's counter field: the first one after `Connected` is
taken for the poll interval. -/
def takeEcho (config : Config) (pending : Bool) (m : UpMsg) : Echo :=
  if pending then { counter := 0, tick := none }
  else if m.openTriggered then { counter := config.remotePollInterval, tick := none }
  else { counter := counterOf m.tick, tick := some m.tick }

def step (config : Config) (portConfig : PortConfig) (s : State α size) :
    Event α → Option (State α size)
  | .portOpen id connection =>
    some { s with
      port := s.port.onPortOpen portConfig id connection
      added := if id = portConfig.portID ∧ portConfig.resetOnConnect then [] else s.added }
  | .connected => some { s with port := s.port.onConnected }
  | .tick arrives otherOpen input =>
    let tick := s.ticks + 1
    let r := s.port.processTX config portConfig (counterOf tick) input
    some { s with
      port := r.1
      ticks := tick
      up := if arrives then
          s.up ++ [{ tick := tick, openTriggered := otherOpen || r.2.1.type == .Open }]
        else s.up
      added := if r.2.1.type = .Data then
          s.added ++ [{ tick := tick, dataSize := r.2.2.length }]
        else s.added }
  | .accept => some { s with pollIntervalSetPending := true }
  | .process =>
    match s.up with
    | [] => none
    | m :: up =>
      some { s with
        up := up
        pollIntervalSetPending := false
        echo := takeEcho config s.pollIntervalSetPending m }
  | .respond => some { s with down := s.down ++ [s.echo] }
  | .response type arg plSz =>
    match s.down with
    | [] => none
    | echo :: down =>
      some { s with
        down := down
        port := (s.port.rxCheck ⟨type, arg, plSz, echo.counter⟩).1
        confirmed := echo.tick.getD s.confirmed }
  | .rxWrite payload => some { s with port := s.port.rxWrite payload }

/-- The packages added since the last `Reset` and after the one that was echoed last. -/
def unconfirmed (s : State α size) : List Package := s.added.filter fun p => s.confirmed < p.tick

/-- **The property.** The tracker holds exactly these; once the newest package is confirmed
the whole window is available again. -/
structure Confirmed (s : State α size) : Prop where
  dataSent_eq : s.port.remoteBufferTracker.dataSent = (unconfirmed s).map Package.entry
  empty_of_newest : (∀ p ∈ s.added, p.tick ≤ s.confirmed) →
    s.port.remoteBufferTracker.dataSent = [] ∧
      (s.port.remoteBufferTracker.isBlocked = false →
        s.port.remoteBufferTracker.getAvailSpace = s.port.remoteBufferTracker.bufferLimit)

/-! ## The pop loop -/

/-- The echo confirms the package. -/
def Echo.confirms (echo : Echo) (p : Package) : Bool :=
  match echo.tick with
  | some tick => p.tick ≤ tick
  | none => false

/-- The comparisons of the pop loop come out as the ticks say: a confirmed package has no
greater counter than the echo, and the first one that is not confirmed has a greater
counter. -/
def Unwrapped (echo : Echo) : List Package → Prop
  | [] => True
  | p :: ps =>
    if echo.confirms p then counterOf p.tick ≤ echo.counter ∧ Unwrapped echo ps
    else echo.counter < counterOf p.tick

/-- **The condition.** The next response is unwrapped for the packages held. -/
def InWindow (s : State α size) : Event α → Prop
  | .response _ _ _ => ∀ echo ∈ s.down.head?, Unwrapped echo (unconfirmed s)
  | _ => True

/-- While the counter does not wrap between the packages held and the echo, the condition is
met. -/
theorem unwrapped_of_period {echo : Echo} {tick : Nat} (echoed : echo.tick = some tick)
    (counter_eq : echo.counter = counterOf tick) {ps : List Package}
    (period : ∀ p ∈ ps, p.tick / 0x100000000 = tick / 0x100000000) : Unwrapped echo ps := by
  induction ps with
  | nil => trivial
  | cons p ps ih =>
    have hperiod := period p List.mem_cons_self
    have hcounter (n : Nat) : (counterOf n).toNat = n % 0x100000000 := UInt32.toNat_ofNat'
    unfold Unwrapped Echo.confirms
    rw [echoed, counter_eq]
    dsimp only
    split
    · rename_i hle
      have hle : p.tick ≤ tick := of_decide_eq_true hle
      refine ⟨?_, ih fun q hq => period q (List.mem_cons_of_mem _ hq)⟩
      rw [UInt32.le_iff_toNat_le, hcounter, hcounter]
      omega
    · rename_i hgreater
      have hgreater : tick < p.tick := by simpa using hgreater
      rw [UInt32.lt_iff_toNat_lt, hcounter, hcounter]
      omega

/-- What `ConfirmPackage` leaves of the packages held. -/
def popped (echo : Echo) (ps : List Package) : List RemoteBufferPkg :=
  (ps.map Package.entry).dropWhile fun pkg => pkg.counter ≤ echo.counter

/-- What it should leave. -/
def left (echo : Echo) (ps : List Package) : List Package := ps.filter fun p => !echo.confirms p

/-- A package sent later is confirmed later. -/
theorem confirms_mono (echo : Echo) {p q : Package} (later : p.tick < q.tick)
    (unconfirmed : echo.confirms p = false) : echo.confirms q = false := by
  unfold Echo.confirms at unconfirmed ⊢
  cases htick : echo.tick with
  | none => rfl
  | some tick =>
    simp only [htick, decide_eq_false_iff_not] at unconfirmed ⊢
    omega

theorem unwrapped_cons (echo : Echo) (p : Package) (ps : List Package) :
    Unwrapped echo (p :: ps) ↔
      if echo.confirms p then counterOf p.tick ≤ echo.counter ∧ Unwrapped echo ps
      else echo.counter < counterOf p.tick := Iff.rfl

/-- If the oldest package is not confirmed, none is. -/
theorem left_eq_self (echo : Echo) {p : Package} {ps : List Package}
    (later : ∀ q ∈ ps, p.tick < q.tick) (unconfirmed : echo.confirms p = false) :
    left echo (p :: ps) = p :: ps := by
  refine List.filter_eq_self.mpr fun q hq => ?_
  rcases List.mem_cons.mp hq with rfl | hlater
  · simp [unconfirmed]
  · simp [confirms_mono echo (later q hlater) unconfirmed]

/-- The pop loop takes the oldest package if its counter is not greater. -/
theorem popped_cons (echo : Echo) (p : Package) (ps : List Package) :
    popped echo (p :: ps) =
      if counterOf p.tick ≤ echo.counter then popped echo ps
      else (p :: ps).map Package.entry := by
  unfold popped
  split
  · rename_i hle
    rw [List.map_cons, List.dropWhile_cons_of_pos (by exact decide_eq_true hle)]
  · rename_i hgreater
    rw [List.map_cons, List.dropWhile_cons_of_neg (by simp [Package.entry, hgreater])]

/-- **The pop loop.** It leaves what it should exactly if the counters compare like the
ticks. -/
theorem confirm_iff (echo : Echo) {ps : List Package}
    (sorted : ps.Pairwise fun p q => p.tick < q.tick) :
    popped echo ps = (left echo ps).map Package.entry ↔ Unwrapped echo ps := by
  induction ps with
  | nil => exact iff_of_true rfl trivial
  | cons p ps ih =>
    obtain ⟨hfirst, hrest⟩ := List.pairwise_cons.mp sorted
    rw [unwrapped_cons, popped_cons]
    cases hconfirms : echo.confirms p with
    | true =>
      have hleft : left echo (p :: ps) = left echo ps :=
        List.filter_cons_of_neg (by simp [hconfirms])
      rw [hleft, if_pos rfl]
      split
      · rename_i hle
        rw [ih hrest]
        exact ⟨fun h => ⟨hle, h⟩, fun h => h.2⟩
      · rename_i hgreater
        -- a confirmed package stays: there is one too many
        refine iff_of_false ?_ fun h => hgreater h.1
        intro heq
        have hlen := congrArg List.length heq
        have hshort : (left echo ps).length ≤ ps.length := List.length_filter_le _ _
        rw [List.length_map, List.length_map, List.length_cons] at hlen
        omega
    | false =>
      rw [left_eq_self echo hfirst hconfirms, if_neg Bool.false_ne_true]
      split
      · rename_i hle
        -- a package that was not confirmed is dropped: there is one too few
        refine iff_of_false ?_ (UInt32.not_lt.mpr hle)
        intro heq
        have hlen := congrArg List.length heq
        have hshort : (popped echo ps).length ≤ (ps.map Package.entry).length :=
          (List.dropWhile_sublist _).length_le
        rw [List.length_map, List.length_cons] at hlen
        rw [List.length_map] at hshort
        omega
      · rename_i hgreater
        exact iff_of_true rfl (UInt32.not_le.mp hgreater)

/-! ## What is under way -/

/-- The ticks that are still to be echoed to the client, in the order they will be. -/
def line (s : State α size) : List Nat :=
  s.down.filterMap Echo.tick ++ s.echo.tick.toList ++ s.up.map UpMsg.tick

/-- Echoes come in the order of the ticks, and the tracker holds what they left. -/
structure Tracking (s : State α size) : Prop where
  in_order : (s.confirmed :: line s).Pairwise (· ≤ ·)
  before : ∀ tick ∈ s.confirmed :: line s, tick ≤ s.ticks
  added_sorted : s.added.Pairwise fun p q => p.tick < q.tick
  added_before : ∀ p ∈ s.added, p.tick ≤ s.ticks
  dataSent_eq : s.port.remoteBufferTracker.dataSent = (unconfirmed s).map Package.entry

variable {config : Config} {portConfig : PortConfig} {s t : State α size}

theorem Tracking.init (config : Config) (rxRingBuff : DataBuffer α size) :
    Tracking (init config rxRingBuff) :=
  ⟨List.pairwise_singleton _ _, fun _ hmem => Nat.le_of_eq (List.mem_singleton.mp hmem),
    List.Pairwise.nil, fun _ hnone => absurd hnone List.not_mem_nil, rfl⟩

/-- A step after which fewer ticks are under way, and the packages are the same. -/
theorem Tracking.fewer (h : Tracking s) (hline : List.Sublist (line t) (line s))
    (hticks : t.ticks = s.ticks) (hadded : t.added = s.added)
    (hconfirmed : t.confirmed = s.confirmed)
    (htracker : t.port.remoteBufferTracker = s.port.remoteBufferTracker) : Tracking t := by
  have hsub : List.Sublist (t.confirmed :: line t) (s.confirmed :: line s) := by
    rw [hconfirmed]
    exact List.Sublist.cons_cons _ hline
  refine ⟨h.in_order.sublist hsub, ?_, hadded ▸ h.added_sorted, ?_, ?_⟩
  · intro tick hmem
    rw [hticks]
    exact h.before tick (hsub.subset hmem)
  · rw [hadded, hticks]
    exact h.added_before
  · have hheld := h.dataSent_eq
    unfold unconfirmed at hheld ⊢
    rw [htracker, hadded, hconfirmed]
    exact hheld

/-- What a tick adds: a Data request is a package of its own, nothing else is. -/
theorem processTX_tracker (config : Config) (portConfig : PortConfig) (counter : UInt32)
    (input : ReadResult) (w : PortWorker α size) :
    (w.processTX config portConfig counter input).1.remoteBufferTracker.dataSent =
      w.remoteBufferTracker.dataSent ++
        if (w.processTX config portConfig counter input).2.1.type = .Data then
          [{ counter := counter
             dataSize := (w.processTX config portConfig counter input).2.2.length }]
        else [] := by
  have htick := w.processTX_tick config portConfig counter input
  generalize w.processTX config portConfig counter input = r at htick ⊢
  cases htick with
  | idle | openPort | reset | gone => simp
  | data => simp [RemoteBufferTracker.addPackage]

/-- One more at the end of an ordered list. -/
theorem pairwise_concat {β : Type} {R : β → β → Prop} {l : List β} {last : β}
    (h : l.Pairwise R) (hlast : ∀ b ∈ l, R b last) : (l ++ [last]).Pairwise R := by
  refine List.pairwise_append.mpr ⟨h, List.pairwise_singleton _ _, ?_⟩
  intro b hb other hother
  rw [List.mem_singleton.mp hother]
  exact hlast b hb

/-- What a tick puts under way, if its package arrives. -/
theorem line_concat (s : State α size) (m : UpMsg) :
    line { s with up := s.up ++ [m] } = line s ++ [m.tick] := by
  unfold line
  dsimp only
  rw [List.map_append, ← List.append_assoc]
  rfl

/-- The tick's number is greater than those of all earlier ones. -/
theorem Tracking.tick (h : Tracking s) {arrives otherOpen : Bool} {input : ReadResult}
    (hstep : step config portConfig s (.tick arrives otherOpen input) = some t) :
    Tracking t := by
  simp only [step, Option.some.injEq] at hstep
  have hadds := processTX_tracker config portConfig
    (counterOf (s.ticks + 1)) input s.port
  revert hstep hadds
  generalize s.port.processTX config portConfig (counterOf (s.ticks + 1)) input = r
  intro hstep hadds
  subst hstep
  have hconfirmed : s.confirmed < s.ticks + 1 :=
    Nat.lt_succ_of_le (h.before _ List.mem_cons_self)
  have hearlier : ∀ tick ∈ s.confirmed :: line s, tick ≤ s.ticks + 1 :=
    fun tick hmem => Nat.le_succ_of_le (h.before tick hmem)
  refine ⟨?_, ?_, ?_, ?_, ?_⟩
  · cases arrives with
    | false => exact h.in_order
    | true =>
      show (s.confirmed :: line { s with up := s.up ++ [_] }).Pairwise _
      rw [line_concat, ← List.cons_append]
      exact pairwise_concat h.in_order hearlier
  · intro tick hmem
    cases arrives with
    | false => exact hearlier tick hmem
    | true =>
      have hmem : tick ∈ s.confirmed :: line { s with up := s.up ++ [_] } := hmem
      rw [line_concat, ← List.cons_append] at hmem
      rcases List.mem_append.mp hmem with hold | hnew
      · exact hearlier tick hold
      · exact Nat.le_of_eq (List.mem_singleton.mp hnew)
  · dsimp only
    split
    · exact pairwise_concat h.added_sorted fun p hp => Nat.lt_succ_of_le (h.added_before p hp)
    · exact h.added_sorted
  · intro p hp
    dsimp only at hp ⊢
    split at hp
    · rcases List.mem_append.mp hp with hold | hnew
      · exact Nat.le_succ_of_le (h.added_before p hold)
      · exact Nat.le_of_eq (congrArg Package.tick (List.mem_singleton.mp hnew))
    · exact Nat.le_succ_of_le (h.added_before p hp)
  · have hheld := h.dataSent_eq
    unfold unconfirmed at hheld ⊢
    dsimp only
    rw [hadds, hheld]
    split
    · rw [List.filter_append, List.map_append,
        List.filter_cons_of_pos (by simpa using hconfirmed)]
      rfl
    · rw [List.append_nil]

/-- `OnPortOpen` empties the tracker if it starts a session. -/
theorem Tracking.portOpen (h : Tracking s) {id : Nat} {connection : ConnId}
    (hstep : step config portConfig s (.portOpen id connection) = some t) : Tracking t := by
  simp only [step, Option.some.injEq] at hstep
  subst hstep
  by_cases hreset : id = portConfig.portID ∧ portConfig.resetOnConnect = true
  · have hport :
        (s.port.onPortOpen portConfig id connection).remoteBufferTracker.dataSent = [] := by
      unfold PortWorker.onPortOpen
      rw [if_neg (not_not.mpr hreset.1), if_pos hreset.2]
      rfl
    refine ⟨h.in_order, h.before, ?_, ?_, ?_⟩
    · dsimp only
      rw [if_pos hreset]
      exact List.Pairwise.nil
    · intro p hp
      dsimp only at hp
      rw [if_pos hreset] at hp
      exact absurd hp List.not_mem_nil
    · unfold unconfirmed
      dsimp only
      rw [if_pos hreset, hport]
      rfl
  · have hport : (s.port.onPortOpen portConfig id connection).remoteBufferTracker =
        s.port.remoteBufferTracker := by
      unfold PortWorker.onPortOpen
      by_cases hid : id = portConfig.portID
      · rw [if_neg (not_not.mpr hid), if_neg fun hset => hreset ⟨hid, hset⟩]
      · rw [if_pos hid]
    exact h.fewer (List.Sublist.refl _) rfl (if_neg hreset) rfl hport

/-- The packages held, and an echo that is not older than the last one. -/
theorem left_unconfirmed (echo : Echo) (added : List Package) {confirmed : Nat}
    (later : confirmed ≤ echo.tick.getD confirmed) :
    left echo (added.filter fun p => confirmed < p.tick) =
      added.filter fun p => echo.tick.getD confirmed < p.tick := by
  unfold left
  rw [List.filter_filter]
  refine List.filter_congr fun p _ => ?_
  unfold Echo.confirms
  cases htick : echo.tick with
  | none => simp
  | some tick =>
    rw [htick, Option.getD_some] at later
    rw [Bool.eq_iff_iff]
    simp only [Option.getD_some, Bool.and_eq_true, Bool.not_eq_true', decide_eq_false_iff_not,
      decide_eq_true_iff]
    omega

/-- An element of an ordered list may be repeated. -/
theorem pairwise_repeat {before after : List Nat} {tick : Nat}
    (h : (before ++ tick :: after).Pairwise (· ≤ ·)) :
    (before ++ tick :: tick :: after).Pairwise (· ≤ ·) := by
  obtain ⟨hbefore, hafter, hcross⟩ := List.pairwise_append.mp h
  refine List.pairwise_append.mpr ⟨hbefore, List.pairwise_cons.mpr ⟨?_, hafter⟩, ?_⟩
  · intro other hmem
    rcases List.mem_cons.mp hmem with rfl | hlater
    · exact Nat.le_refl _
    · exact (List.pairwise_cons.mp hafter).1 other hlater
  · intro a ha b hb
    rcases List.mem_cons.mp hb with rfl | hrest
    · exact hcross a ha b List.mem_cons_self
    · exact hcross a ha b hrest

/-- The counter in the firmware's send buffer may be echoed again. -/
theorem Tracking.respond (h : Tracking s) : Tracking { s with down := s.down ++ [s.echo] } := by
  cases htick : s.echo.tick with
  | none =>
    refine h.fewer ?_ rfl rfl rfl rfl
    unfold line
    dsimp only
    rw [List.filterMap_append, List.filterMap_cons_none htick, List.filterMap_nil,
      List.append_nil]
  | some tick =>
    have hline : line { s with down := s.down ++ [s.echo] } =
        s.down.filterMap Echo.tick ++ tick :: tick :: s.up.map UpMsg.tick := by
      unfold line
      dsimp only
      rw [List.filterMap_append, List.filterMap_cons_some htick, List.filterMap_nil, htick,
        List.append_assoc, List.append_assoc]
      rfl
    have hold : line s = s.down.filterMap Echo.tick ++ tick :: s.up.map UpMsg.tick := by
      unfold line
      rw [htick, List.append_assoc]
      rfl
    have horder := h.in_order
    have hbefore := h.before
    rw [hold, ← List.cons_append] at horder hbefore
    refine ⟨?_, ?_, h.added_sorted, h.added_before, h.dataSent_eq⟩
    · rw [hline, ← List.cons_append]
      exact pairwise_repeat horder
    · rw [hline, ← List.cons_append]
      intro other hmem
      refine hbefore other ?_
      rcases List.mem_append.mp hmem with hleft | hright
      · exact List.mem_append_left _ hleft
      · rcases List.mem_cons.mp hright with rfl | hrest
        · exact List.mem_append_right _ List.mem_cons_self
        · exact List.mem_append_right _ hrest

/-- The next echo is the first in line. -/
theorem line_down {echo : Echo} {down : List Echo} (hdown : s.down = echo :: down) :
    line s = echo.tick.toList ++ line { s with down := down } := by
  unfold line
  dsimp only
  rw [hdown]
  cases htick : echo.tick with
  | none =>
    rw [List.filterMap_cons_none htick]
    rfl
  | some tick =>
    rw [List.filterMap_cons_some htick]
    rfl

/-- **A response.** The tracker holds what it should afterwards exactly if the response is
unwrapped. -/
theorem Tracking.response (h : Tracking s) {type : RespType} {arg plSz : UInt8}
    (hstep : step config portConfig s (.response type arg plSz) = some t) :
    (t.port.remoteBufferTracker.dataSent = (unconfirmed t).map Package.entry ↔
        InWindow s (.response type arg plSz)) ∧
      (InWindow s (.response type arg plSz) → Tracking t) := by
  cases hdown : s.down with
  | nil => simp [step, hdown] at hstep
  | cons echo down =>
    simp only [step, hdown, Option.some.injEq] at hstep
    subst hstep
    have horder := h.in_order
    have hbefore := h.before
    rw [line_down hdown] at horder hbefore
    -- what is under way is not older than what was confirmed
    have hlater : s.confirmed ≤ echo.tick.getD s.confirmed := by
      cases htick : echo.tick with
      | none => exact Nat.le_refl _
      | some tick =>
        rw [htick] at horder
        exact (List.pairwise_cons.mp horder).1 tick List.mem_cons_self
    have hsorted : (unconfirmed s).Pairwise fun p q => p.tick < q.tick := h.added_sorted.filter _
    have hexact : (s.port.rxCheck ⟨type, arg, plSz, echo.counter⟩).1.remoteBufferTracker.dataSent =
          (s.added.filter fun p => echo.tick.getD s.confirmed < p.tick).map Package.entry ↔
        Unwrapped echo (unconfirmed s) := by
      rw [← confirm_iff echo hsorted, PortWorker.rxCheck_tracker,
        ← left_unconfirmed echo s.added hlater]
      unfold RemoteBufferTracker.confirmPackage popped
      dsimp only
      rw [h.dataSent_eq]
      exact Iff.rfl
    have hwindow : InWindow s (.response type arg plSz) ↔ Unwrapped echo (unconfirmed s) := by
      unfold InWindow
      rw [hdown, List.head?_cons]
      exact ⟨fun hall => hall echo rfl, fun hone other hmem => Option.some.inj hmem ▸ hone⟩
    rw [hwindow]
    refine ⟨hexact, fun hunwrapped => ⟨?_, ?_, h.added_sorted, h.added_before,
      hexact.mpr hunwrapped⟩⟩
    · cases htick : echo.tick with
      | none =>
        rw [htick] at horder
        exact horder
      | some tick =>
        rw [htick] at horder
        exact (List.pairwise_cons.mp horder).2
    · intro tick hmem
      cases htick : echo.tick with
      | none =>
        rw [htick] at hbefore
        simp only [htick, Option.getD_none] at hmem
        exact hbefore tick hmem
      | some echoed =>
        rw [htick] at hbefore
        simp only [htick, Option.getD_some] at hmem
        exact hbefore tick (List.mem_cons_of_mem _ hmem)

/-- **One step.** -/
theorem Tracking.step (h : Tracking s) {e : Event α} (window : InWindow s e)
    (hstep : step config portConfig s e = some t) : Tracking t := by
  cases e with
  | portOpen id connection => exact h.portOpen hstep
  | connected =>
    simp only [Confirmation.step, Option.some.injEq] at hstep
    subst hstep
    exact h.fewer (List.Sublist.refl _) rfl rfl rfl rfl
  | tick arrives otherOpen input => exact h.tick hstep
  | accept =>
    simp only [Confirmation.step, Option.some.injEq] at hstep
    subst hstep
    exact h.fewer (List.Sublist.refl _) rfl rfl rfl rfl
  | process =>
    simp only [Confirmation.step] at hstep
    cases hup : s.up with
    | nil => simp [hup] at hstep
    | cons m up =>
      simp only [hup, Option.some.injEq] at hstep
      subst hstep
      refine h.fewer ?_ rfl rfl rfl rfl
      -- the echo of an older package is replaced, by the tick of this one or by none
      have htaken : List.Sublist (takeEcho config s.pollIntervalSetPending m).tick.toList
          [m.tick] := by
        unfold takeEcho
        split
        · exact List.nil_sublist _
        · split
          · exact List.nil_sublist _
          · exact List.Sublist.refl _
      unfold line
      rw [hup, List.map_cons, List.append_assoc, List.append_assoc]
      refine List.Sublist.append_left ?_ _
      exact (List.Sublist.append_right htaken _).trans (List.sublist_append_right _ _)
  | respond =>
    simp only [Confirmation.step, Option.some.injEq] at hstep
    subst hstep
    exact h.respond
  | response type arg plSz => exact (h.response hstep).2 window
  | rxWrite payload =>
    simp only [Confirmation.step, Option.some.injEq] at hstep
    subst hstep
    exact h.fewer (List.Sublist.refl _) rfl rfl rfl rfl

/-- With nothing held the window is as large as it can be. -/
theorem Tracking.confirmed (h : Tracking s) : Confirmed s := by
  refine ⟨h.dataSent_eq, fun hnewest => ?_⟩
  have hempty : s.port.remoteBufferTracker.dataSent = [] := by
    rw [h.dataSent_eq, List.map_eq_nil_iff]
    refine List.filter_eq_nil_iff.mpr fun p hp => ?_
    have hle := hnewest p hp
    simp only [decide_eq_true_iff]
    omega
  refine ⟨hempty, fun hopen => ?_⟩
  unfold RemoteBufferTracker.getAvailSpace RemoteBufferTracker.totalSent
  rw [hempty, hopen]
  rfl

/-- **Confirmation is exact.** In every run in which each response that arrives is unwrapped
for the packages held, the tracker holds, in every state reached, exactly the packages added
since the last `Reset` and after the one echoed last. -/
theorem confirmed_of_unwrapped (config : Config) (portConfig : PortConfig)
    (rxRingBuff : DataBuffer α size) {es : List (Event α)} {u : State α size}
    (window : Along (Confirmation.step config portConfig) InWindow (init config rxRingBuff) es)
    (run : exec (Confirmation.step config portConfig) (init config rxRingBuff) es = some u) :
    Confirmed u :=
  (exec_invariant_along Tracking (fun _ _ _ h hwindow hstep => h.step hwindow hstep)
    (Tracking.init config rxRingBuff) window run).confirmed

section Examples

instance (echo : Echo) : ∀ ps : List Package, Decidable (Unwrapped echo ps)
  | [] => isTrue trivial
  | p :: ps =>
    have : Decidable (Unwrapped echo ps) := instDecidableUnwrapped echo ps
    inferInstanceAs (Decidable
      (if echo.confirms p then counterOf p.tick ≤ echo.counter ∧ Unwrapped echo ps
        else echo.counter < counterOf p.tick))

instance (s : State α size) (e : Event α) : Decidable (InWindow s e) :=
  match e with
  | .response _ _ _ =>
    inferInstanceAs (Decidable (∀ echo ∈ s.down.head?, Unwrapped echo (unconfirmed s)))
  | .portOpen _ _ | .connected | .tick _ _ _ | .accept | .process | .respond | .rxWrite _ =>
    isTrue trivial

open Deployment (avrPro ring16 port57600)

def created : State UInt8 16 := init (avrPro false).config (ring16 0)

/-- The port is opened, the client sends a byte, and nothing for two ticks; then the newest
counter comes back. -/
def echoed : List (Event UInt8) :=
  [.portOpen 0 0, .connected, .accept, .tick true false (.bytes [1]),
    .tick true false (.bytes [1]), .tick true false (.error .EAGAIN),
    .tick true false (.error .EAGAIN), .process, .process, .process, .process, .respond,
    .response .NoCommand 0 0]

def afterEchoed : State UInt8 16 :=
  (exec (step (avrPro false).config (port57600 false 0)) created echoed).getD created

theorem confirmed_echoed : Confirmed afterEchoed ∧ afterEchoed.added = [⟨2, 1⟩] ∧
    afterEchoed.confirmed = 4 := by
  have hrun : Along (step (avrPro false).config (port57600 false 0)) InWindow created echoed ∧
      (exec (step (avrPro false).config (port57600 false 0)) created echoed).isSome = true ∧
      afterEchoed.added = [⟨2, 1⟩] ∧ afterEchoed.confirmed = 4 := by
    decide +kernel
  obtain ⟨hwindow, hsome, hrest⟩ := hrun
  exact ⟨confirmed_of_unwrapped (avrPro false).config (port57600 false 0) (ring16 0) hwindow
    (exec_eq_some_getD hsome), hrest⟩

/-- Before the first connection a tick only counts. -/
theorem exec_idle (config : Config) (portConfig : PortConfig) (k : Nat) (s : State α size)
    (waiting : s.port.connected = false) :
    exec (step config portConfig) s (List.replicate k (.tick false false (.error .EAGAIN))) =
      some { s with ticks := s.ticks + k } := by
  induction k generalizing s with
  | zero => rfl
  | succ k ih =>
    have hidle : ∀ counter, s.port.processTX config portConfig counter (.error .EAGAIN) =
        (s.port, ⟨.NoCommand, 0, 0⟩, []) := fun _ => PortWorker.processTX_waiting waiting
    have hstep : step config portConfig s (.tick false false (.error .EAGAIN)) =
        some { s with ticks := s.ticks + 1 } := by
      simp only [step, hidle]
      rfl
    rw [List.replicate_succ]
    refine exec_cons_eq_some.mpr ⟨_, hstep, ?_⟩
    rw [ih { s with ticks := s.ticks + 1 } waiting]
    simp only [Nat.add_assoc, Nat.add_comm 1 k]

/-- The ticks before the last three of the counter's period. -/
def untilWrap : List (Event UInt8) :=
  List.replicate 0xFFFFFFFD (.tick false false (.error .EAGAIN))

def atWrap : State UInt8 16 := { created with ticks := 0xFFFFFFFD }

def afterWrap : State UInt8 16 :=
  (exec (step (avrPro false).config (port57600 false 0)) atWrap echoed).getD atWrap

/-- The same at the wrap: the byte is sent under counter 0xFFFFFFFF, the echo is 1, and the
package stays. -/
theorem wrapped_stays :
    ¬ ∀ (es : List (Event UInt8)) (u : State UInt8 16),
      exec (step (avrPro false).config (port57600 false 0)) created es = some u →
      Confirmed u := by
  intro hall
  have hwait : exec (step (avrPro false).config (port57600 false 0)) created untilWrap =
      some atWrap := exec_idle _ _ _ created rfl
  have hwrap : (exec (step (avrPro false).config (port57600 false 0)) atWrap echoed).isSome =
        true ∧
      afterWrap.port.remoteBufferTracker.dataSent = [⟨0xFFFFFFFF, 1⟩] ∧
      unconfirmed afterWrap = [] := by
    decide +kernel
  obtain ⟨hsome, hheld, hnone⟩ := hwrap
  have hconfirmed := hall (untilWrap ++ echoed) afterWrap
    (exec_append_eq_some.mpr ⟨atWrap, hwait, exec_eq_some_getD hsome⟩)
  have heq := hconfirmed.dataSent_eq
  rw [hheld, hnone] at heq
  cases heq

end Examples

end UartBridge.Confirmation
