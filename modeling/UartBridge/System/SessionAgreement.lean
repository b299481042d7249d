import UartBridge.Lib.Run
import UartBridge.System.PortLink

/-!
# Do client and firmware agree on port mode and session?

One port over one TCP connection at a time: the client's `PortWorker`, the
package built by the last poll tick, the packages on the wire and the firmware's
`UARTWorker`. The mode is set by an Open request, the session by Reset requests;
the client builds each of them once, clears its flag and never hears whether the
request arrived.

* `settled` — the mode and session the firmware will have once everything built
  and sent has arrived;
* `Agreement` — they are right, or the client still has a request to make;
* `agreement_step` — every step keeps this, if it loses no Open, loses a Reset
  only with a newer one to come, and restarts the firmware only before the Open
  was sent;
* `agreed_of_careful` — then client and firmware agree whenever nothing is
  pending.
-/

namespace UartBridge.SessionAgreement

open EventRun Client Firmware

variable {α : Type} {size fwSize : Nat}

/-- `up`: a TCP connection is up. `wire`: packages that will still arrive, also
those of an earlier connection. -/
structure State (α : Type) (size fwSize : Nat) where
  port : PortWorker α size
  slot : Nat → UInt8
  built : Option UpMsg
  up : Bool
  wire : List UpMsg
  uart : UARTWorker fwSize

inductive Event where
  /-- A local client connects to this port. -/
  | portOpen (connection : ConnId)
  /-- A poll tick builds a package. -/
  | poll (counter : UInt32) (input : ReadResult)
  /-- `OnSendPackage` with the package built; without a connection, or when
  `send` fails, the package is gone. -/
  | send (sent : Bool)
  /-- `GetConnection` connects and announces it. -/
  | connect
  /-- The connection is lost; the first packages under way still arrive. -/
  | lose (arriving : Nat)
  /-- The firmware processes a package. -/
  | deliver (now : UInt32)
  /-- `SystemReset`, which the firmware only does without a connection. -/
  | reboot
  deriving Repr

/-- The client and the firmware after they were started. -/
def init (config : Config) (rxRingBuff : DataBuffer α size) (slot : Nat → UInt8)
    (fwRingBuff : DataBuffer UInt8 fwSize) : State α size fwSize :=
  { port := PortWorker.create config rxRingBuff, slot := slot, built := none, up := false
    wire := [], uart := UARTWorker.setup fwRingBuff }

def step (config : Config) (portConfig : PortConfig) (s : State α size fwSize) :
    Event → Option (State α size fwSize)
  | .portOpen connection =>
    some { s with port := s.port.onPortOpen portConfig portConfig.portID connection }
  | .poll counter input =>
    match s.built with
    | some _ => none
    | none =>
      let r := s.port.processTX config portConfig counter input
      let slot := ByteMem.write s.slot 0 r.2.2
      some { s with
        port := r.1
        slot := slot
        built := some { request := r.2.1, slot := slot, counter := counter } }
  | .send sent =>
    match s.built with
    | none => none
    | some m =>
      if s.up && sent then some { s with built := none, wire := s.wire ++ [m] }
      -- nothing remembers the package, nor the request in it
      else some { s with built := none, up := false }
  | .connect =>
    if s.up then none else some { s with up := true, port := s.port.onConnected }
  | .lose arriving => some { s with up := false, wire := s.wire.take arriving }
  | .deliver now =>
    match s.wire with
    | [] => none
    | m :: wire => some { s with wire := wire, uart := (m.deliver now s.uart).1 }
  | .reboot =>
    if s.up then none
    else some { s with wire := [], uart := UARTWorker.setup s.uart.rxRingBuff.reset }

/-- The packages that were built and have not been processed. -/
def pending (s : State α size fwSize) : List UpMsg := s.wire ++ s.built.toList

/-- **The agreement.** With a TCP connection up and no Open or Reset to be made
or under way, the firmware has the client's session and the configured mode. -/
def Agreed (portConfig : PortConfig) (s : State α size fwSize) : Prop :=
  s.up = true → s.port.openPending = false → s.port.resetPending = false →
    (∀ m ∈ pending s, m.request.type ≠ .Open ∧ m.request.type ≠ .Reset) →
      s.uart.sessionId = s.port.sessionId ∧ s.uart.curMode = portConfig.mode

/-- The packages that a step loses. -/
def lost (s : State α size fwSize) : Event → List UpMsg
  | .send sent => if s.up && sent then [] else s.built.toList
  | .lose arriving => s.wire.drop arriving
  | .reboot => s.wire
  | _ => []

/-- What a step must not lose: an Open request; a Reset request, unless the
client is to make a newer one or has just built it; nor may the firmware restart
once the Open request was sent. -/
def Careful (s : State α size fwSize) (e : Event) : Prop :=
  (∀ m ∈ lost s e, m.request.type ≠ .Open) ∧
  ((∃ m ∈ lost s e, m.request.type = .Reset) → s.port.resetPending = true ∨
    ∃ arriving m, e = .lose arriving ∧ s.built = some m ∧ m.request.type = .Reset) ∧
  (e = .reboot → s.port.openPending = true ∨ ∃ m, s.built = some m ∧ m.request.type = .Open)

/-! ## Where the pending requests lead -/

/-- Mode and session after a list of requests. -/
def commands (ms : List UpMsg) (start : UInt8 × UInt8) : UInt8 × UInt8 :=
  ms.foldl (fun ms m => command m ms.1 ms.2) start

/-- Mode and session of the firmware once everything pending has arrived. -/
def settled (s : State α size fwSize) : UInt8 × UInt8 :=
  commands (pending s) (s.uart.curMode, s.uart.sessionId)

theorem commands_append (ms ns : List UpMsg) (start : UInt8 × UInt8) :
    commands (ms ++ ns) start = commands ns (commands ms start) :=
  List.foldl_append

/-- Without Open and Close requests the mode stays. -/
theorem commands_mode {ms : List UpMsg} (start : UInt8 × UInt8)
    (h : ∀ m ∈ ms, m.request.type ≠ .Open ∧ m.request.type ≠ .Close) :
    (commands ms start).1 = start.1 := by
  induction ms generalizing start with
  | nil => rfl
  | cons m ms ih =>
    have hm := h m List.mem_cons_self
    exact (ih _ fun n hn => h n (List.mem_cons_of_mem _ hn)).trans
      (command_mode hm.1 hm.2 start.1 start.2)

/-- Without Open and Reset requests the session stays. -/
theorem commands_session {ms : List UpMsg} (start : UInt8 × UInt8)
    (h : ∀ m ∈ ms, m.request.type ≠ .Open ∧ m.request.type ≠ .Reset) :
    (commands ms start).2 = start.2 := by
  induction ms generalizing start with
  | nil => rfl
  | cons m ms ih =>
    have hm := h m List.mem_cons_self
    exact (ih _ fun n hn => h n (List.mem_cons_of_mem _ hn)).trans
      (command_session hm.1 hm.2 start.1 start.2)

/-! ## The invariant -/

/-- A request as the client makes it: never a Close, and an Open leads to the
configured mode. -/
def Proper (portConfig : PortConfig) (m : UpMsg) : Prop :=
  m.request.type ≠ .Close ∧
    (m.request.type = .Open → ∀ mode session, command m mode session = (portConfig.mode, 0))

/-- What is known about mode and session: before the Open request the client's
session is 0 or a Reset is to be made; after it everything pending leads to the
configured mode, and to the client's session unless a Reset is to be made. -/
structure Agreement (portConfig : PortConfig) (s : State α size fwSize) : Prop where
  proper : ∀ m ∈ pending s, Proper portConfig m
  before : s.port.openPending = true → s.port.resetPending = true ∨ s.port.sessionId = 0
  mode_eq : s.port.openPending = false → (settled s).1 = portConfig.mode
  session_eq : s.port.openPending = false →
    s.port.resetPending = true ∨ (settled s).2 = s.port.sessionId

variable {config : Config} {portConfig : PortConfig} {s t : State α size fwSize}

theorem Agreement.start (config : Config) (rxRingBuff : DataBuffer α size) (slot : Nat → UInt8)
    (fwRingBuff : DataBuffer UInt8 fwSize) :
    Agreement portConfig (init config rxRingBuff slot fwRingBuff) :=
  ⟨fun _ hm => absurd hm List.not_mem_nil, fun _ => Or.inr rfl, fun h => (by cases h),
    fun h => (by cases h)⟩

/-- An Open request made from the port's settings leads to its mode. -/
theorem proper_open (portConfig : PortConfig) (slot : Nat → UInt8) (counter : UInt32) :
    Proper portConfig
      { request := ⟨.Open, portConfig.mode, 4⟩
        slot := ByteMem.write slot 0 (ByteMem.encode32 portConfig.speed), counter := counter } := by
  refine ⟨by simp, ?_⟩
  intro _ mode session
  have hspeed := ByteMem.decode32_write slot 0 portConfig.speed
  rw [Nat.zero_add, Nat.zero_add, Nat.zero_add] at hspeed
  simp only [command, hspeed]
  by_cases hclosed : (isOpen portConfig.mode && portConfig.speed < 1) = true
  · -- a port without a speed has no mode either
    rw [Bool.and_eq_true, decide_eq_true_iff] at hclosed
    have hzero : portConfig.speed = 0 := by
      have := UInt32.lt_iff_toNat_lt.mp hclosed.2
      apply UInt32.toNat_inj.mp
      simp only [UInt32.toNat_one] at this
      rw [UInt32.toNat_zero]
      omega
    rw [portConfig.mode_of_speed hzero] at hclosed
    exact absurd hclosed.1 (by decide)
  · rw [if_neg hclosed]

/-- What a tick's request does, by the flags it finds. -/
theorem processTX_cases (config : Config) (portConfig : PortConfig) (counter : UInt32)
    (input : ReadResult) (w : PortWorker α size) (slot : Nat → UInt8) :
    let r := w.processTX config portConfig counter input
    let m : UpMsg :=
      { request := r.2.1, slot := ByteMem.write slot 0 r.2.2, counter := counter }
    r.1.sessionId = w.sessionId ∧
    (w.openPending = true ∧ r.1.openPending = false ∧ r.1.resetPending = w.resetPending ∧
        m.request.type = .Open ∧ Proper portConfig m ∨
      w.openPending = false ∧ w.resetPending = true ∧ r.1.openPending = false ∧
        r.1.resetPending = false ∧ m.request.type = .Reset ∧ m.request.arg = w.sessionId ∨
      r.1.openPending = w.openPending ∧ r.1.resetPending = w.resetPending ∧
        (m.request.type = .Data ∨ m.request.type = .NoCommand)) := by
  have htick := w.processTX_tick config portConfig counter input
  generalize w.processTX config portConfig counter input = r at htick
  cases htick with
  | openPort pending =>
    exact ⟨rfl, Or.inl ⟨pending, rfl, rfl, rfl, proper_open portConfig slot counter⟩⟩
  | reset opened pending => exact ⟨rfl, Or.inr (Or.inl ⟨opened, pending, opened, rfl, rfl, rfl⟩)⟩
  | idle | gone => exact ⟨rfl, Or.inr (Or.inr ⟨rfl, rfl, Or.inr rfl⟩)⟩
  | data => exact ⟨rfl, Or.inr (Or.inr ⟨rfl, rfl, Or.inl rfl⟩)⟩

/-! ## One step -/

theorem Agreement.portOpen (h : Agreement portConfig s) (hreset : portConfig.resetOnConnect = true)
    (connection : ConnId) :
    Agreement portConfig
      { s with port := s.port.onPortOpen portConfig portConfig.portID connection } := by
  have hport : s.port.onPortOpen portConfig portConfig.portID connection =
      { s.port with
        client := some connection
        resetPending := true
        sessionId := PortWorker.nextSession s.port.sessionId
        remoteBufferTracker := s.port.remoteBufferTracker.reset
        rxRingBuff := s.port.rxRingBuff.reset } := by
    simp [PortWorker.onPortOpen, hreset]
  rw [hport]
  exact ⟨h.proper, fun _ => Or.inl rfl, h.mode_eq, fun _ => Or.inl rfl⟩

/-- One more request at the end of what is pending. -/
theorem settled_built (hbuilt : s.built = none) (port : PortWorker α size) (slot : Nat → UInt8)
    (m : UpMsg) :
    settled { s with port := port, slot := slot, built := some m } =
      command m (settled s).1 (settled s).2 := by
  simp only [settled, pending, hbuilt, Option.toList_none, List.append_nil, Option.toList_some,
    commands_append]
  rfl

theorem Agreement.poll (h : Agreement portConfig s) {counter : UInt32} {input : ReadResult}
    (hstep : step config portConfig s (.poll counter input) = some t) :
    Agreement portConfig t := by
  simp only [step] at hstep
  cases hbuilt : s.built with
  | some m => rw [hbuilt] at hstep; cases hstep
  | none =>
    rw [hbuilt, Option.some.injEq] at hstep
    subst hstep
    obtain ⟨hsession, hcases⟩ := processTX_cases config portConfig counter input s.port s.slot
    have hproper (m : UpMsg) (hm : Proper portConfig m) :
        ∀ n ∈ s.wire ++ [m], Proper portConfig n := by
      intro n hn
      rcases List.mem_append.mp hn with hold | hnew
      · exact h.proper n (List.mem_append_left _ hold)
      · rw [List.mem_singleton.mp hnew]
        exact hm
    rcases hcases with ⟨hopen, hopen', hreset', htype, hm⟩ |
      ⟨hopen, hreset, hopen', hreset', htype, harg⟩ | ⟨hopen', hreset', htype⟩
    · -- the Open request: whatever came before, the mode is set and the session is 0
      refine ⟨hproper _ hm, ?_, ?_, ?_⟩
      · intro hf
        rw [hopen'] at hf
        cases hf
      · intro _
        rw [settled_built hbuilt, hm.2 htype]
      · intro _
        rw [settled_built hbuilt, hm.2 htype, hsession, hreset']
        rcases h.before hopen with hpend | hzero
        · exact Or.inl hpend
        · exact Or.inr hzero.symm
    · -- a Reset request carries the client's session
      refine ⟨hproper _ ⟨by rw [htype]; simp, ?_⟩, ?_, ?_, ?_⟩
      · intro hf
        rw [htype] at hf
        cases hf
      · intro hf
        rw [hopen'] at hf
        cases hf
      · intro _
        rw [settled_built hbuilt, command_reset htype]
        exact h.mode_eq hopen
      · intro _
        rw [settled_built hbuilt, command_reset htype, hsession]
        exact Or.inr harg
    · -- neither mode nor session is touched
      refine ⟨hproper _ ⟨?_, ?_⟩, ?_, ?_, ?_⟩
      · rcases htype with htype | htype
        · rw [htype]; simp
        · rw [htype]; simp
      · intro hf
        rcases htype with htype | htype
        · rw [htype] at hf; cases hf
        · rw [htype] at hf; cases hf
      · intro hf
        simp only [hopen', hreset', hsession] at hf ⊢
        exact h.before hf
      · intro hf
        rw [settled_built hbuilt, command_idle htype]
        exact h.mode_eq (hopen' ▸ hf)
      · intro hf
        rw [settled_built hbuilt, command_idle htype, hreset', hsession]
        exact h.session_eq (hopen' ▸ hf)

/-- A part of what is pending stays, and what is lost is harmless. -/
theorem Agreement.dropped (h : Agreement portConfig s)
    (hport : t.port = s.port) (hsub : ∀ m ∈ pending t, m ∈ pending s)
    (hmode : s.port.openPending = false → (settled t).1 = (settled s).1)
    (hsession : s.port.openPending = false →
      s.port.resetPending = true ∨ (settled t).2 = (settled s).2) : Agreement portConfig t := by
  refine ⟨fun m hm => h.proper m (hsub m hm), ?_, ?_, ?_⟩
  · rw [hport]
    exact h.before
  · rw [hport]
    exact fun hf => (hmode hf).trans (h.mode_eq hf)
  · rw [hport]
    intro hf
    rcases hsession hf with hpend | hsame
    · exact Or.inl hpend
    · rw [hsame]
      exact h.session_eq hf

theorem Agreement.send (h : Agreement portConfig s) {sent : Bool}
    (hcareful : Careful s (.send sent))
    (hstep : step config portConfig s (.send sent) = some t) : Agreement portConfig t := by
  simp only [step] at hstep
  cases hbuilt : s.built with
  | none => rw [hbuilt] at hstep; cases hstep
  | some m =>
    rw [hbuilt] at hstep
    by_cases hsent : (s.up && sent) = true
    · -- sent: it was pending and still is
      simp only [if_pos hsent, Option.some.injEq] at hstep
      subst hstep
      have hsame : pending { s with built := none, wire := s.wire ++ [m] } = pending s := by
        simp [pending, hbuilt]
      refine h.dropped rfl (fun n hn => hsame ▸ hn) ?_ fun _ => Or.inr ?_
      · intro _
        rw [settled, settled, hsame]
      · rw [settled, settled, hsame]
    · -- lost: an Open must not be, and a Reset only if another one is to come
      simp only [if_neg hsent, Option.some.injEq] at hstep
      subst hstep
      obtain ⟨hopen, hreset, -⟩ := hcareful
      simp only [lost, if_neg hsent, hbuilt, Option.toList_some, List.mem_singleton] at hopen hreset
      have hkept : pending s = s.wire ++ [m] := by simp [pending, hbuilt]
      have hall : settled s = command m (commands s.wire (s.uart.curMode, s.uart.sessionId)).1
          (commands s.wire (s.uart.curMode, s.uart.sessionId)).2 := by
        rw [settled, hkept, commands_append]
        rfl
      have hrest : settled { s with built := none, up := false } =
          commands s.wire (s.uart.curMode, s.uart.sessionId) := by
        simp [settled, pending]
      have hclose : m.request.type ≠ .Close := (h.proper m (by rw [hkept]; simp)).1
      refine h.dropped rfl ?_ ?_ ?_
      · intro n hn
        rw [hkept]
        exact List.mem_append_left _ (by simpa [pending] using hn)
      · intro _
        rw [hall, hrest, command_mode (hopen m rfl) hclose]
      · intro _
        by_cases htype : m.request.type = .Reset
        · rcases hreset ⟨m, rfl, htype⟩ with hpend | ⟨_, _, he, -⟩
          · exact Or.inl hpend
          · cases he
        · right
          rw [hall, hrest, command_session (hopen m rfl) htype]

theorem Agreement.lose (h : Agreement portConfig s) {arriving : Nat}
    (hcareful : Careful s (.lose arriving)) :
    Agreement portConfig { s with up := false, wire := s.wire.take arriving } := by
  obtain ⟨hopen, hreset, -⟩ := hcareful
  simp only [lost] at hopen hreset
  have hwire : s.wire.take arriving ++ s.wire.drop arriving = s.wire := List.take_append_drop ..
  have hclose : ∀ m ∈ s.wire.drop arriving, m.request.type ≠ .Open ∧ m.request.type ≠ .Close :=
    fun m hm => ⟨hopen m hm, (h.proper m (List.mem_append_left _ (List.mem_of_mem_drop hm))).1⟩
  -- the settled state before and after the lost packages
  generalize hkept : commands (s.wire.take arriving) (s.uart.curMode, s.uart.sessionId) = kept
  have hall : settled s = commands s.built.toList (commands (s.wire.drop arriving) kept) := by
    rw [settled, pending, commands_append]
    conv_lhs => rw [← hwire, commands_append, hkept]
  have hrest : settled { s with up := false, wire := s.wire.take arriving } =
      commands s.built.toList kept := by
    rw [settled, pending, commands_append, hkept]
  have hmode : (commands (s.wire.drop arriving) kept).1 = kept.1 := commands_mode kept hclose
  refine h.dropped rfl ?_ ?_ ?_
  · intro m hm
    rcases List.mem_append.mp hm with hw | hb
    · exact List.mem_append_left _ (List.mem_of_mem_take hw)
    · exact List.mem_append_right _ hb
  · intro _
    rw [hall, hrest]
    cases hbuilt : s.built with
    | none => exact hmode.symm
    | some m =>
      show (command m _ _).1 = (command m _ _).1
      rw [hmode]
      exact command_mode_congr m _ _ _
  · intro _
    rw [hall, hrest]
    by_cases hlost : ∃ m ∈ s.wire.drop arriving, m.request.type = .Reset
    · rcases hreset hlost with hpend | ⟨_, m, -, hbuilt, htype⟩
      · exact Or.inl hpend
      · -- the Reset just built is newer than the lost one
        right
        rw [hbuilt]
        show (command m _ _).2 = (command m _ _).2
        rw [command_reset htype, command_reset htype]
    · right
      have hsession : (commands (s.wire.drop arriving) kept).2 = kept.2 :=
        commands_session kept fun m hm => ⟨hopen m hm, fun htype => hlost ⟨m, hm, htype⟩⟩
      cases hbuilt : s.built with
      | none => exact hsession.symm
      | some m =>
        show (command m _ _).2 = (command m _ _).2
        rw [hsession]
        exact command_session_congr m _ _ _

theorem Agreement.deliver (h : Agreement portConfig s) {now : UInt32}
    (hstep : step config portConfig s (.deliver now) = some t) : Agreement portConfig t := by
  simp only [step] at hstep
  cases hwire : s.wire with
  | nil => rw [hwire] at hstep; cases hstep
  | cons m rest =>
    rw [hwire, Option.some.injEq] at hstep
    subst hstep
    have hsame : settled { s with wire := rest, uart := (m.deliver now s.uart).1 } = settled s := by
      have hm := deliver_command now m s.uart
      simp only [settled, pending, hwire, hm, commands]
      rfl
    exact h.dropped rfl (fun n hn => by
      simp only [pending, hwire, List.cons_append] at hn ⊢
      exact List.mem_cons_of_mem _ hn) (fun _ => by rw [hsame]) fun _ => Or.inr (by rw [hsame])

/-- A restart is made good by an Open request that was not sent yet. -/
theorem Agreement.reboot (h : Agreement portConfig s)
    (hbefore : s.port.openPending = true ∨ ∃ m, s.built = some m ∧ m.request.type = .Open) :
    Agreement portConfig
      { s with wire := [], uart := UARTWorker.setup s.uart.rxRingBuff.reset } := by
  have hsame : s.port.openPending = false →
      settled { s with wire := [], uart := UARTWorker.setup s.uart.rxRingBuff.reset } =
        settled s := by
    intro hmade
    rcases hbefore with hopen | ⟨m, hbuilt, htype⟩
    · rw [hmade] at hopen
      cases hopen
    · -- the Open request settles both, wherever the firmware starts from
      have hm := (h.proper m (by simp [pending, hbuilt])).2 htype
      simp only [settled, pending, hbuilt, Option.toList_some, commands_append]
      show command m _ _ = command m _ _
      rw [hm, hm]
  refine h.dropped rfl ?_ ?_ ?_
  · intro m hm
    exact List.mem_append_right _ (by simpa [pending] using hm)
  · intro hmade
    rw [hsame hmade]
  · intro hmade
    exact Or.inr (by rw [hsame hmade])

/-- **One careful step.** -/
theorem agreement_step (hreset : portConfig.resetOnConnect = true) (h : Agreement portConfig s)
    {e : Event} (hcareful : Careful s e) (hstep : step config portConfig s e = some t) :
    Agreement portConfig t := by
  cases e with
  | portOpen connection =>
    rw [step, Option.some.injEq] at hstep
    exact hstep ▸ h.portOpen hreset connection
  | poll counter input => exact h.poll hstep
  | send sent => exact h.send hcareful hstep
  | connect =>
    simp only [step] at hstep
    split at hstep
    · cases hstep
    · rw [Option.some.injEq] at hstep
      exact hstep ▸ ⟨h.proper, h.before, h.mode_eq, h.session_eq⟩
  | lose arriving =>
    rw [step, Option.some.injEq] at hstep
    exact hstep ▸ h.lose hcareful
  | deliver now => exact h.deliver hstep
  | reboot =>
    simp only [step] at hstep
    split at hstep
    · cases hstep
    · rw [Option.some.injEq] at hstep
      subst hstep
      exact h.reboot (hcareful.2.2 rfl)

/-! ## Whole runs -/

/-- What the invariant says once nothing is pending. -/
theorem Agreement.agreed (h : Agreement portConfig s) : Agreed portConfig s := by
  intro _ hopen hreset hquiet
  have hclose : ∀ m ∈ pending s, m.request.type ≠ .Open ∧ m.request.type ≠ .Close :=
    fun m hm => ⟨(hquiet m hm).1, (h.proper m hm).1⟩
  have hmode := h.mode_eq hopen
  rw [settled, commands_mode _ hclose] at hmode
  rcases h.session_eq hopen with hpend | hsession
  · rw [hreset] at hpend
    cases hpend
  · rw [settled, commands_session _ hquiet] at hsession
    exact ⟨hsession, hmode⟩

/-- **Port and session agreement.** In every run that loses no Open request,
loses a Reset request only with a newer one to come, and restarts the firmware
only before the Open request was sent, client and firmware agree whenever a
connection is up and nothing is pending. -/
theorem agreed_of_careful (config : Config) (portConfig : PortConfig)
    (hreset : portConfig.resetOnConnect = true) (rxRingBuff : DataBuffer α size)
    (slot : Nat → UInt8) (fwRingBuff : DataBuffer UInt8 fwSize) (es : List Event)
    (s : State α size fwSize)
    (careful : Along (step config portConfig) Careful (init config rxRingBuff slot fwRingBuff) es)
    (hrun : exec (step config portConfig) (init config rxRingBuff slot fwRingBuff) es = some s) :
    Agreed portConfig s :=
  (exec_invariant_along (Agreement portConfig)
    (fun _ _ _ h hcareful hstep => agreement_step hreset h hcareful hstep)
    (Agreement.start config rxRingBuff slot fwRingBuff) careful hrun).agreed

/-- A step that loses nothing and restarts nothing. -/
theorem careful_of_lost_nil {e : Event} (hlost : lost s e = []) (hreboot : e ≠ .reboot) :
    Careful s e := by
  refine ⟨?_, ?_, fun h => absurd h hreboot⟩
  · intro m hm
    rw [hlost] at hm
    exact absurd hm List.not_mem_nil
  · rintro ⟨m, hm, _⟩
    rw [hlost] at hm
    exact absurd hm List.not_mem_nil

open Deployment (avrPro ring16 ring512 port57600)

def switchedOn : State UInt8 16 512 := init (avrPro false).config (ring16 0) (fun _ => 0) ring512

/-- A step that loses nothing and restarts nothing is careful, and of the others it can be
evaluated. -/
instance (s : State α size fwSize) : (e : Event) → Decidable (Careful s e)
  | .portOpen _ | .poll _ _ | .connect | .deliver _ => isTrue (careful_of_lost_nil rfl nofun)
  | .send sent =>
    decidable_of_iff ((∀ m ∈ lost s (.send sent), m.request.type ≠ .Open) ∧
        ((∃ m ∈ lost s (.send sent), m.request.type = .Reset) → s.port.resetPending = true))
      ⟨fun h => ⟨h.1, fun hlost => Or.inl (h.2 hlost), nofun⟩,
        fun h => ⟨h.1, fun hlost => (h.2.1 hlost).resolve_right nofun⟩⟩
  | .lose arriving =>
    decidable_of_iff ((∀ m ∈ lost s (.lose arriving), m.request.type ≠ .Open) ∧
        ((∃ m ∈ lost s (.lose arriving), m.request.type = .Reset) →
          s.port.resetPending = true ∨ ∃ m ∈ s.built, m.request.type = .Reset))
      ⟨fun h => ⟨h.1, fun hlost => (h.2 hlost).imp_right fun ⟨m, hm, ht⟩ => ⟨_, m, rfl, hm, ht⟩,
          nofun⟩,
        fun h => ⟨h.1, fun hlost => (h.2.1 hlost).imp_right fun ⟨_, m, _, hm, ht⟩ => ⟨m, hm, ht⟩⟩⟩
  | .reboot =>
    decidable_of_iff ((∀ m ∈ lost s .reboot, m.request.type ≠ .Open) ∧
        ((∃ m ∈ lost s .reboot, m.request.type = .Reset) → s.port.resetPending = true) ∧
        (s.port.openPending = true ∨ ∃ m ∈ s.built, m.request.type = .Open))
      ⟨fun h => ⟨h.1, fun hlost => Or.inl (h.2.1 hlost), fun _ => h.2.2⟩,
        fun h => ⟨h.1, fun hlost => (h.2.1 hlost).resolve_right nofun, h.2.2 rfl⟩⟩

/-- The first tick opens the port. -/
def openPort : List Event := [.connect, .poll 1 (.error .EAGAIN), .send true, .deliver 5]

/-- A client connects, and its Reset request arrives. Then data are lost with the connection,
and later the Reset request of the next client, while the one after it has connected already. -/
def reconnecting : List Event :=
  openPort ++ [.portOpen 7, .poll 2 (.error .EAGAIN), .send true, .deliver 6,
    .poll 3 (.bytes [0x41, 0x42]), .send true, .lose 0, .portOpen 8, .connect,
    .poll 4 (.error .EAGAIN), .portOpen 9, .send false, .connect, .poll 5 (.error .EAGAIN),
    .send true, .deliver 7]

def afterReconnecting : State UInt8 16 512 :=
  (exec (step (avrPro false).config (port57600 true 0)) switchedOn reconnecting).getD switchedOn

/-- The two sides agree on the session of the third client. -/
theorem agreed_reconnecting :
    Agreed (port57600 true 0) afterReconnecting ∧ afterReconnecting.up = true ∧
      afterReconnecting.uart.sessionId = 3 ∧ afterReconnecting.uart.curMode = 6 := by
  have hthrough : (exec (step (avrPro false).config (port57600 true 0)) switchedOn
      reconnecting).isSome = true := by decide +kernel
  have hcareful : Along (step (avrPro false).config (port57600 true 0)) Careful switchedOn
      reconnecting := by decide +kernel
  refine ⟨agreed_of_careful (avrPro false).config (port57600 true 0) rfl (ring16 0) (fun _ => 0)
    ring512 reconnecting afterReconnecting hcareful (exec_eq_some_getD hthrough), ?_⟩
  decide +kernel

/-- The Open request of the first tick is lost with the connection. -/
def openLost : List Event :=
  [.connect, .lose 0, .poll 1 (.error .EAGAIN), .send true, .connect]

/-- A lost Open request is never made again: the port stays closed. -/
theorem lost_open_disagrees :
    ¬ ∀ (es : List Event) (s : State UInt8 16 512),
      exec (step (avrPro false).config (port57600 true 0)) switchedOn es = some s →
        Agreed (port57600 true 0) s := by
  intro hall
  have hagreed := hall openLost _ rfl rfl rfl rfl (fun m hm => absurd hm List.not_mem_nil)
  exact absurd hagreed.2 (by decide)

end UartBridge.SessionAgreement
