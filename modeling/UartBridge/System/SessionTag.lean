import UartBridge.Lib.Run
import UartBridge.System.Collect

/-!
# Is a response's payload of the session in its tag?

A Reset gives the worker a new session, whose number goes into the tag of every
response from then on. The payload of a response is collected over
`IO_AGGREGATE_MULTIPLIER` polls, and requests are processed between them. The run
is any run of `loop`; for every port it keeps a mark of the last Reset: the session
it set, and how much had been read from the UART by then.

* `Tagging` — the invariant: the worker has the marked session, and what it has
  collected was read after the mark;
* `tagging_step` — a pass keeps it, unless a Reset finds a worker that has begun to
  collect;
* `tagged_of_emptyHanded` — then the payload of every response was read after the
  Reset that its tag comes from.
-/

namespace UartBridge.SessionTag

open EventRun Client Firmware

variable {size : Nat}

/-- The last Reset of a port: the session it set, and the number of bytes that
had been read from the UART when it was processed. -/
structure Mark where
  session : UInt8
  reads : Nat
  deriving DecidableEq, Repr

/-- A response as it was written, with the mark of its port and everything that
had been read from the UART. -/
structure Answer where
  mark : Option Mark
  reads : List UInt8
  written : WrittenResponse
  deriving DecidableEq, Repr

/-- A board, the marks of its ports, and all responses written so far. -/
structure State (size : Nat) where
  board : MainLoop size
  marks : Nat → Option Mark
  log : List Answer

def init (cfg : Configuration) (rxRingBuffs : List (DataBuffer UInt8 size))
    (millis micros : UInt32) : State size :=
  { board := MainLoop.setup cfg rxRingBuffs millis micros, marks := fun _ => none, log := [] }

/-- A Reset sets the mark, and an Open removes it. -/
def remark (request : Firmware.Request) (reads : Nat) (before : Option Mark) : Option Mark :=
  match request.type with
  | .Reset => some { session := request.arg, reads := reads }
  | .Open | .ResetOpen => none
  | .Close | .Data | .NoCommand | .other _ => before

/-- The marks after the requests of a pass. -/
def marksAfter (cfg : Configuration) (s : State size) (input : LoopInput) (i : Nat) :
    Option Mark :=
  match requestOf cfg s.board input i with
  | some request => remark request (bytesReadAt s.board i).length (s.marks i)
  | none => s.marks i

/-- One pass of the loop. -/
def step (cfg : Configuration) (s : State size) (input : LoopInput) : Option (State size) :=
  match s.board.loop cfg input with
  | none => none
  | some p =>
    some { board := p.state
           marks := marksAfter cfg s input
           log := s.log ++ p.responses.mapIdx fun i r =>
             { mark := marksAfter cfg s input i, reads := bytesReadAt p.state i, written := r } }

/-- A Data response with the tag of a Reset: the tag is right, and what it carries
was read after the Reset. -/
def Answer.Tagged (a : Answer) : Prop :=
  ∀ m, a.mark = some m → a.written.response.type = .Data →
    a.written.response.arg &&& 0x7F = m.session &&& 0x7F ∧
      ∃ earlier, earlier ++ a.written.payload = a.reads ∧ m.reads ≤ earlier.length

/-- **The property.** -/
def Tagged (s : State size) : Prop := ∀ a ∈ s.log, a.Tagged

/-- **The condition.** A Reset finds the worker empty-handed: the next poll starts
a new payload anyway, or nothing was collected for it yet. -/
def EmptyHanded (cfg : Configuration) (s : State size) (input : LoopInput) : Prop :=
  ∀ i, i < cfg.uartCount → (requestOf cfg s.board input i).map (·.type) = some .Reset →
    Restarts cfg s.board ∨ (s.board.uartWorker[i]?).map (·.txUsedSz) = some 0

instance (cfg : Configuration) (s : State size) (input : LoopInput) :
    Decidable (EmptyHanded cfg s input) :=
  inferInstanceAs (Decidable (∀ i, i < _ → _))

/-- With one segment a response, the condition always holds. -/
theorem emptyHanded_of_single {cfg : Configuration} (hsingle : cfg.ioAggregateMultiplier ≤ 1)
    (s : State size) (input : LoopInput) : EmptyHanded cfg s input :=
  fun _ _ _ => Or.inl (Or.inl hsingle)

/-! ## The invariant -/

structure Tagging (cfg : Configuration) (s : State size) : Prop where
  collecting : Collecting cfg s.board
  marked : ∀ i w m, s.board.uartWorker[i]? = some w → s.marks i = some m →
    w.sessionId = m.session ∧ m.reads ≤ collectedFrom cfg s.board w
  tagged : Tagged s

variable {cfg : Configuration} {s t : State size} {input : LoopInput}

theorem Tagging.start {rxRingBuffs : List (DataBuffer UInt8 size)}
    (hlen : rxRingBuffs.length = cfg.uartCount) (millis micros : UInt32) :
    Tagging cfg (init cfg rxRingBuffs millis micros) :=
  ⟨Collecting.setup hlen millis micros, fun _ _ _ _ h => (by cases h),
    fun _ h => absurd h List.not_mem_nil⟩

/-- The tag of a response is the worker's session. -/
theorem responseArg_tag (w : UARTWorker size) : w.responseArg &&& 0x7F = w.sessionId &&& 0x7F := by
  -- the block bit is masked out
  have hblock (c : UInt8) (hc : c &&& 0x7F = 0) (b : UInt8) :
      (c ||| b &&& 0x7F) &&& 0x7F = b &&& 0x7F := by
    apply UInt8.eq_of_toBitVec_eq
    have hbits := congrArg UInt8.toBitVec hc
    simp only [UInt8.toBitVec_and, UInt8.toBitVec_or] at hbits ⊢
    rw [BitVec.and_comm, BitVec.and_or_distrib_left, BitVec.and_comm _ c.toBitVec, hbits,
      ← BitVec.and_assoc, BitVec.and_comm _ b.toBitVec, BitVec.and_assoc, BitVec.and_self]
    exact BitVec.zero_or
  unfold UARTWorker.responseArg
  split
  · exact hblock 0x80 (by decide) w.sessionId
  · exact hblock 0 (by decide) w.sessionId

/-- Before the poll the mark is right: the worker has its session, and what it has
collected was read after it. -/
theorem Tagging.served (h : Tagging cfg s) (hempty : EmptyHanded cfg s input) {i : Nat}
    {w : UARTWorker size} {m : Mark} (hw : s.board.uartWorker[i]? = some w)
    (hm : marksAfter cfg s input i = some m) :
    (match requestOf cfg s.board input i with
      | some r => r.session w.sessionId
      | none => w.sessionId) = m.session ∧ m.reads ≤ collectedFrom cfg s.board w := by
  have hreads := bytesReadAt_eq hw
  have hi : i < cfg.uartCount := by
    rw [← h.collecting.workers_len]
    exact (List.getElem?_eq_some_iff.mp hw).1
  unfold marksAfter at hm
  cases hrequest : requestOf cfg s.board input i with
  | none =>
    simp only [hrequest] at hm
    exact h.marked i w m hw hm
  | some request =>
    simp only [hrequest, remark] at hm
    show request.session w.sessionId = m.session ∧ _
    unfold Firmware.Request.session
    cases htype : request.type with
    | Reset =>
      -- the mark is made here: the worker must not hold what was read before
      simp only [htype, Option.some.injEq] at hm
      subst hm
      refine ⟨rfl, ?_⟩
      rw [hreads]
      unfold collectedFrom
      rcases hempty i hi (by rw [hrequest, Option.map_some, htype]) with hrestarts | hzero
      · exact Nat.le_of_eq (if_pos hrestarts).symm
      · rw [hw, Option.map_some, Option.some.injEq] at hzero
        rw [hzero, Nat.sub_zero]
        split <;> exact Nat.le_refl _
    | Open | ResetOpen =>
      simp only [htype] at hm
      cases hm
    | Close | Data | NoCommand | other =>
      simp only [htype] at hm
      exact h.marked i w m hw hm

/-- **One pass.** -/
theorem tagging_step (h : Tagging cfg s) (hempty : EmptyHanded cfg s input)
    (hstep : step cfg s input = some t) : Tagging cfg t := by
  unfold step at hstep
  cases hp : s.board.loop cfg input with
  | none =>
    simp only [hp] at hstep
    cases hstep
  | some p =>
    simp only [hp, Option.some.injEq] at hstep
    obtain ⟨hcollecting, hworkers, hresponses⟩ :=
      loop_collect (D := Deployment.matching cfg false 0) h.collecting hp
    subst hstep
    refine ⟨hcollecting, ?_, ?_⟩
    · intro i w' m hw' hm
      obtain ⟨w, hw, hpassed⟩ := hworkers i w' hw'
      obtain ⟨hsession, hreads⟩ := h.served hempty hw hm
      exact ⟨hpassed.session_eq.trans hsession, Nat.le_trans hreads hpassed.from_le⟩
    · intro a ha
      rcases List.mem_append.mp ha with hold | hnew
      · exact h.tagged a hold
      · obtain ⟨i, hi, rfl⟩ := List.mem_mapIdx.mp hnew
        intro m hm htype
        rcases hresponses with ⟨hnone, -⟩ | ⟨hresponded, hfresh⟩
        · rw [hnone] at hi
          cases hi
        · obtain ⟨w', hw', hresponse, hpayload⟩ :=
            hresponded.describes i p.responses[i] (List.getElem?_eq_getElem hi)
          obtain ⟨w, hw, hpassed⟩ := hworkers i w' hw'
          obtain ⟨hsession, hreads⟩ := h.served hempty hw hm
          have hdata : p.responses[i].response.arg = w'.responseArg := by
            rw [hresponse]
            unfold UARTWorker.processTX
            split <;> rfl
          obtain ⟨earlier, hearlier⟩ := (hcollecting.collected i w' hw').last_read
          have hlen := congrArg List.length hearlier
          rw [List.length_append, ByteMem.length_read] at hlen
          have hafter : collectedFrom cfg s.board w + w'.txUsedSz ≤ w'.bytesRead.length :=
            hfresh i w w' hw hw'
          dsimp only
          refine ⟨?_, earlier, ?_, by omega⟩
          · rw [hdata, responseArg_tag]
            exact congrArg (· &&& 0x7F) (hpassed.session_eq.trans hsession)
          · rw [hpayload, bytesReadAt_eq hw']
            exact hearlier

/-- **In every run in which each Reset finds an empty-handed worker, a response
that carries a Reset's tag carries only what was read after it.** -/
theorem tagged_of_emptyHanded (cfg : Configuration) (rxRingBuffs : List (DataBuffer UInt8 size))
    (hlen : rxRingBuffs.length = cfg.uartCount) (millis micros : UInt32) (es : List LoopInput)
    (s : State size)
    (empty : Along (step cfg) (EmptyHanded cfg) (init cfg rxRingBuffs millis micros) es)
    (run : exec (step cfg) (init cfg rxRingBuffs millis micros) es = some s) : Tagged s :=
  (exec_invariant_along (Tagging cfg) (fun _ _ _ h hempty hstep => tagging_step h hempty hstep)
    (Tagging.start hlen millis micros) empty run).tagged

/-! ## A board that collects two segments -/

open Deployment (ring512)

def switchedOn : State 512 := init Configuration.avrPro [ring512] 0 0

/-- The client connects and opens the port at 57600 baud. -/
def opened : List LoopInput :=
  [.accepts .avrPro,
    .stream .avrPro 0 (LoopInput.package .avrPro 0 [0x02, 6, 4] (ByteMem.encode32 57600))]

/-- Session 5 begins. -/
def resets (micros : UInt32) : LoopInput :=
  .stream .avrPro micros (LoopInput.package .avrPro 0 [0x01, 5, 0] [])

/-- The Reset comes before the first segment. -/
def resetFirst : List LoopInput :=
  opened ++ [resets 0, .quiet .avrPro 4096 [0x41], .quiet .avrPro 8192 [0x42]]

def afterResetFirst : State 512 :=
  (exec (step Configuration.avrPro) switchedOn resetFirst).getD switchedOn

/-- The response carries what was read in the session. -/
theorem tagged_resetFirst : Tagged afterResetFirst ∧
    afterResetFirst.log = [⟨some ⟨5, 0⟩, [0x41, 0x42], ⟨⟨.Data, 5, 2⟩, [0x41, 0x42]⟩⟩] :=
  ⟨tagged_of_emptyHanded Configuration.avrPro [ring512] rfl 0 0 resetFirst afterResetFirst
    (by decide +kernel) (exec_eq_some_getD (by decide +kernel)), by decide +kernel⟩

/-- The Reset comes between the two segments. -/
def resetBetween : List LoopInput :=
  opened ++ [.quiet .avrPro 4096 [0x41], resets 4096, .quiet .avrPro 8192 [0x42]]

def afterResetBetween : State 512 :=
  (exec (step Configuration.avrPro) switchedOn resetBetween).getD switchedOn

/-- The first byte of the response was read before the Reset whose tag it carries. -/
theorem segment_before_reset :
    ¬ ∀ (cfg : Configuration) (rxRingBuffs : List (DataBuffer UInt8 512)) (es : List LoopInput)
      (s : State 512), rxRingBuffs.length = cfg.uartCount →
      exec (step cfg) (init cfg rxRingBuffs 0 0) es = some s → Tagged s := by
  intro hall
  have htagged := hall Configuration.avrPro [ring512] resetBetween afterResetBetween rfl
    (exec_eq_some_getD (by decide +kernel))
  have hlog : afterResetBetween.log =
      [⟨some ⟨5, 1⟩, [0x41, 0x42], ⟨⟨.Data, 5, 2⟩, [0x41, 0x42]⟩⟩] := by decide +kernel
  obtain ⟨-, earlier, hreads, hmark⟩ :=
    htagged _ (by rw [hlog]; exact List.mem_singleton_self _) ⟨5, 1⟩ rfl rfl
  -- everything that was read is in the payload
  have hlen := congrArg List.length hreads
  simp only [List.length_append, List.length_cons, List.length_nil] at hlen hmark
  omega

end UartBridge.SessionTag
