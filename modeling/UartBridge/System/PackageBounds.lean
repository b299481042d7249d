import UartBridge.Client.DataProcessor
import UartBridge.System.Deployment

/-!
# Where a poll event writes

`OnPollEvent` hands each port worker the address of the port's payload slot, and
writes the request it gets back into the port's command header. The stores are
recorded here as ranges of the send buffer.

* `pollEvent_outside` — the recorded ranges are all that a poll event touches;
* `parts_apart`, `part_le` — the parts of a package do not overlap, and fill it;
* `inSlots_iff` — every store stays in the port's parts, unless a port is opened
  and the slots are smaller than the speed that goes with that.
-/

namespace UartBridge.PackageBounds

open Client

variable {size : Nat}

/-- Some consecutive bytes of the send buffer. -/
structure Range where
  offset : Nat
  length : Nat
  deriving DecidableEq, Repr

def Range.Mem (r : Range) (a : Nat) : Prop := r.offset ≤ a ∧ a < r.offset + r.length

def Range.Apart (r r' : Range) : Prop := ∀ a, r.Mem a → ¬ r'.Mem a

/-! ## The parts of a package -/

def packageHeader : Range := { offset := 0, length := pkgHdrSz }

def checksum (config : Config) : Range :=
  { offset := config.getNetPackageMetaSz, length := metaCrcSz }

def commandHeader (i : Nat) : Range :=
  { offset := pkgHdrSz + i * cmdHdrSize, length := cmdHdrSize }

def payloadSlot (config : Config) (i : Nat) : Range :=
  { offset := config.getPortBuffOffset i, length := config.portPLSize }

/-- The parts: first those of the package, then each port's. -/
def parts (config : Config) : List Range :=
  [packageHeader, checksum config] ++
    (List.range config.portCount).flatMap fun i => [commandHeader i, payloadSlot config i]

theorem Range.Apart.of_le {r r' : Range} (h : r.offset + r.length ≤ r'.offset) : r.Apart r' := by
  intro a ha ha'
  exact absurd (Nat.lt_of_lt_of_le ha.2 h) (Nat.not_lt.mpr ha'.1)

theorem Range.Apart.symm {r r' : Range} (h : r.Apart r') : r'.Apart r :=
  fun a ha' ha => h a ha ha'

theorem header_le (config : Config) {i : Nat} (hi : i < config.portCount) :
    pkgHdrSz ≤ (commandHeader i).offset ∧
      (commandHeader i).offset + (commandHeader i).length ≤ config.getNetPackageMetaSz := by
  simp only [commandHeader, Config.getNetPackageMetaSz, metaSz, cmdHdrSize, pkgHdrSz]
  omega

theorem slot_le (config : Config) {i : Nat} (hi : i < config.portCount) :
    config.getNetPackageMetaSz + metaCrcSz ≤ (payloadSlot config i).offset ∧
      (payloadSlot config i).offset + (payloadSlot config i).length ≤ config.getNetPackageSz := by
  have hnext : config.portPLSize * (i + 1) ≤ config.portPLSize * config.portCount :=
    Nat.mul_le_mul_left _ hi
  rw [Nat.mul_succ] at hnext
  simp only [payloadSlot, Config.getNetPackageMetaSz, Config.getPortBuffOffset, portOffset,
    Config.getNetPackageSz, packageSize]
  omega

/-- The ports' parts lie one behind the other. -/
theorem headers_apart {i j : Nat} (h : i < j) : (commandHeader i).Apart (commandHeader j) := by
  refine Range.Apart.of_le ?_
  simp only [commandHeader, cmdHdrSize]
  omega

theorem slots_apart (config : Config) {i j : Nat} (h : i < j) :
    (payloadSlot config i).Apart (payloadSlot config j) := by
  have hnext : config.portPLSize * (i + 1) ≤ config.portPLSize * j := Nat.mul_le_mul_left _ h
  rw [Nat.mul_succ] at hnext
  refine Range.Apart.of_le ?_
  simp only [payloadSlot, Config.getPortBuffOffset, portOffset]
  omega

/-- Headers lie before the checksum, and slots behind it. -/
theorem header_slot_apart (config : Config) {i j : Nat} (hi : i < config.portCount)
    (hj : j < config.portCount) : (commandHeader i).Apart (payloadSlot config j) := by
  have hheader := (header_le config hi).2
  have hslot := (slot_le config hj).1
  exact Range.Apart.of_le (Nat.le_trans hheader (Nat.le_trans (Nat.le_add_right _ _) hslot))

/-- **The parts of a package do not overlap.** -/
theorem parts_apart (config : Config) : (parts config).Pairwise Range.Apart := by
  have hlow : pkgHdrSz ≤ config.getNetPackageMetaSz := by
    simp only [Config.getNetPackageMetaSz, metaSz]
    omega
  refine List.pairwise_append.mpr ⟨?_, ?_, ?_⟩
  · refine List.pairwise_pair.mpr (Range.Apart.of_le ?_)
    simp only [packageHeader, checksum, Nat.zero_add]
    exact hlow
  · rw [List.pairwise_flatMap]
    constructor
    · intro i hi
      rw [List.mem_range] at hi
      exact List.pairwise_pair.mpr (header_slot_apart config hi hi)
    · refine List.Pairwise.imp_of_mem ?_ List.pairwise_lt_range
      intro i j hi hj hlt r hr r' hr'
      rw [List.mem_range] at hi hj
      simp only [List.mem_cons, List.not_mem_nil, or_false] at hr hr'
      rcases hr with rfl | rfl
      · rcases hr' with rfl | rfl
        · exact headers_apart hlt
        · exact header_slot_apart config hi hj
      · rcases hr' with rfl | rfl
        · exact (header_slot_apart config hj hi).symm
        · exact slots_apart config hlt
  · intro r hr r' hr'
    obtain ⟨i, hi, hr'⟩ := List.mem_flatMap.mp hr'
    rw [List.mem_range] at hi
    obtain ⟨hheader, hmeta⟩ := header_le config hi
    obtain ⟨hslot, -⟩ := slot_le config hi
    simp only [List.mem_cons, List.not_mem_nil, or_false] at hr hr'
    rcases hr with rfl | rfl
    · refine Range.Apart.of_le ?_
      simp only [packageHeader, Nat.zero_add]
      rcases hr' with rfl | rfl
      · exact hheader
      · omega
    · rcases hr' with rfl | rfl
      · exact (Range.Apart.of_le hmeta).symm
      · exact Range.Apart.of_le hslot

/-- The parts lie inside the package. -/
theorem part_le (config : Config) {i : Nat} (hi : i < config.portCount) {a : Nat}
    (ha : (commandHeader i).Mem a ∨ (payloadSlot config i).Mem a) : a < config.getNetPackageSz := by
  obtain ⟨-, hheader⟩ := header_le config hi
  obtain ⟨hslot, hend⟩ := slot_le config hi
  rcases ha with ha | ha
  · have := ha.2
    omega
  · exact Nat.lt_of_lt_of_le ha.2 hend

/-! ## A poll event -/

/-- The port workers' answers in a poll event: the states in which they are asked, and what
`read` returns for them then. -/
structure Asked (size : Nat) where
  counter : UInt32
  portConfig : Nat → PortConfig
  ports : Nat → PortWorker UInt8 size
  inputs : Nat → ReadResult

/-- What `ProcessTX` of port `i` returns, with the bytes it leaves in the buffer. -/
def Asked.answer (asked : Asked size) (config : Config) (i : Nat) : Request × List UInt8 :=
  ((asked.ports i).processTX config (asked.portConfig i) asked.counter (asked.inputs i)).2

/-- `OnPollEvent` up to the message: the package, and the flag that goes with it. -/
def pollEvent (config : Config) (asked : Asked size) (txBuff : Nat → UInt8) :
    (Nat → UInt8) × Bool :=
  let polled := (List.range config.portCount).foldl (fun s i =>
    DataProcessor.pollPort config (asked.answer config i).1 (asked.answer config i).2 s.1 s.2)
    (txBuff, DataProcessor.pollStart asked.counter)
  DataProcessor.pollFinish config polled.1 polled.2

/-- What is stored for port `i`: `ProcessTX` writes at the start of the slot, and
`Request::Write` into the header. -/
def stores (config : Config) (asked : Asked size) (i : Nat) : List Range :=
  [{ offset := config.getPortBuffOffset i, length := (asked.answer config i).2.length },
    { offset := pkgHdrSz + i * cmdHdrSize, length := 3 }]

/-- The counter or the interval. -/
def counterStore : Range := { offset := pkgCntOffset, length := 4 }

theorem write_apart {mem : Nat → UInt8} {off : Nat} {xs : List UInt8} {a : Nat}
    (h : ¬ Range.Mem { offset := off, length := xs.length } a) :
    ByteMem.write mem off xs a = mem a := by
  refine ByteMem.write_outside mem off xs a ?_
  unfold Range.Mem at h
  dsimp only at h
  omega

/-- **A poll event touches nothing else.** -/
theorem pollEvent_outside (config : Config) (asked : Asked size) (txBuff : Nat → UInt8) (a : Nat)
    (hports : ∀ i, i < config.portCount → ∀ r ∈ stores config asked i, ¬ r.Mem a)
    (hcounter : ¬ counterStore.Mem a) : (pollEvent config asked txBuff).1 a = txBuff a := by
  -- after `n` rounds of the loop
  have hrounds (n : Nat) (hn : n ≤ config.portCount) :
      let s := (List.range n).foldl (fun s i => DataProcessor.pollPort config
        (asked.answer config i).1 (asked.answer config i).2 s.1 s.2)
        (txBuff, DataProcessor.pollStart asked.counter)
      s.1 a = txBuff a ∧ s.2.port = n := by
    induction n with
    | zero => exact ⟨rfl, rfl⟩
    | succ n ih =>
      obtain ⟨hsame, hport⟩ := ih (Nat.le_of_succ_le hn)
      have hstores := hports n hn
      simp only [stores, List.mem_cons, List.not_mem_nil, or_false, forall_eq_or_imp,
        forall_eq] at hstores
      rw [List.range_succ, List.foldl_append]
      simp only [List.foldl_cons, List.foldl_nil]
      generalize (List.range n).foldl (fun s i => DataProcessor.pollPort config
        (asked.answer config i).1 (asked.answer config i).2 s.1 s.2)
        (txBuff, DataProcessor.pollStart asked.counter) = s at hsame hport ⊢
      simp only [DataProcessor.pollPort, Request.write, hport]
      refine ⟨?_, trivial⟩
      rw [write_apart (by simpa using hstores.2), write_apart hstores.1, hsame]
  have hlast (v : UInt32) :
      ¬ Range.Mem { offset := pkgCntOffset, length := (ByteMem.encode32 v).length } a := hcounter
  unfold pollEvent DataProcessor.pollFinish writeU32Value
  dsimp only
  rw [write_apart (hlast _)]
  exact (hrounds config.portCount (Nat.le_refl _)).1

/-- **The property.** What is stored for a port lies in its header or in its slot, the parts
do not overlap, and everything lies inside the buffer. -/
structure InSlots (config : Config) (asked : Asked size) : Prop where
  own : ∀ i, i < config.portCount → ∀ r ∈ stores config asked i, ∀ a, r.Mem a →
    (commandHeader i).Mem a ∨ (payloadSlot config i).Mem a
  apart : (parts config).Pairwise Range.Apart
  inside : ∀ i, i < config.portCount → ∀ r ∈ stores config asked i, ∀ a, r.Mem a →
    a < config.getNetPackageSz
  counter_inside : ∀ a, counterStore.Mem a → packageHeader.Mem a ∧ a < config.getNetPackageSz

/-- How much `ProcessTX` stores: the speed with an Open, and at most a slot otherwise. -/
theorem answer_length (config : Config) (asked : Asked size) (i : Nat) :
    (asked.answer config i).2.length = 4 ∧ (asked.ports i).connected = true ∧
        (asked.ports i).openPending = true ∨
      (asked.answer config i).2.length ≤ config.portPLSize ∧
        ¬ ((asked.ports i).connected = true ∧ (asked.ports i).openPending = true) := by
  unfold Asked.answer
  by_cases hopens : (asked.ports i).connected = true ∧ (asked.ports i).openPending = true
  · left
    rw [PortWorker.processTX_open hopens.1 hopens.2]
    exact ⟨rfl, hopens⟩
  · right
    refine ⟨?_, hopens⟩
    have htick := PortWorker.processTX_tick config (asked.portConfig i) asked.counter
      (asked.inputs i) (asked.ports i)
    cases hconnected : (asked.ports i).connected with
    | false =>
      rw [PortWorker.processTX_waiting hconnected]
      exact Nat.zero_le _
    | true =>
      generalize (asked.ports i).processTX config (asked.portConfig i) asked.counter
        (asked.inputs i) = r at htick ⊢
      cases htick with
      | idle | reset | gone => exact Nat.zero_le _
      | openPort pending => exact absurd ⟨hconnected, pending⟩ hopens
      | data avail =>
        refine Nat.le_trans (List.length_take_le _ _) ?_
        exact PortWorker.dataToRead_le

/-- In a slot that is too small for it, the speed goes past the end. -/
theorem not_inSlots_of_open {config : Config} {asked : Asked size}
    (hsmall : config.portPLSize < 4) {i : Nat} (hi : i < config.portCount)
    (hopens : (asked.ports i).connected = true ∧ (asked.ports i).openPending = true) :
    ¬ InSlots config asked := by
  intro h
  rcases answer_length config asked i with ⟨hlen, -⟩ | ⟨-, hquiet⟩
  · -- the last byte of the speed lies behind the slot
    have hmem : Range.Mem { offset := config.getPortBuffOffset i
                            length := (asked.answer config i).2.length }
        (config.getPortBuffOffset i + 3) := by
      unfold Range.Mem
      dsimp only
      omega
    obtain ⟨hslot, -⟩ := slot_le config hi
    obtain ⟨-, hheader⟩ := header_le config hi
    have hoffset : (payloadSlot config i).offset = config.getPortBuffOffset i := rfl
    have hlength : (payloadSlot config i).length = config.portPLSize := rfl
    rcases h.own i hi _ List.mem_cons_self _ hmem with hin | hin
    · have := hin.2
      omega
    · have := hin.2
      omega
  · exact hquiet hopens

/-- **Where the stores go.** They stay in the ports' parts exactly if a slot has room for the
speed, or no port is opened in this event. -/
theorem inSlots_iff (config : Config) (asked : Asked size) :
    InSlots config asked ↔ 4 ≤ config.portPLSize ∨ ∀ i, i < config.portCount →
      ¬ ((asked.ports i).connected = true ∧ (asked.ports i).openPending = true) := by
  constructor
  · intro h
    rw [or_iff_not_imp_left]
    intro hsmall i hi hopens
    exact not_inSlots_of_open (Nat.not_le.mp hsmall) hi hopens h
  · intro h
    have hown : ∀ i, i < config.portCount → ∀ r ∈ stores config asked i, ∀ a, r.Mem a →
        (commandHeader i).Mem a ∨ (payloadSlot config i).Mem a := by
      intro i hi r hr a ha
      have hfits : (asked.answer config i).2.length ≤ config.portPLSize := by
        rcases answer_length config asked i with ⟨hlen, hopens⟩ | ⟨hle, -⟩
        · rcases h with hlarge | hquiet
          · omega
          · exact absurd hopens (hquiet i hi)
        · exact hle
      simp only [stores, List.mem_cons, List.not_mem_nil, or_false] at hr
      rcases hr with rfl | rfl
      · exact Or.inr ⟨ha.1, Nat.lt_of_lt_of_le ha.2 (Nat.add_le_add_left hfits _)⟩
      · exact Or.inl ha
    refine ⟨hown, parts_apart config, fun i hi r hr a ha => part_le config hi (hown i hi r hr a ha),
      ?_⟩
    intro a ha
    have hlt : a < pkgHdrSz := ha.2
    refine ⟨⟨Nat.zero_le _, by simpa [packageHeader] using hlt⟩, ?_⟩
    simp only [Config.getNetPackageSz, packageSize, metaSz]
    omega

/-! ## The smallest slots -/

/-- A client for one port with slots of one byte, in the poll event that opens the port. -/
def oneByteSlots : Config :=
  { portCount := 1, portPLSize := 1, remoteRingBuffSize := 512, enableUDP := false
    remotePollInterval := 8192 }

def firstEvent : Asked 16 where
  counter := 1
  portConfig := fun _ => Deployment.port57600 false 0
  ports := fun _ => (PortWorker.create oneByteSlots (Deployment.ring16 0)).onConnected
  inputs := fun _ => .error .EAGAIN

/-- The speed is written behind the end of the buffer. -/
theorem open_overflows : ¬ InSlots oneByteSlots firstEvent :=
  not_inSlots_of_open (by decide) (show 0 < oneByteSlots.portCount by decide) ⟨rfl, rfl⟩

end UartBridge.PackageBounds
