import UartBridge.Lib.Run
import UartBridge.TestUtil.LoopbackTester

/-!
# Does the loopback tester read its block?

The bytes come back in parts, with timeouts between them. After each round the tester has
read a first part of the stream, and every `recv` that finds something makes it longer.

* `Received` — the state of the tester, by the number of bytes it has read;
* `reads_of_rest` — a block that is not read with its first byte is read to its end;
* `readsBlock_iff` — so it reads every block, unless that is a single byte.
-/

namespace UartBridge.Loopback

open EventRun TestUtil
open Client (Errno)

/-- The tester after so many rounds. -/
def stateAt (testBlockSize : Nat) (source : Nat → UInt8) (arrivals : Nat → Arrival)
    (s : LoopbackTester) : Nat → LoopbackTester
  | 0 => s
  | i + 1 => (stateAt testBlockSize source arrivals s i).round testBlockSize source (arrivals i)

/-- **The property of a run.** At some time `Worker` has left its loop as it should. The block
in `test` is the first part of the stream, nothing else was written, and a validation failure
was logged exactly if a byte differs. -/
def ReadsBlock (testBlockSize : Nat) (source test : Nat → UInt8) (socket : Socket)
    (arrivals : Nat → Arrival) : Prop :=
  ∃ i, (stateAt testBlockSize source arrivals (.start test socket) i).phase = .complete ∧
    (stateAt testBlockSize source arrivals (.start test socket) i).test =
      ByteMem.write test 0 (socket.stream.take testBlockSize) ∧
    ((stateAt testBlockSize source arrivals (.start test socket) i).reported ≠ [] ↔
      ∃ k, k < testBlockSize ∧ socket.stream[k]? ≠ some (source k))

/-! ## What has been read -/

/-- Where `Worker` stands after it has read `got` bytes. -/
def Position (testBlockSize readLeft got : Nat) : Phase → Prop
  | .first => got = 0
  | .rest => 0 < got ∧ got < testBlockSize ∧ readLeft = testBlockSize - got
  | .complete => got = testBlockSize
  | .failed => False

/-- `Worker` has read the first `got` bytes of the stream. -/
structure Received (testBlockSize : Nat) (source test : Nat → UInt8) (stream : List UInt8)
    (s : LoopbackTester) (got : Nat) : Prop where
  got_le : got ≤ testBlockSize
  position : Position testBlockSize s.readLeft got s.phase
  stream_eq : s.socket.stream = stream.drop got
  test_eq : s.test = ByteMem.write test 0 (stream.take got)
  failed_iff : s.validationFailed = true ↔ ∃ k, k < got ∧ s.test k ≠ source k
  reported_iff : s.reported ≠ [] ↔ s.validationFailed = true

section Rounds

variable {testBlockSize : Nat} {source test : Nat → UInt8} {stream : List UInt8}
  {s : LoopbackTester} {got : Nat}

/-- A stream, split where `take` ends. -/
theorem split_take (xs : List UInt8) (m : Nat) :
    xs.take (xs.take m).length = xs.take m ∧ xs.drop (xs.take m).length = xs.drop m := by
  by_cases hshort : m ≤ xs.length
  · rw [List.length_take, Nat.min_eq_left hshort]
    exact ⟨rfl, rfl⟩
  · have hall : xs.take m = xs := List.take_of_length_le (by omega)
    rw [hall, List.take_length, List.drop_length, List.drop_of_length_le (by omega)]
    exact ⟨rfl, rfl⟩

/-- A `recv` that finds something takes a first part of the stream. -/
theorem recv_bytes {socket : Socket} {len : Nat} (hlen : 0 < len) (hsome : socket.stream ≠ [])
    (count : Nat) :
    ∃ byte bytes, socket.recv len (.bytes count) =
        ({ socket with stream := socket.stream.drop (byte :: bytes).length },
          some (byte :: bytes)) ∧
      byte :: bytes = socket.stream.take (byte :: bytes).length ∧
      (byte :: bytes).length ≤ len := by
  have hrecv : socket.recv len (.bytes count) =
      ({ socket with stream := socket.stream.drop (min (count + 1) len) },
        some (socket.stream.take (min (count + 1) len))) := by
    unfold Socket.recv
    rw [if_neg (by omega)]
    dsimp only
    rw [if_neg hsome]
  obtain ⟨htake, hdrop⟩ := split_take socket.stream (min (count + 1) len)
  have hlength : (socket.stream.take (min (count + 1) len)).length ≤ len := by
    rw [List.length_take]
    omega
  cases hbytes : socket.stream.take (min (count + 1) len) with
  | nil =>
    rcases List.take_eq_nil_iff.mp hbytes with hzero | hnil
    · omega
    · exact absurd hnil hsome
  | cons byte bytes =>
    rw [hbytes] at htake hdrop hlength hrecv
    exact ⟨byte, bytes, by rw [hrecv, hdrop], htake.symm, hlength⟩

/-- After a timeout `Worker` stays where it is, and only `errno` is different. -/
theorem Received.timeout (h : Received testBlockSize source test stream s got) :
    Received testBlockSize source test stream (s.round testBlockSize source .timeout) got := by
  obtain ⟨phase, readLeft, buffer, validationFailed, reported, socket, disposed⟩ := s
  have hsame : Received testBlockSize source test stream
      { phase := phase, readLeft := readLeft, test := buffer
        validationFailed := validationFailed, reported := reported
        socket := { socket with errno := .EAGAIN }, disposed := disposed } got :=
    ⟨h.got_le, h.position, h.stream_eq, h.test_eq, h.failed_iff, h.reported_iff⟩
  cases phase with
  | first => exact hsame
  | rest =>
    obtain ⟨hpos, hlt, hleft⟩ : 0 < got ∧ got < testBlockSize ∧ readLeft = testBlockSize - got :=
      h.position
    have hrecv : socket.recv readLeft .timeout = ({ socket with errno := .EAGAIN }, none) := by
      unfold Socket.recv
      rw [if_neg (by omega)]
    unfold LoopbackTester.round
    dsimp only
    rw [hrecv]
    exact hsame
  | complete | failed => exact h

/-- The bytes of a `recv` are stored behind the others, and compared. -/
theorem Received.stored (h : Received testBlockSize source test stream s got)
    (hlen : got ≤ stream.length) {bytes : List UInt8}
    (hbytes : bytes = s.socket.stream.take bytes.length)
    (hle : got + bytes.length ≤ testBlockSize) {t : LoopbackTester}
    (ht : t = LoopbackTester.validated source got bytes.length
      { s with
        socket := { s.socket with stream := s.socket.stream.drop bytes.length }
        test := ByteMem.write s.test got bytes }) {phase : Phase} {readLeft : Nat}
    (hposition : Position testBlockSize readLeft (got + bytes.length) phase) :
    Received testBlockSize source test stream { t with phase := phase, readLeft := readLeft }
      (got + bytes.length) := by
  obtain ⟨htest, hsocket, -⟩ := LoopbackTester.validated_frame source got bytes.length
    { s with
      socket := { s.socket with stream := s.socket.stream.drop bytes.length }
      test := ByteMem.write s.test got bytes }
  rw [← ht] at htest hsocket
  dsimp only at htest hsocket
  refine ⟨hle, hposition, ?_, ?_, ?_, ?_⟩
  · dsimp only
    rw [hsocket]
    dsimp only
    rw [h.stream_eq, List.drop_drop]
  · have hgot : 0 + (stream.take got).length = got := by
      rw [List.length_take, Nat.min_eq_left hlen, Nat.zero_add]
    have happend := ByteMem.write_append test 0 (stream.take got) bytes
    rw [hgot] at happend
    dsimp only
    rw [htest, h.test_eq, happend, List.take_add, ← h.stream_eq, ← hbytes]
  · dsimp only
    rw [ht, LoopbackTester.validated_failed, ← ht, htest]
    dsimp only
    rw [h.failed_iff]
    -- a byte read before is where it was
    have hbefore (k : Nat) (hk : k < got) : ByteMem.write s.test got bytes k = s.test k :=
      ByteMem.write_outside _ _ _ _ (Or.inl hk)
    constructor
    · rintro (⟨k, hk, hne⟩ | ⟨k, -, hk, hne⟩)
      · exact ⟨k, by omega, by rw [hbefore k hk]; exact hne⟩
      · exact ⟨k, hk, hne⟩
    · rintro ⟨k, hk, hne⟩
      by_cases hold : k < got
      · rw [hbefore k hold] at hne
        exact Or.inl ⟨k, hold, hne⟩
      · exact Or.inr ⟨k, by omega, hk, hne⟩
  · dsimp only
    rw [ht]
    exact LoopbackTester.validated_reported source got bytes.length h.reported_iff

/-- **A round that finds something** makes what has been read longer. -/
theorem Received.bytes (h : Received testBlockSize source test stream s got)
    (htwo : 2 ≤ testBlockSize) (hlen : testBlockSize ≤ stream.length)
    (hgot : got < testBlockSize) (count : Nat) :
    ∃ more, 0 < more ∧ Received testBlockSize source test stream
      (s.round testBlockSize source (.bytes count)) (got + more) := by
  have hsome : s.socket.stream ≠ [] := by
    rw [h.stream_eq]
    intro hnil
    have := List.drop_eq_nil_iff.mp hnil
    omega
  obtain ⟨phase, left, buffer, validationFailed, reported, socket, disposed⟩ := s
  cases phase with
  | first =>
    obtain rfl : got = 0 := h.position
    obtain ⟨byte, bytes, hrecv, hbytes, hle⟩ := recv_bytes Nat.one_pos hsome count
    have hone : (byte :: bytes).length = 1 := by
      rw [List.length_cons] at hle ⊢
      omega
    refine ⟨(byte :: bytes).length, Nat.succ_pos _, ?_⟩
    have hround := h.stored (Nat.zero_le _) hbytes (by omega) rfl
      (show Position testBlockSize (testBlockSize - 1) (0 + (byte :: bytes).length) .rest from
        ⟨by omega, by omega, by omega⟩)
    unfold LoopbackTester.round
    dsimp only
    rw [hrecv]
    rw [hone] at hround ⊢
    exact hround
  | rest =>
    obtain ⟨hpos, hlt, rfl⟩ : 0 < got ∧ got < testBlockSize ∧ left = testBlockSize - got :=
      h.position
    obtain ⟨byte, bytes, hrecv, hbytes, hle⟩ :=
      recv_bytes (show 0 < testBlockSize - got by omega) hsome count
    refine ⟨(byte :: bytes).length, Nat.succ_pos _, ?_⟩
    have hoffset : testBlockSize - (testBlockSize - got) = got := by omega
    have hposition : Position testBlockSize (testBlockSize - got - (byte :: bytes).length)
        (got + (byte :: bytes).length)
        (if testBlockSize - got - (byte :: bytes).length < 1 then .complete else .rest) := by
      split
      · show got + (byte :: bytes).length = testBlockSize
        omega
      · exact ⟨by omega, by omega, by omega⟩
    have hround := h.stored (by omega) hbytes (by omega) rfl hposition
    unfold LoopbackTester.round
    dsimp only
    rw [hrecv]
    dsimp only
    rw [hoffset, (LoopbackTester.validated_frame source got _ _).2.2]
    exact hround
  | complete => exact absurd h.position (Nat.ne_of_lt hgot)
  | failed => exact h.position.elim

/-- **A round** never loses what has been read. -/
theorem Received.round (h : Received testBlockSize source test stream s got)
    (htwo : 2 ≤ testBlockSize) (hlen : testBlockSize ≤ stream.length) (arrival : Arrival) :
    ∃ got', got ≤ got' ∧ (arrival ≠ .timeout → got < testBlockSize → got < got') ∧
      Received testBlockSize source test stream (s.round testBlockSize source arrival) got' := by
  cases arrival with
  | timeout => exact ⟨got, Nat.le_refl got, fun hne => absurd rfl hne, h.timeout⟩
  | bytes count =>
    by_cases hgot : got < testBlockSize
    · obtain ⟨more, hmore, hround⟩ := h.bytes htwo hlen hgot count
      exact ⟨got + more, by omega, fun _ _ => by omega, hround⟩
    · -- the block is complete, and `Worker` does not read any more
      refine ⟨got, Nat.le_refl got, fun _ hlt => absurd hlt hgot, ?_⟩
      obtain ⟨phase, left, buffer, validationFailed, reported, socket, disposed⟩ := s
      have hle := h.got_le
      cases phase with
      | first =>
        have hzero : got = 0 := h.position
        omega
      | rest => exact absurd h.position.2.1 hgot
      | complete => exact h
      | failed => exact h.position.elim

theorem Received.start (test : Nat → UInt8) (socket : Socket) :
    Received testBlockSize source test socket.stream (.start test socket) 0 :=
  ⟨Nat.zero_le _, rfl, rfl, (ByteMem.write_nil test 0).symm,
    iff_of_false Bool.false_ne_true fun ⟨k, hk, _⟩ => absurd hk (Nat.not_lt_zero k),
    iff_of_false (not_not.mpr rfl) Bool.false_ne_true⟩

/-- What is in `test` in the end. -/
theorem Received.differs_iff (h : Received testBlockSize source test stream s testBlockSize)
    (hlen : testBlockSize ≤ stream.length) :
    s.reported ≠ [] ↔ ∃ k, k < testBlockSize ∧ stream[k]? ≠ some (source k) := by
  rw [h.reported_iff, h.failed_iff]
  have hcell (k : Nat) (hk : k < testBlockSize) : stream[k]? = some (s.test k) := by
    have hin := ByteMem.write_inside test 0 (stream.take testBlockSize) k
      (by rw [List.length_take]; omega)
    rw [Nat.zero_add, ← h.test_eq, List.getElem_take] at hin
    rw [hin]
    exact List.getElem?_eq_getElem (by omega)
  constructor
  · rintro ⟨k, hk, hne⟩
    exact ⟨k, hk, by rw [hcell k hk, ne_eq, Option.some.injEq]; exact hne⟩
  · rintro ⟨k, hk, hne⟩
    rw [hcell k hk, ne_eq, Option.some.injEq] at hne
    exact ⟨k, hk, hne⟩

end Rounds

/-! ## Runs -/

variable {testBlockSize : Nat} {socket : Socket}

theorem received_stateAt (htwo : 2 ≤ testBlockSize) (hlen : testBlockSize ≤ socket.stream.length)
    (source test : Nat → UInt8) (arrivals : Nat → Arrival) (i : Nat) :
    ∃ got, Received testBlockSize source test socket.stream
      (stateAt testBlockSize source arrivals (.start test socket) i) got := by
  induction i with
  | zero => exact ⟨0, Received.start test socket⟩
  | succ i ih =>
    obtain ⟨got, h⟩ := ih
    obtain ⟨got', -, -, h'⟩ := h.round htwo hlen (arrivals i)
    exact ⟨got', h'⟩

/-- What a tester that has not read its block still has to read. -/
theorem Received.complete_of_le {source test : Nat → UInt8} {stream : List UInt8}
    {s : LoopbackTester} {got : Nat} (h : Received testBlockSize source test stream s got)
    (htwo : 2 ≤ testBlockSize) (hgot : testBlockSize ≤ got) : s.phase = .complete := by
  have hposition := h.position
  cases hphase : s.phase with
  | first =>
    rw [hphase] at hposition
    have hzero : got = 0 := hposition
    omega
  | rest =>
    rw [hphase] at hposition
    exact absurd hposition.2.1 (Nat.not_lt.mpr hgot)
  | complete => rfl
  | failed =>
    rw [hphase] at hposition
    exact hposition.elim

/-- **A block of more than one byte is read to its end**, as each part leaves less to come. -/
theorem reads_of_rest (htwo : 2 ≤ testBlockSize) (hlen : testBlockSize ≤ socket.stream.length)
    (source test : Nat → UInt8) (arrivals : Nat → Arrival)
    (hcomes : ∀ i, ∃ j, i ≤ j ∧ arrivals j ≠ .timeout) :
    ReadsBlock testBlockSize source test socket arrivals := by
  -- what the socket still has after so many rounds
  let left (i : Nat) : Nat :=
    (stateAt testBlockSize source arrivals (.start test socket) i).socket.stream.length
  have hround (i : Nat) : left (i + 1) ≤ left i ∧ (arrivals i ≠ .timeout →
      (stateAt testBlockSize source arrivals (.start test socket) i).phase = .complete ∨
        left (i + 1) < left i) := by
    obtain ⟨got, h⟩ := received_stateAt htwo hlen source test arrivals i
    obtain ⟨got', hle, hmore, h'⟩ := h.round htwo hlen (arrivals i)
    have hleft : left i = socket.stream.length - got := by
      show (stateAt testBlockSize source arrivals (.start test socket) i).socket.stream.length = _
      rw [h.stream_eq, List.length_drop]
    have hleft' : left (i + 1) = socket.stream.length - got' := by
      show (LoopbackTester.round testBlockSize source (arrivals i)
        (stateAt testBlockSize source arrivals (.start test socket) i)).socket.stream.length = _
      rw [h'.stream_eq, List.length_drop]
    refine ⟨by omega, fun hbytes => ?_⟩
    by_cases hgot : got < testBlockSize
    · have hlt := hmore hbytes hgot
      exact Or.inr (by omega)
    · exact Or.inl (h.complete_of_le htwo (Nat.not_lt.mp hgot))
  obtain ⟨i, -, hcomplete⟩ : ∃ i, 0 ≤ i ∧
      (stateAt testBlockSize source arrivals (.start test socket) i).phase = .complete := by
    have hacc : Acc (· < ·) (left 0) := Nat.lt_wfRel.wf.apply _
    refine eventually_of_acc hacc (fun j _ _ => Nat.eq_or_lt_of_le (hround j).1) ?_
    intro j _
    obtain ⟨k, hk, hbytes⟩ := hcomes j
    exact ⟨k, hk, (hround k).2 hbytes⟩
  obtain ⟨got, h⟩ := received_stateAt htwo hlen source test arrivals i
  have hgot : got = testBlockSize := by
    have hposition := h.position
    rw [hcomplete] at hposition
    exact hposition
  subst hgot
  exact ⟨i, hcomplete, h.test_eq, h.differs_iff hlen⟩

/-! ## A single byte -/

/-- After the first byte of a one-byte block `Worker` asks for nothing. -/
def Endless (s : LoopbackTester) : Prop :=
  s.phase = .first ∨ s.phase = .rest ∧ s.readLeft = 0 ∨ s.phase = .failed

/-- A `recv` that returned 0 or less does not end the loop. -/
theorem recvFailed_phase (s : LoopbackTester) :
    (s.recvFailed.phase = s.phase ∧ s.recvFailed.readLeft = s.readLeft) ∨
      s.recvFailed.phase = .failed := by
  unfold LoopbackTester.recvFailed
  split
  · exact Or.inl ⟨rfl, rfl⟩
  · exact Or.inr rfl

/-- **A one-byte block is never complete**: `Worker` goes round and round, or takes the
nothing that it gets for an error. -/
theorem Endless.round {s : LoopbackTester} (h : Endless s) (source : Nat → UInt8)
    (arrival : Arrival) : Endless (s.round 1 source arrival) := by
  obtain ⟨phase, left, buffer, validationFailed, reported, socket, disposed⟩ := s
  -- after a `recv` without bytes it stands where it stood, or has returned
  have hstays (t : LoopbackTester) (ht : Endless t) : Endless t.recvFailed := by
    rcases recvFailed_phase t with ⟨hphase, hleft⟩ | hfailed
    · unfold Endless
      rw [hphase, hleft]
      exact ht
    · exact Or.inr (Or.inr hfailed)
  rcases h with rfl | ⟨rfl, rfl⟩ | rfl
  · unfold LoopbackTester.round
    dsimp only
    split
    · exact hstays _ (Or.inl rfl)
    · exact hstays _ (Or.inl rfl)
    · exact Or.inr (Or.inl ⟨rfl, rfl⟩)
  · exact hstays _ (Or.inr (Or.inl ⟨rfl, rfl⟩))
  · exact Or.inr (Or.inr rfl)

theorem endless_stateAt (source test : Nat → UInt8) (socket : Socket) (arrivals : Nat → Arrival)
    (i : Nat) : Endless (stateAt 1 source arrivals (.start test socket) i) := by
  induction i with
  | zero => exact Or.inl rfl
  | succ i ih => exact ih.round source (arrivals i)

theorem not_readsBlock_one (source test : Nat → UInt8) (socket : Socket)
    (arrivals : Nat → Arrival) : ¬ ReadsBlock 1 source test socket arrivals := by
  rintro ⟨i, hcomplete, -⟩
  rcases endless_stateAt source test socket arrivals i with hphase | ⟨hphase, -⟩ | hphase
  · exact Phase.noConfusion (hphase.symm.trans hcomplete)
  · exact Phase.noConfusion (hphase.symm.trans hcomplete)
  · exact Phase.noConfusion (hphase.symm.trans hcomplete)

/-- **When the tester reads its block.** Whatever the parts and the timeouts, as long as
something comes again and again: exactly if the block has more than one byte. -/
theorem readsBlock_iff (testBlockSize : Nat) (hsize : 1 ≤ testBlockSize)
    (source test : Nat → UInt8) (socket : Socket)
    (hlen : testBlockSize ≤ socket.stream.length) (arrivals : Nat → Arrival)
    (hcomes : ∀ i, ∃ j, i ≤ j ∧ arrivals j ≠ .timeout) :
    ReadsBlock testBlockSize source test socket arrivals ↔ 2 ≤ testBlockSize := by
  constructor
  · intro h
    by_contra hsmall
    have hone : testBlockSize = 1 := by omega
    subst hone
    exact not_readsBlock_one source test socket arrivals h
  · intro htwo
    exact reads_of_rest htwo hlen source test arrivals hcomes

/-! ## Two blocks -/

/-- The bytes come two by two, with a timeout before each pair. -/
def inPairs (i : Nat) : Arrival := if i % 2 = 0 then .timeout else .bytes 1

theorem inPairs_comes (i : Nat) : ∃ j, i ≤ j ∧ inPairs j ≠ .timeout := by
  refine ⟨2 * i + 1, by omega, ?_⟩
  have hodd : (2 * i + 1) % 2 = 1 := by omega
  simp [inPairs, hodd]

/-- An echo with a wrong last byte. -/
def echo : Socket := { stream := [1, 2, 3, 4, 9], errno := .other 0 }

def counting (k : Nat) : UInt8 := UInt8.ofNat (k + 1)

theorem readsBlock_five : ReadsBlock 5 counting (fun _ => 0) echo inPairs :=
  (readsBlock_iff 5 (by decide) counting (fun _ => 0) echo (by decide) inPairs inPairs_comes).mpr
    (by decide)

/-- The echo of one byte, after a timeout. -/
def oneByte : Socket := { stream := [1], errno := .other 0 }

/-- The byte comes, and the tester goes on reading. -/
theorem oneByte_endless : ¬ ReadsBlock 1 counting (fun _ => 0) oneByte inPairs ∧
    (stateAt 1 counting inPairs (.start (fun _ => 0) oneByte) 5).readLeft = 0 ∧
    (stateAt 1 counting inPairs (.start (fun _ => 0) oneByte) 5).phase = .rest :=
  ⟨not_readsBlock_one counting (fun _ => 0) oneByte inPairs, by decide, by decide⟩

end UartBridge.Loopback
