import UartBridge.Lib.ByteMem
import UartBridge.Client.Connection

/-!
# LoopbackTester: the reading half of the test utility

`Worker` reads the block that comes back, first one byte to measure the latency and then the
rest, and compares each part with what was sent. `ProcessTX` and the measurements are left
out; a round is one `recv`, as long as `OnShutdown` has not been called.
-/

namespace UartBridge.TestUtil

open Client (Errno)

/-- What there is when `recv` is called: nothing within the time limit of the socket, or some
bytes, of which `count` is one less than the number. -/
inductive Arrival where
  | timeout
  | bytes (count : Nat)
  deriving DecidableEq, Repr

/-- The socket: what has still to come, and `errno`. -/
structure Socket where
  stream : List UInt8
  errno : Errno
  deriving DecidableEq, Repr

/-- `recv` for `len` bytes; `none` is -1. Asked for nothing it returns 0 at once, and leaves
`errno` as it was. -/
def Socket.recv (s : Socket) (len : Nat) (arrival : Arrival) : Socket × Option (List UInt8) :=
  if len = 0 then (s, some [])
  else
    match arrival with
    | .timeout => ({ s with errno := .EAGAIN }, none)
    | .bytes count =>
      if s.stream = [] then ({ s with errno := .EAGAIN }, none)
      else ({ s with stream := s.stream.drop (min (count + 1) len) },
        some (s.stream.take (min (count + 1) len)))

/-- Where `Worker` stands: it waits for the first byte or for the rest, has left the second
loop, or has returned after an error. -/
inductive Phase where
  | first | rest | complete | failed
  deriving DecidableEq, Repr

/-- What `Worker` works on. `reported`: the offsets of the validation failures logged. -/
structure LoopbackTester where
  phase : Phase
  readLeft : Nat
  test : Nat → UInt8
  validationFailed : Bool
  reported : List Nat
  socket : Socket
  disposed : Bool

namespace LoopbackTester

/-- `Worker` starts to read into `test`. -/
def start (test : Nat → UInt8) (socket : Socket) : LoopbackTester :=
  { phase := .first, readLeft := 0, test := test, validationFailed := false, reported := []
    socket := socket, disposed := false }

/-- `Validate`: the offset that it logs, if any. -/
def validate (source test : Nat → UInt8) (offset len : Nat) : Option Nat :=
  ((List.range len).map (offset + ·)).find? fun pos => test pos ≠ source pos

/-- `if(!validationFailed) validationFailed=Validate(offset,len)`. -/
def validated (source : Nat → UInt8) (offset len : Nat) (s : LoopbackTester) : LoopbackTester :=
  if s.validationFailed then s
  else
    match validate source s.test offset len with
    | none => s
    | some pos => { s with validationFailed := true, reported := s.reported ++ [pos] }

/-- After a `recv` that returned 0 or less. -/
def recvFailed (s : LoopbackTester) : LoopbackTester :=
  if s.socket.errno = .EINTR ∨ s.socket.errno = .EAGAIN then s
  else { s with phase := .failed, disposed := true }

/-- A round of the loop in which `Worker` stands, for `testBlockSize` bytes. -/
def round (testBlockSize : Nat) (source : Nat → UInt8) (arrival : Arrival)
    (s : LoopbackTester) : LoopbackTester :=
  match s.phase with
  | .first =>
    let r := s.socket.recv 1 arrival
    let s := { s with socket := r.1 }
    match r.2 with
    | none | some [] => s.recvFailed
    | some (byte :: bytes) =>
      let s := { s with test := ByteMem.write s.test 0 (byte :: bytes) }
      { s.validated source 0 1 with phase := .rest, readLeft := testBlockSize - 1 }
  | .rest =>
    let r := s.socket.recv s.readLeft arrival
    let s := { s with socket := r.1 }
    match r.2 with
    | none | some [] => s.recvFailed
    | some (byte :: bytes) =>
      let offset := testBlockSize - s.readLeft
      let dr := (byte :: bytes).length
      let s := { s with test := ByteMem.write s.test offset (byte :: bytes) }
      let s := s.validated source offset dr
      { s with
        readLeft := s.readLeft - dr
        phase := if s.readLeft - dr < 1 then .complete else .rest }
  | .complete | .failed => s

/-! ## Validation -/

theorem validate_isSome_iff (source test : Nat → UInt8) (offset len : Nat) :
    (validate source test offset len).isSome = true ↔
      ∃ k, offset ≤ k ∧ k < offset + len ∧ test k ≠ source k := by
  unfold validate
  rw [List.find?_isSome]
  simp only [List.mem_map, List.mem_range, decide_eq_true_eq]
  constructor
  · rintro ⟨_, ⟨i, hi, rfl⟩, hne⟩
    exact ⟨offset + i, by omega, by omega, hne⟩
  · rintro ⟨k, hlo, hhi, hne⟩
    exact ⟨k, ⟨k - offset, by omega, by omega⟩, hne⟩

/-- `Validate` looks at the test data, and changes nothing but what it found. -/
theorem validated_frame (source : Nat → UInt8) (offset len : Nat) (s : LoopbackTester) :
    (s.validated source offset len).test = s.test ∧
      (s.validated source offset len).socket = s.socket ∧
      (s.validated source offset len).readLeft = s.readLeft := by
  unfold validated
  split
  · exact ⟨rfl, rfl, rfl⟩
  · split <;> exact ⟨rfl, rfl, rfl⟩

/-- Something is found in this part, or was found before. -/
theorem validated_failed (source : Nat → UInt8) (offset len : Nat) (s : LoopbackTester) :
    (s.validated source offset len).validationFailed = true ↔
      s.validationFailed = true ∨ ∃ k, offset ≤ k ∧ k < offset + len ∧ s.test k ≠ source k := by
  rw [← validate_isSome_iff]
  unfold validated
  cases hfailed : s.validationFailed with
  | true => simp [hfailed]
  | false =>
    cases validate source s.test offset len with
    | none => simp [hfailed]
    | some pos => simp

/-- What is found is logged. -/
theorem validated_reported (source : Nat → UInt8) (offset len : Nat) {s : LoopbackTester}
    (h : s.reported ≠ [] ↔ s.validationFailed = true) :
    (s.validated source offset len).reported ≠ [] ↔
      (s.validated source offset len).validationFailed = true := by
  unfold validated
  split
  · exact h
  · split
    · exact h
    · simp

end LoopbackTester

end UartBridge.TestUtil
