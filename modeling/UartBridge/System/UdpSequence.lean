import UartBridge.Lib.Serial
import UartBridge.Client.Connection
import UartBridge.Firmware.UDPServer

/-!
# Sequence checks of both receivers

`UDPConnection::RXSeqCheckIncrement` and `UDPServer::DropOldSeq` are the same
serial-number comparison. Packages are numbered by their index at the sender;
the number travels in the first two bytes, the rest of the package is arbitrary.

* `clientReceives_eq_accept`, `firmwareReceives_eq_accept` — both checks are
  `SerialNumber.accept`;
* `udp_receivers_accept_newer` — over every schedule inside the window, both
  accept exactly the packages newer than all accepted ones, and the same ones.
-/

namespace UartBridge.UdpSequence

open SerialNumber Client Firmware

/-- The package of index `i` on the wire: its number, then whatever it carries. -/
def numbered (first : UInt16) (package : Int → Nat → UInt8) (i : Int) : Nat → UInt8 :=
  writeU16Value (numberOf first i) 0 (package i)

/-- The client's check on the package of index `i`. -/
def clientReceives (first : UInt16) (package : Int → Nat → UInt8) (c : UDPConnection) (i : Int) :
    UDPConnection × Bool :=
  let rxBuff := numbered first package i
  c.rxSeqCheckIncrement (ByteMem.decode16 (rxBuff 0) (rxBuff 1))

/-- The firmware's check on the package of index `i`. -/
def firmwareReceives (first : UInt16) (package : Int → Nat → UInt8) (s : UDPServer) (i : Int) :
    UDPServer × Bool :=
  let (s, drop) := s.dropOldSeq (numbered first package i)
  (s, !drop)

/-- `RXSeqCheckIncrement` is the serial-number comparison with `rxSeq`. -/
theorem rxSeqCheckIncrement_eq_accept (c : UDPConnection) (testSeq : UInt16) :
    accept c.rxSeq testSeq =
      ((c.rxSeqCheckIncrement testSeq).1.rxSeq, (c.rxSeqCheckIncrement testSeq).2) := by
  unfold accept newer UDPConnection.rxSeqCheckIncrement
  by_cases hahead : testSeq - c.rxSeq < c.rxSeq - testSeq
  · simp [hahead]
  · simp [hahead]

/-- `DropOldSeq` is the serial-number comparison with `serverSeq`. -/
theorem dropOldSeq_eq_accept (s : UDPServer) (rxBuff : Nat → UInt8) :
    accept s.serverSeq (ByteMem.decode16 (rxBuff 0) (rxBuff 1)) =
      ((s.dropOldSeq rxBuff).1.serverSeq, !(s.dropOldSeq rxBuff).2) := by
  unfold accept newer UDPServer.dropOldSeq
  by_cases hahead : ByteMem.decode16 (rxBuff 0) (rxBuff 1) - s.serverSeq <
      s.serverSeq - ByteMem.decode16 (rxBuff 0) (rxBuff 1)
  · simp [hahead]
  · simp [hahead]

theorem decode_numbered (first : UInt16) (package : Int → Nat → UInt8) (i : Int) :
    ByteMem.decode16 (numbered first package i 0) (numbered first package i 1) =
      numberOf first i :=
  ByteMem.decode16_write (package i) 0 (numberOf first i)

theorem clientReceives_eq_accept (first : UInt16) (package : Int → Nat → UInt8)
    (c : UDPConnection) (i : Int) :
    accept c.rxSeq (numberOf first i) =
      ((clientReceives first package c i).1.rxSeq, (clientReceives first package c i).2) := by
  have hnumber : clientReceives first package c i = c.rxSeqCheckIncrement (numberOf first i) :=
    congrArg (fun seq => c.rxSeqCheckIncrement seq) (decode_numbered first package i)
  rw [hnumber]
  exact rxSeqCheckIncrement_eq_accept c (numberOf first i)

theorem firmwareReceives_eq_accept (first : UInt16) (package : Int → Nat → UInt8)
    (s : UDPServer) (i : Int) :
    accept s.serverSeq (numberOf first i) =
      ((firmwareReceives first package s i).1.serverSeq,
        (firmwareReceives first package s i).2) := by
  have h := dropOldSeq_eq_accept s (numbered first package i)
  rwa [decode_numbered] at h

/-- Receivers that compare the same last number accept the same packages. -/
theorem same_accepted (first : UInt16) (package : Int → Nat → UInt8) (schedule : List Int)
    (c : UDPConnection) (s : UDPServer) (accepted : List Int) (same : c.rxSeq = s.serverSeq) :
    (deliveries (clientReceives first package) (c, accepted) schedule).2 =
      (deliveries (firmwareReceives first package) (s, accepted) schedule).2 := by
  induction schedule generalizing c s accepted with
  | nil => rfl
  | cons i schedule ih =>
    have hc := clientReceives_eq_accept first package c i
    have hs := firmwareReceives_eq_accept first package s i
    rw [same, hs, Prod.mk.injEq] at hc
    simp only [deliveries, List.foldl_cons, deliver, hc.2]
    exact ih _ _ _ hc.1.symm

/-- What the acceptance law says of one receiver: after every part of the
schedule the next package is accepted exactly when it is newer than the baseline
and than everything accepted so far, and what is accepted is increasing. -/
def AcceptsNewer {σ : Type} (recv : σ → Int → σ × Bool) (baseline : Int) (s : σ)
    (schedule : List Int) : Prop :=
  (∀ before i after, schedule = before ++ i :: after →
    ((recv (deliveries recv (s, []) before).1 i).2 = true ↔
      ∀ j ∈ baseline :: (deliveries recv (s, []) before).2, j < i)) ∧
    (baseline :: (deliveries recv (s, []) schedule).2).Pairwise (· < ·)

/-- A receiver that compares serial numbers obeys the law inside the window. -/
theorem acceptsNewer_of_accept {σ : Type} {recv : σ → Int → σ × Bool} {first : UInt16}
    {last : σ → UInt16} {baseline : Int} {s : σ} {schedule : List Int}
    (recv_eq : ∀ s i, accept (last s) (numberOf first i) = (last (recv s i).1, (recv s i).2))
    (start : last s = numberOf first baseline)
    (window : InWindow recv baseline (s, []) schedule) :
    AcceptsNewer recv baseline s schedule := by
  have tracks : Tracks first baseline [] (last s) := start ▸ Tracks.start first baseline
  refine ⟨?_, ?_⟩
  · intro before i after hsplit
    rw [hsplit] at window
    exact delivery_accepted_iff recv_eq tracks window
  · exact (deliveries_track recv_eq tracks window).increasing

/-- **UDP acceptance never duplicates or reorders.** From a common baseline, for
every schedule of deliveries inside the window, either receiver accepts a
package exactly when its index is above the baseline and above every index
accepted before; and both accept the same packages. -/
theorem udp_receivers_accept_newer (first : UInt16) (package : Int → Nat → UInt8)
    (baseline : Int) (schedule : List Int) (c : UDPConnection) (s : UDPServer)
    (client_start : c.rxSeq = numberOf first baseline)
    (firmware_start : s.serverSeq = numberOf first baseline) :
    (InWindow (clientReceives first package) baseline (c, []) schedule →
      AcceptsNewer (clientReceives first package) baseline c schedule) ∧
    (InWindow (firmwareReceives first package) baseline (s, []) schedule →
      AcceptsNewer (firmwareReceives first package) baseline s schedule) ∧
    (deliveries (clientReceives first package) (c, []) schedule).2 =
      (deliveries (firmwareReceives first package) (s, []) schedule).2 :=
  ⟨fun window => acceptsNewer_of_accept (clientReceives_eq_accept first package) client_start
      window,
    fun window => acceptsNewer_of_accept (firmwareReceives_eq_accept first package)
      firmware_start window,
    same_accepted first package schedule c s [] (client_start.trans firmware_start.symm)⟩

/-- The law at work across a wrap, with a duplicate and an old package. -/
theorem udp_receivers_accept_newer_wrap :
    AcceptsNewer (clientReceives 0xFFFE fun _ _ => 0) (-1)
        { UDPConnection.create 3 49152 with rxSeq := 0xFFFD } [1, 0, 1, 2, 4] ∧
      AcceptsNewer (firmwareReceives 0xFFFE fun _ _ => 0) (-1)
        { UDPServer.create with serverSeq := 0xFFFD } [1, 0, 1, 2, 4] ∧
      (deliveries (clientReceives 0xFFFE fun _ _ => 0)
        ({ UDPConnection.create 3 49152 with rxSeq := 0xFFFD }, []) [1, 0, 1, 2, 4]).2 =
          [1, 2, 4] := by
  have h := udp_receivers_accept_newer 0xFFFE (fun _ _ => 0) (-1) [1, 0, 1, 2, 4]
    { UDPConnection.create 3 49152 with rxSeq := 0xFFFD }
    { UDPServer.create with serverSeq := 0xFFFD } rfl rfl
  refine ⟨h.1 ?_, h.2.1 ?_, by decide⟩
  · simp only [InWindow, and_true]
    decide
  · simp only [InWindow, and_true]
    decide

end UartBridge.UdpSequence
