import UartBridge.Lib.Framing
import UartBridge.System.PackageLayout

/-!
# One direction of a connection as a queue for each port

The sender seals a package and puts it into the stream, the receiver collects it
in its buffer and reads it port by port. `view` is what the receiver reads for a
port. `Channel` is the abstraction: for every port, what was sent is what was
handed over and what the packages on their way carry.

* `Channel.send` — a sealed package carries what its sender would read in it;
* `Channel.store`, `Channel.complete` — the receiver takes a part, or the last
  part: then header and checksum are right, and it reads what is next in every
  port's queue;
* `Channel.sent_eq` — when the stream is empty, everything was handed over.
-/

namespace UartBridge

open Framing

variable {γ : Type}

/-- A package on its way: its bytes and what they carry for each port. -/
structure Frame (γ : Type) where
  bytes : List UInt8
  content : Nat → List γ

/-- Whoever collects the bytes finds a sealed package and reads the content. -/
structure Carries (D : Deployment) (view : Nat → (Nat → UInt8) → List γ) (f : Frame γ) :
    Prop where
  is_sealed : Sealed D.cfg.metaSz D.cfg.packageSize 0 f.bytes
  view_eq : ∀ mem : Nat → UInt8, ByteMem.read mem 0 D.cfg.packageSize = f.bytes →
    ∀ i, i < D.cfg.uartCount → view i mem = f.content i

/-- `rxBuff` and `left` are the receiver's; `sent` and `handed` say for each port
what was sent and what was handed over. -/
def Channel (D : Deployment) (view : Nat → (Nat → UInt8) → List γ) (rxBuff : Nat → UInt8)
    (left : Nat) (stream : List UInt8) (sent handed : Nat → List γ) : Prop :=
  ∃ frames : List (Frame γ),
    Receiving D.cfg.packageSize rxBuff left stream (frames.map (·.bytes)) ∧
      (∀ f ∈ frames, Carries D view f) ∧
      ∀ i, i < D.cfg.uartCount → sent i = handed i ++ frames.flatMap (·.content i)

namespace Channel

variable {D : Deployment} {view : Nat → (Nat → UInt8) → List γ} {rxBuff : Nat → UInt8}
  {left : Nat} {stream : List UInt8} {sent handed : Nat → List γ}

/-- A connection that was just established. -/
theorem start (rxBuff : Nat → UInt8) :
    Channel D view rxBuff D.cfg.packageSize [] (fun _ => []) fun _ => [] := by
  have hpos : 0 < D.cfg.packageSize := Nat.lt_of_le_of_lt (Nat.zero_le _) D.metaSz_lt_packageSize
  exact ⟨[], Receiving.restart (InTransit.start hpos) rxBuff,
    fun _ h => absurd h List.not_mem_nil, fun _ _ => rfl⟩

/-- What was handed over is a prefix of what was sent. -/
theorem handed_prefix (h : Channel D view rxBuff left stream sent handed) {i : Nat}
    (hi : i < D.cfg.uartCount) : handed i <+: sent i := by
  obtain ⟨frames, -, -, hsent⟩ := h
  rw [hsent i hi]
  exact List.prefix_append _ _

/-- With an empty stream everything was handed over. -/
theorem sent_eq (h : Channel D view rxBuff left [] sent handed) {i : Nat}
    (hi : i < D.cfg.uartCount) : sent i = handed i := by
  obtain ⟨frames, hreceiving, -, hsent⟩ := h
  have hnil : frames = [] := List.map_eq_nil_iff.mp hreceiving.transit.frames_eq_nil
  rw [hsent i hi, hnil, List.flatMap_nil, List.append_nil]

/-- Only what the ports' logs say counts. -/
theorem congr {sent' handed' : Nat → List γ}
    (h : Channel D view rxBuff left stream sent handed)
    (hsent : ∀ i, i < D.cfg.uartCount → sent' i = sent i)
    (hhanded : ∀ i, i < D.cfg.uartCount → handed' i = handed i) :
    Channel D view rxBuff left stream sent' handed' := by
  obtain ⟨frames, hreceiving, hcarries, hlogs⟩ := h
  exact ⟨frames, hreceiving, hcarries,
    fun i hi => by rw [hsent i hi, hhanded i hi, hlogs i hi]⟩

/-- **A package is sealed and sent.** What it carries is what is read in the send
buffer, if that depends on the ports' parts only. -/
theorem send (h : Channel D view rxBuff left stream sent handed) {txBuff : Nat → UInt8}
    (hview : ∀ (i : Nat) (mem : Nat → UInt8), i < D.cfg.uartCount →
      PortAgree D.cfg i txBuff mem → view i mem = view i txBuff) :
    Channel D view rxBuff left
      (stream ++ ByteMem.read (sealPackage D.cfg.metaSz 0 txBuff) 0 D.cfg.packageSize)
      (fun i => sent i ++ view i txBuff) handed := by
  obtain ⟨frames, hreceiving, hcarries, hsent⟩ := h
  refine ⟨frames ++ [⟨ByteMem.read (sealPackage D.cfg.metaSz 0 txBuff) 0 D.cfg.packageSize,
    fun i => view i txBuff⟩], ?_, ?_, ?_⟩
  · rw [List.map_append]
    exact hreceiving.send (by simp)
  · intro f hf
    rcases List.mem_append.mp hf with hold | hnew
    · exact hcarries f hold
    · rw [List.mem_singleton] at hnew
      subst hnew
      refine ⟨sealed_read 0 txBuff (Nat.le_of_lt D.header_lt_metaSz) D.metaSz_lt_packageSize,
        fun mem hmem i hi => hview i mem hi (PortAgree.of_agree hi ?_)⟩
      intro a hlow hne ha
      -- sealing leaves the ports' parts alone, and the receiver has the same bytes
      have hsame := ByteMem.agree_of_read hmem a ha
      rw [Nat.zero_add] at hsame
      rw [hsame, sealPackage_apart 0 txBuff a (by omega) hne]
  · intro i hi
    have hi' := hsent i hi
    dsimp only
    rw [hi', List.flatMap_append, List.flatMap_singleton, List.append_assoc]

/-- The receiver takes a part of a package. -/
theorem store (h : Channel D view rxBuff left stream sent handed) {k : Nat} (hk : k < left)
    (hstream : k ≤ stream.length) :
    Channel D view (ByteMem.write rxBuff (D.cfg.packageSize - left) (stream.take k)) (left - k)
      (stream.drop k) sent handed := by
  obtain ⟨frames, hreceiving, hcarries, hsent⟩ := h
  exact ⟨frames, hreceiving.store hk hstream, hcarries, hsent⟩

/-- **The last part of a package.** Checksum and header are right, and the buffer
holds what is next in every port's queue. -/
theorem complete (h : Channel D view rxBuff left stream sent handed)
    (hstream : left ≤ stream.length) :
    let rxBuff' := ByteMem.write rxBuff (D.cfg.packageSize - left) (stream.take left)
    Client.crc8 (ByteMem.read rxBuff' 0 D.cfg.metaSz) = rxBuff' D.cfg.metaSz ∧
      ByteMem.decode16 (rxBuff' 0) (rxBuff' 1) = 0 ∧
      Channel D view rxBuff' D.cfg.packageSize (stream.drop left) sent
        fun i => handed i ++ view i rxBuff' := by
  obtain ⟨frames, hreceiving, hcarries, hsent⟩ := h
  obtain ⟨rest, hframes, htransit⟩ := hreceiving.complete hstream
  cases frames with
  | nil => cases hframes
  | cons f frames =>
    rw [List.map_cons, List.cons.injEq] at hframes
    obtain ⟨hbytes, hrest⟩ := hframes
    have hf := hcarries f List.mem_cons_self
    obtain ⟨hheader, hsum⟩ := hf.is_sealed.of_read hbytes.symm
    refine ⟨hsum, hheader, frames, ?_, fun g hg => hcarries g (List.mem_cons_of_mem _ hg), ?_⟩
    · rw [hrest]
      exact Receiving.restart htransit _
    · intro i hi
      have hview := hf.view_eq _ hbytes.symm i hi
      rw [hsent i hi, List.flatMap_cons, ← hview, List.append_assoc]

end Channel

end UartBridge
