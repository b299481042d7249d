import UartBridge.Client.DataProcessor
import UartBridge.Client.TCPTransport
import UartBridge.Client.UDPTransport
import UartBridge.System.LoopPass

/-!
# A package there and back

The client builds a package from one request a port, the firmware one from one response
a port; each side computes the layout with its own macros. Whoever stores the bytes in a
buffer of his own reads what was put in, port by port.

* `clientPackage`, `firmwarePackage` — the packages as the two programs build them;
* `pollPorts_eq`, `stampPackage_eq`, `writeResponses_eq` — that is how they build them;
* `package_round_trip` — what the other side reads.
-/

namespace UartBridge.PackageRoundTrip

open Client Firmware

/-! ## Building -/

/-- The loop of `OnPollEvent` over the ports from number `i` on: the payload goes into
the port's slot, then the request into its header. -/
def writeRequests (config : Config) :
    Nat → List (Client.Request × List UInt8) → (Nat → UInt8) → (Nat → UInt8)
  | _, [], txBuff => txBuff
  | i, (request, data) :: ports, txBuff =>
    writeRequests config (i + 1) ports
      (request.write i (ByteMem.write txBuff (config.getPortBuffOffset i) data))

/-- The client's package: requests and payloads, counter, header and checksum. -/
def clientPackage (config : Config) (ports : List (Client.Request × List UInt8))
    (counter : UInt32) (header : UInt16) (txBuff : Nat → UInt8) : List UInt8 :=
  ByteMem.read
    (sealPackage config.getNetPackageMetaSz header
      (writeU32Value counter Client.pkgCntOffset (writeRequests config 0 ports txBuff)))
    0 config.getNetPackageSz

/-- `WriteResponse` for the ports from number `i` on. -/
def writeResponses : Nat → List Firmware.Response → (Nat → UInt8) → (Nat → UInt8)
  | _, [], txBuff => txBuff
  | i, response :: responses, txBuff =>
    writeResponses (i + 1) responses (writeResponse response i txBuff)

/-- The firmware's package: the payloads are in the slots of the send buffer, and the
counter is copied from the receive buffer. -/
def firmwarePackage (cfg : Configuration) (responses : List Firmware.Response) (header : UInt16)
    (rxBuff txBuff : Nat → UInt8) : List UInt8 :=
  ByteMem.read
    (sealPackage cfg.metaSz header
      (writeResponses 0 responses
        (ByteMem.write txBuff Configuration.pkgCntOffset
          (ByteMem.read rxBuff Configuration.pkgCntOffset 4))))
    0 cfg.packageSize

/-- A poll event writes the requests the workers give it. -/
theorem pollPorts_eq (config : Config) (ports : List (Client.Request × List UInt8))
    (txBuff : Nat → UInt8) (poll : PollState) :
    (ports.foldl (fun s port => DataProcessor.pollPort config port.1 port.2 s.1 s.2)
      (txBuff, poll)).1 = writeRequests config poll.port ports txBuff := by
  induction ports generalizing txBuff poll with
  | nil => rfl
  | cons port ports ih =>
    rw [List.foldl_cons]
    exact ih _ _

/-- Both transports seal the package. -/
theorem stampPackage_eq (config : Config) (udpTransportPort : UInt16) (txBuff : Nat → UInt8)
    (c : UDPConnection) :
    TCPTransport.stampPackage config udpTransportPort txBuff =
        sealPackage config.getNetPackageMetaSz
          (if config.enableUDP then udpTransportPort else 0) txBuff ∧
      (c.stampPackage config txBuff).2 =
        sealPackage config.getNetPackageMetaSz c.txSeq txBuff :=
  ⟨rfl, rfl⟩

/-- The second loop of the firmware's poll writes the workers' responses. -/
theorem writeResponses_eq {size : Nat} (cfg : Configuration) (workers : List (UARTWorker size))
    (i : Nat) (txBuff : Nat → UInt8) :
    (MainLoop.writeResponses cfg i workers txBuff).1 =
      writeResponses i (workers.map UARTWorker.processTX) txBuff := by
  induction workers generalizing i txBuff with
  | nil => rfl
  | cons w ws ih => exact ih (i + 1) _

/-! ## Reading -/

/-- The request type the firmware knows under the same name. -/
def sameRequest : Client.ReqType → Firmware.ReqType
  | .NoCommand => .NoCommand
  | .Reset => .Reset
  | .Open => .Open
  | .Close => .Close
  | .Data => .Data

/-- The response type the client knows under the same name. -/
def sameResponse : Firmware.RespType → Client.RespType
  | .NoCommand => .NoCommand
  | .Data => .Data

theorem wireRequest_type (r : Client.Request) : (wireRequest r).type = sameRequest r.type := by
  unfold wireRequest
  cases r.type <;> rfl

theorem wireResponse_type (r : Firmware.Response) (counter : UInt32) :
    (wireResponse r counter).type = sameResponse r.type := by
  unfold wireResponse
  cases r.type <;> rfl

/-- The firmware finds the client's package in its receive buffer. -/
structure FirmwareReads (cfg : Configuration) (ports : List (Client.Request × List UInt8))
    (counter : UInt32) (header : UInt16) (rxBuff : Nat → UInt8) : Prop where
  request : ∀ i request data, ports[i]? = some (request, data) →
    mapRequest i rxBuff =
      { type := sameRequest request.type, arg := request.arg, plSz := request.plSz }
  payload : ∀ i request data, ports[i]? = some (request, data) →
    ByteMem.read rxBuff (cfg.slotOffset i) request.plSz.toNat = data
  header_eq : ByteMem.decode16 (rxBuff 0) (rxBuff 1) = header
  counter_eq : ByteMem.read rxBuff Configuration.pkgCntOffset 4 = ByteMem.encode32 counter
  checksum : Firmware.crc8 (ByteMem.read rxBuff 0 cfg.metaSz) = rxBuff cfg.metaSz

/-- The client finds the firmware's package in its receive buffer: the payloads are those
of the firmware's send buffer, the counter is that of its receive buffer. -/
structure ClientReads (config : Config) (cfg : Configuration)
    (responses : List Firmware.Response) (header : UInt16) (fwRxBuff fwTxBuff : Nat → UInt8)
    (rxBuff : Nat → UInt8) : Prop where
  response : ∀ i response, responses[i]? = some response →
    Client.Response.map i rxBuff =
      { type := sameResponse response.type, arg := response.arg, plSz := response.plSz
        counter := ByteMem.decode32 (fwRxBuff 2) (fwRxBuff 3) (fwRxBuff 4) (fwRxBuff 5) }
  payload : ∀ i response, responses[i]? = some response →
    ByteMem.read rxBuff (config.getPortBuffOffset i) response.plSz.toNat =
      ByteMem.read fwTxBuff (cfg.slotOffset i) response.plSz.toNat
  header_eq : ByteMem.decode16 (rxBuff 0) (rxBuff 1) = header
  checksum : Client.crc8 (ByteMem.read rxBuff 0 config.getNetPackageMetaSz) =
    rxBuff config.getNetPackageMetaSz

/-! ## The client's package -/

section Client

variable {D : Deployment} {ports : List (Client.Request × List UInt8)} {i j : Nat}

/-- Every payload has the length its request says, and fits the slot. -/
def Fits (D : Deployment) (ports : List (Client.Request × List UInt8)) : Prop :=
  ∀ port ∈ ports, port.2.length = port.1.plSz.toNat ∧
    port.1.plSz.toNat ≤ D.config.portPLSize

/-- A port's part of the package is not touched by another port's. -/
theorem writeRequest_agree (hij : i ≠ j) (hi : i < D.cfg.uartCount) (hj : j < D.cfg.uartCount)
    (request : Client.Request) {data : List UInt8} (hdata : data.length ≤ D.cfg.dataPayloadSize)
    (txBuff : Nat → UInt8) :
    PortAgree D.cfg i
      (request.write j (ByteMem.write txBuff (D.config.getPortBuffOffset j) data)) txBuff := by
  rw [D.slotOffset_eq]
  exact (PortAgree.write_header hij hj [request.type.toByte, request.arg, request.plSz]
    (Nat.le_refl 3)).trans (PortAgree.write_slot hij hi 0 data (by omega))

/-- The loop leaves the ports before it alone. -/
theorem writeRequests_agree (hij : i < j) (hcount : j + ports.length ≤ D.cfg.uartCount)
    (hfits : Fits D ports) (txBuff : Nat → UInt8) :
    PortAgree D.cfg i (writeRequests D.config j ports txBuff) txBuff := by
  induction ports generalizing j txBuff with
  | nil => exact ⟨fun _ _ => rfl, fun _ _ => rfl⟩
  | cons port ports ih =>
    rw [List.length_cons] at hcount
    obtain ⟨hlen, hle⟩ := hfits port List.mem_cons_self
    rw [D.portPLSize_eq] at hle
    exact (ih (by omega) (by omega) (fun p hp => hfits p (List.mem_cons_of_mem _ hp)) _).trans
      (writeRequest_agree (by omega) (by omega) (by omega) port.1 (by omega) txBuff)

/-- **Each port's part is what was written for it.** -/
theorem writeRequests_read (hcount : j + ports.length ≤ D.cfg.uartCount) (hfits : Fits D ports)
    (txBuff : Nat → UInt8) {k : Nat} {request : Client.Request} {data : List UInt8}
    (hport : ports[k]? = some (request, data)) :
    mapRequest (j + k) (writeRequests D.config j ports txBuff) = wireRequest request ∧
      ByteMem.read (writeRequests D.config j ports txBuff) (D.cfg.slotOffset (j + k))
        request.plSz.toNat = data := by
  induction ports generalizing j k txBuff with
  | nil => cases hport
  | cons port ports ih =>
    rw [List.length_cons] at hcount
    have hrest : Fits D ports := fun p hp => hfits p (List.mem_cons_of_mem _ hp)
    cases k with
    | zero =>
      rw [List.getElem?_cons_zero, Option.some.injEq] at hport
      subst hport
      obtain ⟨hlen, hle⟩ := hfits _ List.mem_cons_self
      rw [D.portPLSize_eq] at hle
      dsimp only at hlen hle
      -- the later ports leave this one's part as it was just written
      have hagree := writeRequests_agree (D := D) (i := j) (j := j + 1) (by omega) (by omega) hrest
        (request.write j (ByteMem.write txBuff (D.config.getPortBuffOffset j) data))
      refine ⟨hagree.mapRequest_eq.trans (mapRequest_write request j _), ?_⟩
      have hslot : ByteMem.read
          (request.write j (ByteMem.write txBuff (D.config.getPortBuffOffset j) data))
          (D.cfg.slotOffset j) request.plSz.toNat = data := by
        have hheader := header_le D.cfg (i := j) (by omega)
        have hmeta := metaSz_lt_slot D.cfg j
        rw [D.slotOffset_eq, ← hlen]
        unfold Client.Request.write
        dsimp only
        rw [ByteMem.read_write_outside _ _ _ _ _ (Or.inr ?_), ByteMem.read_write_same]
        show headerOffset j + 3 ≤ _
        omega
      exact (ByteMem.read_congr fun a ha => hagree.slot_eq a (by omega)).trans hslot
    | succ k =>
      rw [List.getElem?_cons_succ] at hport
      have h := ih (j := j + 1) (by omega) hrest
        (port.1.write j (ByteMem.write txBuff (D.config.getPortBuffOffset j) port.2)) hport
      rw [show j + (k + 1) = j + 1 + k by omega]
      exact h

end Client

/-! ## The firmware's package -/

section Firmware

variable {cfg : Configuration} {responses : List Firmware.Response} {i j : Nat}

/-- `WriteResponse` writes headers only, of the ports from `j` on. -/
theorem writeResponses_agree (hcount : j + responses.length ≤ cfg.uartCount)
    (txBuff : Nat → UInt8) :
    (∀ a, a < headerOffset j → writeResponses j responses txBuff a = txBuff a) ∧
      ∀ a, cfg.metaSz ≤ a → writeResponses j responses txBuff a = txBuff a := by
  induction responses generalizing j txBuff with
  | nil => exact ⟨fun _ _ => rfl, fun _ _ => rfl⟩
  | cons response responses ih =>
    rw [List.length_cons] at hcount
    obtain ⟨hbefore, hbehind⟩ := ih (j := j + 1) (by omega) (writeResponse response j txBuff)
    have hheader := header_le cfg (i := j) (by omega)
    have hnext : headerOffset j ≤ headerOffset (j + 1) := by
      simp only [headerOffset, Configuration.cmdHdrSize]
      omega
    refine ⟨?_, ?_⟩
    · intro a ha
      exact (hbefore a (by omega)).trans (ByteMem.write_outside _ _ _ _ (Or.inl ha))
    · intro a ha
      refine (hbehind a ha).trans (ByteMem.write_outside _ _ _ _ (Or.inr ?_))
      show headerOffset j + 3 ≤ a
      omega

/-- **Each port's header is what was written for it.** -/
theorem writeResponses_header (hcount : j + responses.length ≤ cfg.uartCount)
    (txBuff : Nat → UInt8) {k : Nat} {response : Firmware.Response}
    (hresponse : responses[k]? = some response) (d : Nat) (hd : d < 3) :
    writeResponses j responses txBuff (headerOffset (j + k) + d) =
      [response.type.toByte, response.arg, response.plSz].getD d 0 := by
  induction responses generalizing j k txBuff with
  | nil => cases hresponse
  | cons first responses ih =>
    rw [List.length_cons] at hcount
    cases k with
    | zero =>
      rw [List.getElem?_cons_zero, Option.some.injEq] at hresponse
      subst hresponse
      have hrest : j + 1 + responses.length ≤ cfg.uartCount := by omega
      obtain ⟨hbefore, -⟩ := writeResponses_agree hrest (writeResponse first j txBuff)
      rw [Nat.add_zero]
      refine (hbefore _ ?_).trans ?_
      · simp only [headerOffset, Configuration.cmdHdrSize]
        omega
      · have hinside := ByteMem.write_inside txBuff (headerOffset j)
          [first.type.toByte, first.arg, first.plSz] d hd
        rw [List.getD_eq_getElem?_getD, List.getElem?_eq_getElem hd]
        exact hinside
    | succ k =>
      rw [List.getElem?_cons_succ] at hresponse
      have h := ih (j := j + 1) (by omega) (writeResponse first j txBuff) hresponse
      rw [show j + (k + 1) = j + 1 + k by omega]
      exact h

end Firmware

/-! ## There and back -/

/-- Whoever stores a sealed package finds what was in the sender's buffer, header and
checksum apart. -/
theorem stored_sealed (cfg : Configuration) (header : UInt16) (txBuff rxBuff : Nat → UInt8) :
    let mem := ByteMem.write rxBuff 0
      (ByteMem.read (sealPackage cfg.metaSz header txBuff) 0 cfg.packageSize)
    (∀ a, 2 ≤ a → a ≠ cfg.metaSz → a < cfg.packageSize → mem a = txBuff a) ∧
      ByteMem.decode16 (mem 0) (mem 1) = header ∧
      Client.crc8 (ByteMem.read mem 0 cfg.metaSz) = mem cfg.metaSz := by
  have hmeta : 2 ≤ cfg.metaSz := by
    simp only [Configuration.metaSz, Configuration.pkgHdrSz]
    omega
  have hpkg : cfg.metaSz < cfg.packageSize := by
    simp only [Configuration.packageSize, Configuration.metaCrcSz]
    omega
  have hsealed : Sealed cfg.metaSz cfg.packageSize header
      (ByteMem.read (sealPackage cfg.metaSz header txBuff) 0 cfg.packageSize) :=
    sealed_read header txBuff hmeta hpkg
  refine ⟨?_, hsealed.header_eq rxBuff, hsealed.checksum rxBuff⟩
  intro a ha hne hlt
  have hcopy := ByteMem.write_read rxBuff (sealPackage cfg.metaSz header txBuff) 0
    cfg.packageSize a hlt
  rw [Nat.zero_add] at hcopy
  rw [hcopy, sealPackage_apart header txBuff a ha hne]

/-- **The client's package at the firmware.** -/
theorem firmwareReads_clientPackage {D : Deployment}
    {ports : List (Client.Request × List UInt8)} (hlen : ports.length = D.config.portCount)
    (hfits : Fits D ports) (counter : UInt32) (header : UInt16) (txBuff rxBuff : Nat → UInt8) :
    FirmwareReads D.cfg ports counter header
      (ByteMem.write rxBuff 0 (clientPackage D.config ports counter header txBuff)) := by
  have hcount : 0 + ports.length ≤ D.cfg.uartCount :=
    Nat.le_of_eq (by rw [hlen, D.portCount_eq, Nat.zero_add])
  have hpkg := D.metaSz_lt_packageSize
  have hsix : 6 ≤ D.cfg.metaSz := Nat.le_add_right _ _
  unfold clientPackage
  rw [D.metaSz_eq, D.packageSize_eq]
  generalize hwritten : writeRequests D.config 0 ports txBuff = written
  obtain ⟨hsame, hheader, hchecksum⟩ := stored_sealed D.cfg header
    (writeU32Value counter Client.pkgCntOffset written) rxBuff
  generalize ByteMem.write rxBuff 0 (ByteMem.read (sealPackage D.cfg.metaSz header
    (writeU32Value counter Client.pkgCntOffset written)) 0 D.cfg.packageSize) = mem at *
  -- behind the package header nothing but the checksum was written since
  have hagree (i : Nat) (hi : i < D.cfg.uartCount) : PortAgree D.cfg i mem written := by
    refine PortAgree.of_agree hi fun a hlow hne hlt => (hsame a (by omega) hne hlt).trans ?_
    exact ByteMem.write_outside _ _ _ _ (Or.inr hlow)
  have hread (i : Nat) (request : Client.Request) (data : List UInt8)
      (hport : ports[i]? = some (request, data)) :
      mapRequest i mem = wireRequest request ∧
        ByteMem.read mem (D.cfg.slotOffset i) request.plSz.toNat = data := by
    have hi : i < D.cfg.uartCount := by
      have := (List.getElem?_eq_some_iff.mp hport).1
      omega
    obtain ⟨-, hle⟩ := hfits _ (List.mem_of_getElem? hport)
    rw [D.portPLSize_eq] at hle
    have h := writeRequests_read hcount hfits txBuff hport
    rw [hwritten, Nat.zero_add] at h
    refine ⟨(hagree i hi).mapRequest_eq.trans h.1, (ByteMem.read_congr ?_).trans h.2⟩
    intro a ha
    exact (hagree i hi).slot_eq a (Nat.lt_of_lt_of_le ha hle)
  refine ⟨?_, fun i request data hport => (hread i request data hport).2, hheader, ?_, hchecksum⟩
  · intro i request data hport
    rw [(hread i request data hport).1, ← wireRequest_type]
    rfl
  · have hcounter : ByteMem.read (writeU32Value counter Client.pkgCntOffset written)
        Configuration.pkgCntOffset 4 = ByteMem.encode32 counter :=
      ByteMem.read_write_same written Client.pkgCntOffset (ByteMem.encode32 counter)
    rw [← hcounter]
    refine ByteMem.read_congr fun a ha => hsame _ ?_ ?_ ?_
    · exact Nat.le_add_right _ _
    · simp only [Configuration.pkgCntOffset]
      omega
    · simp only [Configuration.pkgCntOffset]
      omega

/-- **The firmware's package at the client.** -/
theorem clientReads_firmwarePackage {D : Deployment} {responses : List Firmware.Response}
    (hlen : responses.length = D.cfg.uartCount)
    (hfits : ∀ r ∈ responses, r.plSz.toNat ≤ D.cfg.dataPayloadSize) (header : UInt16)
    (fwRxBuff fwTxBuff rxBuff : Nat → UInt8) :
    ClientReads D.config D.cfg responses header fwRxBuff fwTxBuff
      (ByteMem.write rxBuff 0 (firmwarePackage D.cfg responses header fwRxBuff fwTxBuff)) := by
  have hcount : 0 + responses.length ≤ D.cfg.uartCount :=
    Nat.le_of_eq (by rw [hlen, Nat.zero_add])
  have hsix : 6 ≤ D.cfg.metaSz := Nat.le_add_right _ _
  unfold firmwarePackage
  obtain ⟨hbefore, hbehind⟩ := writeResponses_agree hcount
    (ByteMem.write fwTxBuff Configuration.pkgCntOffset
      (ByteMem.read fwRxBuff Configuration.pkgCntOffset 4))
  have hwritten := fun k r (hr : responses[k]? = some r) => writeResponses_header hcount
    (ByteMem.write fwTxBuff Configuration.pkgCntOffset
      (ByteMem.read fwRxBuff Configuration.pkgCntOffset 4)) hr
  generalize writeResponses 0 responses (ByteMem.write fwTxBuff Configuration.pkgCntOffset
    (ByteMem.read fwRxBuff Configuration.pkgCntOffset 4)) = written at *
  obtain ⟨hsame, hheader, hchecksum⟩ := stored_sealed D.cfg header written rxBuff
  generalize ByteMem.write rxBuff 0 (ByteMem.read (sealPackage D.cfg.metaSz header written) 0
    D.cfg.packageSize) = mem at *
  have hpkg := D.metaSz_lt_packageSize
  have hfield (d : Nat) (hd : d < 4) : mem (2 + d) = fwRxBuff (2 + d) := by
    rw [hsame _ (by omega) (by omega) (by omega)]
    refine (hbefore _ ?_).trans ?_
    · simp only [headerOffset, Configuration.pkgHdrSz]
      omega
    · exact ByteMem.write_read fwTxBuff fwRxBuff Configuration.pkgCntOffset 4 d hd
  refine ⟨?_, ?_, hheader, ?_⟩
  · intro i response hresponse
    have hi : i < D.cfg.uartCount := by
      have := (List.getElem?_eq_some_iff.mp hresponse).1
      omega
    have hle := header_le D.cfg hi
    have hlow := le_header i
    have hcell (d : Nat) (hd : d < 3) : mem (headerOffset i + d) =
        [response.type.toByte, response.arg, response.plSz].getD d 0 := by
      rw [hsame _ (by omega) (by omega) (by omega)]
      have h := hwritten i response hresponse d hd
      rwa [Nat.zero_add] at h
    have hlayout : Client.pkgHdrSz + i * Client.cmdHdrSize = headerOffset i := rfl
    have h0 := hcell 0 (by omega)
    rw [Nat.add_zero] at h0
    have hzero := hfield 0 (by omega)
    rw [Nat.add_zero] at hzero
    rw [← wireResponse_type response (ByteMem.decode32 (fwRxBuff 2) (fwRxBuff 3) (fwRxBuff 4)
      (fwRxBuff 5))]
    simp only [Client.Response.map, hlayout, h0, hcell 1 (by omega), hcell 2 (by omega),
      Client.pkgCntOffset, hzero, hfield 1 (by omega), hfield 2 (by omega), hfield 3 (by omega)]
    rfl
  · intro i response hresponse
    have hi : i < D.cfg.uartCount := by
      have := (List.getElem?_eq_some_iff.mp hresponse).1
      omega
    have hsize := hfits response (List.mem_of_getElem? hresponse)
    have hslot := slot_le D.cfg hi
    have hmeta := metaSz_lt_slot D.cfg i
    rw [D.slotOffset_eq]
    refine ByteMem.read_congr fun a ha => ?_
    rw [hsame _ (by omega) (by omega) (by omega), hbehind _ (by omega)]
    refine ByteMem.write_outside _ _ _ _ (Or.inr ?_)
    rw [ByteMem.length_read]
    simp only [Configuration.pkgCntOffset]
    omega
  · rw [D.metaSz_eq]
    exact hchecksum

/-- **The round trip.** For every deployment (any number of ports, any payload size a byte
can count), every vector of requests and responses whose payloads fit, every counter and
every header value, each side reads what the other built, whatever the buffers held before.
-/
theorem package_round_trip (D : Deployment) (ports : List (Client.Request × List UInt8))
    (responses : List Firmware.Response) (hports : ports.length = D.config.portCount)
    (hfits : Fits D ports) (hresponses : responses.length = D.cfg.uartCount)
    (hsizes : ∀ r ∈ responses, r.plSz.toNat ≤ D.cfg.dataPayloadSize) (counter : UInt32)
    (header : UInt16) (clientTx clientRx firmwareTx firmwareRx : Nat → UInt8) :
    FirmwareReads D.cfg ports counter header
        (ByteMem.write firmwareRx 0 (clientPackage D.config ports counter header clientTx)) ∧
      ClientReads D.config D.cfg responses header firmwareRx firmwareTx
        (ByteMem.write clientRx 0
          (firmwarePackage D.cfg responses header firmwareRx firmwareTx)) :=
  ⟨firmwareReads_clientPackage hports hfits counter header clientTx firmwareRx,
    clientReads_firmwarePackage hresponses hsizes header firmwareRx firmwareTx clientRx⟩

section Examples

/-- Three ports: one has three bytes to send, one is idle, one is to be opened. -/
def threePorts : List (Client.Request × List UInt8) :=
  [(⟨.Data, 0, 3⟩, [7, 8, 9]), (⟨.NoCommand, 0, 0⟩, []), (⟨.Open, 6, 4⟩, ByteMem.encode32 57600)]

/-- Two bytes for the first port, and a full ring buffer there. -/
def threeResponses : List Firmware.Response :=
  [⟨.Data, 0x81, 2⟩, ⟨.NoCommand, 0x01, 0⟩, ⟨.NoCommand, 0x00, 0⟩]

theorem package_round_trip_threePorts :
    let D := Deployment.matching .avrMega2560 true 4300
    FirmwareReads D.cfg threePorts 0x10203 513
        (ByteMem.write (fun _ => 0) 0
          (clientPackage D.config threePorts 0x10203 513 fun _ => 0xFF)) ∧
      ClientReads D.config D.cfg threeResponses 513 (fun _ => 0) (fun _ => 5)
        (ByteMem.write (fun _ => 1) 0
          (firmwarePackage D.cfg threeResponses 513 (fun _ => 0) fun _ => 5)) :=
  package_round_trip _ threePorts threeResponses rfl (by unfold Fits; decide) rfl (by decide)
    0x10203 513 (fun _ => 0xFF) (fun _ => 1) (fun _ => 5) (fun _ => 0)

end Examples

end UartBridge.PackageRoundTrip
