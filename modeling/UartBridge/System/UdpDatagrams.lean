import UartBridge.System.UdpSession

/-!
# Which datagrams do the receivers accept?

A datagram is valid if it has the size of a package, its checksum is right and its number is
newer than the last one accepted. Both receivers check all that, each in its own way: the
client takes an empty datagram for an error of `recvmsg`, and the firmware reads no more than
a package and does not look at the rest.

* `Valid` — what a receiver is to pass on;
* `ClientExact`, `FirmwareExact` — it passes on that and nothing else, and what it does not
  pass on changes nothing;
* `receivers_exact` — for which datagrams and in which states this is the case.
-/

namespace UartBridge.UdpDatagrams

open SerialNumber Client Firmware
open UdpSession (isNewRequest)

/-- The number in the first two bytes. -/
def sequenceNumber (bytes : List UInt8) : UInt16 :=
  ByteMem.decode16 (bytes.getD 0 0) (bytes.getD 1 0)

/-- A valid datagram, for a receiver that accepted number `last` before. -/
structure Valid (pkgSz metaSz : Nat) (crc8 : List UInt8 → UInt8) (last : UInt16)
    (bytes : List UInt8) : Prop where
  length_eq : bytes.length = pkgSz
  crc_eq : bytes[metaSz]? = some (crc8 (bytes.take metaSz))
  newer_eq : newer last (sequenceNumber bytes) = true

/-- The client passes on what is valid. Anything else leaves the connection open, and its
number as it was. -/
structure ClientExact (config : Config) (errno : Errno) (id : ConnId) (datagram : List UInt8)
    (rxBuff : Nat → UInt8) (c : UDPConnection) (t : UDPTransport) : Prop where
  passed_iff : (t.received config errno id datagram rxBuff).2.2 = true ↔
    Valid config.getNetPackageSz config.getNetPackageMetaSz Client.crc8 c.rxSeq datagram
  unchanged : ¬ Valid config.getNetPackageSz config.getNetPackageMetaSz Client.crc8 c.rxSeq
      datagram →
    (t.received config errno id datagram rxBuff).1.getStatus id = true ∧
      (t.received config errno id datagram rxBuff).1.conns[id]? = some c

/-- The firmware passes on what is valid. Anything else leaves the server, with its number
and the client's port, and the alarm timer as they were. -/
structure FirmwareExact (cfg : Configuration) (beginOk : Bool) (packet : Packet)
    (millis : UInt32) (s : UDPServer.RxState) : Prop where
  passed_iff : isNewRequest (UDPServer.processRX cfg.packageSize cfg.metaSz beginOk (some packet)
      millis (.NoEvent false) s).2 = true ↔
    Valid cfg.packageSize cfg.metaSz Firmware.crc8 s.server.serverSeq packet.bytes
  unchanged : ¬ Valid cfg.packageSize cfg.metaSz Firmware.crc8 s.server.serverSeq packet.bytes →
    (UDPServer.processRX cfg.packageSize cfg.metaSz beginOk (some packet) millis (.NoEvent false)
      s).1.server = s.server ∧
    (UDPServer.processRX cfg.packageSize cfg.metaSz beginOk (some packet) millis (.NoEvent false)
      s).1.alarmTimer = s.alarmTimer

/-! ## What is in the buffer -/

/-- A package in a buffer, whatever was there before. -/
theorem valid_iff_buffer {pkgSz metaSz : Nat} (hmeta : 1 < metaSz) (hpkg : metaSz < pkgSz)
    (crc8 : List UInt8 → UInt8) (last : UInt16) {bytes : List UInt8}
    (hlen : bytes.length = pkgSz) (rxBuff : Nat → UInt8) :
    Valid pkgSz metaSz crc8 last bytes ↔
      ByteMem.write rxBuff 0 bytes metaSz =
          crc8 (ByteMem.read (ByteMem.write rxBuff 0 bytes) 0 metaSz) ∧
        newer last (ByteMem.decode16 (ByteMem.write rxBuff 0 bytes 0)
          (ByteMem.write rxBuff 0 bytes 1)) = true := by
  have hcell (k : Nat) (hk : k < bytes.length) :
      bytes[k]? = some (ByteMem.write rxBuff 0 bytes k) := by
    have h := ByteMem.write_inside rxBuff 0 bytes k hk
    rw [Nat.zero_add] at h
    rw [h]
    exact List.getElem?_eq_getElem hk
  have hread : ByteMem.read (ByteMem.write rxBuff 0 bytes) 0 metaSz = bytes.take metaSz := by
    have h := ByteMem.take_read (ByteMem.write rxBuff 0 bytes) 0 bytes.length metaSz
    rw [ByteMem.read_write_same, Nat.min_eq_left (by omega)] at h
    exact h.symm
  have hseq : sequenceNumber bytes = ByteMem.decode16 (ByteMem.write rxBuff 0 bytes 0)
      (ByteMem.write rxBuff 0 bytes 1) := by
    unfold sequenceNumber
    rw [List.getD_eq_getElem?_getD, List.getD_eq_getElem?_getD, hcell 0 (by omega),
      hcell 1 (by omega), Option.getD_some, Option.getD_some]
  rw [hread, ← hseq]
  constructor
  · rintro ⟨-, hcrc, hnewer⟩
    rw [hcell metaSz (by omega), Option.some.injEq] at hcrc
    exact ⟨hcrc, hnewer⟩
  · rintro ⟨hcrc, hnewer⟩
    exact ⟨hlen, by rw [hcell metaSz (by omega), hcrc], hnewer⟩

/-! ## The client -/

/-- The number lies in the metadata, and the checksum behind it in the package. -/
theorem client_sizes (config : Config) :
    1 < config.getNetPackageMetaSz ∧ config.getNetPackageMetaSz < config.getNetPackageSz := by
  simp only [Config.getNetPackageMetaSz, Config.getNetPackageSz, Client.packageSize,
    Client.metaSz, Client.pkgHdrSz, Client.metaCrcSz]
  omega

/-- `Worker`'s checks. -/
theorem receivePackage_valid (config : Config) (datagram : List UInt8) (rxBuff : Nat → UInt8)
    (c : UDPConnection) :
    ((c.receivePackage config datagram rxBuff).2.2 = true ↔
      Valid config.getNetPackageSz config.getNetPackageMetaSz Client.crc8 c.rxSeq datagram) ∧
      ((c.receivePackage config datagram rxBuff).2.2 = false →
        (c.receivePackage config datagram rxBuff).1 = c) := by
  obtain ⟨hmeta, hpkg⟩ := client_sizes config
  unfold UDPConnection.receivePackage
  dsimp only
  by_cases hlen : datagram.length = config.getNetPackageSz
  · rw [if_neg (not_not.mpr hlen), List.take_of_length_le (Nat.le_of_eq hlen),
      valid_iff_buffer hmeta hpkg Client.crc8 c.rxSeq hlen rxBuff]
    split
    · rename_i hcrc
      exact ⟨iff_of_false Bool.false_ne_true fun h => hcrc h.1, fun _ => rfl⟩
    · rename_i hcrc
      rw [not_not] at hcrc
      unfold UDPConnection.rxSeqCheckIncrement newer
      dsimp only
      split
      · rename_i hnewer
        exact ⟨iff_of_true rfl ⟨hcrc, decide_eq_true hnewer⟩, fun h => Bool.noConfusion h⟩
      · rename_i hold
        exact ⟨iff_of_false Bool.false_ne_true fun h => hold (of_decide_eq_true h.2),
          fun _ => rfl⟩
  · rw [if_pos hlen]
    exact ⟨iff_of_false Bool.false_ne_true fun h => hlen h.length_eq, fun _ => rfl⟩

/-- `Dispose` of a live connection: it is gone, unless the exchange expects true. -/
theorem dispose_live {t : UDPTransport} {id : ConnId} {c : UDPConnection}
    (hconn : t.conns[id]? = some c) (hlive : c.getStatus = true) :
    (t.falseVal = false → (t.dispose id).getStatus id = false) ∧
      (t.falseVal = true → (t.dispose id).getStatus id = true ∧
        (t.dispose id).conns[id]? = some c) := by
  have hlt := (List.getElem?_eq_some_iff.mp hconn).1
  have hdisposed : c.isDisposed = false := by
    unfold Connection.getStatus at hlive
    rwa [Bool.not_eq_true'] at hlive
  have hafter : (t.dispose id).conns[id]? = some (c.dispose t.falseVal).1 := by
    unfold UDPTransport.dispose
    rw [hconn]
    exact List.getElem?_set_self hlt
  refine ⟨fun hfalse => ?_, fun htrue => ?_⟩
  · unfold UDPTransport.getStatus
    rw [hafter, hfalse]
    simp only [UDPConnection.dispose, Connection.dispose, hdisposed]
    rfl
  · have hsame : (c.dispose t.falseVal).1 = c := by
      rw [htrue]
      simp only [UDPConnection.dispose, Connection.dispose, hdisposed, compareExchangeStrong,
        Bool.false_eq_true, if_false]
      rw [← hdisposed]
    rw [hsame] at hafter
    refine ⟨?_, hafter⟩
    unfold UDPTransport.getStatus
    rw [hafter]
    exact hlive

/-- A live connection is one that the transport hands out. -/
theorem getStatus_of_live {t : UDPTransport} {id : ConnId} {c : UDPConnection}
    (hconn : t.conns[id]? = some c) (hlive : c.getStatus = true) : t.getStatus id = true := by
  unfold UDPTransport.getStatus
  rw [hconn]
  exact hlive

/-- An empty datagram: what `errno` is decides about the connection. -/
theorem clientExact_nil (config : Config) (errno : Errno) {id : ConnId} (rxBuff : Nat → UInt8)
    {c : UDPConnection} {t : UDPTransport} (hconn : t.conns[id]? = some c)
    (hlive : c.getStatus = true) :
    ClientExact config errno id [] rxBuff c t ↔
      (errno = .EINTR ∨ errno = .EAGAIN) ∨ t.falseVal = true := by
  have hinvalid : ¬ Valid config.getNetPackageSz config.getNetPackageMetaSz Client.crc8 c.rxSeq
      [] := by
    intro h
    have hlen := h.length_eq
    have hsizes := client_sizes config
    rw [List.length_nil] at hlen
    omega
  have hreceived : t.received config errno id [] rxBuff =
      if errno = .EINTR ∨ errno = .EAGAIN then (t, rxBuff, false)
      else (t.dispose id, rxBuff, false) := by
    unfold UDPTransport.received
    rw [List.length_nil, Nat.zero_min]
    rfl
  by_cases hretry : errno = .EINTR ∨ errno = .EAGAIN
  · rw [if_pos hretry] at hreceived
    refine iff_of_true ⟨?_, fun _ => ?_⟩ (Or.inl hretry)
    · rw [hreceived]
      exact iff_of_false Bool.false_ne_true hinvalid
    · rw [hreceived]
      exact ⟨getStatus_of_live hconn hlive, hconn⟩
  · rw [if_neg hretry] at hreceived
    obtain ⟨hgone, hkept⟩ := dispose_live hconn hlive
    constructor
    · intro h
      have hstays := (h.unchanged hinvalid).1
      rw [hreceived] at hstays
      refine Or.inr (Bool.not_eq_false _ ▸ fun hfalse => ?_)
      exact Bool.false_ne_true ((hgone hfalse).symm.trans hstays)
    · intro h
      have htrue := h.resolve_left hretry
      refine ⟨?_, fun _ => ?_⟩
      · rw [hreceived]
        exact iff_of_false Bool.false_ne_true hinvalid
      · rw [hreceived]
        exact hkept htrue

/-- Any other datagram is checked, whatever `errno` is. -/
theorem clientExact_of_ne_nil (config : Config) (errno : Errno) {id : ConnId}
    {datagram : List UInt8} (hsome : datagram ≠ []) (rxBuff : Nat → UInt8) {c : UDPConnection}
    {t : UDPTransport} (hconn : t.conns[id]? = some c) (hlive : c.getStatus = true) :
    ClientExact config errno id datagram rxBuff c t := by
  have hlen := List.length_pos_iff.mpr hsome
  have hsizes := client_sizes config
  obtain ⟨hpassed, hkept⟩ := receivePackage_valid config datagram rxBuff c
  have hreceived : t.received config errno id datagram rxBuff =
      ({ t with conns := t.conns.set id (c.receivePackage config datagram rxBuff).1 },
        (c.receivePackage config datagram rxBuff).2) := by
    unfold UDPTransport.received
    rw [hconn]
    exact if_neg (by omega)
  refine ⟨?_, fun hinvalid => ?_⟩
  · rw [hreceived]
    exact hpassed
  · have hdropped : (c.receivePackage config datagram rxBuff).2.2 = false := by
      rw [← Bool.not_eq_true]
      exact fun hyes => hinvalid (hpassed.mp hyes)
    have hconns : (t.conns.set id c)[id]? = some c :=
      List.getElem?_set_self (List.getElem?_eq_some_iff.mp hconn).1
    rw [hreceived, hkept hdropped]
    exact ⟨getStatus_of_live hconns hlive, hconns⟩

/-- **The client** is exact unless an empty datagram makes it dispose the connection. -/
theorem clientExact_iff (config : Config) (errno : Errno) {id : ConnId} (datagram : List UInt8)
    (rxBuff : Nat → UInt8) {c : UDPConnection} {t : UDPTransport}
    (hconn : t.conns[id]? = some c) (hlive : c.getStatus = true) :
    ClientExact config errno id datagram rxBuff c t ↔
      (datagram = [] → (errno = .EINTR ∨ errno = .EAGAIN) ∨ t.falseVal = true) := by
  by_cases hempty : datagram = []
  · subst hempty
    rw [clientExact_nil config errno rxBuff hconn hlive]
    exact ⟨fun h _ => h, fun h => h rfl⟩
  · exact iff_of_true (clientExact_of_ne_nil config errno hempty rxBuff hconn hlive)
      fun hnil => absurd hnil hempty

/-! ## The firmware -/

theorem firmware_sizes (cfg : Configuration) :
    1 < cfg.metaSz ∧ cfg.metaSz < cfg.packageSize := by
  simp only [Configuration.packageSize, Configuration.metaSz, Configuration.pkgHdrSz,
    Configuration.metaCrcSz]
  omega

/-- `ProcessRX` decides by the first `pkgSz` bytes. -/
theorem readPacket_valid (cfg : Configuration) (packet : Packet) (millis : UInt32)
    (s : UDPServer.RxState) :
    let r := UDPServer.readPacket cfg.packageSize cfg.metaSz (some packet) millis s
    (isNewRequest r.2 = true ↔ Valid cfg.packageSize cfg.metaSz Firmware.crc8 s.server.serverSeq
        (packet.bytes.take cfg.packageSize)) ∧
      (isNewRequest r.2 = false → r.1.server = s.server ∧ r.1.alarmTimer = s.alarmTimer) := by
  obtain ⟨hmeta, hpkg⟩ := firmware_sizes cfg
  unfold UDPServer.readPacket
  dsimp only
  split
  · -- an empty datagram is no package
    rename_i hempty
    refine ⟨iff_of_false Bool.false_ne_true fun h => ?_, fun _ => ⟨rfl, rfl⟩⟩
    have hlen := h.length_eq
    rw [List.length_take] at hlen
    omega
  · generalize packet.bytes.take cfg.packageSize = bytes
    split
    · rename_i hwrong
      refine ⟨iff_of_false Bool.false_ne_true fun h => ?_, fun _ => ⟨rfl, rfl⟩⟩
      rcases hwrong with hlen | hcrc
      · exact hlen h.length_eq
      · exact hcrc ((valid_iff_buffer hmeta hpkg _ _ h.length_eq s.rxBuff).mp h).1.symm
    · rename_i hright
      rw [not_or, not_not, not_not] at hright
      rw [valid_iff_buffer hmeta hpkg _ _ hright.1 s.rxBuff]
      unfold UDPServer.dropOldSeq newer
      dsimp only
      by_cases hnewer : s.server.serverSeq - ByteMem.decode16 (ByteMem.write s.rxBuff 0 bytes 0)
            (ByteMem.write s.rxBuff 0 bytes 1) >
          ByteMem.decode16 (ByteMem.write s.rxBuff 0 bytes 0)
            (ByteMem.write s.rxBuff 0 bytes 1) - s.server.serverSeq
      · rw [if_pos hnewer]
        exact ⟨iff_of_true rfl ⟨hright.2.symm, decide_eq_true hnewer⟩,
          fun h => Bool.noConfusion h⟩
      · rw [if_neg hnewer]
        exact ⟨iff_of_false Bool.false_ne_true fun h => hnewer (of_decide_eq_true h.2),
          fun _ => ⟨rfl, rfl⟩⟩

/-- **The firmware** is exact unless a longer datagram begins with a valid package. -/
theorem firmwareExact_iff (cfg : Configuration) (beginOk : Bool) (packet : Packet)
    (millis : UInt32) {s : UDPServer.RxState} (hstarted : s.server.serverStarted = true) :
    FirmwareExact cfg beginOk packet millis s ↔
      (cfg.packageSize < packet.bytes.length →
        ¬ Valid cfg.packageSize cfg.metaSz Firmware.crc8 s.server.serverSeq
          (packet.bytes.take cfg.packageSize)) := by
  obtain ⟨hpassed, hkept⟩ := readPacket_valid cfg packet millis s
  have hread := UDPServer.processRX_started hstarted cfg.packageSize cfg.metaSz beginOk
    (some packet) millis
  constructor
  · intro h hlong hvalid
    have hpass := h.passed_iff
    rw [hread] at hpass
    exact absurd (hpass.mp (hpassed.mpr hvalid)).length_eq (Nat.ne_of_gt hlong)
  · intro h
    -- the whole datagram is valid exactly if its beginning is
    have hwhole : Valid cfg.packageSize cfg.metaSz Firmware.crc8 s.server.serverSeq
        packet.bytes ↔ Valid cfg.packageSize cfg.metaSz Firmware.crc8 s.server.serverSeq
          (packet.bytes.take cfg.packageSize) := by
      by_cases hlong : cfg.packageSize < packet.bytes.length
      · exact iff_of_false (fun hvalid => absurd hvalid.length_eq (Nat.ne_of_gt hlong)) (h hlong)
      · rw [List.take_of_length_le (Nat.not_lt.mp hlong)]
    refine ⟨?_, fun hinvalid => ?_⟩
    · rw [hread, hwhole]
      exact hpassed
    · rw [hread]
      refine hkept ?_
      rw [← Bool.not_eq_true]
      exact fun hyes => hinvalid (hwhole.mpr (hpassed.mp hyes))

/-- **Both receivers**: for every datagram, every state with a live socket and every `errno`. -/
theorem receivers_exact (config : Config) (errno : Errno) (id : ConnId) (datagram : List UInt8)
    (rxBuff : Nat → UInt8) (c : UDPConnection) (t : UDPTransport)
    (hconn : t.conns[id]? = some c) (hlive : c.getStatus = true) (cfg : Configuration)
    (beginOk : Bool) (packet : Packet) (millis : UInt32) (s : UDPServer.RxState)
    (hstarted : s.server.serverStarted = true) :
    (ClientExact config errno id datagram rxBuff c t ↔
        (datagram = [] → (errno = .EINTR ∨ errno = .EAGAIN) ∨ t.falseVal = true)) ∧
      (FirmwareExact cfg beginOk packet millis s ↔
        (cfg.packageSize < packet.bytes.length →
          ¬ Valid cfg.packageSize cfg.metaSz Firmware.crc8 s.server.serverSeq
            (packet.bytes.take cfg.packageSize))) :=
  ⟨clientExact_iff config errno datagram rxBuff hconn hlive,
    firmwareExact_iff cfg beginOk packet millis hstarted⟩

/-! ## Two datagrams that are not valid -/

/-- A client for the board, with one connection that has received nothing yet. -/
def boardClient : Config := (Deployment.matching Configuration.avrPro true 0).config

def freshConn : UDPConnection := UDPConnection.create 5 49152

def liveTransport : UDPTransport :=
  { conns := [freshConn], falseVal := false, remoteConn := some 0, udpPort := 49152 }

/-- The server after a TCP package with a port. -/
def startedServer : UDPServer.RxState where
  server := { UDPServer.create with serverStarted := true }
  rxBuff := fun _ => 0
  alarmTimer := { startTime := 0, interval := defaultAlarmIntervalMS }

/-- A package with number 1. -/
def firstPackage : List UInt8 :=
  ByteMem.read (sealPackage Configuration.avrPro.metaSz 1 fun _ => 0) 0
    Configuration.avrPro.packageSize

/-- After a receive timeout an empty datagram does no harm, and the package is accepted. -/
theorem receivers_exact_firstPackage :
    ClientExact boardClient .EAGAIN 0 [] (fun _ => 0) freshConn liveTransport ∧
      FirmwareExact Configuration.avrPro true ⟨firstPackage, 40000⟩ 7 startedServer := by
  obtain ⟨hclient, hfirmware⟩ := receivers_exact boardClient .EAGAIN 0 [] (fun _ => 0) freshConn
    liveTransport rfl rfl Configuration.avrPro true ⟨firstPackage, 40000⟩ 7 startedServer rfl
  exact ⟨hclient.mpr fun _ => Or.inl (Or.inr rfl),
    hfirmware.mpr fun hlong => absurd hlong (by decide +kernel)⟩

/-- After another error an empty datagram closes the client's connection; and the firmware
accepts the package with a byte behind it. -/
theorem empty_and_oversize :
    (¬ ∀ (config : Config) (errno : Errno) (id : ConnId) (datagram : List UInt8)
        (rxBuff : Nat → UInt8) (c : UDPConnection) (t : UDPTransport),
      t.conns[id]? = some c → c.getStatus = true →
        ClientExact config errno id datagram rxBuff c t) ∧
      ¬ ∀ (cfg : Configuration) (beginOk : Bool) (packet : Packet) (millis : UInt32)
        (s : UDPServer.RxState), s.server.serverStarted = true →
        FirmwareExact cfg beginOk packet millis s := by
  refine ⟨fun hall => ?_, fun hall => ?_⟩
  · have hexact := hall boardClient (.other 111) 0 [] (fun _ => 0) freshConn liveTransport rfl rfl
    have hopen := (hexact.unchanged fun hvalid => absurd hvalid.length_eq (by decide)).1
    have hgone : (liveTransport.received boardClient (.other 111) 0 [] fun _ => 0).1.getStatus 0 =
        false := by decide
    exact Bool.false_ne_true (hgone.symm.trans hopen)
  · have hexact := hall Configuration.avrPro true ⟨firstPackage ++ [0], 40000⟩ 7 startedServer rfl
    have hvalid := hexact.passed_iff.mp (by decide +kernel)
    exact absurd hvalid.length_eq (by decide +kernel)

end UartBridge.UdpDatagrams
