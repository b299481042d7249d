import UartBridge.DataBuffer
import UartBridge.Client.Config
import UartBridge.Firmware.Configuration

/-!
# A client and a firmware that fit together

Both programs compute the package layout from their own port count and payload
size. A deployment is a pair of configurations with the same two numbers; the
layouts then agree field by field.
-/

namespace UartBridge

structure Deployment where
  config : Client.Config
  cfg : Firmware.Configuration
  portCount_eq : config.portCount = cfg.uartCount
  portPLSize_eq : config.portPLSize = cfg.dataPayloadSize

namespace Deployment

variable (D : Deployment)

theorem metaSz_eq : D.config.getNetPackageMetaSz = D.cfg.metaSz := by
  simp only [Client.Config.getNetPackageMetaSz, Client.metaSz, Firmware.Configuration.metaSz,
    D.portCount_eq]
  rfl

theorem packageSize_eq : D.config.getNetPackageSz = D.cfg.packageSize := by
  simp only [Client.Config.getNetPackageSz, Client.packageSize,
    Firmware.Configuration.packageSize, D.portCount_eq, D.portPLSize_eq]
  rfl

theorem slotOffset_eq (i : Nat) : D.config.getPortBuffOffset i = D.cfg.slotOffset i := by
  simp only [Client.Config.getPortBuffOffset, Client.portOffset,
    Firmware.Configuration.slotOffset, D.portCount_eq, D.portPLSize_eq]
  rfl

/-- A payload length always fits the one-byte `plSz`. -/
theorem toNat_plSz {n : Nat} (hn : n ≤ D.config.portPLSize) : (UInt8.ofNat n).toNat = n := by
  have hle := D.cfg.payload_le
  rw [D.portPLSize_eq] at hn
  unfold Firmware.Configuration.dataPayloadSize at hn
  rw [UInt8.toNat_ofNat']
  exact Nat.mod_eq_of_lt (by omega)

/-- A client set up for a firmware as the usage text asks: same port count, same
payload size, and a remote ring buffer of the firmware's size. -/
def matching (cfg : Firmware.Configuration) (enableUDP : Bool) (remotePollInterval : UInt32) :
    Deployment where
  config :=
    { portCount := cfg.uartCount, portPLSize := cfg.dataPayloadSize
      remoteRingBuffSize := cfg.dataBufferSize, enableUDP := enableUDP
      remotePollInterval := remotePollInterval }
  cfg := cfg
  portCount_eq := rfl
  portPLSize_eq := rfl

/-- The header is never empty, and the checksum lies inside the package. -/
theorem header_lt_metaSz : 2 < D.cfg.metaSz := by
  simp only [Firmware.Configuration.metaSz, Firmware.Configuration.pkgHdrSz]
  omega

theorem metaSz_lt_packageSize : D.cfg.metaSz < D.cfg.packageSize := by
  simp only [Firmware.Configuration.packageSize, Firmware.Configuration.metaCrcSz]
  omega

/-! ## The deployment of the examples -/

/-- The smaller board, with a client that asks to be polled every 4096 microseconds. -/
def avrPro (enableUDP : Bool) : Deployment :=
  matching Firmware.Configuration.avrPro enableUDP 4096

/-- A ring buffer of that board. -/
def ring512 : DataBuffer UInt8 512 :=
  DataBuffer.create (fun _ => 0) Firmware.Configuration.avrPro.dataBufferSize_pos

/-- A small ring buffer for a port worker. -/
def ring16 {α : Type} (cell : α) : DataBuffer α 16 := DataBuffer.create (fun _ => cell) (by decide)

/-- A port at 57600 baud. -/
def port57600 (resetOnConnect : Bool) (portID : Nat) : Client.PortConfig where
  speed := 57600
  mode := 6
  resetOnConnect := resetOnConnect
  portID := portID
  mode_of_speed := fun h => absurd h (by decide)

end Deployment

end UartBridge
