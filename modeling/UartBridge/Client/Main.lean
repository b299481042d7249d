import UartBridge.Client.Config
import UartBridge.Client.OptionsParser

/-!
# Main: from the command line to the configuration

`main` up to the start of the threads. `inet_pton` is the C library's: the bytes of the address
that a text names, for `AF_INET6` if the flag is set and for `AF_INET` otherwise.
-/

namespace UartBridge.Client

open Decimal

/-! ## IPAddress and PortConfig -/

abbrev InetPton : Type := Bool → Text → Option (List UInt8)

structure IPAddress where
  isValid : Bool
  isV6 : Bool
  ip : List UInt8
  deriving DecidableEq, Repr

namespace IPAddress

/-- `IP_ADDR_LEN`. -/
def ipAddrLen : Nat := 16

/-- `RawIP`: the bytes, and zeros behind them. -/
def rawIP (bytes : List UInt8) : List UInt8 :=
  (bytes ++ List.replicate ipAddrLen 0).take ipAddrLen

/-- `DetectIPVer`. -/
def detectIPVer (inetPton : InetPton) (ip : Text) : Nat :=
  if (inetPton false ip).isSome then 1 else if (inetPton true ip).isSome then 2 else 0

/-- The constructor on a string. -/
def ofString (inetPton : InetPton) (string : Text) : IPAddress :=
  let isValid := 0 < detectIPVer inetPton string
  let isV6 := isValid ∧ detectIPVer inetPton string = 2
  { isValid := isValid, isV6 := isV6
    ip := if isValid then rawIP ((inetPton isV6 string).getD []) else rawIP [] }

end IPAddress

/-- A `PortConfig` as `main` builds it, with what the listeners read of it. -/
structure PortSetup where
  speed : UInt32
  mode : UInt8
  resetOnConnect : Bool
  listenerAddress : IPAddress
  listenerPort : UInt16
  ptsListener : Text
  portID : Nat
  deriving DecidableEq, Repr

/-- The listener that a port gets. -/
inductive ListenerKind where
  | pty | tcp
  deriving DecidableEq, Repr

/-- The choice in the loop that creates the listeners. -/
def PortSetup.listenerKind (port : PortSetup) : Option ListenerKind :=
  if port.speed = 0 ∨ port.mode = serialClosed then none
  else if port.ptsListener ≠ [] then some .pty
  else if port.listenerAddress.isValid ∧ 0 < port.listenerPort then some .tcp
  else none

/-- What `main` has set up when it starts the threads. -/
structure Setup where
  remoteAddr : Text
  tcpPort : UInt16
  config : Config
  ptl : Int
  portConfigs : List PortSetup
  tcpListeners : List PortSetup
  ptyListeners : List PortSetup

/-! ## The command line -/

namespace OptionsParser

variable (options : OptionsParser)

/-- `CheckIsInteger`, and `GetInteger` behind it. -/
def takeInteger (param : Text) (minValue maxValue : Int) (errorMsg : String) :
    Except Failure Int := do
  let _ ← options.checkIsInteger param minValue maxValue true errorMsg
  options.getInteger param

def mandatoryInteger (param : Text) (missing : String) (minValue maxValue : Int)
    (errorMsg : String) : Except Failure Int := do
  let _ ← options.checkParamPresent param true missing
  options.takeInteger param minValue maxValue errorMsg

def optionalInteger (param : Text) (minValue maxValue : Int) (errorMsg : String)
    (default : Int) : Except Failure Int := do
  if ← options.checkParamPresent param false "" then
    options.takeInteger param minValue maxValue errorMsg
  else return default

/-- `CheckIsBoolean`, and `GetBoolean` behind it; `false` without the parameter. -/
def optionalBoolean (param : Text) (errorMsg : String) : Except Failure Bool := do
  if ← options.checkParamPresent param false "" then
    let _ ← options.checkIsBoolean param true errorMsg
    return options.getBoolean param
  else return false

/-- `-la`. -/
def localAddr (inetPton : InetPton) : Except Failure IPAddress := do
  if ← options.checkParamPresent "la".toList false "" then
    let _ ← options.checkIsIPAddress (fun text => (IPAddress.ofString inetPton text).isValid)
      "la".toList true "listen IP address is invalid!"
    return IPAddress.ofString inetPton (options.getString "la".toList)
  else return IPAddress.ofString inetPton "127.0.0.1".toList

/-- `-lp`: a port number, or else the name of a file. -/
def localListener (strIdx : Text) : Except Failure (Int × Text) := do
  let param := "lp".toList ++ strIdx
  if ← options.checkParamPresent param false "" then
    if ← options.checkIsInteger param 1 65535 false "" then
      return (← options.getInteger param, [])
    else return (0, options.getString param)
  else return (0, [])

/-- `-pm`, which is read only with a speed. -/
def uartMode (strIdx : Text) (uartSpeed : Int) : Except Failure Int := do
  let param := "pm".toList ++ strIdx
  if (← options.checkParamPresent param false "") ∧ uartSpeed > 0 then
    options.takeInteger param 0 255 "uart mode is invalid!"
  else return 255

/-- The options of port `i`, and the `PortConfig` made of them. -/
def portSetup (localAddr : IPAddress) (i : Nat) : Except Failure PortSetup := do
  let strIdx := to_string (i + 1)
  let (localPort, localFile) ← options.localListener strIdx
  let uartSpeed ← options.optionalInteger ("ps".toList ++ strIdx) 1 1000000
    "uart speed is invalid!" 0
  let uartMode ← options.uartMode strIdx uartSpeed
  let rstFlag ← options.optionalBoolean ("rst".toList ++ strIdx) "reset-needed value is invalid!"
  return {
    speed := UInt32.ofInt uartSpeed
    mode := UInt8.ofInt uartMode
    resetOnConnect := rstFlag
    listenerAddress := localAddr
    listenerPort := UInt16.ofInt localPort
    ptsListener := localFile
    portID := i }

end OptionsParser

/-- `main`, from the options to the start of the threads. -/
def OptionsParser.setup (inetPton : InetPton) (options : OptionsParser) :
    Except Failure Setup := do
  let _ ← options.checkEmpty true "Mandatory parameters are missing!"
  let _ ← options.checkParamPresent "ra".toList true "remote address or DNS-name is missing"
  let tp ← options.mandatoryInteger "tp".toList "TCP port must be provided" 1 65535
    "TCP port is invalid"
  let pc ← options.mandatoryInteger "pc".toList "port count must be provided" 1 32
    "port count value is invalid"
  let pls ← options.mandatoryInteger "pls".toList "Network payload size must be provided" 1 255
    "Network payload size must be provided"
  let rbs ← options.mandatoryInteger "rbs".toList "remote ring-buffer size is missing" 1 65535
    "remote ring-buffer size is invalid!"
  let up ← options.optionalBoolean "up".toList "UDP mode parameter is invalid"
  let localAddr ← options.localAddr inetPton
  let ptl ← options.optionalInteger "ptl".toList 256 1000000 "Local poll time is invalid" 8192
  let ptr ← options.optionalInteger "ptr".toList 256 1000000 "Remote poll time is invalid" 8192
  let portConfigs ← (List.range pc.toNat).mapM (options.portSetup localAddr)
  let tcpListeners := portConfigs.filter (·.listenerKind = some .tcp)
  let ptyListeners := portConfigs.filter (·.listenerKind = some .pty)
  if tcpListeners = [] ∧ ptyListeners = [] then
    throw (.exit "No valid port listeners defined!")
  else return {
    remoteAddr := options.getString "ra".toList
    tcpPort := UInt16.ofInt tp
    config :=
      { portCount := pc.toNat, portPLSize := pls.toNat, remoteRingBuffSize := rbs.toNat
        enableUDP := up, remotePollInterval := UInt32.ofInt ptr }
    ptl := ptl
    portConfigs := portConfigs
    tcpListeners := tcpListeners
    ptyListeners := ptyListeners }

/-- `main`, on the arguments from `argv[1]` on. -/
def setupOf (inetPton : InetPton) (argv : List Text) : Except Failure Setup := do
  (← OptionsParser.parse argv).setup inetPton

end UartBridge.Client
