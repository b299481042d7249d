import UartBridge.Client.Main
import UartBridge.Lib.Fallible

/-!
# The client's options

* `setup_eq_ok` — what the options stand for, if the program sets itself up;
* `Means.accepted` — it does so within the bounds that the rest of it relies on;
* `caught` — whatever the arguments are, the program sets itself up or says what is wrong and
  ends; no exception of `stoi` is left uncaught.
-/

namespace UartBridge.CommandLine

open Client Decimal Fallible

/-! ## The checks -/

section Checks

variable {options : OptionsParser} {param : Text} {errorMsg missing : String}
  {minValue maxValue default value : Int} {result : Bool}

/-- The parameter's text is a number in the range. -/
def Number (options : OptionsParser) (param : Text) (minValue maxValue value : Int) : Prop :=
  ∃ text, options.args.lookup param = some text ∧ stoi text = .ok value ∧
    minValue ≤ value ∧ value ≤ maxValue

/-- The parameter is not there, or has no text. -/
def Absent (options : OptionsParser) (param : Text) : Prop := options.getString param = []

/-- A parameter with a number is there. -/
theorem Number.not_absent (h : Number options param minValue maxValue value) :
    ¬ Absent options param := by
  obtain ⟨text, hlookup, hstoi, -⟩ := h
  rw [Absent, OptionsParser.getString, hlookup, Option.getD_some]
  rintro rfl
  cases hstoi

theorem report_stop_eq_ok {error : Bool} :
    OptionsParser.report error true errorMsg = .ok result ↔ error = false ∧ result = true := by
  cases error <;> simp [OptionsParser.report, eq_comm]

theorem report_go {error : Bool} :
    OptionsParser.report error false errorMsg = .ok (!error) := by
  cases error <;> rfl

theorem checkParamPresent_stop_eq_ok :
    options.checkParamPresent param true errorMsg = .ok result ↔
      ¬ Absent options param ∧ result = true := by
  rw [OptionsParser.checkParamPresent, report_stop_eq_ok, decide_eq_false_iff_not, Absent]

/-- A parameter that may be missing. -/
theorem whenPresent_eq_ok {α : Type} {present absent : Except Failure α} {r : α} :
    (do if ← options.checkParamPresent param false errorMsg then present else absent) = .ok r ↔
      ¬ Absent options param ∧ present = .ok r ∨ Absent options param ∧ absent = .ok r := by
  rw [OptionsParser.checkParamPresent, report_go]
  by_cases habsent : options.getString param = []
  · rw [decide_eq_true habsent]
    change absent = .ok r ↔ _
    simp [Absent, habsent]
  · rw [decide_eq_false habsent]
    change present = .ok r ↔ _
    simp [Absent, habsent]

theorem inRange_iff {text : Text} :
    OptionsParser.inRange text minValue maxValue = true ↔
      ∃ value, stoi text = .ok value ∧ minValue ≤ value ∧ value ≤ maxValue := by
  unfold OptionsParser.inRange
  cases stoi text with
  | ok v => simp
  | error what => simp

/-- What `CheckIsInteger` looks at. -/
theorem integerError_eq_false :
    (match options.args.lookup param with
      | some text => !OptionsParser.inRange text minValue maxValue
      | none => true) = false ↔ ∃ value, Number options param minValue maxValue value := by
  cases hlookup : options.args.lookup param with
  | none => simp [Number, hlookup]
  | some text =>
    simp only [Bool.not_eq_eq_eq_not, Bool.not_false, inRange_iff, Number, hlookup,
      Option.some.injEq, exists_eq_left']

/-- After the check, `GetInteger` reads a number without an exception. -/
theorem Number.getInteger (h : Number options param minValue maxValue value) :
    options.getInteger param = .ok value := by
  obtain ⟨text, hlookup, hstoi, -⟩ := h
  simp only [OptionsParser.getInteger, hlookup, hstoi]

theorem Number.unique {value' : Int} (h : Number options param minValue maxValue value)
    (hget : options.getInteger param = .ok value') : value' = value := by
  rw [h.getInteger] at hget
  cases hget
  rfl

theorem takeInteger_eq_ok :
    options.takeInteger param minValue maxValue errorMsg = .ok value ↔
      Number options param minValue maxValue value := by
  unfold OptionsParser.takeInteger OptionsParser.checkIsInteger
  constructor
  · intro h
    obtain ⟨checked, hcheck, hget⟩ := bind_eq_ok.mp h
    obtain ⟨v, hnumber⟩ := integerError_eq_false.mp (report_stop_eq_ok.mp hcheck).1
    exact (hnumber.unique hget).symm ▸ hnumber
  · intro h
    exact bind_eq_ok.mpr
      ⟨true, report_stop_eq_ok.mpr ⟨integerError_eq_false.mpr ⟨value, h⟩, rfl⟩, h.getInteger⟩

theorem mandatoryInteger_eq_ok :
    options.mandatoryInteger param missing minValue maxValue errorMsg = .ok value ↔
      Number options param minValue maxValue value := by
  unfold OptionsParser.mandatoryInteger
  constructor
  · intro h
    obtain ⟨-, -, htake⟩ := bind_eq_ok.mp h
    exact takeInteger_eq_ok.mp htake
  · intro h
    exact bind_eq_ok.mpr
      ⟨true, checkParamPresent_stop_eq_ok.mpr ⟨h.not_absent, rfl⟩, takeInteger_eq_ok.mpr h⟩

/-- The parameter's number, or the default. -/
def NumberOr (options : OptionsParser) (param : Text) (minValue maxValue default value : Int) :
    Prop :=
  Number options param minValue maxValue value ∨ Absent options param ∧ value = default

theorem optionalInteger_eq_ok :
    options.optionalInteger param minValue maxValue errorMsg default = .ok value ↔
      NumberOr options param minValue maxValue default value := by
  unfold OptionsParser.optionalInteger
  rw [whenPresent_eq_ok, takeInteger_eq_ok]
  constructor
  · rintro (⟨-, h⟩ | ⟨habsent, h⟩)
    · exact Or.inl h
    · cases h
      exact Or.inr ⟨habsent, rfl⟩
  · rintro (h | ⟨habsent, rfl⟩)
    · exact Or.inl ⟨h.not_absent, h⟩
    · exact Or.inr ⟨habsent, rfl⟩

/-- The parameter's text stands for the flag; no text stands for `false`. -/
def Flag (options : OptionsParser) (param : Text) (flag : Bool) : Prop :=
  (∃ text, options.args.lookup param = some text ∧
    text ∈ if flag then OptionsParser.trueTexts else OptionsParser.falseTexts) ∨
  Absent options param ∧ flag = false

/-- What `CheckIsBoolean` looks at. -/
theorem booleanError_eq_false :
    (match options.args.lookup param with
      | some text => decide (text ∉ OptionsParser.trueTexts ∧ text ∉ OptionsParser.falseTexts)
      | none => true) = false ↔
    ∃ text, options.args.lookup param = some text ∧
      (text ∈ OptionsParser.trueTexts ∨ text ∈ OptionsParser.falseTexts) := by
  cases hlookup : options.args.lookup param with
  | none => simp
  | some text =>
    simp only [decide_eq_false_iff_not, not_and_or, not_not, Option.some.injEq, exists_eq_left']

/-- No text stands for both. -/
theorem texts_disjoint : ∀ text ∈ OptionsParser.falseTexts, text ∉ OptionsParser.trueTexts := by
  decide

theorem optionalBoolean_eq_ok :
    options.optionalBoolean param errorMsg = .ok result ↔ Flag options param result := by
  unfold OptionsParser.optionalBoolean
  rw [whenPresent_eq_ok]
  constructor
  · rintro (⟨-, h⟩ | ⟨habsent, h⟩)
    · obtain ⟨checked, hcheck, hget⟩ := bind_eq_ok.mp h
      obtain ⟨text, hlookup, hmem⟩ := booleanError_eq_false.mp (report_stop_eq_ok.mp hcheck).1
      have hresult : decide (text ∈ OptionsParser.trueTexts) = result := by
        simpa [OptionsParser.getBoolean, hlookup] using Except.ok.inj hget
      refine Or.inl ⟨text, hlookup, ?_⟩
      cases result with
      | true => exact of_decide_eq_true hresult
      | false => exact hmem.resolve_left (of_decide_eq_false hresult)
    · cases h
      exact Or.inr ⟨habsent, rfl⟩
  · rintro (⟨text, hlookup, hmem⟩ | ⟨habsent, rfl⟩)
    · have hpresent : ¬ Absent options param := by
        rw [Absent, OptionsParser.getString, hlookup, Option.getD_some]
        rintro rfl
        cases result <;> exact absurd hmem (by decide)
      have hget : options.getBoolean param = result := by
        rw [OptionsParser.getBoolean, hlookup]
        cases result with
        | true => exact decide_eq_true hmem
        | false => exact decide_eq_false (texts_disjoint text hmem)
      have heither : text ∈ OptionsParser.trueTexts ∨ text ∈ OptionsParser.falseTexts := by
        cases result with
        | true => exact Or.inl hmem
        | false => exact Or.inr hmem
      refine Or.inl ⟨hpresent, bind_eq_ok.mpr ⟨true, report_stop_eq_ok.mpr
        ⟨booleanError_eq_false.mpr ⟨text, hlookup, heither⟩, rfl⟩, ?_⟩⟩
      rw [hget]
      rfl
    · exact Or.inr ⟨habsent, rfl⟩

/-! ## The parameters of `main` -/

variable {inetPton : InetPton} {address : IPAddress} {strIdx : Text}

/-- An address that the program can be told to listen at. -/
inductive LocalAddr (inetPton : InetPton) (options : OptionsParser) : IPAddress → Prop where
  | given (text : Text) : options.args.lookup "la".toList = some text → text ≠ [] →
      (IPAddress.ofString inetPton text).isValid = true →
      LocalAddr inetPton options (IPAddress.ofString inetPton text)
  | loopback : Absent options "la".toList →
      LocalAddr inetPton options (IPAddress.ofString inetPton "127.0.0.1".toList)

theorem localAddr_eq_ok :
    options.localAddr inetPton = .ok address ↔ LocalAddr inetPton options address := by
  unfold OptionsParser.localAddr OptionsParser.checkIsIPAddress
  rw [whenPresent_eq_ok]
  constructor
  · rintro (⟨hpresent, h⟩ | ⟨habsent, h⟩)
    · obtain ⟨checked, hcheck, haddr⟩ := bind_eq_ok.mp h
      have herror := (report_stop_eq_ok.mp hcheck).1
      cases hlookup : options.args.lookup "la".toList with
      | none =>
        rw [hlookup] at herror
        cases herror
      | some text =>
        simp only [hlookup, Bool.not_eq_eq_eq_not, Bool.not_false] at herror
        rw [Absent, OptionsParser.getString, hlookup, Option.getD_some] at hpresent
        rw [OptionsParser.getString, hlookup, Option.getD_some] at haddr
        cases haddr
        exact LocalAddr.given text hlookup hpresent herror
    · cases h
      exact LocalAddr.loopback habsent
  · intro h
    cases h with
    | given text hlookup hne hvalid =>
      have htext : options.getString "la".toList = text := by
        rw [OptionsParser.getString, hlookup, Option.getD_some]
      refine Or.inl ⟨?_, bind_eq_ok.mpr ⟨true, report_stop_eq_ok.mpr ⟨?_, rfl⟩, ?_⟩⟩
      · rwa [Absent, htext]
      · simp only [hlookup, hvalid, Bool.not_true]
      · rw [htext]
        rfl
    | loopback habsent => exact Or.inr ⟨habsent, rfl⟩

/-- What `-lp` stands for: a port number, a file, or nothing. -/
inductive Listens (options : OptionsParser) (param : Text) : Int × Text → Prop where
  | port (number : Int) : Number options param 1 65535 number → Listens options param (number, [])
  | file (name : Text) : options.args.lookup param = some name → name ≠ [] →
      OptionsParser.inRange name 1 65535 = false → Listens options param (0, name)
  | nothing : Absent options param → Listens options param (0, [])

theorem checkIsInteger_go :
    options.checkIsInteger param minValue maxValue false errorMsg =
      .ok (match options.args.lookup param with
        | some text => OptionsParser.inRange text minValue maxValue
        | none => false) := by
  rw [OptionsParser.checkIsInteger, report_go]
  cases options.args.lookup param with
  | none => rfl
  | some text => rw [Bool.not_not]

/-- `-lp` always stands for one of these. -/
theorem exists_listens (options : OptionsParser) (param : Text) :
    ∃ listener, Listens options param listener := by
  by_cases habsent : Absent options param
  · exact ⟨_, Listens.nothing habsent⟩
  · cases hlookup : options.args.lookup param with
    | none =>
      refine absurd ?_ habsent
      rw [Absent, OptionsParser.getString, hlookup, Option.getD_none]
    | some text =>
      have hne : text ≠ [] := by
        rwa [Absent, OptionsParser.getString, hlookup, Option.getD_some] at habsent
      cases hrange : OptionsParser.inRange text 1 65535 with
      | true =>
        obtain ⟨number, hstoi, hbounds⟩ := inRange_iff.mp hrange
        exact ⟨_, Listens.port number ⟨text, hlookup, hstoi, hbounds⟩⟩
      | false => exact ⟨_, Listens.file text hlookup hne hrange⟩

/-- What it stands for is what is read. -/
theorem Listens.localListener {listener : Int × Text}
    (h : Listens options ("lp".toList ++ strIdx) listener) :
    options.localListener strIdx = .ok listener := by
  unfold OptionsParser.localListener
  dsimp only
  generalize "lp".toList ++ strIdx = param at h
  rw [whenPresent_eq_ok, checkIsInteger_go]
  cases h with
  | port number hnumber =>
    refine Or.inl ⟨hnumber.not_absent, ?_⟩
    have hget := hnumber.getInteger
    obtain ⟨text, hlookup, hstoi, hbounds⟩ := hnumber
    rw [hlookup]
    dsimp only
    rw [inRange_iff.mpr ⟨number, hstoi, hbounds⟩]
    show (do return (← options.getInteger param, [])) = Except.ok (number, [])
    rw [hget]
    rfl
  | file name hlookup hne hno =>
    have hstring : options.getString param = name := by
      rw [OptionsParser.getString, hlookup, Option.getD_some]
    refine Or.inl ⟨by rwa [Absent, hstring], ?_⟩
    rw [hlookup]
    dsimp only
    rw [hno]
    show Except.ok (0, options.getString param) = Except.ok (0, name)
    rw [hstring]
  | nothing habsent => exact Or.inr ⟨habsent, rfl⟩

theorem localListener_eq_ok {listener : Int × Text} :
    options.localListener strIdx = .ok listener ↔
      Listens options ("lp".toList ++ strIdx) listener := by
  constructor
  · intro h
    obtain ⟨listener', h'⟩ := exists_listens options ("lp".toList ++ strIdx)
    have hsame : listener' = listener := Except.ok.inj (h'.localListener.symm.trans h)
    exact hsame ▸ h'
  · exact Listens.localListener

/-- The mode: only with a speed. -/
theorem uartMode_eq_ok {uartSpeed : Int} :
    options.uartMode strIdx uartSpeed = .ok value ↔
      (0 < uartSpeed ∧ NumberOr options ("pm".toList ++ strIdx) 0 255 255 value) ∨
        uartSpeed ≤ 0 ∧ value = 255 := by
  unfold OptionsParser.uartMode
  dsimp only
  generalize "pm".toList ++ strIdx = param
  rw [OptionsParser.checkParamPresent, report_go]
  by_cases habsent : options.getString param = []
  · rw [decide_eq_true habsent]
    change Except.ok 255 = Except.ok value ↔ _
    constructor
    · intro h
      cases h
      rcases Int.lt_or_le 0 uartSpeed with hspeed | hspeed
      · exact Or.inl ⟨hspeed, Or.inr ⟨habsent, rfl⟩⟩
      · exact Or.inr ⟨hspeed, rfl⟩
    · rintro (⟨-, h | ⟨-, rfl⟩⟩ | ⟨-, rfl⟩)
      · exact absurd habsent h.not_absent
      · rfl
      · rfl
  · rw [decide_eq_false habsent]
    change (if true = true ∧ uartSpeed > 0 then
      options.takeInteger param 0 255 "uart mode is invalid!" else .ok 255) = .ok value ↔ _
    by_cases hspeed : uartSpeed > 0
    · rw [if_pos ⟨rfl, hspeed⟩, takeInteger_eq_ok]
      constructor
      · intro h
        exact Or.inl ⟨hspeed, Or.inl h⟩
      · rintro (⟨-, h | ⟨h, -⟩⟩ | ⟨h, -⟩)
        · exact h
        · exact absurd h habsent
        · exact absurd hspeed (Int.not_lt.mpr h)
    · rw [if_neg (fun h => hspeed h.2)]
      constructor
      · intro h
        cases h
        exact Or.inr ⟨Int.not_lt.mp hspeed, rfl⟩
      · rintro (⟨h, -⟩ | ⟨-, rfl⟩)
        · exact absurd h hspeed
        · rfl

end Checks

/-! ## What is accepted -/

/-- What the options of a port stand for. -/
structure PortOptions (options : OptionsParser) (localAddr : IPAddress) (i : Nat)
    (port : PortSetup) : Prop where
  read : ∃ localPort localFile uartSpeed uartMode,
    Listens options ("lp".toList ++ to_string (i + 1)) (localPort, localFile) ∧
    NumberOr options ("ps".toList ++ to_string (i + 1)) 1 1000000 0 uartSpeed ∧
    ((0 < uartSpeed ∧ NumberOr options ("pm".toList ++ to_string (i + 1)) 0 255 255 uartMode) ∨
      uartSpeed ≤ 0 ∧ uartMode = 255) ∧
    Flag options ("rst".toList ++ to_string (i + 1)) port.resetOnConnect ∧
    port =
      { speed := UInt32.ofInt uartSpeed, mode := UInt8.ofInt uartMode
        resetOnConnect := port.resetOnConnect, listenerAddress := localAddr
        listenerPort := UInt16.ofInt localPort, ptsListener := localFile, portID := i }

theorem portSetup_eq_ok {options : OptionsParser} {localAddr : IPAddress} {i : Nat}
    {port : PortSetup} :
    options.portSetup localAddr i = .ok port ↔ PortOptions options localAddr i port := by
  unfold OptionsParser.portSetup
  constructor
  · intro h
    obtain ⟨⟨localPort, localFile⟩, hlocal, h⟩ := bind_eq_ok.mp h
    obtain ⟨uartSpeed, hspeed, h⟩ := bind_eq_ok.mp h
    obtain ⟨uartMode, hmode, h⟩ := bind_eq_ok.mp h
    obtain ⟨rstFlag, hrst, h⟩ := bind_eq_ok.mp h
    cases h
    exact ⟨localPort, localFile, uartSpeed, uartMode, localListener_eq_ok.mp hlocal,
      optionalInteger_eq_ok.mp hspeed, uartMode_eq_ok.mp hmode, optionalBoolean_eq_ok.mp hrst, rfl⟩
  · rintro ⟨localPort, localFile, uartSpeed, uartMode, hlocal, hspeed, hmode, hrst, hport⟩
    refine bind_eq_ok.mpr ⟨_, localListener_eq_ok.mpr hlocal, bind_eq_ok.mpr
      ⟨_, optionalInteger_eq_ok.mpr hspeed, bind_eq_ok.mpr ⟨_, uartMode_eq_ok.mpr hmode,
        bind_eq_ok.mpr ⟨_, optionalBoolean_eq_ok.mpr hrst, ?_⟩⟩⟩⟩
    exact congrArg Except.ok hport.symm

/-- The addresses that the program can be told to listen at. -/
def ListenAddress (inetPton : InetPton) (address : IPAddress) : Prop :=
  (∃ text, text ≠ [] ∧ (IPAddress.ofString inetPton text).isValid = true ∧
    address = IPAddress.ofString inetPton text) ∨
  address = IPAddress.ofString inetPton "127.0.0.1".toList

/-- A port within its bounds: no mode without a speed, and no listener of two kinds. -/
structure PortAccepted (localAddr : IPAddress) (i : Nat) (port : PortSetup) : Prop where
  speed : port.speed.toNat ≤ 1000000
  mode : port.speed = 0 → port.mode = serialClosed
  listener : port.ptsListener = [] ∨
    port.listenerPort = 0 ∧ OptionsParser.inRange port.ptsListener 1 65535 = false
  listenerAddress : port.listenerAddress = localAddr
  portID : port.portID = i

/-- A setup within its bounds. -/
structure Accepted (inetPton : InetPton) (setup : Setup) : Prop where
  remoteAddr : setup.remoteAddr ≠ []
  tcpPort : setup.tcpPort ≠ 0
  portCount : 1 ≤ setup.config.portCount ∧ setup.config.portCount ≤ 32
  portPLSize : 1 ≤ setup.config.portPLSize ∧ setup.config.portPLSize ≤ 255
  remoteRingBuffSize :
    1 ≤ setup.config.remoteRingBuffSize ∧ setup.config.remoteRingBuffSize ≤ 65535
  remotePollInterval : 256 ≤ setup.config.remotePollInterval.toNat ∧
    setup.config.remotePollInterval.toNat ≤ 1000000
  ptl : 256 ≤ setup.ptl ∧ setup.ptl ≤ 1000000
  portConfigs : ∃ localAddr, ListenAddress inetPton localAddr ∧
    List.Forall₂ (PortAccepted localAddr) (List.range setup.config.portCount) setup.portConfigs
  tcpListeners : setup.tcpListeners = setup.portConfigs.filter (·.listenerKind = some .tcp)
  ptyListeners : setup.ptyListeners = setup.portConfigs.filter (·.listenerKind = some .pty)
  listening : setup.tcpListeners ≠ [] ∨ setup.ptyListeners ≠ []

/-- What the options stand for, all together. -/
structure Means (inetPton : InetPton) (options : OptionsParser) (setup : Setup) : Prop where
  notEmpty : options.args.entries ≠ []
  remoteAddr : ¬ Absent options "ra".toList ∧ setup.remoteAddr = options.getString "ra".toList
  tcpPort : ∃ tp, Number options "tp".toList 1 65535 tp ∧ setup.tcpPort = UInt16.ofInt tp
  portCount : ∃ pc, Number options "pc".toList 1 32 pc ∧ setup.config.portCount = pc.toNat
  portPLSize : ∃ pls, Number options "pls".toList 1 255 pls ∧
    setup.config.portPLSize = pls.toNat
  remoteRingBuffSize : ∃ rbs, Number options "rbs".toList 1 65535 rbs ∧
    setup.config.remoteRingBuffSize = rbs.toNat
  enableUDP : Flag options "up".toList setup.config.enableUDP
  remotePollInterval : ∃ ptr, NumberOr options "ptr".toList 256 1000000 8192 ptr ∧
    setup.config.remotePollInterval = UInt32.ofInt ptr
  ptl : NumberOr options "ptl".toList 256 1000000 8192 setup.ptl
  portConfigs : ∃ localAddr, LocalAddr inetPton options localAddr ∧
    List.Forall₂ (PortOptions options localAddr) (List.range setup.config.portCount)
      setup.portConfigs
  tcpListeners : setup.tcpListeners = setup.portConfigs.filter (·.listenerKind = some .tcp)
  ptyListeners : setup.ptyListeners = setup.portConfigs.filter (·.listenerKind = some .pty)
  listening : setup.tcpListeners ≠ [] ∨ setup.ptyListeners ≠ []

theorem setup_eq_ok {inetPton : InetPton} {options : OptionsParser} {setup : Setup} :
    options.setup inetPton = .ok setup ↔ Means inetPton options setup := by
  unfold OptionsParser.setup
  constructor
  · intro h
    obtain ⟨empty, hempty, h⟩ := bind_eq_ok.mp h
    obtain ⟨present, hra, h⟩ := bind_eq_ok.mp h
    obtain ⟨tp, htp, h⟩ := bind_eq_ok.mp h
    obtain ⟨pc, hpc, h⟩ := bind_eq_ok.mp h
    obtain ⟨pls, hpls, h⟩ := bind_eq_ok.mp h
    obtain ⟨rbs, hrbs, h⟩ := bind_eq_ok.mp h
    obtain ⟨up, hup, h⟩ := bind_eq_ok.mp h
    obtain ⟨localAddr, hla, h⟩ := bind_eq_ok.mp h
    obtain ⟨ptl, hptl, h⟩ := bind_eq_ok.mp h
    obtain ⟨ptr, hptr, h⟩ := bind_eq_ok.mp h
    obtain ⟨portConfigs, hports, h⟩ := bind_eq_ok.mp h
    dsimp only at h
    split at h
    · cases h
    · rename_i hlisten
      cases h
      refine
        { notEmpty := ?_
          remoteAddr := ⟨(checkParamPresent_stop_eq_ok.mp hra).1, rfl⟩
          tcpPort := ⟨tp, mandatoryInteger_eq_ok.mp htp, rfl⟩
          portCount := ⟨pc, mandatoryInteger_eq_ok.mp hpc, rfl⟩
          portPLSize := ⟨pls, mandatoryInteger_eq_ok.mp hpls, rfl⟩
          remoteRingBuffSize := ⟨rbs, mandatoryInteger_eq_ok.mp hrbs, rfl⟩
          enableUDP := optionalBoolean_eq_ok.mp hup
          remotePollInterval := ⟨ptr, optionalInteger_eq_ok.mp hptr, rfl⟩
          ptl := optionalInteger_eq_ok.mp hptl
          portConfigs := ⟨localAddr, localAddr_eq_ok.mp hla,
            (mapM_eq_ok.mp hports).imp fun _ _ => portSetup_eq_ok.mp⟩
          tcpListeners := rfl
          ptyListeners := rfl
          listening := not_and_or.mp hlisten }
      intro hnil
      rw [OptionsParser.checkEmpty, if_pos hnil] at hempty
      cases hempty
  · intro h
    obtain ⟨tp, htp, htcp⟩ := h.tcpPort
    obtain ⟨pc, hpc, hcount⟩ := h.portCount
    obtain ⟨pls, hpls, hsize⟩ := h.portPLSize
    obtain ⟨rbs, hrbs, hring⟩ := h.remoteRingBuffSize
    obtain ⟨ptr, hptr, hpoll⟩ := h.remotePollInterval
    obtain ⟨localAddr, hla, hports⟩ := h.portConfigs
    refine bind_eq_ok.mpr ⟨false, if_neg h.notEmpty, bind_eq_ok.mpr
      ⟨true, checkParamPresent_stop_eq_ok.mpr ⟨h.remoteAddr.1, rfl⟩, bind_eq_ok.mpr
      ⟨tp, mandatoryInteger_eq_ok.mpr htp, bind_eq_ok.mpr
      ⟨pc, mandatoryInteger_eq_ok.mpr hpc, bind_eq_ok.mpr
      ⟨pls, mandatoryInteger_eq_ok.mpr hpls, bind_eq_ok.mpr
      ⟨rbs, mandatoryInteger_eq_ok.mpr hrbs, bind_eq_ok.mpr
      ⟨_, optionalBoolean_eq_ok.mpr h.enableUDP, bind_eq_ok.mpr
      ⟨localAddr, localAddr_eq_ok.mpr hla, bind_eq_ok.mpr
      ⟨_, optionalInteger_eq_ok.mpr h.ptl, bind_eq_ok.mpr
      ⟨ptr, optionalInteger_eq_ok.mpr hptr, bind_eq_ok.mpr
      ⟨setup.portConfigs, mapM_eq_ok.mpr ?_, ?_⟩⟩⟩⟩⟩⟩⟩⟩⟩⟩⟩
    · rw [← hcount]
      exact hports.imp fun _ _ => portSetup_eq_ok.mpr
    · have hlisten := h.listening
      rw [h.tcpListeners, h.ptyListeners] at hlisten
      dsimp only
      rw [if_neg (not_and_or.mpr hlisten), ← htcp, ← hcount, ← hsize, ← hring, ← hpoll,
        ← h.remoteAddr.2, ← h.tcpListeners, ← h.ptyListeners]
      rfl

/-! ## Within the bounds -/

theorem toNat_ofInt8 {v : Int} (hlo : 0 ≤ v) (hhi : v ≤ 255) :
    (UInt8.ofInt v).toNat = v.toNat := by
  rw [UInt8.ofInt, Int.emod_eq_of_lt hlo (by omega)]
  exact UInt8.toNat_ofNat_of_lt (by rw [UInt8.size]; omega)

theorem toNat_ofInt16 {v : Int} (hlo : 0 ≤ v) (hhi : v ≤ 65535) :
    (UInt16.ofInt v).toNat = v.toNat := by
  rw [UInt16.ofInt, Int.emod_eq_of_lt hlo (by omega)]
  exact UInt16.toNat_ofNat_of_lt (by rw [UInt16.size]; omega)

theorem toNat_ofInt32 {v : Int} (hlo : 0 ≤ v) (hhi : v ≤ 4294967295) :
    (UInt32.ofInt v).toNat = v.toNat := by
  rw [UInt32.ofInt, Int.emod_eq_of_lt hlo (by omega)]
  exact UInt32.toNat_ofNat_of_lt (by rw [UInt32.size]; omega)

theorem ofInt_toNat8 (x : UInt8) : UInt8.ofInt x.toNat = x := by
  have hlt := x.toNat_lt
  rw [← UInt8.toNat_inj, toNat_ofInt8 (by omega) (by omega), Int.toNat_natCast]

theorem ofInt_toNat16 (x : UInt16) : UInt16.ofInt x.toNat = x := by
  have hlt := x.toNat_lt
  rw [← UInt16.toNat_inj, toNat_ofInt16 (by omega) (by omega), Int.toNat_natCast]

theorem ofInt_toNat32 (x : UInt32) : UInt32.ofInt x.toNat = x := by
  have hlt := x.toNat_lt
  rw [← UInt32.toNat_inj, toNat_ofInt32 (by omega) (by omega), Int.toNat_natCast]

section Bounds

variable {inetPton : InetPton} {options : OptionsParser} {param : Text}
  {minValue maxValue default value : Int}

theorem Number.bounds (h : Number options param minValue maxValue value) :
    minValue ≤ value ∧ value ≤ maxValue := by
  obtain ⟨text, -, -, hbounds⟩ := h
  exact hbounds

theorem NumberOr.bounds (h : NumberOr options param minValue maxValue default value)
    (hdefault : minValue ≤ default ∧ default ≤ maxValue) :
    minValue ≤ value ∧ value ≤ maxValue := by
  rcases h with h | ⟨-, rfl⟩
  · exact h.bounds
  · exact hdefault

theorem LocalAddr.listenAddress {address : IPAddress} (h : LocalAddr inetPton options address) :
    ListenAddress inetPton address := by
  cases h with
  | given text _ hne hvalid => exact Or.inl ⟨text, hne, hvalid, rfl⟩
  | loopback => exact Or.inr rfl

/-- Each port is within its bounds. -/
theorem PortOptions.accepted {localAddr : IPAddress} {i : Nat} {port : PortSetup}
    (h : PortOptions options localAddr i port) : PortAccepted localAddr i port := by
  obtain ⟨localPort, localFile, uartSpeed, uartMode, hlocal, hspeed, hmode, -, hport⟩ := h.read
  have hbounds : 0 ≤ uartSpeed ∧ uartSpeed ≤ 1000000 := by
    rcases hspeed with hspeed | ⟨-, rfl⟩
    · exact ⟨by have := hspeed.bounds; omega, hspeed.bounds.2⟩
    · decide
  rw [hport]
  refine
    { speed := ?_, mode := ?_, listener := ?_, listenerAddress := rfl, portID := rfl }
  · change (UInt32.ofInt uartSpeed).toNat ≤ 1000000
    rw [toNat_ofInt32 hbounds.1 (by omega)]
    omega
  · intro hzero
    have hnone : uartSpeed.toNat = 0 := by
      rw [← toNat_ofInt32 hbounds.1 (by omega)]
      exact congrArg UInt32.toNat hzero
    rcases hmode with ⟨hpos, -⟩ | ⟨-, rfl⟩
    · omega
    · rfl
  · cases hlocal with
    | port number hnumber => exact Or.inl rfl
    | file name _ _ hno => exact Or.inr ⟨rfl, hno⟩
    | nothing => exact Or.inl rfl

/-- **What is accepted is within the bounds.** -/
theorem Means.accepted {setup : Setup} (h : Means inetPton options setup) :
    Accepted inetPton setup := by
  obtain ⟨tp, htp, htcp⟩ := h.tcpPort
  obtain ⟨pc, hpc, hcount⟩ := h.portCount
  obtain ⟨pls, hpls, hsize⟩ := h.portPLSize
  obtain ⟨rbs, hrbs, hring⟩ := h.remoteRingBuffSize
  obtain ⟨ptr, hptr, hpoll⟩ := h.remotePollInterval
  obtain ⟨localAddr, hla, hports⟩ := h.portConfigs
  have htp := htp.bounds
  have hptr := hptr.bounds (by decide)
  exact
    { remoteAddr := fun hnil => h.remoteAddr.1 (h.remoteAddr.2.symm.trans hnil)
      tcpPort := by
        intro hzero
        have hnat := toNat_ofInt16 (v := tp) (by omega) htp.2
        rw [← htcp, hzero] at hnat
        change 0 = tp.toNat at hnat
        omega
      portCount := by
        have := hpc.bounds
        omega
      portPLSize := by
        have := hpls.bounds
        omega
      remoteRingBuffSize := by
        have := hrbs.bounds
        omega
      remotePollInterval := by
        rw [hpoll, toNat_ofInt32 (by omega) (by omega)]
        omega
      ptl := h.ptl.bounds (by decide)
      portConfigs := ⟨localAddr, hla.listenAddress, hports.imp fun _ _ h => h.accepted⟩
      tcpListeners := h.tcpListeners
      ptyListeners := h.ptyListeners
      listening := h.listening }

end Bounds

/-! ## Failures -/

/-- The program ends by itself, with a message. -/
def Ends : Failure → Prop
  | .invalidArgument _ => True
  | .exit _ => True
  | .terminate _ => False

section Failures

variable {options : OptionsParser} {param : Text} {errorMsg missing : String}
  {minValue maxValue default : Int}

theorem report_failsWith (error stopOnError : Bool) (errorMsg : String) :
    FailsWith Ends (OptionsParser.report error stopOnError errorMsg) := by
  unfold OptionsParser.report
  split
  · split
    · exact FailsWith.error trivial
    · exact FailsWith.ok false
  · exact FailsWith.ok true

theorem takeInteger_failsWith :
    FailsWith Ends (options.takeInteger param minValue maxValue errorMsg) := by
  unfold OptionsParser.takeInteger OptionsParser.checkIsInteger
  refine (report_failsWith _ _ _).bind ?_
  intro checked hcheck
  obtain ⟨value, hnumber⟩ := integerError_eq_false.mp (report_stop_eq_ok.mp hcheck).1
  rw [hnumber.getInteger]
  exact FailsWith.ok value

theorem mandatoryInteger_failsWith :
    FailsWith Ends (options.mandatoryInteger param missing minValue maxValue errorMsg) :=
  (report_failsWith _ _ _).bind fun _ _ => takeInteger_failsWith

theorem whenPresent_failsWith {α : Type} {present absent : Except Failure α}
    (hpresent : FailsWith Ends present) (habsent : FailsWith Ends absent) :
    FailsWith Ends
      (do if ← options.checkParamPresent param false errorMsg then present else absent) := by
  refine (report_failsWith _ _ _).bind ?_
  intro there _
  cases there with
  | true => exact hpresent
  | false => exact habsent

theorem optionalInteger_failsWith :
    FailsWith Ends (options.optionalInteger param minValue maxValue errorMsg default) :=
  whenPresent_failsWith takeInteger_failsWith (FailsWith.ok default)

theorem optionalBoolean_failsWith :
    FailsWith Ends (options.optionalBoolean param errorMsg) :=
  whenPresent_failsWith ((report_failsWith _ _ _).bind fun _ _ => FailsWith.ok _)
    (FailsWith.ok false)

theorem localAddr_failsWith {inetPton : InetPton} :
    FailsWith Ends (options.localAddr inetPton) :=
  whenPresent_failsWith ((report_failsWith _ _ _).bind fun _ _ => FailsWith.ok _) (FailsWith.ok _)

/-- `-lp` is read as a number only if it is one. -/
theorem localListener_failsWith {strIdx : Text} :
    FailsWith Ends (options.localListener strIdx) := by
  unfold OptionsParser.localListener
  refine whenPresent_failsWith ?_ (FailsWith.ok _)
  rw [checkIsInteger_go]
  cases hlookup : options.args.lookup ("lp".toList ++ strIdx) with
  | none => exact FailsWith.ok _
  | some text =>
    dsimp only
    cases hrange : OptionsParser.inRange text 1 65535 with
    | false => exact FailsWith.ok _
    | true =>
      obtain ⟨value, hstoi, hbounds⟩ := inRange_iff.mp hrange
      have hnumber : Number options ("lp".toList ++ strIdx) 1 65535 value :=
        ⟨text, hlookup, hstoi, hbounds⟩
      change FailsWith Ends (do return (← options.getInteger ("lp".toList ++ strIdx), []))
      rw [hnumber.getInteger]
      exact FailsWith.ok _

theorem uartMode_failsWith {strIdx : Text} {uartSpeed : Int} :
    FailsWith Ends (options.uartMode strIdx uartSpeed) := by
  unfold OptionsParser.uartMode
  refine (report_failsWith _ _ _).bind ?_
  intro there _
  split
  · exact takeInteger_failsWith
  · exact FailsWith.ok _

theorem portSetup_failsWith (localAddr : IPAddress) (i : Nat) :
    FailsWith Ends (options.portSetup localAddr i) :=
  localListener_failsWith.bind fun _ _ => optionalInteger_failsWith.bind fun _ _ =>
    uartMode_failsWith.bind fun _ _ => optionalBoolean_failsWith.bind fun _ _ => FailsWith.ok _

theorem setup_failsWith {inetPton : InetPton} : FailsWith Ends (options.setup inetPton) := by
  unfold OptionsParser.setup
  refine FailsWith.bind ?_ fun _ _ => (report_failsWith _ _ _).bind fun _ _ =>
    mandatoryInteger_failsWith.bind fun _ _ => mandatoryInteger_failsWith.bind fun pc _ =>
    mandatoryInteger_failsWith.bind fun _ _ => mandatoryInteger_failsWith.bind fun _ _ =>
    optionalBoolean_failsWith.bind fun _ _ => localAddr_failsWith.bind fun localAddr _ =>
    optionalInteger_failsWith.bind fun _ _ => optionalInteger_failsWith.bind fun _ _ =>
    (FailsWith.mapM (portSetup_failsWith localAddr) (List.range pc.toNat)).bind fun _ _ => ?_
  · unfold OptionsParser.checkEmpty
    split
    · exact FailsWith.error trivial
    · exact FailsWith.ok _
  · dsimp only
    split
    · exact FailsWith.error trivial
    · exact FailsWith.ok _

theorem readArgs_failsWith (args : AList fun _ : Text => Text) (cur : Option Text)
    (argv : List Text) : FailsWith Ends (OptionsParser.readArgs args cur argv) := by
  induction argv generalizing args cur with
  | nil => cases cur <;> exact FailsWith.ok _
  | cons arg argv ih =>
    cases cur with
    | some curArg => exact ih _ _
    | none =>
      rw [OptionsParser.readArgs]
      split
      · exact ih _ _
      · exact FailsWith.error trivial

end Failures

/-- **No exception is left uncaught**: with any arguments, the program sets itself up, or ends
with a message. -/
theorem caught (inetPton : InetPton) (argv : List Text) (what : StoiError) :
    setupOf inetPton argv ≠ .error (.terminate what) := by
  have h : FailsWith Ends (setupOf inetPton argv) :=
    ((readArgs_failsWith ∅ none argv).bind fun _ _ => FailsWith.ok _).bind
      fun _ _ => setup_failsWith
  exact fun hfail => h _ hfail

end UartBridge.CommandLine
