import Mathlib.Data.List.Induction
import UartBridge.System.CommandLine

/-!
# The client's arguments

* `setup_by_last_values` — only the last value of each option counts, and not the order;
* `setup_iff` — what the program can set itself up with: exactly what is within the bounds. For
  each such setup a command line is written, and the program reads it back.
-/

namespace UartBridge.CommandLine

open Client Decimal Fallible

/-! ## Reading the arguments -/

/-- The arguments of some options: the name, behind its dash, and the value. -/
def line (bindings : List (Text × Text)) : List Text := bindings.flatMap fun b => [b.1, b.2]

/-- The value that counts: the last one that stands behind the name. -/
def lastValue (bindings : List (Text × Text)) (param : Text) : Option Text :=
  (bindings.filter fun b => b.1.tail = param).getLast?.map Prod.snd

/-- Each name is one. -/
def Named (bindings : List (Text × Text)) : Prop := ∀ b ∈ bindings, OptionsParser.isName b.1

/-- What the constructor's loop does to the options that it has when it has read some more. -/
def bindAll (args : AList fun _ : Text => Text) (bindings : List (Text × Text)) :
    AList fun _ : Text => Text :=
  bindings.foldl (fun args b => args.insert b.1.tail b.2) args

section Arguments

variable {args : AList fun _ : Text => Text} {bindings : List (Text × Text)} {param : Text}

theorem readArgs_line (hnamed : Named bindings) (rest : List Text) :
    OptionsParser.readArgs args none (line bindings ++ rest) =
      OptionsParser.readArgs (bindAll args bindings) none rest := by
  induction bindings generalizing args with
  | nil => rfl
  | cons b bindings ih =>
    have hb := hnamed b List.mem_cons_self
    change OptionsParser.readArgs args none (b.1 :: b.2 :: (line bindings ++ rest)) = _
    rw [OptionsParser.readArgs, if_pos hb, OptionsParser.readArgs]
    exact ih fun b' hb' => hnamed b' (List.mem_cons_of_mem _ hb')

/-- **The last value of an option counts.** -/
theorem lookup_bindAll :
    (bindAll args bindings).lookup param = (lastValue bindings param).or (args.lookup param) := by
  induction bindings using List.reverseRecOn with
  | nil => rfl
  | append_singleton bindings b ih =>
    rw [bindAll, List.foldl_append, List.foldl_cons, List.foldl_nil]
    change ((bindAll args bindings).insert b.1.tail b.2).lookup param = _
    by_cases hname : b.1.tail = param
    · subst hname
      rw [AList.lookup_insert, lastValue, List.filter_append,
        List.filter_singleton, decide_eq_true rfl]
      simp
    · rw [AList.lookup_insert_ne (Ne.symm hname), ih, lastValue, lastValue, List.filter_append,
        List.filter_singleton, decide_eq_false hname]
      simp

end Arguments

/-! ## Only the last values count -/

section LastValues

variable {o₁ o₂ : OptionsParser} {param : Text} {errorMsg missing : String}
  {minValue maxValue default : Int}

/-- Two parsers that have the same values. -/
def SameValues (o₁ o₂ : OptionsParser) : Prop :=
  ∀ param, o₁.args.lookup param = o₂.args.lookup param

theorem SameValues.getString (h : SameValues o₁ o₂) : o₁.getString param = o₂.getString param := by
  rw [OptionsParser.getString, OptionsParser.getString, h]

theorem SameValues.checkParamPresent (h : SameValues o₁ o₂) (stop : Bool) :
    o₁.checkParamPresent param stop errorMsg = o₂.checkParamPresent param stop errorMsg := by
  rw [OptionsParser.checkParamPresent, OptionsParser.checkParamPresent, h.getString]

theorem SameValues.checkIsInteger (h : SameValues o₁ o₂) (stop : Bool) :
    o₁.checkIsInteger param minValue maxValue stop errorMsg =
      o₂.checkIsInteger param minValue maxValue stop errorMsg := by
  rw [OptionsParser.checkIsInteger, OptionsParser.checkIsInteger, h]

theorem SameValues.getInteger (h : SameValues o₁ o₂) :
    o₁.getInteger param = o₂.getInteger param := by
  rw [OptionsParser.getInteger, OptionsParser.getInteger, h]

theorem SameValues.takeInteger (h : SameValues o₁ o₂) :
    o₁.takeInteger param minValue maxValue errorMsg =
      o₂.takeInteger param minValue maxValue errorMsg := by
  rw [OptionsParser.takeInteger, OptionsParser.takeInteger, h.checkIsInteger, h.getInteger]

theorem SameValues.mandatoryInteger (h : SameValues o₁ o₂) :
    o₁.mandatoryInteger param missing minValue maxValue errorMsg =
      o₂.mandatoryInteger param missing minValue maxValue errorMsg := by
  rw [OptionsParser.mandatoryInteger, OptionsParser.mandatoryInteger, h.checkParamPresent,
    h.takeInteger]

theorem SameValues.optionalInteger (h : SameValues o₁ o₂) :
    o₁.optionalInteger param minValue maxValue errorMsg default =
      o₂.optionalInteger param minValue maxValue errorMsg default := by
  rw [OptionsParser.optionalInteger, OptionsParser.optionalInteger, h.checkParamPresent,
    h.takeInteger]

theorem SameValues.optionalBoolean (h : SameValues o₁ o₂) :
    o₁.optionalBoolean param errorMsg = o₂.optionalBoolean param errorMsg := by
  rw [OptionsParser.optionalBoolean, OptionsParser.optionalBoolean, h.checkParamPresent,
    OptionsParser.checkIsBoolean, OptionsParser.checkIsBoolean, OptionsParser.getBoolean,
    OptionsParser.getBoolean, h]

theorem SameValues.localAddr (h : SameValues o₁ o₂) (inetPton : InetPton) :
    o₁.localAddr inetPton = o₂.localAddr inetPton := by
  rw [OptionsParser.localAddr, OptionsParser.localAddr, h.checkParamPresent, h.getString,
    OptionsParser.checkIsIPAddress, OptionsParser.checkIsIPAddress, h]

theorem SameValues.portSetup (h : SameValues o₁ o₂) : o₁.portSetup = o₂.portSetup := by
  funext localAddr i
  unfold OptionsParser.portSetup OptionsParser.localListener OptionsParser.uartMode
  simp only [h.checkParamPresent, h.checkIsInteger, h.getInteger, h.getString, h.takeInteger,
    h.optionalInteger, h.optionalBoolean]

/-- No option at all, or some with a value. -/
theorem entries_eq_nil {args : AList fun _ : Text => Text} :
    args.entries = [] ↔ ∀ param, args.lookup param = none := by
  constructor
  · intro hnil param
    rw [AList.lookup_eq_none, AList.mem_keys, AList.keys, hnil]
    exact List.not_mem_nil
  · intro hnone
    rw [List.eq_nil_iff_forall_not_mem]
    intro entry hentry
    exact AList.lookup_eq_none.mp (hnone entry.1) (List.mem_map_of_mem hentry)

theorem SameValues.isEmpty (h : SameValues o₁ o₂) :
    o₁.args.entries = [] ↔ o₂.args.entries = [] := by
  rw [entries_eq_nil, entries_eq_nil]
  exact forall_congr' fun param => by rw [h]

theorem SameValues.setup (h : SameValues o₁ o₂) (inetPton : InetPton) :
    o₁.setup inetPton = o₂.setup inetPton := by
  unfold OptionsParser.setup OptionsParser.checkEmpty
  simp only [h.isEmpty, h.checkParamPresent, h.mandatoryInteger, h.optionalInteger,
    h.optionalBoolean, h.localAddr, h.portSetup, h.getString]

end LastValues

/-- The ways in which arguments go on behind some options. -/
inductive Shape (bindings : List (Text × Text)) : List Text → Prop where
  | complete : Shape bindings (line bindings)
  | cut (name : Text) : OptionsParser.isName name → Shape bindings (line bindings ++ [name])
  | broken (arg : Text) (rest : List Text) : ¬ OptionsParser.isName arg →
      Shape bindings (line bindings ++ arg :: rest)

/-- Any arguments are options, as far as they go. -/
theorem exists_shape : ∀ argv : List Text, ∃ bindings, Named bindings ∧ Shape bindings argv
  | [] => ⟨[], fun _ h => absurd h List.not_mem_nil, Shape.complete⟩
  | [arg] => by
    refine ⟨[], fun _ h => absurd h List.not_mem_nil, ?_⟩
    by_cases hname : OptionsParser.isName arg
    · exact Shape.cut arg hname
    · exact Shape.broken arg [] hname
  | arg :: value :: argv => by
    by_cases hname : OptionsParser.isName arg
    · obtain ⟨bindings, hnamed, hshape⟩ := exists_shape argv
      refine ⟨(arg, value) :: bindings, ?_, ?_⟩
      · intro b hb
        rcases List.mem_cons.mp hb with rfl | hb
        · exact hname
        · exact hnamed b hb
      · cases hshape with
        | complete => exact Shape.complete
        | cut name hlast => exact Shape.cut name hlast
        | broken other rest hother => exact Shape.broken other rest hother
    · exact ⟨[], fun _ h => absurd h List.not_mem_nil, Shape.broken arg (value :: argv) hname⟩

theorem parse_complete {bindings : List (Text × Text)} (hnamed : Named bindings) :
    OptionsParser.parse (line bindings) = .ok { args := bindAll ∅ bindings } := by
  rw [OptionsParser.parse, ← List.append_nil (line bindings), readArgs_line hnamed]
  rfl

theorem parse_cut {bindings : List (Text × Text)} (hnamed : Named bindings) {name : Text}
    (hname : OptionsParser.isName name) :
    OptionsParser.parse (line bindings ++ [name]) = .ok { args := bindAll ∅ bindings } := by
  rw [OptionsParser.parse, readArgs_line hnamed, OptionsParser.readArgs, if_pos hname]
  rfl

theorem parse_broken {bindings : List (Text × Text)} (hnamed : Named bindings) {arg : Text}
    (rest : List Text) (harg : ¬ OptionsParser.isName arg) :
    OptionsParser.parse (line bindings ++ arg :: rest) = .error (.invalidArgument arg) := by
  rw [OptionsParser.parse, readArgs_line hnamed, OptionsParser.readArgs, if_neg harg]
  rfl

/-- Lines of options that bind the names to the same last values have the same outcome. -/
theorem setupOf_line {inetPton : InetPton} {bindings bindings' : List (Text × Text)}
    (hnamed : Named bindings) (hnamed' : Named bindings')
    (hsame : ∀ param, lastValue bindings' param = lastValue bindings param) :
    setupOf inetPton (line bindings') = setupOf inetPton (line bindings) := by
  have hvalues : SameValues { args := bindAll ∅ bindings' } { args := bindAll ∅ bindings } := by
    intro param
    rw [lookup_bindAll, lookup_bindAll, hsame]
  rw [setupOf, setupOf, parse_complete hnamed, parse_complete hnamed']
  exact hvalues.setup inetPton

/-- **Only the last value of each option counts.** Any arguments are options, as far as they go.
If something that is no name stands where one is due, the program ends with it; if not, a last
name without a value is left out, and any other order, or other values that are overwritten,
have the same outcome. -/
theorem setup_by_last_values (inetPton : InetPton) (argv : List Text) :
    ∃ bindings, Named bindings ∧
      ((∃ arg rest, argv = line bindings ++ arg :: rest ∧ ¬ OptionsParser.isName arg ∧
          setupOf inetPton argv = .error (.invalidArgument arg)) ∨
        (argv = line bindings ∨
            ∃ name, OptionsParser.isName name ∧ argv = line bindings ++ [name]) ∧
          ∀ bindings', Named bindings' →
            (∀ param, lastValue bindings' param = lastValue bindings param) →
            setupOf inetPton (line bindings') = setupOf inetPton argv) := by
  obtain ⟨bindings, hnamed, hshape⟩ := exists_shape argv
  refine ⟨bindings, hnamed, ?_⟩
  cases hshape with
  | complete =>
    exact Or.inr ⟨Or.inl rfl, fun bindings' hnamed' hsame => setupOf_line hnamed hnamed' hsame⟩
  | cut name hname =>
    refine Or.inr ⟨Or.inr ⟨name, hname, rfl⟩, ?_⟩
    intro bindings' hnamed' hsame
    rw [setupOf_line hnamed hnamed' hsame, setupOf, setupOf, parse_complete hnamed,
      parse_cut hnamed hname]
  | broken arg rest harg =>
    refine Or.inl ⟨arg, rest, rfl, harg, ?_⟩
    rw [setupOf, parse_broken hnamed rest harg]
    rfl

/-! ## Writing a command line -/

/-- The options of the program, and those of one port. -/
inductive GlobalName where
  | ra | tp | pc | pls | rbs | up | la | ptl | ptr
  deriving DecidableEq, Repr

inductive PortName where
  | lp | ps | pm | rst
  deriving DecidableEq, Repr

def GlobalName.text : GlobalName → Text
  | .ra => "ra".toList
  | .tp => "tp".toList
  | .pc => "pc".toList
  | .pls => "pls".toList
  | .rbs => "rbs".toList
  | .up => "up".toList
  | .la => "la".toList
  | .ptl => "ptl".toList
  | .ptr => "ptr".toList

def PortName.text : PortName → Text
  | .lp => "lp".toList
  | .ps => "ps".toList
  | .pm => "pm".toList
  | .rst => "rst".toList

def globalNames : List GlobalName := [.ra, .tp, .pc, .pls, .rbs, .up, .la, .ptl, .ptr]
def portNames : List PortName := [.lp, .ps, .pm, .rst]

def flagText (flag : Bool) : Text := if flag then "1".toList else "0".toList

/-- The value of a port's option; it is empty where the option is not needed. -/
def portText (port : PortSetup) : PortName → Text
  | .lp => if port.listenerPort = 0 then port.ptsListener else to_string port.listenerPort.toNat
  | .ps => if port.speed = 0 then [] else to_string port.speed.toNat
  | .pm => if port.speed = 0 then [] else to_string port.mode.toNat
  | .rst => flagText port.resetOnConnect

def globalText (setup : Setup) (la : Text) : GlobalName → Text
  | .ra => setup.remoteAddr
  | .tp => to_string setup.tcpPort.toNat
  | .pc => to_string setup.config.portCount
  | .pls => to_string setup.config.portPLSize
  | .rbs => to_string setup.config.remoteRingBuffSize
  | .up => flagText setup.config.enableUDP
  | .la => la
  | .ptl => to_string setup.ptl.toNat
  | .ptr => to_string setup.config.remotePollInterval.toNat

def portKey (name : PortName) (i : Nat) : Text := name.text ++ to_string (i + 1)

/-- The options that lead to a setup, without their dashes. -/
def options (setup : Setup) (la : Text) : List (Text × Text) :=
  globalNames.map (fun name => (name.text, globalText setup la name)) ++
    setup.portConfigs.flatMap fun port =>
      portNames.map fun name => (portKey name port.portID, portText port name)

/-- The options behind their dashes. -/
def dashed (bindings : List (Text × Text)) : List (Text × Text) :=
  bindings.map fun b => ('-' :: b.1, b.2)

/-! ### Names -/

theorem GlobalName.text_inj : ∀ {a b : GlobalName}, a.text = b.text → a = b := by
  intro a b h
  cases a <;> cases b <;> first | rfl | exact absurd h (by decide)

theorem GlobalName.not_isDigit (name : GlobalName) : ∀ c ∈ name.text, c.isDigit = false := by
  have hall : name.text.all (fun c => !c.isDigit) = true := by cases name <;> rfl
  intro c hc
  simpa using List.all_eq_true.mp hall c hc

theorem GlobalName.text_ne_nil (name : GlobalName) : name.text ≠ [] := by
  cases name <;> decide

theorem PortName.text_ne_nil (name : PortName) : name.text ≠ [] := by
  cases name <;> decide

theorem PortName.not_isDigit (name : PortName) : ∀ c ∈ name.text, c.isDigit = false := by
  have hall : name.text.all (fun c => !c.isDigit) = true := by cases name <;> rfl
  intro c hc
  simpa using List.all_eq_true.mp hall c hc

theorem PortName.text_inj : ∀ {a b : PortName}, a.text = b.text → a = b := by
  intro a b h
  cases a <;> cases b <;> first | rfl | exact absurd h (by decide)

/-- A name up to its first digit, and from there on. -/
theorem portKey_split (name : PortName) (i : Nat) :
    (portKey name i).takeWhile (fun c => !c.isDigit) = name.text ∧
      (portKey name i).dropWhile (fun c => !c.isDigit) = to_string (i + 1) := by
  have hname : ∀ c ∈ name.text, (!c.isDigit) = true := by
    intro c hc
    rw [name.not_isDigit c hc]
    rfl
  obtain ⟨c, rest, hdigits⟩ := List.exists_cons_of_ne_nil (to_string_ne_nil (n := i + 1))
  have hc : ¬ (fun c : Char => !c.isDigit) c = true := by
    have := isDigit_to_string (n := i + 1) (c := c) (hdigits ▸ List.mem_cons_self)
    simp [this]
  rw [portKey, List.takeWhile_append_of_pos hname, List.dropWhile_append_of_pos hname, hdigits,
    List.takeWhile_cons, if_neg hc, List.dropWhile_cons, if_neg hc, List.append_nil]
  exact ⟨rfl, rfl⟩

theorem portKey_inj {a b : PortName} {i j : Nat} : portKey a i = portKey b j ↔ a = b ∧ i = j := by
  constructor
  · intro h
    have ha := portKey_split a i
    have hb := portKey_split b j
    rw [h] at ha
    refine ⟨PortName.text_inj (ha.1.symm.trans hb.1), ?_⟩
    exact Nat.succ.inj (to_string_inj.mp (ha.2.symm.trans hb.2))
  · rintro ⟨rfl, rfl⟩
    rfl

/-- A port's name ends in a digit, and no other name does. -/
theorem portKey_ne_global (name : PortName) (i : Nat) (global : GlobalName) :
    portKey name i ≠ global.text := by
  intro h
  obtain ⟨c, hc⟩ := List.exists_mem_of_ne_nil _ (to_string_ne_nil (n := i + 1))
  have hmem : c ∈ global.text := by
    rw [← h]
    exact List.mem_append_right _ hc
  have := global.not_isDigit c hmem
  rw [isDigit_to_string hc] at this
  cases this

/-! ### Values -/

section Values

variable {inetPton : InetPton} {setup : Setup} {la : Text}

/-- A name that always stands with one value has this value. -/
theorem lastValue_dashed {bindings : List (Text × Text)} {param value : Text}
    (hmem : (param, value) ∈ bindings)
    (honly : ∀ other, (param, other) ∈ bindings → other = value) :
    lastValue (dashed bindings) param = some value := by
  have hvalues : ∀ b ∈ (dashed bindings).filter (fun b => b.1.tail = param), b.2 = value := by
    intro b hb
    obtain ⟨hb, hname⟩ := List.mem_filter.mp hb
    obtain ⟨b', hb', rfl⟩ := List.mem_map.mp hb
    have hname : b'.1 = param := of_decide_eq_true hname
    exact honly b'.2 (hname ▸ hb')
  have hin : ('-' :: param, value) ∈ (dashed bindings).filter (fun b => b.1.tail = param) :=
    List.mem_filter.mpr ⟨List.mem_map.mpr ⟨_, hmem, rfl⟩, decide_eq_true rfl⟩
  have hne := List.ne_nil_of_mem hin
  rw [lastValue, List.getLast?_eq_some_getLast hne, Option.map_some,
    hvalues _ (List.getLast_mem hne)]

/-- The ports are numbered as they stand. -/
theorem portConfigs_getElem? {localAddr : IPAddress} {n : Nat} {ports : List PortSetup}
    (h : List.Forall₂ (PortAccepted localAddr) (List.range n) ports) {port : PortSetup}
    (hport : port ∈ ports) : ports[port.portID]? = some port := by
  obtain ⟨i, hi, rfl⟩ := List.getElem_of_mem hport
  have hlength := h.length_eq
  have haccepted := h.get (i := i) (by omega) hi
  rw [List.get_eq_getElem, List.get_eq_getElem, List.getElem_range] at haccepted
  rw [haccepted.portID, List.getElem?_eq_getElem hi]

theorem mem_options_global (name : GlobalName) (setup : Setup) (la : Text) :
    (name.text, globalText setup la name) ∈ options setup la := by
  refine List.mem_append_left _ (List.mem_map.mpr ⟨name, ?_, rfl⟩)
  cases name <;> decide

theorem mem_options_port (name : PortName) {port : PortSetup} (hport : port ∈ setup.portConfigs) :
    (portKey name port.portID, portText port name) ∈ options setup la := by
  refine List.mem_append_right _ (List.mem_flatMap.mpr ⟨port, hport, List.mem_map.mpr
    ⟨name, ?_, rfl⟩⟩)
  cases name <;> decide

theorem options_global {name : GlobalName} {value : Text}
    (h : (name.text, value) ∈ options setup la) : value = globalText setup la name := by
  rcases List.mem_append.mp h with h | h
  · obtain ⟨name', -, heq⟩ := List.mem_map.mp h
    obtain ⟨hname, rfl⟩ := Prod.mk.inj heq
    rw [GlobalName.text_inj hname]
  · obtain ⟨port, -, h⟩ := List.mem_flatMap.mp h
    obtain ⟨name', -, heq⟩ := List.mem_map.mp h
    exact absurd (Prod.mk.inj heq).1 (portKey_ne_global name' port.portID name)

theorem options_port {name : PortName} {i : Nat} {value : Text}
    (h : (portKey name i, value) ∈ options setup la) :
    ∃ port ∈ setup.portConfigs, port.portID = i ∧ value = portText port name := by
  rcases List.mem_append.mp h with h | h
  · obtain ⟨name', -, heq⟩ := List.mem_map.mp h
    exact absurd (Prod.mk.inj heq).1.symm (portKey_ne_global name i name')
  · obtain ⟨port, hport, h⟩ := List.mem_flatMap.mp h
    obtain ⟨name', -, heq⟩ := List.mem_map.mp h
    obtain ⟨hkey, rfl⟩ := Prod.mk.inj heq
    obtain ⟨rfl, hid⟩ := portKey_inj.mp hkey
    exact ⟨port, hport, hid, rfl⟩

/-- The parser that reads the command line of a setup. -/
def reader (setup : Setup) (la : Text) : OptionsParser :=
  { args := bindAll ∅ (dashed (options setup la)) }

theorem lookup_global (name : GlobalName) :
    (reader setup la).args.lookup name.text = some (globalText setup la name) := by
  rw [reader, lookup_bindAll,
    lastValue_dashed (mem_options_global name setup la) fun _ h => options_global h,
    Option.some_or]

theorem lookup_port {localAddr : IPAddress} {n : Nat}
    (haccepted : List.Forall₂ (PortAccepted localAddr) (List.range n) setup.portConfigs)
    (name : PortName) {port : PortSetup} (hport : port ∈ setup.portConfigs) :
    (reader setup la).args.lookup (portKey name port.portID) = some (portText port name) := by
  rw [reader, lookup_bindAll, lastValue_dashed (mem_options_port name hport), Option.some_or]
  intro other hother
  obtain ⟨port', hport', hid, rfl⟩ := options_port hother
  have hsame := portConfigs_getElem? haccepted hport'
  rw [hid, portConfigs_getElem? haccepted hport, Option.some.injEq] at hsame
  rw [hsame]

theorem number_of_text {o : OptionsParser} {param : Text} {minValue maxValue : Int} {n : Nat}
    (hlookup : o.args.lookup param = some (to_string n)) (hlo : minValue ≤ n) (hhi : n ≤ maxValue)
    (hmax : maxValue ≤ intMax) : Number o param minValue maxValue n :=
  ⟨to_string n, hlookup, stoi_to_string (Int.le_trans hhi hmax), hlo, hhi⟩

theorem flag_of_text {o : OptionsParser} {param : Text} {flag : Bool}
    (hlookup : o.args.lookup param = some (flagText flag)) : Flag o param flag := by
  refine Or.inl ⟨flagText flag, hlookup, ?_⟩
  cases flag <;> decide

theorem absent_of_text {o : OptionsParser} {param : Text}
    (hlookup : o.args.lookup param = some []) : Absent o param := by
  rw [Absent, OptionsParser.getString, hlookup, Option.getD_some]

/-- The options of a port mean the port. -/
theorem portOptions_reader {localAddr : IPAddress} {n i : Nat} {port : PortSetup}
    (haccepted : List.Forall₂ (PortAccepted localAddr) (List.range n) setup.portConfigs)
    (hport : port ∈ setup.portConfigs) (hi : PortAccepted localAddr i port) :
    PortOptions (reader setup la) localAddr i port := by
  have hlookup (name : PortName) : (reader setup la).args.lookup (portKey name i) =
      some (portText port name) := by
    rw [← hi.portID]
    exact lookup_port haccepted name hport
  have hspeed : NumberOr (reader setup la) (portKey .ps i) 1 1000000 0 port.speed.toNat := by
    have htext := hlookup .ps
    by_cases hzero : port.speed = 0
    · rw [portText, if_pos hzero] at htext
      refine Or.inr ⟨absent_of_text htext, ?_⟩
      rw [hzero]
      rfl
    · rw [portText, if_neg hzero] at htext
      have hpos : port.speed.toNat ≠ 0 := fun h => hzero (UInt32.toNat_inj.mp h)
      exact Or.inl (number_of_text htext (by omega) (by have := hi.speed; omega) (by decide))
  have hmode : (0 < (port.speed.toNat : Int) ∧
        NumberOr (reader setup la) (portKey .pm i) 0 255 255 port.mode.toNat) ∨
      (port.speed.toNat : Int) ≤ 0 ∧ (port.mode.toNat : Int) = 255 := by
    have htext := hlookup .pm
    by_cases hzero : port.speed = 0
    · refine Or.inr ⟨?_, ?_⟩
      · rw [hzero]
        decide
      · rw [hi.mode hzero]
        rfl
    · rw [portText, if_neg hzero] at htext
      have hpos : port.speed.toNat ≠ 0 := fun h => hzero (UInt32.toNat_inj.mp h)
      have hlt := port.mode.toNat_lt
      exact Or.inl ⟨by omega,
        Or.inl (number_of_text htext (by omega) (by omega) (by decide))⟩
  have hlocal : Listens (reader setup la) (portKey .lp i)
      ((port.listenerPort.toNat : Int), port.ptsListener) := by
    have htext := hlookup .lp
    by_cases hzero : port.listenerPort = 0
    · rw [portText, if_pos hzero] at htext
      rw [hzero]
      by_cases hfile : port.ptsListener = []
      · rw [hfile] at htext ⊢
        exact Listens.nothing (absent_of_text htext)
      · exact Listens.file _ htext hfile (hi.listener.resolve_left hfile).2
    · rw [portText, if_neg hzero] at htext
      have hpos : port.listenerPort.toNat ≠ 0 := fun h => hzero (UInt16.toNat_inj.mp h)
      have hlt := port.listenerPort.toNat_lt
      have hfile : port.ptsListener = [] := by
        rcases hi.listener with hfile | ⟨h, -⟩
        · exact hfile
        · exact absurd h hzero
      rw [hfile]
      exact Listens.port _ (number_of_text htext (by omega) (by omega) (by decide))
  refine ⟨_, _, _, _, hlocal, hspeed, hmode, flag_of_text (hlookup .rst), ?_⟩
  rw [ofInt_toNat32, ofInt_toNat8, ofInt_toNat16, ← hi.listenerAddress, ← hi.portID]

/-- A relation between lists may use that its right sides are members. -/
theorem forall₂_mem {α β : Type} {R S : α → β → Prop} {as : List α} {bs : List β}
    (h : List.Forall₂ R as bs) (himp : ∀ a b, b ∈ bs → R a b → S a b) : List.Forall₂ S as bs := by
  induction h with
  | nil => exact List.Forall₂.nil
  | cons hab _ ih =>
    refine List.Forall₂.cons (himp _ _ List.mem_cons_self hab) (ih ?_)
    intro a b hb hR
    exact himp a b (List.mem_cons_of_mem _ hb) hR

/-- **The command line of a setup means the setup.** -/
theorem means_reader {localAddr : IPAddress} (h : Accepted inetPton setup)
    (hla : la ≠ [] ∧ (IPAddress.ofString inetPton la).isValid = true ∧
        localAddr = IPAddress.ofString inetPton la ∨
      la = [] ∧ localAddr = IPAddress.ofString inetPton "127.0.0.1".toList)
    (hports : List.Forall₂ (PortAccepted localAddr) (List.range setup.config.portCount)
      setup.portConfigs) :
    Means inetPton (reader setup la) setup := by
  have hlookup (name : GlobalName) : (reader setup la).args.lookup name.text =
      some (globalText setup la name) := lookup_global name
  have hra : (reader setup la).getString "ra".toList = setup.remoteAddr :=
    congrArg (fun text => text.getD []) (hlookup .ra)
  exact
    { notEmpty := by
        intro hnil
        have := entries_eq_nil.mp hnil GlobalName.ra.text
        rw [hlookup] at this
        cases this
      remoteAddr := ⟨fun habsent => h.remoteAddr (hra.symm.trans habsent), hra.symm⟩
      tcpPort := by
        have hpos : setup.tcpPort.toNat ≠ 0 := fun hz => h.tcpPort (UInt16.toNat_inj.mp hz)
        have hlt := setup.tcpPort.toNat_lt
        exact ⟨_, number_of_text (hlookup .tp) (by omega) (by omega) (by decide),
          (ofInt_toNat16 _).symm⟩
      portCount := ⟨_, number_of_text (hlookup .pc) (by have := h.portCount; omega)
        (by have := h.portCount; omega) (by decide), rfl⟩
      portPLSize := ⟨_, number_of_text (hlookup .pls) (by have := h.portPLSize; omega)
        (by have := h.portPLSize; omega) (by decide), rfl⟩
      remoteRingBuffSize := ⟨_, number_of_text (hlookup .rbs)
        (by have := h.remoteRingBuffSize; omega) (by have := h.remoteRingBuffSize; omega)
        (by decide), rfl⟩
      enableUDP := flag_of_text (hlookup .up)
      remotePollInterval := ⟨_, Or.inl (number_of_text (hlookup .ptr)
        (by have := h.remotePollInterval; omega) (by have := h.remotePollInterval; omega)
        (by decide)), (ofInt_toNat32 _).symm⟩
      ptl := by
        have hbounds := h.ptl
        have hnumber : Number (reader setup la) "ptl".toList 256 1000000 setup.ptl.toNat :=
          number_of_text (hlookup .ptl) (by omega) (by omega) (by decide)
        rw [Int.toNat_of_nonneg (by omega)] at hnumber
        exact Or.inl hnumber
      portConfigs := by
        refine ⟨localAddr, ?_, ?_⟩
        · rcases hla with ⟨hne, hvalid, rfl⟩ | ⟨rfl, rfl⟩
          · exact LocalAddr.given la (hlookup .la) hne hvalid
          · exact LocalAddr.loopback (absent_of_text (hlookup .la))
        · exact forall₂_mem hports fun i port hmem hi => portOptions_reader hports hmem hi
      tcpListeners := h.tcpListeners
      ptyListeners := h.ptyListeners
      listening := h.listening }

end Values

/-- No option is without a name. -/
theorem named_dashed (setup : Setup) (la : Text) : Named (dashed (options setup la)) := by
  intro b hb
  obtain ⟨b', hb', rfl⟩ := List.mem_map.mp hb
  have hne : b'.1 ≠ [] := by
    rcases List.mem_append.mp hb' with h | h
    · obtain ⟨name, -, rfl⟩ := List.mem_map.mp h
      exact name.text_ne_nil
    · obtain ⟨port, -, h⟩ := List.mem_flatMap.mp h
      obtain ⟨name, -, rfl⟩ := List.mem_map.mp h
      exact List.append_ne_nil_of_left_ne_nil name.text_ne_nil _
  refine ⟨?_, Or.inl rfl⟩
  have := List.length_pos_of_ne_nil hne
  change 1 < b'.1.length + 1
  omega

/-- **What the program can set itself up with** is exactly what is within the bounds: every
setup that a command line leads to is, and a command line leads to every one that is. -/
theorem setup_iff (inetPton : InetPton) (setup : Setup) :
    (∃ argv, setupOf inetPton argv = .ok setup) ↔ Accepted inetPton setup := by
  constructor
  · rintro ⟨argv, h⟩
    obtain ⟨options, -, hsetup⟩ := bind_eq_ok.mp h
    exact (setup_eq_ok.mp hsetup).accepted
  · intro h
    obtain ⟨localAddr, haddress, hports⟩ := h.portConfigs
    have hla : ∃ la : Text,
        la ≠ [] ∧ (IPAddress.ofString inetPton la).isValid = true ∧
            localAddr = IPAddress.ofString inetPton la ∨
          la = [] ∧ localAddr = IPAddress.ofString inetPton "127.0.0.1".toList := by
      rcases haddress with ⟨text, hne, hvalid, haddr⟩ | haddr
      · exact ⟨text, Or.inl ⟨hne, hvalid, haddr⟩⟩
      · exact ⟨[], Or.inr ⟨rfl, haddr⟩⟩
    obtain ⟨la, hla⟩ := hla
    refine ⟨line (dashed (options setup la)), ?_⟩
    have hnamed := named_dashed setup la
    rw [setupOf, parse_complete hnamed]
    exact setup_eq_ok.mpr (means_reader h hla hports)

end UartBridge.CommandLine
