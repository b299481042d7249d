import Mathlib.Data.List.AList
import UartBridge.Lib.Decimal

/-!
# OptionsParser: the command line

An option is a name behind `-` or `/` and, in the next argument, its value, whatever that is. A
check that fails ends the program if it is told to; `Get…` reads the value again. The texts for
checks that do not end the program are empty in `main`, so nothing of them is kept.
-/

namespace UartBridge.Client

open Decimal

/-- A C string. -/
abbrev Text : Type := List Char

/-- How the program ends before it has started its threads. -/
inductive Failure where
  /-- `exit(1)` for an argument that is no option where one is due. -/
  | invalidArgument (arg : Text)
  /-- `exit(1)`, or `return 1` from `main`, with a message. -/
  | exit (message : String)
  /-- An exception that nothing catches. -/
  | terminate (what : StoiError)
  deriving DecidableEq, Repr

structure OptionsParser where
  args : AList fun _ : Text => Text
  deriving DecidableEq

namespace OptionsParser

/-- A name of an option. -/
def isName (arg : Text) : Prop := 1 < arg.length ∧ (arg.head? = some '-' ∨ arg.head? = some '/')

instance (arg : Text) : Decidable (isName arg) := inferInstanceAs (Decidable (_ ∧ _))

/-- The loop of the constructor; `curArg` is the name whose value comes next. -/
def readArgs (args : AList fun _ : Text => Text) :
    Option Text → List Text → Except Failure (AList fun _ : Text => Text)
  | _, [] => .ok args
  | some curArg, arg :: argv => readArgs (args.insert curArg arg) none argv
  | none, arg :: argv =>
    if isName arg then readArgs args (some arg.tail) argv else .error (.invalidArgument arg)

/-- The constructor, on the arguments from `argv[1]` on. -/
def parse (argv : List Text) : Except Failure OptionsParser := do
  return { args := ← readArgs ∅ none argv }

/-- How a check ends: `false` for an error that does not end the program. -/
def report (error stopOnError : Bool) (errorMsg : String) : Except Failure Bool :=
  if error then if stopOnError then .error (.exit errorMsg) else .ok false else .ok true

variable (options : OptionsParser)

/-- `CheckEmpty`: `true` if there are no options. -/
def checkEmpty (stopOnEmpty : Bool) (errorMsg : String) : Except Failure Bool :=
  if options.args.entries = [] then
    if stopOnEmpty then .error (.exit errorMsg) else .ok true
  else .ok false

def getString (param : Text) : Text := (options.args.lookup param).getD []

def checkParamPresent (param : Text) (stopIfNotPresent : Bool) (errorMsg : String) :
    Except Failure Bool :=
  report (options.getString param = []) stopIfNotPresent errorMsg

/-- Whether `stoi` gives a value in the range. -/
def inRange (text : Text) (minValue maxValue : Int) : Bool :=
  match stoi text with
  | .ok value => minValue ≤ value && value ≤ maxValue
  | .error _ => false

def checkIsInteger (param : Text) (minValue maxValue : Int) (stopOnError : Bool)
    (errorMsg : String) : Except Failure Bool :=
  report
    (match options.args.lookup param with
      | some text => !inRange text minValue maxValue
      | none => true)
    stopOnError errorMsg

/-- What `CheckIsBoolean` takes for true, and for false. -/
def trueTexts : List Text := ["1".toList, "y".toList, "yes".toList, "t".toList, "true".toList]
def falseTexts : List Text := ["0".toList, "n".toList, "no".toList, "f".toList, "false".toList]

def checkIsBoolean (param : Text) (stopOnError : Bool) (errorMsg : String) :
    Except Failure Bool :=
  report
    (match options.args.lookup param with
      | some text => text ∉ trueTexts ∧ text ∉ falseTexts
      | none => true)
    stopOnError errorMsg

/-- `CheckIsIPAddress`, if `isValid` says which texts are addresses. -/
def checkIsIPAddress (isValid : Text → Bool) (param : Text) (stopOnError : Bool)
    (errorMsg : String) : Except Failure Bool :=
  report
    (match options.args.lookup param with
      | some text => !isValid text
      | none => true)
    stopOnError errorMsg

def getInteger (param : Text) : Except Failure Int :=
  match options.args.lookup param with
  | some text =>
    match stoi text with
    | .ok value => .ok value
    | .error what => .error (.terminate what)
  | none => .ok 0

def getBoolean (param : Text) : Bool :=
  match options.args.lookup param with
  | some text => text ∈ trueTexts
  | none => false

end OptionsParser

end UartBridge.Client
