/-! # Command lines

Three commands: `compile`, `inspect` and `budget`.  Options stand anywhere after the command, with
their value in the same argument or in the next one; two dashes alone end the options. -/
set_option autoImplicit false
namespace VehicleShow.Console

inductive Invocation where
  | compile (events : String) (durationMs : UInt64) (output settings : Option String)
  | inspect (input : String)
  | budget (events : String)
  deriving DecidableEq, Repr

/-! ## Values -/

def decimalDigit? (c : Char) : Option Nat :=
  if '0' ≤ c ∧ c ≤ '9' then some (c.toNat - 48) else none

def decimal? (digits : List Char) : Option Nat :=
  digits.foldlM (fun n c => (decimalDigit? c).map fun d => 10 * n + d) 0

/-- A 64-bit number: digits, with leading zeros and one leading plus allowed. -/
def parseDuration (text : String) : Option UInt64 :=
  let digits := match text.toList with
    | '+' :: rest => rest
    | cs => cs
  if digits.isEmpty then none
  else match decimal? digits with
    | some n => if n < UInt64.size then some (UInt64.ofNat n) else none
    | none => none

def parsePath (text : String) : Option String := if text = "" then none else some text

/-! ## Options -/

inductive OptionKey where
  | duration
  | output
  | settings
  deriving DecidableEq, Repr

def OptionKey.ofLong? (name : String) : Option OptionKey :=
  if name = "duration-ms" then some .duration
  else if name = "output" then some .output
  else if name = "config" then some .settings
  else none

def OptionKey.ofShort? : Char → Option OptionKey
  | 'd' => some .duration
  | 'o' => some .output
  | 'c' => some .settings
  | _ => none

/-- An argument that stands where an option may: a value of its own, the end of the options, or an
option with the value that came in the same argument. -/
inductive Argument where
  | plain (text : String)
  | endOfOptions
  | option (key : OptionKey) (attached : Option String)
  | unknown
  deriving DecidableEq, Repr

def longArgument (body : List Char) : Argument :=
  let name := String.ofList (body.takeWhile fun c => c != '=')
  let attached := match body.dropWhile fun c => c != '=' with
    | _ :: value => some (String.ofList value)
    | [] => none
  match OptionKey.ofLong? name with
  | some key => .option key attached
  | none => .unknown

/-- The value of a short option follows its letter at once, with or without an equals sign. -/
def shortArgument (letter : Char) (rest : List Char) : Argument :=
  match OptionKey.ofShort? letter with
  | none => .unknown
  | some key =>
      match rest with
      | [] => .option key none
      | '=' :: value => .option key (some (String.ofList value))
      | value => .option key (some (String.ofList value))

def Argument.ofText (text : String) : Argument :=
  match text.toList with
  | ['-', '-'] => .endOfOptions
  | '-' :: '-' :: body => longArgument body
  | '-' :: letter :: rest => shortArgument letter rest
  | _ => .plain text

/-! ## Commands -/

structure Collected where
  values : List String := []
  duration : Option UInt64 := none
  output : Option String := none
  settings : Option String := none

namespace Collected

def addValue (found : Collected) (text : String) : Option Collected :=
  match found.values, parsePath text with
  | [], some path => some { found with values := [path] }
  | _, _ => none

/-- An option may be given once. -/
def addOption (found : Collected) (key : OptionKey) (text : String) : Option Collected :=
  match key, found.duration, found.output, found.settings with
  | .duration, none, _, _ =>
      (parseDuration text).map fun ms => { found with duration := some ms }
  | .output, _, none, _ => (parsePath text).map fun path => { found with output := some path }
  | .settings, _, _, none =>
      (parsePath text).map fun path => { found with settings := some path }
  | _, _, _, _ => none

/-- The value of an option in the next argument must not look like an option itself. -/
def isFreeValue (text : String) : Bool :=
  match Argument.ofText text with
  | .plain _ => true
  | _ => false

/-- Reads the arguments after a command; without `options` the command has none. -/
def read (options : Bool) : Collected → List String → Option Collected
  | found, [] => some found
  | found, text :: rest =>
      match Argument.ofText text with
      | .plain text => (found.addValue text).bind fun found => read options found rest
      | .endOfOptions => rest.foldlM addValue found
      | .option key (some value) =>
          if options then (found.addOption key value).bind fun found => read options found rest
          else none
      | .option key none =>
          match rest with
          | value :: rest =>
              if options && isFreeValue value then
                (found.addOption key value).bind fun found => read options found rest
              else none
          | [] => none
      | .unknown => none

end Collected

def Invocation.ofArguments : List String → Option Invocation
  | "compile" :: arguments => do
      let found ← Collected.read true {} arguments
      let durationMs ← found.duration
      match found.values with
      | [events] => some (.compile events durationMs found.output found.settings)
      | _ => none
  | "inspect" :: arguments => do
      let found ← Collected.read false {} arguments
      match found.values with
      | [input] => some (.inspect input)
      | _ => none
  | "budget" :: arguments => do
      let found ← Collected.read false {} arguments
      match found.values with
      | [events] => some (.budget events)
      | _ => none
  | _ => none

end VehicleShow.Console
