import CsrMap.Quantity

/-!
The command line: which system to build, how its bus is shaped, and what to do with the result.

Options are written in full as `--name value` or `--name=value`; a value that starts with a
hyphen needs the second form. No option or flag may be repeated, except that `--verbose` may
stand before and after the name of the command.
-/

namespace CsrMap.CommandLine

/-- Which system to build. -/
structure Source where
  ethernet : Bool := false
  description : Option String := none
  config : Option String := none
  dataWidth : Option UInt32 := none
  base : Option UInt64 := none
  deriving DecidableEq, Repr

inductive Command where
  /-- Write the exports to a directory, or check those in it. -/
  | generate (check : Bool) (source : Source) (directory : Option String) (accessors : Bool)
  /-- Print the map. -/
  | show (source : Source)
  deriving DecidableEq, Repr

structure Invocation where
  verbose : Bool
  command : Command
  deriving DecidableEq, Repr

/-! ## Options of any command -/

structure OptionForm where
  long : String
  short : Option Char := none
  takesValue : Bool := false
  deriving DecidableEq, Repr

/-- Options that were given, with the values of those that take one. -/
abbrev Given : Type := List (String × Option String)

def has (given : Given) (long : String) : Bool := given.any (·.1 == long)

def valueOf? (given : Given) (long : String) : Option String := (given.lookup long).join

def add? (given : Given) (long : String) (value : Option String) : Option Given :=
  if has given long then none else some ((long, value) :: given)

/-- The argument starts an option, so it cannot be the value of the one before. -/
def startsOption (argument : String) : Bool := argument.startsWith "-" && argument != "-"

def addFlags? (forms : List OptionForm) (given : Given) : List Char → Option Given
  | [] => some given
  | c :: cs => do
    let form ← forms.find? fun form => form.short == some c && !form.takesValue
    addFlags? forms (← add? given form.long none) cs

/-- The name and the value of a long option written as one argument. -/
def splitLong (argument : String) : String × Option String :=
  let text := (argument.toList).drop 2
  match text.span (· ≠ '=') with
  | (name, _ :: value) => (String.ofList name, some (String.ofList value))
  | (name, []) => (String.ofList name, none)

/-- The options of a command, which takes no other arguments. -/
def options? (forms : List OptionForm) (given : Given) : List String → Option Given
  | [] => some given
  | "--" :: rest => if rest.isEmpty then some given else none
  | argument :: rest =>
    if argument.startsWith "--" then
      let (name, value) := splitLong argument
      match forms.find? (·.long == name) with
      | none => none
      | some form =>
        if form.takesValue then
          match value, rest with
          | some value, rest => do options? forms (← add? given name (some value)) rest
          | none, value :: rest =>
            if startsOption value then none
            else do options? forms (← add? given name (some value)) rest
          | none, [] => none
        else if value.isSome then none
        else do options? forms (← add? given name none) rest
    else if startsOption argument then do
      options? forms (← addFlags? forms given (argument.toList.drop 1)) rest
    else none

/-! ## The commands -/

def verboseForm : OptionForm := { long := "verbose", short := some 'v' }

def sourceForms : List OptionForm :=
  [{ long := "with-ethernet" }, { long := "description", takesValue := true },
    { long := "config", takesValue := true }, { long := "csr-data-width", takesValue := true },
    { long := "csr-base", takesValue := true }]

def generateForms : List OptionForm :=
  [{ long := "check", short := some 'c' }, { long := "output-dir", takesValue := true },
    { long := "no-access-functions" }]

/-- A value that is given must make sense. -/
def checked? {α : Type} (given : Given) (long : String) (read : String → Option α) :
    Option (Option α) :=
  match valueOf? given long with
  | none => some none
  | some text => (read text).map some

def path? (text : String) : Option String := if text.isEmpty then none else some text

/-- The number of bits of a word. It may carry a sign, and minus zero is zero. -/
def width? (text : String) : Option UInt32 :=
  match text.toList with
  | '-' :: c :: cs => if (c :: cs).all (· = '0') then some 0 else none
  | cs => Numeral.readShortWord? 10 cs

def source? (given : Given) : Option Source := do
  let description ← checked? given "description" path?
  let config ← checked? given "config" path?
  let dataWidth ← checked? given "csr-data-width" width?
  let base ← checked? given "csr-base" fun text => Quantity.numeral? text.toList
  pure { ethernet := has given "with-ethernet", description, config, dataWidth, base }

def generate? (given : Given) : Option Command := do
  let source ← source? given
  let directory ← checked? given "output-dir" path?
  pure (.generate (has given "check") source directory (!has given "no-access-functions"))

def command? (name : String) (rest : List String) : Option Invocation :=
  match name with
  | "csr-autogen" => do
    let given ← options? (verboseForm :: sourceForms ++ generateForms) [] rest
    pure ⟨has given "verbose", ← generate? given⟩
  | "csr-map" => do
    let given ← options? (verboseForm :: sourceForms) [] rest
    pure ⟨has given "verbose", .show (← source? given)⟩
  | _ => none

/-- The arguments before the name of the command, the name, and the arguments after it. -/
def splitCommand? : List String → Option (List String × String × List String)
  | [] => none
  | "--" :: _ => none
  | argument :: rest =>
    if startsOption argument then
      (splitCommand? rest).map fun (before, name, after) => (argument :: before, name, after)
    else some ([], argument, rest)

/-- What the arguments ask for, if they make sense. -/
def parse? (arguments : List String) : Option Invocation := do
  let (before, name, after) ← splitCommand? arguments
  let given ← options? [verboseForm] [] before
  let invocation ← command? name after
  pure { invocation with verbose := invocation.verbose || has given "verbose" }

end CsrMap.CommandLine
