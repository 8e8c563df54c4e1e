import Courier.Cli.Similar
import Courier.Text.Split

/-!
# Taking command lines apart

A command line holds options and other arguments. An option has a long name, perhaps one letter, and
perhaps a value, which follows an equals sign, its letter, or stands next. Two hyphens end the options.
-/

namespace Courier.Cli

/-- An option that a command knows. -/
structure OptionSpec (α : Type) where
  key : α
  long : String
  letter : Option Char := none
  takesValue : Bool := true
  help : String

/-- Why a command line cannot be taken apart. -/
inductive ArgumentFault where
  | noSuchOption (name : String) (similar : List String)
  | needsValue (name : String)
  | takesNoValue (name : String)
  deriving DecidableEq, Repr

/-- A command line that was taken apart: the options in order, and all other arguments. -/
structure Arguments (α : Type) where
  options : List (α × Option String) := []
  others : List String := []

namespace Arguments

variable {α : Type}

/-- The same with options before all others. -/
def withOptions (found : List (α × Option String)) (a : Arguments α) : Arguments α :=
  { a with options := found ++ a.options }

/-- The same with an argument before all others. -/
def withOther (argument : String) (a : Arguments α) : Arguments α :=
  { a with others := argument :: a.others }

end Arguments

/-- The options in one argument, and the one whose value is yet to come, with the name it was given
by. -/
structure Found (α : Type) where
  options : List (α × Option String) := []
  waiting : Option (α × String) := none

variable {α : Type}

/-- The options that stand as letters behind one hyphen; a value takes all that is left. -/
def findLetters (specs : List (OptionSpec α)) : List Char → Except ArgumentFault (Found α)
  | [] => .ok {}
  | c :: rest =>
    let name := String.ofList ['-', c]
    match specs.find? (·.letter = some c) with
    | none => .error (.noSuchOption name [])
    | some spec =>
      if spec.takesValue then
        if rest.isEmpty then .ok { waiting := some (spec.key, name) }
        else .ok { options := [(spec.key, some (String.ofList rest))] }
      else
        match findLetters specs rest with
        | .error fault => .error fault
        | .ok found => .ok { found with options := (spec.key, none) :: found.options }

/-- The options in an argument that begins with a hyphen. A name that is known in full comes before
letters. -/
def findOptions (specs : List (OptionSpec α)) (argument : String) :
    Except ArgumentFault (Found α) :=
  let (nameChars, value) := Text.cut '=' argument.toList
  let name := String.ofList nameChars
  match specs.find? (·.long = name) with
  | some spec =>
    if spec.takesValue then
      match value with
      | some v => .ok { options := [(spec.key, some (String.ofList v))] }
      | none => .ok { waiting := some (spec.key, name) }
    else if value.isSome then .error (.takesNoValue name)
    else .ok { options := [(spec.key, none)] }
  | none =>
    match argument.toList with
    | '-' :: '-' :: _ => .error (.noSuchOption name (similar name (specs.map (·.long))))
    | _ :: letters => findLetters specs letters
    | [] => .ok {}

/-- Whether an argument can be an option. -/
def looksLikeOption (argument : String) : Bool :=
  match argument.toList with
  | '-' :: _ :: _ => true
  | _ => false

/-- Takes a command line apart. `mixed` tells whether options may stand after other arguments;
`waiting` is the option whose value comes next. -/
def takeApart (specs : List (OptionSpec α)) (mixed : Bool) (waiting : Option (α × String)) :
    List String → Except ArgumentFault (Arguments α)
  | [] =>
    match waiting with
    | some (_, name) => .error (.needsValue name)
    | none => .ok {}
  | argument :: rest =>
    match waiting with
    | some (key, _) =>
      (takeApart specs mixed none rest).map (·.withOptions [(key, some argument)])
    | none =>
      if argument = "--" then .ok { others := rest }
      else if looksLikeOption argument then
        match findOptions specs argument with
        | .error fault => .error fault
        | .ok found =>
          (takeApart specs mixed found.waiting rest).map (·.withOptions found.options)
      else if mixed then (takeApart specs mixed none rest).map (·.withOther argument)
      else .ok { others := argument :: rest }

end Courier.Cli
