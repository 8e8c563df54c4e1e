import Courier.Cli.Send

/-!
# The command line

The program has one command, besides telling its version and its usage.
-/

namespace Courier.Cli

/-- The options of the program itself. -/
inductive Key where
  | version | help
  deriving DecidableEq, Repr

/-- The options of the program itself, with their names and what is said of them. -/
def specs : List (OptionSpec Key) := [
  { key := .version, long := "--version", letter := some 'V', takesValue := false,
    help := "Show the version and exit." },
  { key := .help, long := "--help", takesValue := false, help := "Show this message and exit." }]

/-- The name of the command. -/
def sendName : String := "send"

/-- How the program is used. -/
def usage : String := "Usage: cli [OPTIONS] [COMMAND] [ARGS]...\n"

/-- The lines before an error. -/
def usageHint : String := usage ++ "Try 'cli --help' for help.\n\n"

/-- The help on the program. -/
def helpText : String :=
  usage ++ "\n  Send HTTP requests with form, raw, file or multipart bodies.\n\nOptions:\n" ++
    rows [("-V, --version", "Show the version and exit."), ("--help", "Show this message and exit.")] ++
    "\nCommands:\n" ++ rows [(sendName, Send.summary)]

/-- The line that tells the version. -/
def versionLine : String := "httpbody, version " ++ version

/-- Whether a word begins like an option. -/
def beginsLikeOption (word : String) : Bool :=
  word.toList.head? = some '-'

/-- Ends the program for a command that it does not know. -/
def unknownCommand (name : String) : Shell Unit :=
  throw (.misuse (some usageHint)
    ("No such command " ++ Text.quoted name ++ "." ++ Send.suggestion (similar name [sendName])))

/-- Does what the first option asks for, if there is one; otherwise goes on. -/
def afterOptions (a : Arguments Key) (goOn : Shell Unit) : Shell Unit :=
  match a.options with
  | (.version, _) :: _ => Shell.say versionLine
  | (.help, _) :: _ => modify fun c => { c with out := c.out ++ helpText }
  | [] => goOn

/-- Runs the program. A word that is no command but begins like an option is taken for one. -/
def program [Platform] (environment : Variables) (arguments : List String) : Shell Unit :=
  match takeApart specs false none arguments with
  | .error fault => Send.refuse usageHint fault
  | .ok a =>
    afterOptions a <|
      match a.others with
      | [] => modify fun c => { c with out := c.out ++ helpText }
      | name :: rest =>
        if name = sendName then Send.run environment rest
        else if beginsLikeOption name then
          match takeApart specs false none a.others with
          | .error fault => Send.refuse usageHint fault
          | .ok again => afterOptions again (unknownCommand name)
        else unknownCommand name

/-- Runs the program on a machine. -/
def run [Platform] (environment : Variables) (arguments : List String) (machine : Machine) : Result :=
  (program environment arguments).run machine

end Courier.Cli
