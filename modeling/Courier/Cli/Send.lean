import Courier.Cli.Arguments
import Courier.Cli.Console
import Courier.Client

/-!
# The send command

Sends one request that is described by the command line and prints the response. Everything on the
command line is looked at before anything is sent.
-/

namespace Courier.Cli.Send

/-! ## The command line -/

/-- The options of the command. -/
inductive Key where
  | param | file | fileMime | body | bodyMime | charset | header | verbose | help
  deriving DecidableEq, Repr

/-- The options with their names and what is said of them. -/
def specs : List (OptionSpec Key) := [
  { key := .param, long := "--param", letter := some 'p', help := "Form parameter as name=value" },
  { key := .file, long := "--file", letter := some 'f', help := "File to attach as field=path" },
  { key := .fileMime, long := "--file-mime", help := "Mime type forced on every attached file" },
  { key := .body, long := "--body", letter := some 'b', help := "Raw request body" },
  { key := .bodyMime, long := "--body-mime",
    help := "Mime type of the raw body (default text/plain)" },
  { key := .charset, long := "--charset", help := "Charset for form, body and text parts" },
  { key := .header, long := "--header", letter := some 'H',
    help := "Request header as \"Name: value\"" },
  { key := .verbose, long := "--verbose", letter := some 'v', takesValue := false,
    help := "Enable verbose logging" },
  { key := .help, long := "--help", takesValue := false, help := "Show this message and exit." }]

/-- The names of the methods, as they are listed. -/
def methodNames : List String :=
  Method.all.map fun m => String.ofList (m.name.toList.map Char.toLower)

/-- The place of the method on the command line. -/
def methodMark : String :=
  "\x7b" ++ String.intercalate "|" methodNames ++ "\x7d"

/-- How the command is used. -/
def usage : String :=
  "Usage: cli send [OPTIONS] " ++ methodMark ++ " URL\n"

/-- The lines before an error. -/
def usageHint : String :=
  usage ++ "Try 'cli send --help' for help.\n\n"

/-- What the command does, in one line. -/
def summary : String := "Send a METHOD request to URL and print the response."

/-- How an option is listed. -/
def listing (spec : OptionSpec Key) : String × String :=
  let letter :=
    match spec.letter with
    | some c => String.ofList ['-', c, ',', ' ']
    | none => ""
  (letter ++ spec.long ++ (if spec.takesValue then " TEXT" else ""), spec.help)

/-- The help on the command. -/
def helpText : String :=
  usage ++ "\n  " ++ summary ++ "\n\nOptions:\n" ++ rows (specs.map listing)

/-- Ends the command as called wrongly. -/
def misuse {α : Type} (message : String) : Shell α :=
  throw (.misuse (some usageHint) message)

/-- What is said of names that are close to a mistyped one. -/
def suggestion : List String → String
  | [] => ""
  | [name] => " Did you mean " ++ Text.quoted name ++ "?"
  | names => " (Did you mean one of: " ++ String.intercalate ", " (names.map Text.quoted) ++ "?)"

/-- Ends a command whose command line cannot be taken apart. -/
def refuse {α : Type} (usageHint : String) (fault : ArgumentFault) : Shell α :=
  match fault with
  | .noSuchOption name similar =>
    throw (.misuse (some usageHint)
      ("No such option " ++ Text.quoted name ++ "." ++ suggestion similar))
  | .needsValue name =>
    throw (.misuse none ("Option " ++ Text.quoted name ++ " requires an argument."))
  | .takesNoValue name =>
    throw (.misuse none ("Option " ++ Text.quoted name ++ " does not take a value."))

/-- What the command line asks for. -/
structure Order where
  method : Method
  url : String
  params : List String := []
  files : List String := []
  headers : List String := []
  fileMime : Option String := none
  body : Option String := none
  bodyMime : Option String := none
  charset : Option String := none
  verbose : Bool := false

/-- The method that an argument names, whatever its case. -/
def methodOf (argument : String) : Shell Method :=
  match Method.all.find? fun m => Text.foldAscii m.name = Text.foldAscii argument with
  | some method => return method
  | none =>
    misuse ("Invalid value for '" ++ methodMark ++ "': " ++ Text.quoted argument ++
      " is not one of " ++ String.intercalate ", " (methodNames.map Text.quoted) ++ ".")

/-- The values of an option in order. -/
def valuesOf (a : Arguments Key) (key : Key) : List String :=
  a.options.filterMap fun o => if o.1 = key then o.2 else none

/-- What a command line asks for. -/
def orderOf (a : Arguments Key) : Shell Order := do
  match a.others with
  | [] =>
    misuse ("Missing argument '" ++ methodMark ++ "'. Choose from:\n\t" ++
      String.intercalate ",\n\t" methodNames)
  | [method] =>
    let _ ← methodOf method
    misuse "Missing argument 'URL'."
  | method :: url :: extra =>
    let method ← methodOf method
    match extra with
    | [] =>
      let last (key : Key) : Option String := (valuesOf a key).getLast?
      return {
        method, url
        params := valuesOf a .param
        files := valuesOf a .file
        headers := valuesOf a .header
        fileMime := last .fileMime
        body := last .body
        bodyMime := last .bodyMime
        charset := last .charset
        verbose := a.options.any fun o => o.1 = .verbose }
    | [one] => misuse ("Got unexpected extra argument (" ++ one ++ ")")
    | several =>
      misuse ("Got unexpected extra arguments (" ++ String.intercalate " " several ++ ")")

/-! ## The request -/

/-- Ends the command for a value of an option. -/
def invalid {α : Type} (option message : String) : Shell α :=
  misuse ("Invalid value for " ++ option ++ ": " ++ message)

/-- A name and what follows the separator after it, exactly as it stands. -/
def pairOf (value : String) (separator : Char) (option : String) : Shell (String × String) :=
  match Text.cut separator value.toList with
  | (name, some rest) =>
    let name := Text.strip (String.ofList name)
    if name = "" then refused else return (name, String.ofList rest)
  | (_, none) => refused
where
  refused : Shell (String × String) :=
    invalid option
      ("expected NAME" ++ String.singleton separator ++ "VALUE, got " ++ Text.quoted value)

/-- Adds headers. -/
def addHeaders (r : Request) : List String → Shell Request
  | [] => return r
  | header :: rest => do
    let (name, value) ← pairOf header ':' "--header"
    addHeaders (r.addHeader (some name) (some (Text.strip value))).2 rest

/-- Sets the charset, if one is given. -/
def setCharset [Platform] (r : Request) : Option String → Shell Request
  | none | some "" => return r
  | some name => do
    let (done, r) ← Shell.onMachine (r.setCharset (some name))
    if done then return r
    else invalid "--charset" ("unknown charset " ++ Text.quoted name)

/-- Adds parameters. -/
def addParameters (r : Request) : List String → Shell Request
  | [] => return r
  | param :: rest => do
    let (name, value) ← pairOf param '=' "--param"
    let (_, r) ← Shell.onMachine (r.addParameter (some name) (some value))
    addParameters r rest

/-- Attaches files. -/
def addFiles (r : Request) (mimeType : Option String) : List String → Shell Request
  | [] => return r
  | file :: rest => do
    let (field, path) ← pairOf file '=' "--file"
    let (done, r) ← Shell.onMachine (r.addFile (some field) none (.path path) mimeType)
    if done then addFiles r mimeType rest
    else invalid "--file" ("no such file: " ++ path)

/-- The request that the command line describes. -/
def requestOf [Platform] (client : Client) (order : Order) : Shell Request := do
  let r ← addHeaders (client.createRequest order.method order.url) order.headers
  if r.body.isNone && (!order.params.isEmpty || !order.files.isEmpty || order.body.isSome) then
    misuse (r.method.name ++ " requests cannot carry parameters, files or a body")
  let r ← setCharset r order.charset
  let r ←
    match order.body with
    | none => pure r
    | some body => Shell.onMachine (r.setBody (some body) order.bodyMime)
  let r ← addParameters r order.params
  addFiles r order.fileMime order.files

/-- Reports a failure and ends the command; one that is not that of the request is not explained. -/
def giveUp {α : Type} (failure : Failure) : Shell α := do
  match failure with
  | .requestFailed .. =>
    Shell.onMachine (Machine.log .debug "request failed")
    Shell.complain ("❌ " ++ failure.message)
    throw (.done 1)
  | _ => throw (.failure failure)

/-- Sends a request. -/
def execute [Platform] (client : Client) (request : Request) : Shell Response := fun c =>
  match Session.execute .direct ⟨client, request, c.machine⟩ with
  | .ok response s => .ok response { c with machine := s.machine }
  | .error failure s => giveUp failure { c with machine := s.machine }

/-- Does what the command line asks for. -/
def carryOut [Platform] (environment : Variables) (order : Order) : Shell Unit := do
  let debug : SettingValue := if order.verbose then .bool true else .null
  let client ← Shell.onMachine (Client.startFrom environment [("debug", debug)])
  let request ← requestOf client order
  let response ← execute client request
  Shell.say (Text.numeral response.status ++ " " ++ response.reason)
  let (points, _) ← Shell.onMachine response.readText
  if !points.isEmpty then
    let text ← Shell.onMachine (Act.ofExcept (asString points))
    Shell.say text

/-- Runs the command. -/
def run [Platform] (environment : Variables) (arguments : List String) : Shell Unit := do
  match takeApart specs true none arguments with
  | .error fault => refuse usageHint fault
  | .ok a =>
    if a.options.any fun o => o.1 = .help then
      modify fun c => { c with out := c.out ++ helpText }
    else
      let order ← orderOf a
      carryOut environment order

end Courier.Cli.Send
