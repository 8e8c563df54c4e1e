import Courier.Machine

/-!
# The console

What a command prints, and how it ends. Colours and the like are taken out of what is printed.
-/

namespace Courier.Cli

/-- How a command ends before its time. -/
inductive Stop where
  /-- It is done, with the given status. -/
  | done (status : Nat)
  /-- It was called wrongly; the lines on its usage stand first if there are any. -/
  | misuse (usage : Option String) (message : String)
  /-- It failed in a way that it does not explain. -/
  | failure (failure : Failure)

/-- The machine and what was printed on it. -/
structure Console where
  machine : Machine
  out : String := ""
  err : String := ""

/-- Something that a command does. -/
abbrev Shell := EStateM Stop Console

/-- Whether the number of a character lies between two others. -/
def liesBetween (low high : Nat) (c : Char) : Bool :=
  low ≤ c.toNat && c.toNat ≤ high

/-- What follows a control sequence whose escape and bracket were passed: parameters, marks and one
final character belong to it. None if it has no end. -/
def afterSequence? (cs : List Char) : Option (List Char) :=
  match (cs.dropWhile (liesBetween 0x30 0x3F)).dropWhile (liesBetween 0x20 0x2F) with
  | final :: rest => if liesBetween 0x40 0x7E final then some rest else none
  | [] => none

theorem length_lt_of_afterSequence? {cs rest : List Char} (h : afterSequence? cs = some rest) :
    rest.length < cs.length := by
  unfold afterSequence? at h
  split at h
  · next final tail heq =>
    split at h
    · have inner := (List.dropWhile_suffix (l := cs) (liesBetween 0x30 0x3F)).length_le
      have outer := (List.dropWhile_suffix (l := cs.dropWhile (liesBetween 0x30 0x3F))
        (liesBetween 0x20 0x2F)).length_le
      simp only [heq, List.length_cons] at outer
      simp only [Option.some.injEq] at h
      subst h
      omega
    · simp at h
  · simp at h

/-- Takes the control sequences out of a text, such as those that set colours. -/
def plainChars : List Char → List Char
  | [] => []
  | [c] => [c]
  | c :: d :: rest =>
    if c.toNat = 27 && d = '[' then
      match _h : afterSequence? rest with
      | some after => plainChars after
      | none => c :: plainChars (d :: rest)
    else c :: plainChars (d :: rest)
termination_by cs => cs.length
decreasing_by
  · have := length_lt_of_afterSequence? _h
    simp only [List.length_cons]
    omega
  · simp
  · simp

/-- A text without control sequences. -/
def plain (s : String) : String :=
  String.ofList (plainChars s.toList)

namespace Shell

/-- Prints a line. -/
def say (line : String) : Shell Unit :=
  modify fun c => { c with out := c.out ++ plain line ++ "\n" }

/-- Prints a line where errors are told. -/
def complain (line : String) : Shell Unit :=
  modify fun c => { c with err := c.err ++ plain line ++ "\n" }

/-- Does something on the machine; its failure ends the command. -/
def onMachine {α : Type} (act : Act α) : Shell α := fun c =>
  match act c.machine with
  | .ok a m => .ok a { c with machine := m }
  | .error failure m => .error (.failure failure) { c with machine := m }

end Shell

/-- What came of a command. -/
structure Result where
  status : Nat
  out : String
  err : String
  failure : Option Failure := none
  machine : Machine

/-- Runs a command to its end. -/
def Shell.run (command : Shell Unit) (machine : Machine) : Result :=
  match command { machine } with
  | .ok _ c => { status := 0, out := c.out, err := c.err, machine := c.machine }
  | .error (.done status) c => { status, out := c.out, err := c.err, machine := c.machine }
  | .error (.misuse usage message) c =>
    let lines := (usage.getD "") ++ "Error: " ++ message
    { status := 2, out := c.out, err := c.err ++ plain lines ++ "\n", machine := c.machine }
  | .error (.failure failure) c =>
    { status := 1, out := c.out, err := c.err, failure := some failure, machine := c.machine }

/-! ## Help -/

/-- Rows of two columns. -/
def rows (entries : List (String × String)) : String :=
  let width := entries.foldl (fun w e => max w e.1.length) 0
  String.join <| entries.map fun e =>
    "  " ++ e.1 ++ String.ofList (List.replicate (width - e.1.length) ' ') ++ "  " ++ e.2 ++ "\n"

end Courier.Cli
