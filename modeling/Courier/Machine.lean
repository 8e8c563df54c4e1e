import Courier.Machine.FileSystem
import Courier.Machine.Journal
import Courier.Net.Exchange

/-!
# The machine

The surroundings in which requests are built and sent: files, sources that count how they are used,
boundaries, the journal, the wire and the clock. An action may fail; what it did before that stays
done.
-/

namespace Courier

/-- How often a source was asked whether it is there, measured, and opened. -/
structure Usage where
  asked : Nat := 0
  measured : Nat := 0
  opened : Nat := 0
  deriving DecidableEq, Repr

/-- The surroundings in which requests are built and sent. -/
structure Machine where
  files : FileSystem := .bare
  /-- The use of each source that counts it, by its number. -/
  usage : Nat → Usage := fun _ => {}
  /-- How many boundaries were drawn. -/
  drawn : Nat := 0
  journal : Journal := {}
  /-- What will come of the next exchanges. -/
  script : List Net.Outcome := []
  /-- What will come of all exchanges after those. -/
  beyond : Net.Outcome := .reply .blank
  /-- What was sent, oldest first. -/
  sent : List Net.Exchange := []
  /-- The waits between attempts in seconds, oldest first. -/
  waits : List Float := []

/-- Something done on the machine. -/
abbrev Act := EStateM Failure Machine

/-- Goes on with a value, or fails. -/
def Act.ofExcept {α : Type} : Except Failure α → Act α
  | .ok a => pure a
  | .error failure => throw failure

namespace Machine

/-- Writes a message into the journal. -/
def log (level : Level) (text : String) : Act Unit :=
  modify fun m => { m with journal := m.journal.add level text }

/-- The boundary with a number: its last 32 hexadecimal digits. -/
def boundary (n : Nat) : String :=
  Text.hexNumeral 32 (n % Nat.pow 16 32)

/-- Draws a boundary, which is not among the `16 ^ 32 - 1` that were drawn last. -/
def drawBoundary : Act String := do
  let n := (← get).drawn + 1
  modify fun m => { m with drawn := n }
  return boundary n

/-- Notes a use of a source and tells how often it was used, this use included. -/
def countUse (id : Nat) (count : Usage → Usage) : Act Usage := do
  let before := (← get).usage id
  modify fun m => { m with usage := fun k => if k = id then count before else m.usage k }
  return count before

/-- Waits. -/
def wait (seconds : Float) : Act Unit :=
  modify fun m => { m with waits := m.waits ++ [seconds] }

/-- What comes of the next exchange. -/
def nextOutcome : Act Net.Outcome := do
  match (← get).script with
  | [] => return (← get).beyond
  | outcome :: rest =>
    modify fun m => { m with script := rest }
    return outcome

/-- Notes what was sent. -/
def noteSent (exchange : Net.Exchange) : Act Unit :=
  modify fun m => { m with sent := m.sent ++ [exchange] }

end Machine

end Courier
