/-!
# The journal

Messages on what a program does. One that matters less than the threshold is not kept.
-/

namespace Courier

/-- How much a message matters. -/
inductive Level where
  | debug | info | warning | error
  deriving DecidableEq, Repr

namespace Level

/-- The place of a level among all of them. -/
def rank : Level → Nat
  | debug => 10
  | info => 20
  | warning => 30
  | error => 40

/-- The name of a level. -/
def name : Level → String
  | debug => "DEBUG"
  | info => "INFO"
  | warning => "WARNING"
  | error => "ERROR"

end Level

/-- A message and how much it matters. -/
structure Entry where
  level : Level
  text : String
  deriving DecidableEq, Repr

/-- How a line of the journal and the time in it are laid out. -/
structure LineFormat where
  line : String
  time : String
  deriving DecidableEq, Repr

/-- The layout of the lines that go to the terminal. -/
def LineFormat.usual : LineFormat :=
  ⟨"%(asctime)s %(levelname)s %(name)s: %(message)s", "[%X]"⟩

/-- Messages, oldest first, the level from which they are kept, and where they are shown; a place to
show them has a layout or leaves them as they are. -/
structure Journal where
  threshold : Level := .debug
  outlets : List (Option LineFormat) := []
  entries : List Entry := []

namespace Journal

/-- Adds a message. -/
def add (j : Journal) (level : Level) (text : String) : Journal :=
  if j.threshold.rank ≤ level.rank then { j with entries := j.entries ++ [⟨level, text⟩] } else j

/-- Sets how much is kept, and shows the messages on the terminal if they are shown nowhere. -/
def setUp (j : Journal) (debug : Bool) : Journal :=
  { j with
    threshold := if debug then .debug else .info
    outlets := if j.outlets.isEmpty then [some .usual] else j.outlets }

end Journal

end Courier
