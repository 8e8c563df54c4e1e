import Courier.Failure
import Courier.Text.Split

/-!
# Trusted certificates

Which certificates a server is checked against: those of the files and directories that environment
variables name, else those that come with the program. Paths in them may speak of other variables and
of the home directory.
-/

namespace Courier.Trust

/-! ## Paths that speak of variables -/

/-- Whether a character can stand in the name of a variable. -/
def isNameChar (c : Char) : Bool :=
  c.isAlphanum || c = '_'

/-- A variable that a path speaks of: its name, how that is spelled after the dollar sign, and what
follows. -/
structure Mention where
  name : List Char
  spelled : List Char
  after : List Char

/-- The variable that is spoken of after a dollar sign: a word, or anything in braces. -/
def Mention.read (cs : List Char) : Option Mention :=
  match cs with
  | [] => none
  | c :: rest =>
    if c.toNat = 0x7B then
      match Text.cut (Char.ofNat 0x7D) rest with
      | (name, some after) => some ⟨name, c :: name ++ [Char.ofNat 0x7D], after⟩
      | (_, none) => none
    else
      match cs.takeWhile isNameChar with
      | [] => none
      | name => some ⟨name, name, cs.dropWhile isNameChar⟩

theorem length_cut_le (sep : Char) (cs : List Char) {before after : List Char}
    (h : Text.cut sep cs = (before, some after)) : after.length ≤ cs.length := by
  induction cs generalizing before with
  | nil => simp [Text.cut] at h
  | cons c rest ih =>
    simp only [Text.cut] at h
    split at h
    · simp only [Prod.mk.injEq, Option.some.injEq] at h
      simp [h.2]
    · obtain ⟨h1, h2⟩ := Prod.mk.inj h
      have := @ih (Text.cut sep rest).1 (by rw [← h2])
      simp only [List.length_cons]
      omega

theorem Mention.after_length_le {cs : List Char} {mention : Mention}
    (h : Mention.read cs = some mention) : mention.after.length ≤ cs.length := by
  unfold Mention.read at h
  split at h
  · simp at h
  · next c rest =>
    split at h
    · split at h
      · next name after hc =>
        obtain rfl := Option.some.inj h
        have := length_cut_le _ _ hc
        simp only [List.length_cons]
        omega
      · simp at h
    · split at h
      · simp at h
      · obtain rfl := Option.some.inj h
        exact (List.dropWhile_suffix _).length_le

/-- Puts the values of variables in the place of their names. Names of no variable stay, and values
are not looked at again. -/
def expandVariables (environment : Variables) : List Char → List Char
  | [] => []
  | c :: rest =>
    if c = '$' then
      match _h : Mention.read rest with
      | none => c :: expandVariables environment rest
      | some mention =>
        match environment.lookup (String.ofList mention.name) with
        | some value => value.toList ++ expandVariables environment mention.after
        | none => c :: mention.spelled ++ expandVariables environment mention.after
    else c :: expandVariables environment rest
termination_by cs => cs.length
decreasing_by
  · exact Nat.lt_succ_self _
  · exact Nat.lt_succ_of_le (Mention.after_length_le (by assumption))
  · exact Nat.lt_succ_of_le (Mention.after_length_le (by assumption))
  · exact Nat.lt_succ_self _

/-- The home directory. -/
def home (environment : Variables) : String :=
  (environment.lookup "HOME").getD "/root"

/-- Puts the home directory in the place of a tilde that stands for it. No user is looked for whose
name holds a NUL character. -/
def expandHome (environment : Variables) (cs : List Char) : Except Failure (List Char) :=
  let below (directory : String) (rest : List Char) : List Char :=
    let trimmed := (directory.toList.reverse.dropWhile (· = '/')).reverse
    match trimmed ++ rest with
    | [] => ['/']
    | whole => whole
  match cs with
  | '~' :: rest =>
    match rest.span (· ≠ '/') with
    | ([], rest) => .ok (below (home environment) rest)
    | (user, rest) =>
      if user.contains (Char.ofNat 0) then .error .nulInPath
      else .ok (if user = "root".toList then below "/root" rest else cs)
  | _ => .ok cs

/-- A path with variables and the home directory put in; an empty or missing one stays. -/
def expandPath (environment : Variables) : Option String → Except Failure (Option String)
  | none => .ok none
  | some path =>
    if path = "" then .ok (some path)
    else do
      let expanded ← expandHome environment (expandVariables environment path.toList)
      return some (String.ofList expanded)

/-! ## Certificates -/

/-- The file that certificates are read from. -/
inductive Bundle where
  /-- The one that comes with the program. -/
  | ours
  | file (path : String)
  deriving DecidableEq, Repr

/-- Where certificates are read from. -/
structure Certificates where
  bundle : Bundle
  directory : Option String
  deriving DecidableEq, Repr

/-- A path that is given and not empty. -/
def named? (path : Option String) : Option String :=
  path.filter (· ≠ "")

/-- Where certificates are read from, by the environment. -/
def Certificates.ofEnvironment (environment : Variables) : Except Failure Certificates := do
  let path (name : String) : Except Failure (Option String) :=
    expandPath environment (environment.lookup name)
  let file ← path "SSL_CERT_FILE"
  let bundle ← path "REQUESTS_CA_BUNDLE"
  let directory ← path "SSL_CERT_DIR"
  return {
    bundle :=
      match (named? file).or (named? bundle) with
      | some p => .file p
      | none => .ours
    directory }

end Courier.Trust
