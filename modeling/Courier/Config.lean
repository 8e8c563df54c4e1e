import Courier.Config.Setting
import Courier.Decimal.Shortest
import Courier.Text.Quoted

/-!
# Settings

The settings that all requests of one client share. Each is taken from the caller, else from an
environment variable, else it has its usual value; each is read on its own.
-/

namespace Courier

/-- The environment variables that are set. -/
abbrev Variables := List (String × String)

/-- The settings by name. -/
inductive Field where
  | charset | sniffBytes | timeout | maxRetries | retryBackoff | followRedirects | userAgent | debug
  deriving DecidableEq, Repr

namespace Field

/-- All settings in the order in which faults are reported. -/
def all : List Field := [
  charset, sniffBytes, timeout, maxRetries, retryBackoff, followRedirects, userAgent, debug]

/-- The name under which a caller gives a setting. -/
def name : Field → String
  | charset => "charset"
  | sniffBytes => "sniff_bytes"
  | timeout => "timeout"
  | maxRetries => "max_retries"
  | retryBackoff => "retry_backoff"
  | followRedirects => "follow_redirects"
  | userAgent => "user_agent"
  | debug => "debug"

/-- The environment variable of a setting. -/
def environmentName : Field → String
  | charset => "HTTPBODY_CHARSET"
  | sniffBytes => "HTTPBODY_SNIFF_BYTES"
  | timeout => "HTTPBODY_TIMEOUT"
  | maxRetries => "HTTPBODY_MAX_RETRIES"
  | retryBackoff => "HTTPBODY_RETRY_BACKOFF"
  | followRedirects => "HTTPBODY_FOLLOW_REDIRECTS"
  | userAgent => "HTTPBODY_USER_AGENT"
  | debug => "HTTPBODY_DEBUG"

end Field

/-- A setting whose value is refused, and why. -/
structure FieldFault where
  field : Field
  fault : SettingFault
  deriving DecidableEq, Repr

/-- Why no settings are made. -/
inductive ConfigFault where
  /-- The values of some settings are refused. -/
  | refused (faults : List FieldFault)
  /-- A value is given under the name that stands for what is made. -/
  | reserved
  deriving DecidableEq, Repr

/-- The version of this program. -/
def version : String := "0.1.0"

/-- The settings of a client. -/
structure Config where
  charset : String := "UTF-8"
  /-- How many bytes of a file are looked at to tell its type. -/
  sniffBytes : Nat := 32
  /-- How long a reply is waited for, in seconds. -/
  timeout : Float := 30.0
  maxRetries : Nat := 3
  /-- How long the first wait between two attempts is, in seconds. -/
  retryBackoff : Float := 1.0
  followRedirects : Bool := true
  userAgent : String := "httpbody/" ++ version
  debug : Bool := false

namespace Config

/-- A value that was read, or all faults found so far. -/
abbrev Checked (α : Type) := Except (List FieldFault) α

/-- Applies a read function to a read value; the faults of both are kept in order. -/
def Checked.ap {α β : Type} : Checked (α → β) → Checked α → Checked β
  | .ok f, .ok a => .ok (f a)
  | .ok _, .error faults => .error faults
  | .error faults, .ok _ => .error faults
  | .error faults, .error more => .error (faults ++ more)

/-- Reads a setting; one that is not given has its usual value, which is not checked. -/
def take {α : Type} (given : Field → Option SettingValue) (field : Field)
    (read : SettingValue → Except SettingFault α) (usual : α) : Checked α :=
  match given field with
  | none => .ok usual
  | some v =>
    match read v with
    | .ok a => .ok a
    | .error fault => .error [⟨field, fault⟩]

/-- The settings that the given values make, or what is wrong with each of them. -/
def ofGiven [Platform] (given : Field → Option SettingValue) : Checked Config :=
  let usual : Config := {}
  Checked.ap (Checked.ap (Checked.ap (Checked.ap (Checked.ap (Checked.ap (Checked.ap (Checked.ap
    (.ok Config.mk)
    (take given .charset SettingValue.charsetName usual.charset))
    (take given .sniffBytes SettingValue.positiveWhole usual.sniffBytes))
    (take given .timeout SettingValue.positiveNumber usual.timeout))
    (take given .maxRetries SettingValue.naturalWhole usual.maxRetries))
    (take given .retryBackoff SettingValue.naturalNumber usual.retryBackoff))
    (take given .followRedirects SettingValue.switch usual.followRedirects))
    (take given .userAgent SettingValue.string usual.userAgent))
    (take given .debug SettingValue.switch usual.debug)

/-- The settings that a caller gives by name, missing values among them; names of no setting are
passed over. -/
def ofValues [Platform] (values : List (String × SettingValue)) : Checked Config :=
  ofGiven fun field => values.lookup field.name

/-- The value of a setting in the environment. An empty variable counts for nothing. -/
def inherited (environment : Variables) (field : Field) : Option SettingValue :=
  match environment.lookup field.environmentName with
  | none => none
  | some s => if s = "" then none else some (.text s)

/-- The value of a setting: the caller's, else the one in the environment. A missing value of the
caller counts for nothing. -/
def resolve (environment : Variables) (overrides : List (String × SettingValue)) (field : Field) :
    Option SettingValue :=
  match overrides.lookup field.name with
  | none | some .null => inherited environment field
  | some v => some v

/-- The name that stands for what is made, so that no value can be given under it. -/
def reservedName : String := "cls"

/-- What a caller can give: values by name, none of them under the reserved one. -/
structure Overrides where
  values : List (String × SettingValue)
  unreserved : ∀ entry ∈ values, entry.1 ≠ reservedName

/-- The settings made of environment variables and of what a caller gives. -/
def fromEnvironment [Platform] (environment : Variables) (overrides : Overrides) : Checked Config :=
  ofGiven (resolve environment overrides.values)

/-- The same for values under any names. There is no call with one under the reserved name. -/
def fromCall [Platform] (environment : Variables) (values : List (String × SettingValue)) :
    Except ConfigFault Config :=
  if h : ∀ entry ∈ values, entry.1 ≠ reservedName then
    (fromEnvironment environment ⟨values, h⟩).mapError .refused
  else .error .reserved

/-- How a switch is shown. -/
def switchText (b : Bool) : String := if b then "True" else "False"

/-- The settings as they are shown in the journal. -/
def shown (c : Config) : String :=
  "\x7b'charset': " ++ Text.quoted c.charset ++
    ", 'sniff_bytes': " ++ Text.numeral c.sniffBytes ++
    ", 'timeout': " ++ Decimal.text c.timeout ++
    ", 'max_retries': " ++ Text.numeral c.maxRetries ++
    ", 'retry_backoff': " ++ Decimal.text c.retryBackoff ++
    ", 'follow_redirects': " ++ switchText c.followRedirects ++
    ", 'user_agent': " ++ Text.quoted c.userAgent ++
    ", 'debug': " ++ switchText c.debug ++ "\x7d"

end Config

end Courier
