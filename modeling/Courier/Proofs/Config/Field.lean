import Courier.Config
import Courier.Proofs.Charset.Name

/-!
# Settings one by one

Each setting has values of its own kind (`Field.Value`), which a client reads (`Config.value`), and a usual one.
What a caller or the environment gives for a setting is valid for it and stands for one of these values
(`Field.Accepts`), or it is refused for a reason (`Field.Refuses`). The readers of settings decide which
(`Field.read_ok_iff`, `Field.read_error_iff`). The usual values are valid as well, though nobody checks them
(`Field.usual_accepts`).
-/

namespace Courier

/-- What the values of a setting are. -/
@[reducible] def Field.Value : Field → Type
  | charset | userAgent => String
  | sniffBytes | maxRetries => Nat
  | timeout | retryBackoff => Float
  | followRedirects | debug => Bool

/-- The value that a setting has. -/
def Config.value (c : Config) : (field : Field) → field.Value
  | .charset => c.charset
  | .sniffBytes => c.sniffBytes
  | .timeout => c.timeout
  | .maxRetries => c.maxRetries
  | .retryBackoff => c.retryBackoff
  | .followRedirects => c.followRedirects
  | .userAgent => c.userAgent
  | .debug => c.debug

namespace Field

/-- The usual value of a setting, as a caller would give it. -/
def usual : Field → SettingValue
  | charset => .text "UTF-8"
  | sniffBytes => .int 32
  | timeout => .float 30.0
  | maxRetries => .int 3
  | retryBackoff => .float 1.0
  | followRedirects => .bool true
  | userAgent => .text ("httpbody/" ++ version)
  | debug => .bool false

/-! ## Valid values -/

variable [Platform]

/-- What is given is valid for a setting and stands for a value of it. -/
inductive Accepts : (field : Field) → SettingValue → field.Value → Prop
  /-- The name of a charset is known. -/
  | charset {name : String} {codec : Codec} (hname : Codec.lookup name = .ok codec) :
      Accepts charset (.text name) name
  /-- The number of bytes is above zero. -/
  | sniffBytes {v : SettingValue} {n : Nat} (hwhole : v.whole = .ok n) (hpos : 0 < n) :
      Accepts sniffBytes v n
  /-- The time is above zero. -/
  | timeout {v : SettingValue} {x : Float} (hnumber : v.number = .ok x) (hpos : 0.0 < x) :
      Accepts timeout v x
  /-- The number of attempts is not negative. -/
  | maxRetries {v : SettingValue} {n : Nat} (hwhole : v.whole = .ok n) : Accepts maxRetries v n
  /-- The wait is not negative. -/
  | retryBackoff {v : SettingValue} {x : Float} (hnumber : v.number = .ok x) (hleast : 0.0 ≤ x) :
      Accepts retryBackoff v x
  | followRedirects {v : SettingValue} {b : Bool} (hswitch : v.switch = .ok b) :
      Accepts followRedirects v b
  | userAgent (s : String) : Accepts userAgent (.text s) s
  | debug {v : SettingValue} {b : Bool} (hswitch : v.switch = .ok b) : Accepts debug v b

/-- What is given is refused for a setting. -/
inductive Refuses : Field → SettingValue → SettingFault → Prop
  | notText {field : Field} {v : SettingValue} (hfield : field = charset ∨ field = userAgent)
      (hother : ∀ s, v ≠ .text s) : Refuses field v .notText
  | notWhole {field : Field} {v : SettingValue} {fault : SettingFault}
      (hfield : field = sniffBytes ∨ field = maxRetries) (hwhole : v.whole = .error fault) :
      Refuses field v fault
  | notNumber {field : Field} {v : SettingValue} {fault : SettingFault}
      (hfield : field = timeout ∨ field = retryBackoff) (hnumber : v.number = .error fault) :
      Refuses field v fault
  | notSwitch {field : Field} {v : SettingValue} {fault : SettingFault}
      (hfield : field = followRedirects ∨ field = debug) (hswitch : v.switch = .error fault) :
      Refuses field v fault
  | unknownCharset {name : String} (hname : Codec.lookup name = .error (.unknown name)) :
      Refuses charset (.text name) (.unknownCharset name)
  | nulInCharset {name : String} (hname : Codec.lookup name = .error .nulInName) :
      Refuses charset (.text name) .nulInCharset
  | noBytes {v : SettingValue} {n : Int} (hwhole : v.whole = .ok n) (hleast : n ≤ 0) :
      Refuses sniffBytes v .notPositive
  /-- A time that is no number at all is not above zero either. -/
  | noTime {v : SettingValue} {x : Float} (hnumber : v.number = .ok x) (hleast : ¬ 0.0 < x) :
      Refuses timeout v .notPositive
  | negativeRetries {v : SettingValue} {n : Int} (hwhole : v.whole = .ok n) (hneg : n < 0) :
      Refuses maxRetries v .negative
  | negativeBackoff {v : SettingValue} {x : Float} (hnumber : v.number = .ok x) (hneg : ¬ 0.0 ≤ x) :
      Refuses retryBackoff v .negative

/-! ## Readers -/

/-- The reader of a setting. -/
def read : (field : Field) → SettingValue → Except SettingFault field.Value
  | charset => SettingValue.charsetName
  | sniffBytes => SettingValue.positiveWhole
  | timeout => SettingValue.positiveNumber
  | maxRetries => SettingValue.naturalWhole
  | retryBackoff => SettingValue.naturalNumber
  | followRedirects => SettingValue.switch
  | userAgent => SettingValue.string
  | debug => SettingValue.switch

variable {field : Field} {v : SettingValue}

/-- What is valid is read as what it stands for. By cases of `Accepts`, each of which has what the reader of
its setting tests. -/
theorem Accepts.read {x : field.Value} (h : field.Accepts v x) : field.read v = .ok x := by
  cases h with
  | charset hname =>
    simp only [Field.read, SettingValue.charsetName, SettingValue.string, hname]
  | sniffBytes hwhole hpos =>
    simp only [Field.read, SettingValue.positiveWhole, hwhole]
    rw [if_pos (by omega)]
    rfl
  | timeout hnumber hpos =>
    simp only [Field.read, SettingValue.positiveNumber, hnumber]
    exact if_pos hpos
  | maxRetries hwhole =>
    simp only [Field.read, SettingValue.naturalWhole, hwhole]
    rw [if_pos (by omega)]
    rfl
  | retryBackoff hnumber hleast =>
    simp only [Field.read, SettingValue.naturalNumber, hnumber]
    exact if_pos hleast
  | followRedirects hswitch => exact hswitch
  | userAgent s => rfl
  | debug hswitch => exact hswitch

omit [Platform] in
theorem string_of_not_text (h : ∀ s, v ≠ .text s) : v.string = .error .notText := by
  cases v with
  | text s => exact absurd rfl (h s)
  | _ => rfl

/-- What is refused is reported with the reason. By cases of `Refuses`. -/
theorem Refuses.read {fault : SettingFault} (h : field.Refuses v fault) :
    field.read v = .error fault := by
  -- the first four are each the fault of two fields, read by the same function
  cases h with
  | notText hfield hother =>
    obtain rfl | rfl := hfield
    · simp only [Field.read, SettingValue.charsetName, string_of_not_text hother]
    · exact string_of_not_text hother
  | notWhole hfield hwhole =>
    obtain rfl | rfl := hfield
    · simp only [Field.read, SettingValue.positiveWhole, hwhole]
    · simp only [Field.read, SettingValue.naturalWhole, hwhole]
  | notNumber hfield hnumber =>
    obtain rfl | rfl := hfield
    · simp only [Field.read, SettingValue.positiveNumber, hnumber]
    · simp only [Field.read, SettingValue.naturalNumber, hnumber]
  | notSwitch hfield hswitch => obtain rfl | rfl := hfield <;> exact hswitch
  | unknownCharset hname =>
    simp only [Field.read, SettingValue.charsetName, SettingValue.string, hname]
  | nulInCharset hname =>
    simp only [Field.read, SettingValue.charsetName, SettingValue.string, hname]
  | noBytes hwhole hleast =>
    simp only [Field.read, SettingValue.positiveWhole, hwhole]
    exact if_neg (by omega)
  | noTime hnumber hleast =>
    simp only [Field.read, SettingValue.positiveNumber, hnumber]
    exact if_neg hleast
  | negativeRetries hwhole hneg =>
    simp only [Field.read, SettingValue.naturalWhole, hwhole]
    exact if_neg (by omega)
  | negativeBackoff hnumber hneg =>
    simp only [Field.read, SettingValue.naturalNumber, hnumber]
    exact if_neg hneg

/-! ## Each value is valid or refused -/

/-- A text names a codec, is unknown, or holds a NUL character (`Codec.lookup_error`); nothing else is a
name. -/
theorem charset_valid_or_refused (v : SettingValue) :
    (∃ name : String, charset.Accepts v name) ∨ ∃ fault, charset.Refuses v fault := by
  cases v with
  | text name =>
    cases hname : Codec.lookup name with
    | ok codec => exact .inl ⟨name, .charset hname⟩
    | error fault =>
      obtain rfl | ⟨rfl, -⟩ := Codec.lookup_error hname
      · exact .inr ⟨_, .unknownCharset hname⟩
      · exact .inr ⟨_, .nulInCharset hname⟩
  | _ => exact .inr ⟨_, .notText (.inl rfl) nofun⟩

theorem userAgent_valid_or_refused (v : SettingValue) :
    (∃ s : String, userAgent.Accepts v s) ∨ ∃ fault, userAgent.Refuses v fault := by
  cases v with
  | text s => exact .inl ⟨s, .userAgent s⟩
  | _ => exact .inr ⟨_, .notText (.inr rfl) nofun⟩

/-- A whole number is positive or too small. -/
theorem sniffBytes_valid_or_refused (v : SettingValue) :
    (∃ n : Nat, sniffBytes.Accepts v n) ∨ ∃ fault, sniffBytes.Refuses v fault := by
  cases hwhole : v.whole with
  | error fault => exact .inr ⟨fault, .notWhole (.inl rfl) hwhole⟩
  | ok n =>
    by_cases hpos : 0 < n
    · obtain ⟨n, rfl⟩ := Int.eq_ofNat_of_zero_le (Int.le_of_lt hpos)
      exact .inl ⟨n, .sniffBytes hwhole (Int.natCast_pos.mp hpos)⟩
    · exact .inr ⟨_, .noBytes hwhole (Int.not_lt.mp hpos)⟩

theorem maxRetries_valid_or_refused (v : SettingValue) :
    (∃ n : Nat, maxRetries.Accepts v n) ∨ ∃ fault, maxRetries.Refuses v fault := by
  cases hwhole : v.whole with
  | error fault => exact .inr ⟨fault, .notWhole (.inr rfl) hwhole⟩
  | ok n =>
    by_cases hneg : n < 0
    · exact .inr ⟨_, .negativeRetries hwhole hneg⟩
    · obtain ⟨n, rfl⟩ := Int.eq_ofNat_of_zero_le (Int.not_lt.mp hneg)
      exact .inl ⟨n, .maxRetries hwhole⟩

/-- A number is above zero or not, and NaN is not. -/
theorem timeout_valid_or_refused (v : SettingValue) :
    (∃ x : Float, timeout.Accepts v x) ∨ ∃ fault, timeout.Refuses v fault := by
  cases hnumber : v.number with
  | error fault => exact .inr ⟨fault, .notNumber (.inl rfl) hnumber⟩
  | ok x =>
    by_cases hpos : 0.0 < x
    · exact .inl ⟨x, .timeout hnumber hpos⟩
    · exact .inr ⟨_, .noTime hnumber hpos⟩

theorem retryBackoff_valid_or_refused (v : SettingValue) :
    (∃ x : Float, retryBackoff.Accepts v x) ∨ ∃ fault, retryBackoff.Refuses v fault := by
  cases hnumber : v.number with
  | error fault => exact .inr ⟨fault, .notNumber (.inr rfl) hnumber⟩
  | ok x =>
    by_cases hleast : 0.0 ≤ x
    · exact .inl ⟨x, .retryBackoff hnumber hleast⟩
    · exact .inr ⟨_, .negativeBackoff hnumber hleast⟩

/-- **What is given for a setting is valid for it or refused.** -/
theorem valid_or_refused (field : Field) (v : SettingValue) :
    (∃ x, field.Accepts v x) ∨ ∃ fault, field.Refuses v fault := by
  cases field with
  | charset => exact charset_valid_or_refused v
  | sniffBytes => exact sniffBytes_valid_or_refused v
  | timeout => exact timeout_valid_or_refused v
  | maxRetries => exact maxRetries_valid_or_refused v
  | retryBackoff => exact retryBackoff_valid_or_refused v
  | userAgent => exact userAgent_valid_or_refused v
  | followRedirects =>
    cases hswitch : v.switch with
    | ok b => exact .inl ⟨b, .followRedirects hswitch⟩
    | error fault => exact .inr ⟨fault, .notSwitch (.inl rfl) hswitch⟩
  | debug =>
    cases hswitch : v.switch with
    | ok b => exact .inl ⟨b, .debug hswitch⟩
    | error fault => exact .inr ⟨fault, .notSwitch (.inr rfl) hswitch⟩

/-- **The reader of a setting takes exactly the valid values.** -/
theorem read_ok_iff {x : field.Value} : field.read v = .ok x ↔ field.Accepts v x := by
  constructor
  · intro h
    obtain ⟨y, haccepts⟩ | ⟨fault, hrefuses⟩ := field.valid_or_refused v
    · obtain rfl : y = x := Except.ok.inj (haccepts.read.symm.trans h)
      exact haccepts
    · cases hrefuses.read.symm.trans h
  · exact Accepts.read

/-- **It refuses exactly the others, for the reason they are refused for.** -/
theorem read_error_iff {fault : SettingFault} : field.read v = .error fault ↔ field.Refuses v fault := by
  constructor
  · intro h
    obtain ⟨x, haccepts⟩ | ⟨own, hrefuses⟩ := field.valid_or_refused v
    · cases haccepts.read.symm.trans h
    · obtain rfl : own = fault := Except.error.inj (hrefuses.read.symm.trans h)
      exact hrefuses
  · exact Refuses.read

/-- **The usual values are valid**, and they are those of settings that nobody gave values for. -/
theorem usual_accepts (field : Field) : field.Accepts field.usual (({} : Config).value field) := by
  cases field with
  | charset =>
    have hname : Codec.lookup "UTF-8" = .ok .utf8 := rfl
    exact .charset hname
  | sniffBytes => exact .sniffBytes (n := 32) rfl (by decide)
  | timeout => exact .timeout (x := 30.0) rfl (by decide)
  | maxRetries => exact .maxRetries rfl
  | retryBackoff => exact .retryBackoff (x := 1.0) rfl (by decide)
  | followRedirects => exact .followRedirects rfl
  | userAgent => exact .userAgent _
  | debug => exact .debug rfl

end Field

end Courier
