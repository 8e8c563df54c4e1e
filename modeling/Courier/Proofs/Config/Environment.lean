import Courier.Platform.Plain
import Courier.Proofs.Config.Field

/-!
# Settings from the environment

Each setting has one value that counts for it: what a caller gives, else what its variable holds, else the usual
one (`Config.Resolved`). The settings are made exactly if each of these values is valid for its own setting; else
all that are not are reported, in the order of declaration (`Config.Reported`). What counts for a setting is told
by the caller's value and the variable of that setting alone, so that nothing given for another one, for none of
them or as missing makes a difference. Main statement: `Config.fromEnvironment_resolves`, which is put together
from what `Config.ofGiven` does to the values that count (`Config.ofGiven_ok_iff`, `Config.faults_ofGiven`).
-/

namespace Courier

/-! ## The settings by name -/

namespace Field

/-- The table of settings has each of them; `decide` looks. -/
theorem mem_all (field : Field) : field ∈ all := by
  cases field <;> decide

/-- No two settings have one name. By cases on both. -/
theorem name_injective : Function.Injective name := by
  intro a b h
  cases a <;> cases b <;> first | rfl | exact absurd h (by decide)

/-- Nor do two settings have one variable. -/
theorem environmentName_injective : Function.Injective environmentName := by
  intro a b h
  cases a <;> cases b <;> first | rfl | exact absurd h (by decide)

end Field

namespace Config

/-! ## Reading all settings -/

section Reading

variable {α β : Type} {given : Field → Option SettingValue} {field : Field}

/-- The faults of what was read. -/
def Checked.faults : Checked α → List FieldFault
  | .ok _ => []
  | .error faults => faults

/-- `Checked.ap` succeeds exactly if both sides do, with what the one makes of the other. -/
theorem Checked.ap_ok_iff {f : Checked (α → β)} {x : Checked α} {b : β} :
    f.ap x = .ok b ↔ ∃ g a, f = .ok g ∧ x = .ok a ∧ g a = b := by
  cases f <;> cases x <;> simp [Checked.ap]

/-- `Checked.ap` keeps the faults of both sides, in order. -/
@[simp] theorem Checked.faults_ap (f : Checked (α → β)) (x : Checked α) :
    (f.ap x).faults = f.faults ++ x.faults := by
  cases f <;> cases x <;> simp [Checked.ap, Checked.faults]

/-- The value that counts for a setting, where some are given. -/
def settled (given : Field → Option SettingValue) (field : Field) : SettingValue :=
  (given field).getD field.usual

variable [Platform]

/-- What the value that counts for a setting is read as. -/
def readSettled (given : Field → Option SettingValue) (field : Field) : Checked field.Value :=
  match field.read (settled given field) with
  | .ok x => .ok x
  | .error fault => .error [⟨field, fault⟩]

/-- `take` falls back on the usual value, which `readSettled` reads as itself (`Field.usual_accepts`). -/
theorem take_eq (given : Field → Option SettingValue) (field : Field) :
    take given field field.read (({} : Config).value field) = readSettled given field := by
  unfold take readSettled settled
  cases given field with
  | none =>
    simp only [Option.getD_none, (Field.read_ok_iff).mpr field.usual_accepts]
  | some v =>
    simp only [Option.getD_some]
    cases field.read v <;> rfl

/-- **The settings are read one by one**, in the order of declaration. -/
theorem ofGiven_eq (given : Field → Option SettingValue) :
    ofGiven given =
      Checked.ap (Checked.ap (Checked.ap (Checked.ap (Checked.ap (Checked.ap (Checked.ap (Checked.ap
        (.ok Config.mk)
        (readSettled given .charset)) (readSettled given .sniffBytes)) (readSettled given .timeout))
        (readSettled given .maxRetries)) (readSettled given .retryBackoff))
        (readSettled given .followRedirects)) (readSettled given .userAgent))
        (readSettled given .debug) := by
  simp only [← take_eq]
  rfl

/-- **The settings are made exactly if each of them can be read.** -/
theorem ofGiven_ok_iff {c : Config} :
    ofGiven given = .ok c ↔ ∀ field, readSettled given field = .ok (c.value field) := by
  rw [ofGiven_eq]
  constructor
  · intro h
    simp only [Checked.ap_ok_iff] at h
    obtain ⟨_, _, ⟨_, _, ⟨_, _, ⟨_, _, ⟨_, _, ⟨_, _, ⟨_, _, ⟨_, _, hmk, h₁, rfl⟩, h₂, rfl⟩, h₃, rfl⟩, h₄, rfl⟩,
      h₅, rfl⟩, h₆, rfl⟩, h₇, rfl⟩, h₈, rfl⟩ := h
    cases hmk
    intro field
    cases field <;> assumption
  · intro h
    simp only [h]
    rfl

/-- **The faults are those of the single settings**, in the order of declaration. -/
theorem faults_ofGiven (given : Field → Option SettingValue) :
    (ofGiven given).faults = Field.all.flatMap fun field => (readSettled given field).faults := by
  rw [ofGiven_eq]
  simp only [Checked.faults_ap, Field.all, List.flatMap_cons, List.flatMap_nil, List.append_nil,
    List.append_assoc]
  rfl

/-- The one fault that reading a setting can have is the reason for which `Refuses` holds of the value that
counts (`Field.read_error_iff`). -/
theorem mem_faults_readSettled {f : FieldFault} :
    f ∈ (readSettled given field).faults ↔
      f.field = field ∧ f.field.Refuses (settled given f.field) f.fault := by
  obtain ⟨own, fault⟩ := f
  unfold readSettled
  cases hread : field.read (settled given field) with
  | ok x =>
    -- a setting that is read leaves no fault, and its value is not refused
    have haccepts := Field.read_ok_iff.mp hread
    constructor
    · intro h
      cases h
    · rintro ⟨rfl, hrefuses⟩
      cases hread.symm.trans hrefuses.read
  | error reason =>
    have hrefuses := Field.read_error_iff.mp hread
    constructor
    · intro h
      obtain ⟨rfl, rfl⟩ := FieldFault.mk.inj (List.mem_singleton.mp h)
      exact ⟨rfl, hrefuses⟩
    · rintro ⟨rfl, hown⟩
      obtain rfl := Except.error.inj (hread.symm.trans hown.read)
      exact List.mem_singleton_self _

/-- One setting has one fault at most, and it is its own. By cases on what `readSettled` gives. -/
theorem faults_readSettled_sublist (given : Field → Option SettingValue) (field : Field) :
    ((readSettled given field).faults.map FieldFault.field).Sublist [field] := by
  unfold readSettled
  cases field.read (settled given field) with
  | ok x => exact List.nil_sublist _
  | error fault => exact List.Sublist.refl _

end Reading

/-! ## The value that counts -/

/-- The value that counts for a setting. -/
inductive Resolved (environment : Variables) (overrides : Overrides) (field : Field) :
    SettingValue → Prop
  /-- A caller gives it. -/
  | given {v : SettingValue} (hgiven : overrides.values.lookup field.name = some v) (hsome : v ≠ .null) :
      Resolved environment overrides field v
  /-- No caller does, and its variable is set. -/
  | inherited {s : String} (hnone : ∀ v, overrides.values.lookup field.name = some v → v = .null)
      (hset : environment.lookup field.environmentName = some s) (hsome : s ≠ "") :
      Resolved environment overrides field (.text s)
  /-- Its variable is not set either, or empty. -/
  | usual (hnone : ∀ v, overrides.values.lookup field.name = some v → v = .null)
      (hunset : ∀ s, environment.lookup field.environmentName = some s → s = "") :
      Resolved environment overrides field field.usual

section Resolved

variable {environment environment' : Variables} {values values' : List (String × SettingValue)}
  {overrides overrides' : Overrides} {field : Field}

/-- `resolve` takes a caller's value that is not missing. -/
theorem resolve_given {v : SettingValue} (hgiven : values.lookup field.name = some v)
    (hsome : v ≠ .null) : resolve environment values field = some v := by
  unfold resolve
  rw [hgiven]
  cases v <;> first | rfl | exact absurd rfl hsome

/-- `resolve` without a caller's value is what the variable gives. -/
theorem resolve_inherited (hnone : ∀ v, values.lookup field.name = some v → v = .null) :
    resolve environment values field = inherited environment field := by
  unfold resolve
  cases hgiven : values.lookup field.name with
  | none => rfl
  | some v => rw [hnone v hgiven]

/-- **Exactly one value counts for a setting**: the one that `Config.resolve` finds, or the usual one. -/
theorem resolved_iff {v : SettingValue} :
    Resolved environment overrides field v ↔
      settled (resolve environment overrides.values) field = v := by
  unfold settled
  constructor
  · intro h
    cases h with
    | given hgiven hsome => rw [resolve_given hgiven hsome, Option.getD_some]
    | inherited hnone hset hsome =>
      rw [resolve_inherited hnone]
      unfold inherited
      simp only [hset, if_neg hsome, Option.getD_some]
    | usual hnone hunset =>
      rw [resolve_inherited hnone]
      unfold inherited
      cases hset : environment.lookup field.environmentName with
      | none => rfl
      | some s => simp only [hunset s hset, if_true, Option.getD_none]
  -- an override that is not null, else a variable that is not empty, else the default
  · rintro rfl
    by_cases hgiven : ∃ v, overrides.values.lookup field.name = some v ∧ v ≠ .null
    · obtain ⟨v, hgiven, hsome⟩ := hgiven
      rw [resolve_given hgiven hsome, Option.getD_some]
      exact .given hgiven hsome
    · have hnone : ∀ v, overrides.values.lookup field.name = some v → v = .null :=
        fun v hv => Classical.byContradiction fun hsome => hgiven ⟨v, hv, hsome⟩
      rw [resolve_inherited hnone]
      unfold inherited
      cases hset : environment.lookup field.environmentName with
      | none => exact .usual hnone (by simp [hset])
      | some s =>
        by_cases hempty : s = ""
        · simp only [if_pos hempty, Option.getD_none]
          exact .usual hnone fun t ht => by rw [← Option.some.inj (hset.symm.trans ht), hempty]
        · simp only [if_neg hempty, Option.getD_some]
          exact .inherited hnone hset hempty

/-- `resolve` looks at the value and the variable of its own setting alone. -/
theorem resolve_congr (hgiven : values'.lookup field.name = values.lookup field.name)
    (hset : environment'.lookup field.environmentName = environment.lookup field.environmentName) :
    resolve environment' values' field = resolve environment values field := by
  unfold resolve inherited
  rw [hgiven, hset]

/-- `resolve_congr` for the relation. -/
theorem resolved_congr (hgiven : overrides'.values.lookup field.name = overrides.values.lookup field.name)
    (hset : environment'.lookup field.environmentName = environment.lookup field.environmentName)
    {v : SettingValue} :
    Resolved environment' overrides' field v ↔ Resolved environment overrides field v := by
  rw [resolved_iff, resolved_iff]
  unfold settled
  rw [resolve_congr hgiven hset]

/-- A value under another name is passed over by `List.lookup`. -/
theorem resolve_other {name : String} {v : SettingValue} (hother : field.name ≠ name)
    (before after : List (String × SettingValue)) :
    resolve environment (before ++ after) field =
      resolve environment (before ++ (name, v) :: after) field := by
  have hskip : ((name, v) :: after).lookup field.name = after.lookup field.name := by
    rw [List.lookup_cons, beq_eq_false_iff_ne.mpr hother]
  unfold resolve
  rw [List.lookup_append, List.lookup_append, hskip]

/-- A missing value of a caller is as good as none, if no later one has its name. -/
theorem resolve_null {name : String} {before after : List (String × SettingValue)}
    (hlast : after.lookup name = none) (field : Field) :
    resolve environment (before ++ after) field =
      resolve environment (before ++ (name, .null) :: after) field := by
  by_cases hname : field.name = name
  · subst hname
    unfold resolve
    rw [List.lookup_append, List.lookup_append, hlast, List.lookup_cons_self]
    cases before.lookup field.name <;> rfl
  · exact resolve_other hname before after

end Resolved

section Environment

variable [Platform] {environment : Variables} {overrides : Overrides} {field : Field}

/-! ## The settings together -/

/-- Exactly the settings whose values are not valid are reported, each with the reason, in the order of
declaration. -/
structure Reported (environment : Variables) (overrides : Overrides) (faults : List FieldFault) :
    Prop where
  ordered : (faults.map FieldFault.field).Sublist Field.all
  invalid : ∀ field, field ∈ faults.map FieldFault.field ↔
    ∀ v, Resolved environment overrides field v → ∀ x, ¬ field.Accepts v x
  reasons : ∀ f, f ∈ faults ↔ ∀ v, Resolved environment overrides f.field v → f.field.Refuses v f.fault

/-- A setting can be read exactly if the value that counts is valid for it (`Field.read_ok_iff`). -/
theorem readSettled_ok_iff {given : Field → Option SettingValue} {x : field.Value} :
    readSettled given field = .ok x ↔ field.Accepts (settled given field) x := by
  rw [← Field.read_ok_iff]
  unfold readSettled
  cases field.read (settled given field) <;> simp

/-- **The settings are made exactly if what counts for each is valid for it**, and each is what its own value
stands for. -/
theorem fromEnvironment_ok_iff {c : Config} :
    fromEnvironment environment overrides = .ok c ↔
      ∀ field v, Resolved environment overrides field v → field.Accepts v (c.value field) := by
  unfold fromEnvironment
  rw [ofGiven_ok_iff]
  simp only [readSettled_ok_iff, resolved_iff, forall_eq']

omit [Platform] in
/-- If each setting has one fault at most and it is its own, the faults stand in the order of the settings.
Induction on these. -/
theorem map_flatMap_sublist {α : Type} (field : α → Field) (faults : Field → List α)
    (h : ∀ own, ((faults own).map field).Sublist [own]) (fields : List Field) :
    ((fields.flatMap faults).map field).Sublist fields := by
  induction fields with
  | nil => exact List.Sublist.refl _
  | cons own rest ih =>
    rw [List.flatMap_cons, List.map_append]
    exact (h own).append ih

/-- **Else exactly those settings are reported for which it is not.** -/
theorem reported_of_error {faults : List FieldFault}
    (h : fromEnvironment environment overrides = .error faults) :
    Reported environment overrides faults := by
  have hfaults := faults_ofGiven (resolve environment overrides.values)
  unfold fromEnvironment at h
  rw [h] at hfaults
  -- the faults of all fields are gathered, so each is reported iff its own value is refused
  have hmem : ∀ f, f ∈ faults ↔
      f.field.Refuses (settled (resolve environment overrides.values) f.field) f.fault := by
    intro f
    show f ∈ Checked.faults (.error faults : Checked Config) ↔ _
    rw [hfaults]
    simp only [List.mem_flatMap, mem_faults_readSettled, Field.mem_all, true_and, exists_eq_left']
  refine ⟨?_, fun field => ?_, fun f => ?_⟩
  · show ((Checked.faults (.error faults : Checked Config)).map FieldFault.field).Sublist _
    rw [hfaults]
    exact map_flatMap_sublist _ _ (faults_readSettled_sublist _) _
  · simp only [resolved_iff, forall_eq', List.mem_map, hmem]
    constructor
    · rintro ⟨f, hrefuses, rfl⟩ x haccepts
      cases hrefuses.read.symm.trans haccepts.read
    · intro hinvalid
      obtain ⟨x, haccepts⟩ | ⟨fault, hrefuses⟩ :=
        field.valid_or_refused (settled (resolve environment overrides.values) field)
      · exact absurd haccepts (hinvalid x)
      · exact ⟨⟨field, fault⟩, hrefuses, rfl⟩
  · simp only [resolved_iff, forall_eq', hmem]

/-- The settings are made exactly if each value that counts is valid: `fromEnvironment_ok_iff` without the
result. -/
theorem fromEnvironment_isOk_iff :
    (∃ c, fromEnvironment environment overrides = .ok c) ↔
      ∀ field v, Resolved environment overrides field v → ∃ x, field.Accepts v x := by
  constructor
  · rintro ⟨c, h⟩ field v hv
    exact ⟨_, fromEnvironment_ok_iff.mp h field v hv⟩
  · intro h
    have hvalid : ∀ field, ∃ x, readSettled (resolve environment overrides.values) field = .ok x := by
      intro field
      obtain ⟨x, haccepts⟩ := h field _ (resolved_iff.mpr rfl)
      exact ⟨x, readSettled_ok_iff.mpr haccepts⟩
    -- the settings have values of different types, so there is no choosing them by one function
    obtain ⟨charset, hcharset⟩ := hvalid .charset
    obtain ⟨sniffBytes, hsniffBytes⟩ := hvalid .sniffBytes
    obtain ⟨timeout, htimeout⟩ := hvalid .timeout
    obtain ⟨maxRetries, hmaxRetries⟩ := hvalid .maxRetries
    obtain ⟨retryBackoff, hretryBackoff⟩ := hvalid .retryBackoff
    obtain ⟨followRedirects, hfollowRedirects⟩ := hvalid .followRedirects
    obtain ⟨userAgent, huserAgent⟩ := hvalid .userAgent
    obtain ⟨debug, hdebug⟩ := hvalid .debug
    refine ⟨⟨charset, sniffBytes, timeout, maxRetries, retryBackoff, followRedirects, userAgent, debug⟩, ?_⟩
    unfold fromEnvironment
    rw [ofGiven_ok_iff]
    intro field
    cases field <;> assumption

/-! ## One setting and the others -/

/-- A fault is among those that are reported. -/
def Reports (environment : Variables) (overrides : Overrides) (f : FieldFault) : Prop :=
  ∃ faults, fromEnvironment environment overrides = .error faults ∧ f ∈ faults

/-- `Reports` in terms of `Resolved`: a fault is reported exactly if the value that counts is refused for it.
-/
theorem reports_iff {f : FieldFault} :
    Reports environment overrides f ↔
      ∀ v, Resolved environment overrides f.field v → f.field.Refuses v f.fault := by
  constructor
  · rintro ⟨faults, h, hf⟩
    exact ((reported_of_error h).reasons f).mp hf
  · intro hrefuses
    cases h : fromEnvironment environment overrides with
    | ok c =>
      -- a value is not both valid and refused
      have hvalue := resolved_iff.mpr (rfl : settled (resolve environment overrides.values) f.field = _)
      have haccepts := fromEnvironment_ok_iff.mp h f.field _ hvalue
      cases (hrefuses _ hvalue).read.symm.trans haccepts.read
    | error faults => exact ⟨faults, h, ((reported_of_error h).reasons f).mpr hrefuses⟩

/-- Another variable or another value of a caller for one setting leaves the values and the faults of all
others as they are. -/
def Independent (environment : Variables) (overrides : Overrides) : Prop :=
  ∀ (changed : Field) (environment' : Variables) (overrides' : Overrides),
    (∀ name, name ≠ changed.environmentName → environment'.lookup name = environment.lookup name) →
    (∀ name, name ≠ changed.name → overrides'.values.lookup name = overrides.values.lookup name) →
    ∀ field, field ≠ changed →
      (∀ c c', fromEnvironment environment overrides = .ok c →
        fromEnvironment environment' overrides' = .ok c' → c'.value field = c.value field) ∧
      (∀ fault, Reports environment' overrides' ⟨field, fault⟩ ↔ Reports environment overrides ⟨field, fault⟩)

/-- The value that counts is the same (`resolved_congr`), since no other setting has the name or the
variable; and it decides what is made and what is reported (`fromEnvironment_ok_iff`, `reports_iff`). -/
theorem independent (environment : Variables) (overrides : Overrides) :
    Independent environment overrides := by
  intro changed environment' overrides' hset hgiven field hother
  have hsame : ∀ v, Resolved environment' overrides' field v ↔ Resolved environment overrides field v :=
    fun v => resolved_congr (hgiven _ fun h => hother (Field.name_injective h))
      (hset _ fun h => hother (Field.environmentName_injective h))
  refine ⟨fun c c' h h' => ?_, fun fault => ?_⟩
  · have hvalue := resolved_iff.mpr (rfl : settled (resolve environment overrides.values) field = _)
    have haccepts := fromEnvironment_ok_iff.mp h field _ hvalue
    have haccepts' := fromEnvironment_ok_iff.mp h' field _ ((hsame _).mpr hvalue)
    exact Except.ok.inj (haccepts'.read.symm.trans haccepts.read)
  · simp only [reports_iff, hsame]

/-- What is given for a setting is told by its own value and variable; all that is not valid is told. -/
structure Resolves (environment : Variables) (overrides : Overrides) : Prop where
  /-- One value counts for each setting. -/
  resolved : ∀ field, ∃ v, ∀ w, Resolved environment overrides field w ↔ w = v
  /-- The settings that are made are what the values stand for. -/
  values : ∀ c, fromEnvironment environment overrides = .ok c ↔
    ∀ field v, Resolved environment overrides field v → field.Accepts v (c.value field)
  /-- They are made exactly if each value is valid. -/
  made : (∃ c, fromEnvironment environment overrides = .ok c) ↔
    ∀ field v, Resolved environment overrides field v → ∃ x, field.Accepts v x
  /-- Else those that are not are reported. -/
  reported : ∀ faults, fromEnvironment environment overrides = .error faults →
    Reported environment overrides faults
  /-- Nothing that concerns one setting makes a difference to another. -/
  independent : Independent environment overrides
  /-- Names of no setting make none. -/
  unknown : ∀ (fewer : Overrides) before after name v, overrides.values = before ++ (name, v) :: after →
    fewer.values = before ++ after → (∀ field : Field, field.name ≠ name) →
    fromEnvironment environment fewer = fromEnvironment environment overrides
  /-- Nor do missing values. -/
  missing : ∀ (fewer : Overrides) before after name, overrides.values = before ++ (name, .null) :: after →
    fewer.values = before ++ after → after.lookup name = none →
    fromEnvironment environment fewer = fromEnvironment environment overrides

/-- **Each setting is resolved on its own**, for every environment and all that a caller can give. -/
theorem fromEnvironment_resolves (environment : Variables) (overrides : Overrides) :
    Resolves environment overrides where
  resolved field := ⟨_, fun _ => resolved_iff.trans eq_comm⟩
  values _ := fromEnvironment_ok_iff
  made := fromEnvironment_isOk_iff
  reported _ := reported_of_error
  independent := Config.independent environment overrides
  unknown := by
    intro fewer before after name v hvalues hfewer hunknown
    unfold fromEnvironment
    rw [hvalues, hfewer]
    exact congrArg ofGiven (funext fun field => resolve_other (hunknown field) before after)
  missing := by
    intro fewer before after name hvalues hfewer hlast
    unfold fromEnvironment
    rw [hvalues, hfewer]
    exact congrArg ofGiven (funext (resolve_null hlast))

/-- **Values under any names** are refused only if the reserved one is among them, and else make what they
make as overrides. -/
theorem fromCall_eq (environment : Variables) (values : List (String × SettingValue)) :
    (fromCall environment values = .error .reserved ↔ ∃ entry ∈ values, entry.1 = reservedName) ∧
      ∀ overrides : Overrides, overrides.values = values →
        fromCall environment values = (fromEnvironment environment overrides).mapError .refused := by
  constructor
  · unfold fromCall
    split
    · next hnames =>
      constructor
      · cases fromEnvironment environment ⟨values, hnames⟩ <;> exact nofun
      · rintro ⟨entry, hmem, hname⟩
        exact absurd hname (hnames entry hmem)
    · next hnames => simpa using hnames
  · rintro ⟨_, hnames⟩ rfl
    exact dif_pos hnames

end Environment

/-- Variables of which one is refused, and one is empty. -/
def crowded : Variables :=
  [("HTTPBODY_CHARSET", "latin-1"), ("HTTPBODY_SNIFF_BYTES", "0"), ("HTTPBODY_DEBUG", "")]

/-- Values of a caller of which one is refused and one is missing. -/
def offered : Overrides :=
  ⟨[("max_retries", .int (-1)), ("charset", .null)], by decide⟩

/-- The same with a value under a name of no setting. -/
def offeredMore : Overrides :=
  ⟨[("max_retries", .int (-1)), ("charset", .null), ("bogus", .other)], by decide⟩

/-- The two settings that are not valid are reported. With a valid variable only the other one is, and
neither the missing value nor the unknown name plays a part. -/
theorem fromEnvironment_resolves_crowded :
    fromEnvironment crowded offered =
        .error [⟨.sniffBytes, .notPositive⟩, ⟨.maxRetries, .negative⟩] ∧
      Reported crowded offered [⟨.sniffBytes, .notPositive⟩, ⟨.maxRetries, .negative⟩] ∧
      Reports (("HTTPBODY_SNIFF_BYTES", "64") :: crowded) offered ⟨.maxRetries, .negative⟩ ∧
      fromEnvironment crowded ⟨[("max_retries", .int (-1))], by decide⟩ =
        fromEnvironment crowded offeredMore := by
  have hrun : fromEnvironment crowded offered =
      .error [⟨.sniffBytes, .notPositive⟩, ⟨.maxRetries, .negative⟩] := rfl
  have h := fromEnvironment_resolves crowded offered
  -- the second environment differs in one variable, which the fault of the retries does not depend on
  have hset : ∀ name, name ≠ Field.sniffBytes.environmentName →
      (("HTTPBODY_SNIFF_BYTES", "64") :: crowded).lookup name = crowded.lookup name := by
    intro name hname
    have hother : (name == "HTTPBODY_SNIFF_BYTES") = false := beq_eq_false_iff_ne.mpr hname
    rw [List.lookup_cons, hother]
  refine ⟨hrun, h.reported _ hrun, ?_, ?_⟩
  · exact ((h.independent .sniffBytes _ offered hset (fun _ _ => rfl) .maxRetries (by decide)).2 _).mpr
      ⟨_, hrun, by decide⟩
  · have hmissing := h.missing ⟨[("max_retries", .int (-1))], by decide⟩
      [("max_retries", .int (-1))] [] "charset" rfl rfl rfl
    have hunknown := (fromEnvironment_resolves crowded offeredMore).unknown offered offered.values []
      "bogus" .other rfl rfl (by intro field; cases field <;> decide)
    exact hmissing.trans hunknown

end Config

end Courier
