import Courier.Multipart.Field
import Courier.Proofs.Charset.HeaderLine
import Mathlib.Data.List.Infix

/-!
# Reading escaped values back

A receiver reads a value from left to right, an escape where one stands and else a single character
(`induction_on_escapes`). The percent signs of a value are not escaped themselves, so a value that holds
an escape cannot be told from the one with the mark in its place: two values are written alike exactly if
they read alike (`parameter_eq_iff`). Nothing else is lost. A percent sign of the value may stand before
an escaped mark, but it begins no escape there that it did not begin before: what follows the percent sign
of an escape holds no second one, so none of it was escaped (`prefix_of_prefix_escape`). A value is
therefore read back as it was exactly if it holds no escape (`parameter_reversible`).
-/

namespace Courier.Multipart

open Charset

/-- The escapes of the marks. -/
def escapes : List (List Char) := ["%22".toList, "%0D".toList, "%0A".toList]

/-- A value in which no escape is written out. -/
def EscapeFree (value : List Char) : Prop := ∀ e ∈ escapes, ¬ e <:+: value

instance (value : List Char) : Decidable (EscapeFree value) :=
  inferInstanceAs (Decidable (∀ e ∈ escapes, ¬ e <:+: value))

/-- What a receiver finds in the quotes of a parameter of that name: what stands between the opening quote
and the next one, if nothing follows that. -/
def quoted? (name parameter : String) : Option (List Char) :=
  match parameter.toList.dropPrefix? (name ++ "=\"").toList with
  | none => none
  | some rest =>
    match Text.cut '"' rest with
    | (text, some []) => some text
    | _ => none

/-! ## Escapes and marks -/

theorem escapeChar_mem_escapes : ∀ mark ∈ marks, escapeChar mark ∈ escapes :=
  Text.forall_mem_of_all (by decide)

theorem escapes_shape : ∀ e ∈ escapes, e = '%' :: e.tail ∧ '%' ∉ e.tail := by
  decide

theorem escapeChar_eq_cons {mark : Char} (hmark : mark ∈ marks) :
    ∃ tail, escapeChar mark = '%' :: tail :=
  ⟨_, (escapes_shape _ (escapeChar_mem_escapes mark hmark)).1⟩

/-- `escapeChar` leaves alone what is no mark. -/
theorem escapeChar_of_not_mark {c : Char} (hc : c ∉ marks) : escapeChar c = [c] := by
  obtain ⟨hquote, hreturn, hfeed⟩ : c ≠ '"' ∧ c ≠ '\r' ∧ c ≠ '\n' := by
    simpa [marks] using hc
  unfold escapeChar
  rw [if_neg hquote, if_neg hreturn, if_neg hfeed]

theorem escape_cons (c : Char) (rest : List Char) :
    escape (c :: rest) = escapeChar c ++ escape rest :=
  List.flatMap_cons

/-- No mark is left in an escaped value: no escape holds one, and any other character is no mark. -/
theorem mark_not_mem_escape (value : List Char) : ∀ mark ∈ marks, mark ∉ escape value := by
  intro mark hmark
  apply not_mem_escape
  simpa [marks] using hmark

/-- `escape` leaves a text without a mark alone. Induction on the text. -/
theorem escape_of_no_mark {text : List Char} (h : ∀ mark ∈ marks, mark ∉ text) :
    escape text = text := by
  induction text with
  | nil => rfl
  | cons c rest ih =>
    have hc : c ∉ marks := fun hmark => h c hmark List.mem_cons_self
    have hrest : ∀ mark ∈ marks, mark ∉ rest :=
      fun mark hmark hmem => h mark hmark (List.mem_cons_of_mem c hmem)
    rw [escape_cons, escapeChar_of_not_mark hc, ih hrest, List.singleton_append]

/-- `escape` changes nothing the second time (`mark_not_mem_escape`). -/
theorem escape_escape (value : List Char) : escape (escape value) = escape value :=
  escape_of_no_mark (mark_not_mem_escape value)

/-- `escape` leaves alone what a character is written as. -/
theorem escape_escapeChar (c : Char) (rest : List Char) :
    escape (escapeChar c ++ rest) = escapeChar c ++ escape rest := by
  have halone : escape [c] = escapeChar c := by
    rw [escape_cons, escape_nil, List.append_nil]
  rw [escape_append, ← halone, escape_escape]

/-! ## Reading from left to right -/

/-- `unescape` reads each escape as the mark that it was made of. -/
theorem unescape_escapeChar {mark : Char} (hmark : mark ∈ marks) (rest : List Char) :
    unescape (escapeChar mark ++ rest) = mark :: unescape rest := by
  simp only [marks, List.mem_cons, List.not_mem_nil, or_false] at hmark
  obtain rfl | rfl | rfl := hmark <;> rfl

/-- Where no escape begins, `unescape` takes one character. By its four cases. -/
theorem unescape_cons {c : Char} {rest : List Char} (h : ∀ e ∈ escapes, ¬ e <+: c :: rest) :
    unescape (c :: rest) = c :: unescape rest := by
  rw [unescape]
  · rintro tail rfl rfl
    exact h "%22".toList (by decide) ⟨tail, rfl⟩
  · rintro tail rfl rfl
    exact h "%0D".toList (by decide) ⟨tail, rfl⟩
  · rintro tail rfl rfl
    exact h "%0A".toList (by decide) ⟨tail, rfl⟩

/-- **A value is read escape by escape, and else character by character**: the cases of `unescape`, with
one for all escapes. -/
@[elab_as_elim]
theorem induction_on_escapes {motive : List Char → Prop} (nil : motive [])
    (escaped : ∀ mark ∈ marks, ∀ rest, motive rest → motive (escapeChar mark ++ rest))
    (kept : ∀ c rest, (∀ e ∈ escapes, ¬ e <+: c :: rest) → motive rest → motive (c :: rest))
    (value : List Char) : motive value := by
  induction value using unescape.induct with
  | case1 rest ih => exact escaped '"' (by decide) rest ih
  | case2 rest ih => exact escaped '\r' (by decide) rest ih
  | case3 rest ih => exact escaped '\n' (by decide) rest ih
  | case4 c rest hquote hreturn hfeed ih =>
    refine kept c rest ?_ ih
    intro e he hprefix
    obtain ⟨tail, htail⟩ := hprefix
    simp only [escapes, List.mem_cons, List.not_mem_nil, or_false] at he
    obtain rfl | rfl | rfl := he <;> obtain ⟨rfl, rfl⟩ := List.cons_eq_cons.mp htail
    · exact hquote tail rfl rfl
    · exact hreturn tail rfl rfl
    · exact hfeed tail rfl rfl
  | case5 => exact nil

/-- `unescape` leaves a value alone exactly if it is `EscapeFree`. By `induction_on_escapes`: an escape is
read as its mark, and no escape begins with one. -/
theorem unescape_eq_self_iff (value : List Char) : unescape value = value ↔ EscapeFree value := by
  induction value using induction_on_escapes with
  | nil => decide
  | escaped mark hmark rest ih =>
    have hchanged : unescape (escapeChar mark ++ rest) ≠ escapeChar mark ++ rest := by
      -- the one begins with the mark, the other with the percent sign of its escape
      obtain ⟨tail, htail⟩ := escapeChar_eq_cons hmark
      rw [unescape_escapeChar hmark, htail]
      intro hsame
      rw [(List.cons_eq_cons.mp hsame).1] at hmark
      exact absurd hmark (by decide)
    have hheld : ¬ EscapeFree (escapeChar mark ++ rest) := fun hfree =>
      hfree _ (escapeChar_mem_escapes mark hmark) (List.prefix_append _ rest).isInfix
    exact iff_of_false hchanged hheld
  | kept c rest hfront ih =>
    have hfree : EscapeFree (c :: rest) ↔ EscapeFree rest := by
      unfold EscapeFree
      refine forall₂_congr fun e he => ?_
      rw [List.infix_cons_iff, not_or, and_iff_right (hfront e he)]
    rw [unescape_cons hfront, hfree, ← ih, List.cons_inj_right]

/-! ## What is read of an escaped value -/

/-- `escape` puts a percent sign at every escape, so any other front character was in the value. -/
theorem escape_eq_cons {c : Char} {value rest : List Char} (hc : c ≠ '%')
    (h : escape value = c :: rest) : ∃ tail, value = c :: tail ∧ escape tail = rest := by
  cases value with
  | nil => cases h
  | cons d tail =>
    rw [escape_cons] at h
    by_cases hd : d ∈ marks
    · obtain ⟨behind, hbehind⟩ := escapeChar_eq_cons hd
      rw [hbehind] at h
      exact absurd (List.cons_eq_cons.mp h).1.symm hc
    · rw [escapeChar_of_not_mark hd] at h
      obtain ⟨rfl, rfl⟩ := List.cons_eq_cons.mp h
      exact ⟨tail, rfl, rfl⟩

/-- What stands at the front of an escaped value and holds no percent sign was there before. Induction on it
with `escape_eq_cons`. -/
theorem prefix_of_prefix_escape {text value : List Char} (htext : '%' ∉ text)
    (h : text <+: escape value) : text <+: value := by
  induction text generalizing value with
  | nil => exact List.nil_prefix
  | cons c text ih =>
    obtain ⟨hc, htext⟩ := List.ne_and_not_mem_of_not_mem_cons htext
    obtain ⟨rest, hrest⟩ := h
    obtain ⟨tail, rfl, htail⟩ := escape_eq_cons (Ne.symm hc) hrest.symm
    exact (List.prefix_cons_inj c).mpr (ih htext ⟨rest, htail.symm⟩)

/-- No escape comes to stand where none stood: the rest of it would have been there before. -/
theorem not_prefix_escape {c : Char} {rest : List Char} (h : ∀ e ∈ escapes, ¬ e <+: c :: rest) :
    ∀ e ∈ escapes, ¬ e <+: c :: escape rest := by
  intro e he hprefix
  obtain ⟨hshape, hclean⟩ := escapes_shape e he
  apply h e he
  rw [hshape] at hprefix ⊢
  obtain ⟨hc, htail⟩ := List.cons_prefix_cons.mp hprefix
  exact List.cons_prefix_cons.mpr ⟨hc, prefix_of_prefix_escape hclean htail⟩

/-- **Escaping leaves what is read as it is**: it neither forms an escape out of what the value holds nor
breaks one. -/
theorem unescape_escape (value : List Char) : unescape (escape value) = unescape value := by
  induction value using induction_on_escapes with
  | nil => rfl
  | escaped mark hmark rest ih =>
    rw [escape_escapeChar, unescape_escapeChar hmark, unescape_escapeChar hmark, ih]
  | kept c rest hfront ih =>
    rw [escape_cons, unescape_cons hfront]
    by_cases hc : c ∈ marks
    · rw [unescape_escapeChar hc, ih]
    · rw [escapeChar_of_not_mark hc, List.singleton_append,
        unescape_cons (not_prefix_escape hfront), ih]

/-- Reading a value and escaping it again is escaping it, by `induction_on_escapes`. -/
theorem escape_unescape (value : List Char) : escape (unescape value) = escape value := by
  induction value using induction_on_escapes with
  | nil => rfl
  | escaped mark hmark rest ih =>
    rw [unescape_escapeChar hmark, escape_cons, escape_escapeChar, ih]
  | kept c rest hfront ih => rw [unescape_cons hfront, escape_cons, escape_cons, ih]

/-- Values are escaped alike exactly if they are read alike (`unescape_escape`, `escape_unescape`). -/
theorem escape_eq_escape_iff (a b : List Char) : escape a = escape b ↔ unescape a = unescape b := by
  constructor
  · intro h
    rw [← unescape_escape a, h, unescape_escape]
  · intro h
    rw [← escape_unescape a, h, escape_unescape]

/-! ## Parameters -/

/-- `parameter` is the name, the opening quote, the escaped value and the closing quote. -/
theorem parameter_toList (name value : String) :
    (parameter name value).toList = (name ++ "=\"").toList ++ (escape value.toList ++ ['"']) := by
  unfold parameter
  rw [String.toList_append, String.toList_append, String.toList_ofList, List.append_assoc]
  rfl

/-- `quoted?` finds the escaped value in its quotes: no quote within it ends it before. -/
theorem quoted?_parameter (name value : String) :
    quoted? name (parameter name value) = some (escape value.toList) := by
  have hquote : '"' ∉ escape value.toList := mark_not_mem_escape _ '"' (by decide)
  unfold quoted?
  rw [parameter_toList, List.dropPrefix?_append_of_beq _ BEq.rfl]
  simp only [Text.cut_append_sep hquote]

/-- **Values make the same parameter exactly if they read alike.** -/
theorem parameter_eq_iff (name a b : String) :
    parameter name a = parameter name b ↔ unescape a.toList = unescape b.toList := by
  rw [← String.toList_inj, parameter_toList, parameter_toList, List.append_cancel_left_eq,
    List.append_cancel_right_eq, escape_eq_escape_iff]

/-- A written-out escape makes the parameter that the mark makes. -/
example : parameter "name" "50%22" = parameter "name" "50\"" := by decide

/-- **A value is kept safe in its quotes, and is read back exactly unless it holds an escape.** Between the
quotes of a parameter stands the escaped value, without a mark; escaping goes over joined values and
changes nothing the second time; and values without escapes are read back, and never make the same
parameter. -/
theorem parameter_reversible (name a b : String) :
    quoted? name (parameter name a) = some (escape a.toList) ∧
    (∀ mark ∈ marks, mark ∉ escape a.toList) ∧
    escape (a ++ b).toList = escape a.toList ++ escape b.toList ∧
    escape (escape a.toList) = escape a.toList ∧
    (unescape (escape a.toList) = a.toList ↔ EscapeFree a.toList) ∧
    (EscapeFree a.toList → EscapeFree b.toList → a ≠ b → parameter name a ≠ parameter name b) := by
  have hback : unescape (escape a.toList) = a.toList ↔ EscapeFree a.toList := by
    rw [unescape_escape, unescape_eq_self_iff]
  have happend : escape (a ++ b).toList = escape a.toList ++ escape b.toList := by
    rw [String.toList_append, escape_append]
  refine ⟨quoted?_parameter name a, mark_not_mem_escape _, happend, escape_escape _, hback, ?_⟩
  intro ha hb hne hsame
  have hread : unescape a.toList = unescape b.toList := (parameter_eq_iff name a b).mp hsame
  rw [(unescape_eq_self_iff _).mpr ha, (unescape_eq_self_iff _).mpr hb] at hread
  exact hne (String.toList_inj.mp hread)

/-- `parameter_reversible` at two values in which a percent sign and digits stand around marks, as if to make
an escape with them. -/
theorem parameter_reversible_windows :
    EscapeFree "%2\"2%".toList ∧ EscapeFree "%\"22\r0D".toList ∧
    quoted? "filename" (parameter "filename" "%2\"2%") = some "%2%222%".toList ∧
    unescape (escape "%2\"2%".toList) = "%2\"2%".toList ∧
    parameter "filename" "%2\"2%" ≠ parameter "filename" "%\"22\r0D" := by
  have ha : EscapeFree "%2\"2%".toList := by decide
  have hb : EscapeFree "%\"22\r0D".toList := by decide
  obtain ⟨hquoted, -, -, -, hback, hdifferent⟩ :=
    parameter_reversible "filename" "%2\"2%" "%\"22\r0D"
  exact ⟨ha, hb, hquoted, hback.mpr ha, hdifferent ha hb (by decide)⟩

end Courier.Multipart
