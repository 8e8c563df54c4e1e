import Courier.Mime.Sniff

/-!
# How much of a content is looked at

The type of a content is told from its first bytes. What proves a type lies within the first twelve of them,
so a look at more leaves the verdict as it is (`typeOfSignature_take`). The looks of a text are told by marks
none of which begins another: one that was seen stays the one that is seen (`typeOfText_append`), and one
that comes to be seen is one that the narrower look cut off (`cut_mark`).

Both together say what more bytes can change: nothing where a type was told (`sniff_take`), and at most the
type of a text where none was (`sniff_take_none`).
-/

namespace Courier.Mime

variable {content start : Bytes} {n n' : Nat} {name : Option String} {type : String}

/-! ## Prefixes of what is seen -/

/-- A mark that is no longer than the look is seen in it if it is there. -/
theorem isPrefixOf_take {mark : Bytes} (h : mark.length ≤ n) :
    mark.isPrefixOf (content.take n) = mark.isPrefixOf content := by
  rw [Bool.eq_iff_iff, List.isPrefixOf_iff_prefix, List.isPrefixOf_iff_prefix, List.prefix_take_iff]
  exact and_iff_left h

theorem isPrefixOf_append {mark : Bytes} (h : mark.isPrefixOf start = true) (more : Bytes) :
    mark.isPrefixOf (start ++ more) = true := by
  rw [List.isPrefixOf_iff_prefix] at h ⊢
  exact h.trans (List.prefix_append _ _)

/-- Two prefixes of one content are prefixes of each other, one way or the other
(`List.prefix_or_prefix_of_prefix`). -/
theorem isPrefixOf_or {a b : Bytes} (ha : a.isPrefixOf content = true)
    (hb : b.isPrefixOf content = true) : a.isPrefixOf b = true ∨ b.isPrefixOf a = true := by
  simp only [List.isPrefixOf_iff_prefix] at *
  exact List.prefix_or_prefix_of_prefix ha hb

/-! ## Signatures -/

/-- Where no entry is longer than the look, a table of prefixes is searched to the same end. Induction on the
table. -/
theorem find?_take {table : List (Bytes × String)} (h : ∀ s ∈ table, s.1.length ≤ n) :
    (table.find? fun s => s.1.isPrefixOf (content.take n)) =
      table.find? fun s => s.1.isPrefixOf content := by
  induction table with
  | nil => rfl
  | cons s rest ih =>
    have hrest := ih fun t ht => h t (List.mem_cons_of_mem _ ht)
    rw [List.find?_cons, List.find?_cons, isPrefixOf_take (h s List.mem_cons_self), hrest]

/-- No signature is longer than the part of a container that tells its format. -/
theorem length_signature : ∀ s ∈ signatures, s.1.length ≤ 12 := by decide

/-- Four bytes that end within the look are seen whole. -/
theorem take_drop_take {i : Nat} (h : i + 4 ≤ n) :
    ((content.take n).drop i).take 4 = (content.drop i).take 4 := by
  rw [List.drop_take, List.take_take, Nat.min_eq_left (by omega)]

/-- `riffType` reads the mark of a container and its format, which lie in the first twelve bytes. -/
theorem riffType_take (h : 12 ≤ n) : riffType (content.take n) = riffType content := by
  have hmark : (ascii "RIFF").length ≤ n := Nat.le_trans (by decide) h
  have hlong : (12 ≤ (content.take n).length) = (12 ≤ content.length) := by
    rw [List.length_take, eq_iff_iff]
    omega
  unfold riffType
  simp only [isPrefixOf_take hmark, hlong, take_drop_take (show 8 + 4 ≤ n from h)]

/-- **The first twelve bytes prove what the whole content proves.** -/
theorem typeOfSignature_take (h : 12 ≤ n) :
    typeOfSignature (content.take n) = typeOfSignature content := by
  have hfind : (signatures.find? fun s => s.1.isPrefixOf (content.take n)) =
      signatures.find? fun s => s.1.isPrefixOf content :=
    find?_take fun s hs => Nat.le_trans (length_signature s hs) h
  have hbox : ((content.take n).drop 4).take 4 = (content.drop 4).take 4 := take_drop_take (by omega)
  unfold typeOfSignature
  rw [hfind, riffType_take h, hbox]

/-! ## The marks of texts -/

/-- What a text of a certain type begins with, in small letters. -/
def textMarks : List (Bytes × String) := [
  (ascii "<?xml", "application/xml"),
  (ascii "<!doctype html", "text/html"),
  (ascii "<html", "text/html"),
  (ascii "\x7b", "application/json"),
  (ascii "[", "application/json")]

/-- The types that are told by the looks of a text. -/
def textTypes : List String := ["application/xml", "text/html", "application/json"]

/-- As much of the beginning of a text as its marks need, in small letters. -/
def textLooks (content : Bytes) : Bytes := ((textStart content).take 15).map lowerByte

/-- No mark begins another. -/
theorem textMarks_apart : textMarks.Pairwise fun a b =>
    a.1.isPrefixOf b.1 = false ∧ b.1.isPrefixOf a.1 = false := by decide

theorem textMarks_type : ∀ mark ∈ textMarks, mark.2 ∈ textTypes := by decide

/-- No letter is written small as a bracket. -/
theorem lowerByte_bracket (b : UInt8) : (lowerByte b = 123 ↔ b = 123) ∧ (lowerByte b = 91 ↔ b = 91) := by
  unfold lowerByte
  split
  · next hcapital =>
    simp only [Bool.and_eq_true, decide_eq_true_eq, UInt8.le_iff_toNat_le] at hcapital
    have hsmall : (b + 32).toNat = b.toNat + 32 := by
      rw [UInt8.toNat_add]
      exact Nat.mod_eq_of_lt (by simp at hcapital ⊢; omega)
    simp only [← UInt8.toNat_inj, hsmall]
    simp at hcapital ⊢
    omega
  · exact ⟨Iff.rfl, Iff.rfl⟩

/-- `lowerByte` neither makes brackets nor takes them away, so the looks of a text begin with one if the text
does. -/
theorem isPrefixOf_bracket {b : UInt8} (hb : ∀ c, lowerByte c = b ↔ c = b) (text : Bytes) :
    [b].isPrefixOf ((text.take 15).map lowerByte) = [b].isPrefixOf text := by
  cases text with
  | nil => rfl
  | cons c rest =>
    simp only [List.take_succ_cons, List.map_cons, List.isPrefixOf, Bool.and_true]
    rw [Bool.eq_iff_iff, beq_iff_eq, beq_iff_eq]
    constructor
    · intro h
      exact ((hb c).mp h.symm).symm
    · intro h
      exact ((hb c).mpr h.symm).symm

/-- **The type of a text is that of the mark it begins with.** -/
theorem typeOfText_eq (content : Bytes) :
    typeOfText content =
      (textMarks.find? fun mark => mark.1.isPrefixOf (textLooks content)).map Prod.snd := by
  have hcurly := isPrefixOf_bracket (fun c => (lowerByte_bracket c).1) (textStart content)
  have hsquare := isPrefixOf_bracket (fun c => (lowerByte_bracket c).2) (textStart content)
  have hbrackets : ascii "\x7b" = [123] ∧ ascii "[" = [91] := by decide
  unfold typeOfText textMarks textLooks
  simp only [List.find?_cons, List.find?_nil, hbrackets, hcurly, hsquare]
  grind

/-! ## What more bytes show of a text -/

/-- `textStart` leaves out the mark of the encoding, which is seen whole, and white space, behind which
something is seen already. -/
theorem textStart_append (hlong : 3 ≤ start.length) (htext : textStart start ≠ []) (more : Bytes) :
    textStart (start ++ more) = textStart start ++ more := by
  -- the mark is within the first three bytes, which both starts have
  have hmark : textMark.isPrefixOf (start ++ more) = textMark.isPrefixOf start := by
    have hseen : textMark.isPrefixOf ((start ++ more).take start.length) =
        textMark.isPrefixOf (start ++ more) := isPrefixOf_take hlong
    rw [List.take_left] at hseen
    exact hseen.symm
  unfold textStart at htext ⊢
  rw [hmark]
  cases hmarked : textMark.isPrefixOf start with
  | true =>
    rw [hmarked, if_pos rfl] at htext
    rw [if_pos rfl, if_pos rfl, List.drop_append_of_le_length hlong, List.dropWhile_append,
      if_neg (by simpa using htext)]
  | false =>
    rw [hmarked, if_neg Bool.false_ne_true] at htext
    rw [if_neg Bool.false_ne_true, if_neg Bool.false_ne_true, List.dropWhile_append,
      if_neg (by simpa using htext)]

/-- What is seen of a text begins what is seen of more of it (`textStart_append`). -/
theorem textLooks_append (hlong : 3 ≤ start.length) (more : Bytes) :
    (textLooks start).isPrefixOf (textLooks (start ++ more)) = true := by
  unfold textLooks
  by_cases htext : textStart start = []
  · rw [htext]
    rfl
  · rw [textStart_append hlong htext, List.take_append, List.map_append]
    exact isPrefixOf_append (List.isPrefixOf_iff_prefix.mpr (List.prefix_refl _)) _

/-- A mark that is found is found where more is seen, as the marks are apart: none of the others can begin
there too. Induction on the table. -/
theorem find?_mono {table : List (Bytes × String)}
    (hapart : table.Pairwise fun a b => a.1.isPrefixOf b.1 = false ∧ b.1.isPrefixOf a.1 = false)
    {seen wider : Bytes} (hwider : seen.isPrefixOf wider = true) {mark : Bytes × String}
    (h : table.find? (fun m => m.1.isPrefixOf seen) = some mark) :
    table.find? (fun m => m.1.isPrefixOf wider) = some mark := by
  have hmono : ∀ m : Bytes × String, m.1.isPrefixOf seen = true → m.1.isPrefixOf wider = true := by
    intro m hm
    rw [List.isPrefixOf_iff_prefix] at *
    exact hm.trans hwider
  induction table with
  | nil => cases h
  | cons first rest ih =>
    obtain ⟨hfirst, hrest⟩ := List.pairwise_cons.mp hapart
    rw [List.find?_cons] at h
    cases hseen : first.1.isPrefixOf seen with
    | true =>
      rw [hseen] at h
      cases h
      rw [List.find?_cons, hmono _ hseen]
    | false =>
      rw [hseen] at h
      -- the first mark does not begin the wider look either, where another one begins already
      have hfound : mark.1.isPrefixOf seen = true :=
        List.find?_some (p := fun m : Bytes × String => m.1.isPrefixOf seen) h
      have hmark := hmono mark hfound
      have hnot : first.1.isPrefixOf wider = false := by
        obtain ⟨hnone, hnone'⟩ := hfirst mark (List.mem_of_find?_eq_some h)
        cases hboth : first.1.isPrefixOf wider with
        | false => rfl
        | true =>
          obtain habove | hbelow := isPrefixOf_or hboth hmark
          · rw [hnone] at habove
            cases habove
          · rw [hnone'] at hbelow
            cases hbelow
      rw [List.find?_cons, hnot]
      exact ih hrest h

/-- **The type of a text stays where more of it is seen.** -/
theorem typeOfText_append (hlong : 3 ≤ start.length) (h : typeOfText start = some type)
    (more : Bytes) : typeOfText (start ++ more) = some type := by
  rw [typeOfText_eq] at h ⊢
  obtain ⟨mark, hmark, rfl⟩ := Option.map_eq_some_iff.mp h
  rw [find?_mono textMarks_apart (textLooks_append hlong more) hmark]
  rfl

/-- **A mark that comes to be seen was cut off before**: what was seen of the text is the front of it. -/
theorem cut_mark (hlong : 3 ≤ start.length) (hnone : typeOfText start = none) {more : Bytes}
    (h : typeOfText (start ++ more) = some type) :
    ∃ mark ∈ textMarks, mark.2 = type ∧ (textLooks start).isPrefixOf mark.1 = true ∧
      textLooks start ≠ mark.1 := by
  rw [typeOfText_eq] at hnone h
  obtain ⟨mark, hmark, rfl⟩ := Option.map_eq_some_iff.mp h
  have hmem := List.mem_of_find?_eq_some hmark
  have hunseen := List.find?_eq_none.mp (Option.map_eq_none_iff.mp hnone) mark hmem
  have hseen : mark.1.isPrefixOf (textLooks (start ++ more)) = true :=
    List.find?_some (p := fun m : Bytes × String => m.1.isPrefixOf (textLooks (start ++ more))) hmark
  refine ⟨mark, hmem, rfl, ?_, fun heq => ?_⟩
  · -- both begin the wider look, and the mark does not begin the narrower one
    obtain hfront | hbehind := isPrefixOf_or (textLooks_append hlong more) hseen
    · exact hfront
    · exact absurd hbehind hunseen
  · rw [heq] at hunseen
    exact hunseen (List.isPrefixOf_iff_prefix.mpr (List.prefix_refl _))

/-! ## The type that is told -/

/-- `List.take` of more bytes goes on where the narrower look ends, or the content ended before. -/
theorem take_wider (content : Bytes) (hle : n ≤ n') :
    ∃ more, content.take n' = content.take n ++ more ∧ (more = [] ∨ n ≤ (content.take n).length) := by
  refine ⟨(content.drop n).take (n' - n), ?_, ?_⟩
  · rw [← List.take_add, Nat.add_sub_cancel' hle]
  · by_cases hshort : content.length ≤ n
    · rw [List.drop_eq_nil_of_le hshort, List.take_nil]
      exact .inl rfl
    · rw [List.length_take]
      exact .inr (by omega)

variable [Platform]

/-- **A type that is told stays where more is seen.** -/
theorem sniff_take (hn : 12 ≤ n) (hle : n ≤ n') (h : sniff (content.take n) name = some type) :
    sniff (content.take n') name = some type := by
  have hbytes : typeOfSignature (content.take n') = typeOfSignature (content.take n) := by
    rw [typeOfSignature_take hn, typeOfSignature_take (Nat.le_trans hn hle)]
  unfold sniff at h ⊢
  rw [hbytes]
  -- bytes and name say the same as before, so all hangs on the looks of the text
  cases hproved : typeOfSignature (content.take n) with
  | some proved =>
    rw [hproved] at h
    exact h
  | none =>
    cases hnamed : typeOfName? name with
    | some named =>
      rw [hproved, hnamed] at h
      exact h
    | none =>
      rw [hproved, hnamed, Option.none_or, Option.none_or] at h
      rw [Option.none_or, Option.none_or]
      obtain ⟨more, hmore, rfl | hlong⟩ := take_wider content hle
      · rw [hmore, List.append_nil]
        exact h
      · rw [hmore]
        exact typeOfText_append (by omega) h more

/-- **Where no type is told, more bytes can show no more than a mark of a text that was cut off.** -/
theorem sniff_take_none (hn : 12 ≤ n) (hle : n ≤ n') (h : sniff (content.take n) name = none) :
    sniff (content.take n') name = none ∨
      ∃ mark ∈ textMarks, sniff (content.take n') name = some mark.2 ∧
        (textLooks (content.take n)).isPrefixOf mark.1 = true ∧
        textLooks (content.take n) ≠ mark.1 := by
  have hbytes : typeOfSignature (content.take n') = typeOfSignature (content.take n) := by
    rw [typeOfSignature_take hn, typeOfSignature_take (Nat.le_trans hn hle)]
  unfold sniff at h ⊢
  rw [Option.or_eq_none_iff, Option.or_eq_none_iff] at h
  obtain ⟨hproved, hnamed, htext⟩ := h
  -- the signature is settled by twelve bytes and the name by none, so only the looks of the text can change
  rw [hbytes, hproved, hnamed, Option.none_or, Option.none_or]
  cases hwider : typeOfText (content.take n') with
  | none => exact .inl rfl
  | some type =>
    obtain ⟨more, hmore, rfl | hlong⟩ := take_wider content hle
    · rw [hmore, List.append_nil, htext] at hwider
      cases hwider
    · rw [hmore] at hwider
      obtain ⟨mark, hmem, rfl, hfront, hne⟩ := cut_mark (by omega) htext hwider
      exact .inr ⟨mark, hmem, rfl, hfront, hne⟩

end Courier.Mime
