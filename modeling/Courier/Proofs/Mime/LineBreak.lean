import Courier.Mime.Sniff
import Courier.Text.Split
import Mathlib.Data.List.TakeDrop

/-!
# Types without a line break

The types that signatures, extensions and the looks of a text tell are listed, and none of them holds a
line break (those of extensions by `Platform.types_unbroken`). A name that has the form of an address with
its content in it (`Mime.IsDataAddress`) declares a type of its own, which is a piece of the name. So a type
that was sniffed holds a line break only if the name is such an address and does (`Mime.sniff_unbroken`).
-/

namespace Courier

namespace Text

/-- What `Text.cut` puts in front of the separator is a part of the whole. -/
theorem mem_of_mem_cut {sep c : Char} {l : List Char} (h : c ∈ (cut sep l).1) : c ∈ l := by
  induction l with
  | nil => cases h
  | cons a rest ih =>
    unfold cut at h
    split at h
    · cases h
    · rcases List.mem_cons.mp h with rfl | h
      · exact List.mem_cons_self
      · exact List.mem_cons_of_mem _ (ih h)

/-- A text that holds neither character of a line break. -/
def Unbroken (text : String) : Prop := '\r' ∉ text.toList ∧ '\n' ∉ text.toList

instance (text : String) : Decidable (Unbroken text) :=
  inferInstanceAs (Decidable (_ ∧ _))

end Text

namespace Mime

open Text (Unbroken)

/-! ## Listed types -/

/-- Whether no character of a text is a control character. -/
def isPlain (text : String) : Bool := text.toList.all fun c => 32 ≤ c.toNat

/-- Carriage return and line feed are control characters. -/
theorem unbroken_of_isPlain {text : String} (h : isPlain text = true) : Unbroken text := by
  have hplain : ∀ c ∈ text.toList, 32 ≤ c.toNat := fun c hc =>
    of_decide_eq_true (List.all_eq_true.mp h c hc)
  exact ⟨fun hc => absurd (hplain _ hc) (by decide), fun hc => absurd (hplain _ hc) (by decide)⟩

/-- A table that is all plain has unbroken entries; whether it is can be decided once. -/
theorem unbroken_of_mem {κ : Type} {table : List (κ × String)}
    (htable : (table.all fun entry => isPlain entry.2) = true) {entry : κ × String}
    (h : entry ∈ table) : Unbroken entry.2 :=
  unbroken_of_isPlain (List.all_eq_true.mp htable entry h)

theorem unbroken_of_lookup {κ : Type} [BEq κ] [LawfulBEq κ] {table : List (κ × String)}
    (htable : (table.all fun entry => isPlain entry.2) = true) {key : κ} {type : String}
    (h : table.lookup key = some type) : Unbroken type := by
  obtain ⟨front, back, rfl, -⟩ := List.lookup_eq_some_iff.mp h
  have hmem : (key, type) ∈ front ++ (key, type) :: back :=
    List.mem_append_right _ List.mem_cons_self
  exact unbroken_of_mem htable hmem

section Extension

variable [Platform]

/-- The registered types are the platform's and have its law; the common ones are looked through. -/
theorem typeOfExtension_unbroken {extension : List Char} {type : String}
    (h : typeOfExtension extension = some type) : Unbroken type := by
  have hcommon : (commonTypes.all fun entry => isPlain entry.2) = true := by decide +kernel
  simp only [typeOfExtension] at h
  cases hfound : Platform.types.lookup (Text.lower (String.ofList extension)) with
  | some found =>
    rw [hfound] at h
    cases h
    -- the registered types are those of the platform, whose law says it of them
    obtain ⟨front, back, htypes, -⟩ := List.lookup_eq_some_iff.mp hfound
    exact Platform.types_unbroken _ (htypes ▸ List.mem_append_right _ List.mem_cons_self)
  | none =>
    rw [hfound] at h
    exact unbroken_of_lookup hcommon h

/-- `typeOfPath` is `typeOfExtension` of one extension or another. -/
theorem typeOfPath_unbroken {path : List Char} {type : String} (h : typeOfPath path = some type) :
    Unbroken type := by
  obtain ⟨extension, hextension⟩ : ∃ extension, typeOfPath path = typeOfExtension extension := by
    unfold typeOfPath
    split
    split
    split
    · exact ⟨_, rfl⟩
    · exact ⟨_, rfl⟩
  exact typeOfExtension_unbroken (hextension ▸ h)

end Extension

/-- `riffType` looks its type up in `riffFormats`. -/
theorem riffType_unbroken {start : Bytes} {type : String} (h : riffType start = some type) :
    Unbroken type := by
  have hformats : (riffFormats.all fun entry => isPlain entry.2) = true := by decide +kernel
  unfold riffType at h
  split at h
  · exact unbroken_of_lookup hformats h
  · cases h

/-- By cases of `typeOfSignature`: the table of signatures, a container, or a video. -/
theorem typeOfSignature_unbroken {start : Bytes} {type : String}
    (h : typeOfSignature start = some type) : Unbroken type := by
  -- a type that is sniffed is one of the tables', none of which holds a line break
  have hsignatures : (signatures.all fun entry => isPlain entry.2) = true := by decide +kernel
  have hvideo : Unbroken "video/mp4" := by decide +kernel
  unfold typeOfSignature at h
  split at h
  · next start' found hfind =>
    cases h
    exact unbroken_of_mem hsignatures (List.mem_of_find?_eq_some hfind)
  · split at h
    · next found hriff =>
      cases h
      exact riffType_unbroken hriff
    · split at h
      · cases h
        exact hvideo
      · cases h

/-- `typeOfText` tells one of three types. -/
theorem typeOfText_unbroken {start : Bytes} {type : String}
    (h : typeOfText start = some type) : Unbroken type := by
  -- text is sniffed as one of three types
  have hlisted : ∀ t ∈ ["application/xml", "text/html", "application/json"], Unbroken t := by
    decide +kernel
  refine hlisted type ?_
  unfold typeOfText at h
  simp only at h
  split at h
  · cases h
    exact List.mem_cons_self
  · split at h
    · cases h
      exact List.mem_cons_of_mem _ List.mem_cons_self
    · split at h
      · cases h
        exact List.mem_cons_of_mem _ (List.mem_cons_of_mem _ List.mem_cons_self)
      · cases h

/-! ## Types that a name declares -/

/-- `splitScheme` gives a piece of the name. -/
theorem splitScheme_rest {name : List Char} {c : Char} (h : c ∈ (splitScheme name).2) : c ∈ name := by
  unfold splitScheme at h
  split at h
  · next scheme rest hspan =>
    split at h
    · exact h
    · rw [List.span_eq_takeWhile_dropWhile, Prod.mk.injEq] at hspan
      have hrest : c ∈ name.dropWhile fun c => c ≠ ':' && c ≠ '/' :=
        hspan.2 ▸ List.mem_cons_of_mem _ h
      exact (List.dropWhile_sublist _).subset hrest
  · exact h

/-- `typeOfData` gives a piece of the address, or the usual type. -/
theorem typeOfData_unbroken {address : List Char} {type : String}
    (haddress : '\r' ∉ address ∧ '\n' ∉ address) (h : typeOfData address = some type) :
    Unbroken type := by
  have hplain : Unbroken "text/plain" := by decide
  unfold typeOfData at h
  split at h
  · cases h
  · next front rest hcut =>
    simp only at h
    split at h
    · cases h
      exact hplain
    · -- the declared type is a piece of the address
      cases h
      have hfront : front = (Text.cut ',' address).1 := by rw [hcut]
      have hpiece : ∀ c, c ∈ (Text.cut ';' front).1 → c ∈ address := fun c hc =>
        Text.mem_of_mem_cut (hfront ▸ Text.mem_of_mem_cut hc)
      unfold Unbroken
      rw [String.toList_ofList]
      exact ⟨fun hc => haddress.1 (hpiece _ hc), fun hc => haddress.2 (hpiece _ hc)⟩

/-- A name of the form `data:…`: that of an address with its content in it. -/
def IsDataAddress (name : String) : Prop :=
  ∃ scheme rest, splitScheme name.toList = (some scheme, rest) ∧
    Text.lower (String.ofList scheme) = "data"

variable [Platform]

/-- By the cases of `typeOfName`: only an address with its content in it tells a type that is not listed. -/
theorem typeOfName_unbroken {name type : String} (hname : IsDataAddress name → Unbroken name)
    (h : typeOfName name = some type) : Unbroken type := by
  unfold typeOfName at h
  split at h
  · next scheme rest hsplit =>
    split at h
    · next hdata =>
      obtain ⟨hreturn, hfeed⟩ := hname ⟨scheme, rest, hsplit, hdata⟩
      have hpiece : ∀ c, c ∈ rest → c ∈ name.toList := fun c hc =>
        splitScheme_rest (by rw [hsplit]; exact hc)
      exact typeOfData_unbroken ⟨fun hc => hreturn (hpiece _ hc), fun hc => hfeed (hpiece _ hc)⟩ h
    · exact typeOfPath_unbroken h
  · exact typeOfPath_unbroken h

/-- **A type that was sniffed holds no line break**, unless the name is an address with its content in it that
holds one. -/
theorem sniff_unbroken {start : Bytes} {name type : String} (hname : IsDataAddress name → Unbroken name)
    (h : sniff start (some name) = some type) : Unbroken type := by
  unfold sniff typeOfName? at h
  rcases Option.or_eq_some_iff.mp h with h | ⟨-, h⟩
  · exact typeOfSignature_unbroken h
  · rcases Option.or_eq_some_iff.mp h with h | ⟨-, h⟩
    · simp only at h
      split at h
      · cases h
      · exact typeOfName_unbroken hname h
    · exact typeOfText_unbroken h

end Mime

end Courier
