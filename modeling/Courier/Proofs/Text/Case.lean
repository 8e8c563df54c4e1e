import Courier.Text.Case
import Mathlib.Data.List.Basic

/-!
# Case beyond ASCII

A text in lower case may be an ASCII word though the text is not: the Kelvin sign becomes a `k`. The tables
say for which letters that happens. A word without any of these letters is the lower-case form of a text
exactly if it is so letter by letter, within ASCII (`lower_eq_iff`); so it is with the upper-case form
(`upper_eq_iff`), where it is the dotless i, the long s and ligatures that become ASCII. Whether a text is
such a word but for case therefore does not depend on which of the forms is compared (`upper_eq_lower`).
-/

namespace Courier.Text

/-! ## Single characters -/

/-- A run takes no character into ASCII, unless to one of some letters. -/
def CaseRun.Avoids (r : CaseRun) (letters : List Char) : Prop :=
  r.last < 0x80 ∨ 0x80 ≤ r.first + r.shift ∨
    (r.first = r.last ∧ Char.ofNat (r.first + r.shift).toNat ∈ letters)

instance (r : CaseRun) (letters : List Char) : Decidable (r.Avoids letters) := by
  unfold CaseRun.Avoids
  infer_instance

/-- A character that does not stand in an ASCII word without certain letters. -/
def Foreign (letters : List Char) (c : Char) : Prop :=
  0x80 ≤ c.toNat ∨ c ∈ letters

instance (letters : List Char) (c : Char) : Decidable (Foreign letters c) := by
  unfold Foreign
  infer_instance

/-- The letters that lower-case forms have of characters beyond ASCII; the first stands for none. -/
def lowered : List Char := ['\x00', 'k']

/-- The letters that upper-case forms have of characters beyond ASCII, at least one in each. -/
def raised : List Char := ['\x00', 'F', 'I', 'S']

theorem lowerRuns_avoid : ∀ r ∈ lowerRuns, r.Avoids lowered := by
  decide +kernel

theorem upperRuns_avoid : ∀ r ∈ upperRuns, r.Avoids raised := by
  decide +kernel

theorem upperExpansions_foreign :
    ∀ e ∈ upperExpansions, ∃ n ∈ e.2, Foreign raised (Char.ofNat n) := by
  decide +kernel

/-- `shiftBy` a table that avoids some letters makes no character beyond ASCII into one of them. By cases on
the run that is found. -/
theorem shiftBy_foreign {table : List CaseRun} {letters : List Char}
    (htable : ∀ r ∈ table, r.Avoids letters) (hnone : '\x00' ∈ letters) {c : Char}
    (hc : 0x80 ≤ c.toNat) :
    Foreign letters (((shiftBy table c.toNat).map Char.ofNat).getD c) := by
  unfold shiftBy
  cases hfind : table.find? (·.covers c.toNat) with
  | none => exact .inl hc
  | some r =>
    show Foreign letters (Char.ofNat (Int.ofNat c.toNat + r.shift).toNat)
    have hcovers := List.find?_some hfind
    simp only [CaseRun.covers, Bool.and_eq_true, decide_eq_true_eq] at hcovers
    obtain ⟨⟨hfirst, hlast⟩, -⟩ := hcovers
    rcases htable r (List.mem_of_find?_eq_some hfind) with hbelow | habove | ⟨hone, hmem⟩
    · omega
    · -- a number that is none of a character stands for the first of the letters
      have hmoved : 0x80 ≤ (Int.ofNat c.toNat + r.shift).toNat := by
        have hcast : (Int.ofNat c.toNat) = (c.toNat : Int) := rfl
        omega
      by_cases hvalid : (Int.ofNat c.toNat + r.shift).toNat.isValidChar
      · left
        unfold Char.ofNat
        rw [dif_pos hvalid]
        exact hmoved
      · right
        unfold Char.ofNat
        rw [dif_neg hvalid]
        exact hnone
    · right
      have hsame : c.toNat = r.first := by omega
      rw [hsame]
      exact hmem

/-- The small form of a character beyond ASCII holds a character that no spelled word has
(`shiftBy_foreign`). -/
theorem lowerChar_foreign {c : Char} (hc : 0x80 ≤ c.toNat) : ∃ d ∈ lowerChar c, Foreign lowered d := by
  unfold lowerChar
  rw [if_neg (Nat.not_lt.mpr hc)]
  split
  · exact ⟨Char.ofNat 0x307, by simp, by decide⟩
  · exact ⟨_, List.mem_singleton_self _, shiftBy_foreign lowerRuns_avoid (by decide) hc⟩

/-- So does its capital form, which may be several characters (`upperExpansions_foreign`). -/
theorem upperChar_foreign {c : Char} (hc : 0x80 ≤ c.toNat) : ∃ d ∈ upperChar c, Foreign raised d := by
  unfold upperChar
  rw [if_neg (Nat.not_lt.mpr hc)]
  split
  · next ns hlookup =>
    obtain ⟨front, back, htable, -⟩ := List.lookup_eq_some_iff.mp hlookup
    have hmem : (c.toNat, ns) ∈ upperExpansions := by
      rw [htable]
      exact List.mem_append_right _ List.mem_cons_self
    obtain ⟨n, hn, hforeign⟩ := upperExpansions_foreign _ hmem
    exact ⟨Char.ofNat n, List.mem_map_of_mem hn, hforeign⟩
  · exact ⟨_, List.mem_singleton_self _, shiftBy_foreign upperRuns_avoid (by decide) hc⟩

/-! ## Whole texts -/

/-- A word that has no character in common with the forms of characters beyond ASCII. -/
def Spelled (letters : List Char) (w : List Char) : Prop :=
  ∀ c ∈ w, ¬ Foreign letters c

instance (letters w : List Char) : Decidable (Spelled letters w) :=
  List.decidableBAll (fun c => ¬ Foreign letters c) w

/-- `Char.toLower` changes ASCII letters alone. -/
theorem toLower_beyond {c : Char} (hc : 0x80 ≤ c.toNat) : c.toLower = c := by
  unfold Char.toLower
  rw [dif_neg]
  rintro ⟨-, hle⟩
  have hle' : c.toNat ≤ 'Z'.toNat := UInt32.le_iff_toNat_le.mp hle
  have hz : 'Z'.toNat = 0x5A := rfl
  omega

theorem toUpper_beyond {c : Char} (hc : 0x80 ≤ c.toNat) : c.toUpper = c := by
  unfold Char.toUpper
  rw [dif_neg]
  rintro ⟨-, hle⟩
  have hle' : c.toNat ≤ 'z'.toNat := UInt32.le_iff_toNat_le.mp hle
  have hz : 'z'.toNat = 0x7A := rfl
  omega

variable {w : List Char}

/-- A spelled word has no character beyond ASCII, so a text with one is not spelled by a map that leaves it.
-/
theorem map_ne_of_beyond {letters : List Char} (hw : Spelled letters w) {f : Char → Char} {c : Char}
    (hc : 0x80 ≤ c.toNat) (hf : f c = c) (rest : List Char) : ¬ (c :: rest).map f = w := by
  intro heq
  have hmem : c ∈ w := by
    rw [← heq, List.map_cons, hf]
    exact List.mem_cons_self
  exact hw c hmem (.inl hc)

/-- A text in lower case is a spelled word exactly if it is so letter by letter. By induction on the text; a
character beyond ASCII has no part in such a word, whichever of the forms is taken. -/
theorem lowerFrom_eq_iff (hw : Spelled lowered w) (before cs : List Char) :
    lowerFrom before cs = w ↔ cs.map Char.toLower = w := by
  induction cs generalizing before w with
  | nil => rfl
  | cons c rest ih =>
    by_cases hc : c.toNat < 0x80
    · have hsigma : c.toNat ≠ 0x3A3 := by omega
      rw [lowerFrom, if_neg hsigma, lowerChar_of_ascii hc, List.map_cons, List.singleton_append]
      cases w with
      | nil => simp
      | cons d w =>
        rw [List.cons.injEq, List.cons.injEq, ih fun d hd => hw d (List.mem_cons_of_mem _ hd)]
    · have hbeyond : 0x80 ≤ c.toNat := Nat.le_of_not_lt hc
      have hlower : ¬ lowerFrom before (c :: rest) = w := by
        intro heq
        rw [lowerFrom] at heq
        split at heq
        · -- either form of a small sigma is beyond ASCII
          have hmem : ∀ d, d :: lowerFrom (c :: before) rest = w → d ∈ w := by
            rintro d rfl
            exact List.mem_cons_self
          apply hw _ (hmem _ heq)
          split <;> decide
        · obtain ⟨d, hd, hforeign⟩ := lowerChar_foreign hbeyond
          refine hw d ?_ hforeign
          rw [← heq]
          exact List.mem_append_left _ hd
      exact iff_of_false hlower (map_ne_of_beyond hw hbeyond (toLower_beyond hbeyond) rest)

/-- A text in capitals is a spelled word exactly if it is so letter by letter. Induction on the text, for any
word. -/
theorem flatMap_upperChar_eq_iff (hw : Spelled raised w) (cs : List Char) :
    cs.flatMap upperChar = w ↔ cs.map Char.toUpper = w := by
  induction cs generalizing w with
  | nil => rfl
  | cons c rest ih =>
    rw [List.flatMap_cons]
    by_cases hc : c.toNat < 0x80
    · rw [upperChar_of_ascii hc, List.map_cons, List.singleton_append]
      cases w with
      | nil => simp
      | cons d w =>
        rw [List.cons.injEq, List.cons.injEq, ih fun d hd => hw d (List.mem_cons_of_mem _ hd)]
    · have hbeyond : 0x80 ≤ c.toNat := Nat.le_of_not_lt hc
      -- beyond ASCII the upper form holds a character that `w` does not
      have hupper : ¬ upperChar c ++ rest.flatMap upperChar = w := by
        intro heq
        obtain ⟨d, hd, hforeign⟩ := upperChar_foreign hbeyond
        refine hw d ?_ hforeign
        rw [← heq]
        exact List.mem_append_left _ hd
      exact iff_of_false hupper (map_ne_of_beyond hw hbeyond (toUpper_beyond hbeyond) rest)

/-- **A text in lower case is a spelled word exactly if it is so within ASCII.** -/
theorem lower_eq_iff (hw : Spelled lowered w) (s : String) :
    lower s = String.ofList w ↔ s.toList.map Char.toLower = w := by
  unfold lower
  rw [String.ofList_inj, lowerFrom_eq_iff hw]

/-- **So it is with the upper-case form.** -/
theorem upper_eq_iff (hw : Spelled raised w) (s : String) :
    upper s = String.ofList w ↔ s.toList.map Char.toUpper = w := by
  unfold upper
  rw [String.ofList_inj, flatMap_upperChar_eq_iff hw]

/-! ## One form and the other -/

/-- ASCII is finite, so `decide` can go through it; what is beyond is argued for. -/
theorem forall_ascii_or_beyond {p : Char → Prop} (hascii : ∀ n < 0x80, p (Char.ofNat n))
    (hbeyond : ∀ c, 0x80 ≤ c.toNat → p c) (c : Char) : p c := by
  by_cases hc : c.toNat < 0x80
  · have h := hascii c.toNat hc
    rwa [Char.ofNat_toNat] at h
  · exact hbeyond c (Nat.le_of_not_lt hc)

theorem toUpper_toLower (c : Char) : c.toLower.toUpper = c.toUpper :=
  forall_ascii_or_beyond (p := fun c => c.toLower.toUpper = c.toUpper) (by decide)
    (fun c hc => by rw [toLower_beyond hc]) c

theorem toLower_toUpper (c : Char) : c.toUpper.toLower = c.toLower :=
  forall_ascii_or_beyond (p := fun c => c.toUpper.toLower = c.toLower) (by decide)
    (fun c hc => by rw [toUpper_beyond hc]) c

/-- `Char.toLower` and `Char.toUpper` undo each other but for case, so either tells the word. -/
theorem map_toLower_eq_iff (hsmall : w.map Char.toLower = w) (cs : List Char) :
    cs.map Char.toLower = w ↔ cs.map Char.toUpper = w.map Char.toUpper := by
  constructor
  · rintro rfl
    rw [List.map_map]
    exact List.map_congr_left fun c _ => (toUpper_toLower c).symm
  · intro h
    have hlower := congrArg (List.map Char.toLower) h
    rw [List.map_map, List.map_map] at hlower
    have hback : ∀ l : List Char, l.map (Char.toLower ∘ Char.toUpper) = l.map Char.toLower :=
      fun l => List.map_congr_left fun c _ => toLower_toUpper c
    rw [hback, hback, hsmall] at hlower
    exact hlower

/-- **Both forms tell the same words.** -/
theorem lower_iff_upper (hsmall : w.map Char.toLower = w) (hlowered : Spelled lowered w)
    (hraised : Spelled raised (w.map Char.toUpper)) (s : String) :
    lower s = String.ofList w ↔ upper s = String.ofList (w.map Char.toUpper) := by
  rw [lower_eq_iff hlowered, upper_eq_iff hraised, map_toLower_eq_iff hsmall]

/-- Two texts are the same but for case: they have the same form in small letters, or in capitals. -/
def Recased (s t : String) : Prop :=
  lower s = lower t ∨ upper s = upper t

end Courier.Text
