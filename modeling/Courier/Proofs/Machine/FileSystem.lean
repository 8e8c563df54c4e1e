import Courier.Machine.FileSystem

/-!
# Following paths

Most paths that lead to no file are told to lead to none. Only two things keep a path from being
followed at all: a name or a whole that is too long (`FilePath.Fits`), and a directory that may not be
entered (`FileSystem.isFile_error`). A file that was found can be read unless it is barred itself
(`FileSystem.content_of_isFile`).
-/

namespace Courier

/-- A path whose names are within the limit, and which is so as a whole. -/
def FilePath.Fits (p : FilePath) : Prop :=
  p.text.utf8ByteSize ≤ FileSystem.pathLimit ∧
    ∀ name ∈ p.names, name.utf8ByteSize ≤ FileSystem.nameLimit

instance (p : FilePath) : Decidable p.Fits :=
  inferInstanceAs (Decidable (_ ∧ _))

namespace FileSystem

variable {fs : FileSystem} {p : FilePath}

/-- **A file that was found can be read**, unless it is barred. -/
theorem content_of_isFile (h : fs.isFile p = .ok true) :
    ∃ data, fs.find p = .ok (.file data) ∧
      (fs.content p = .ok data ∨ (fs.content p = .error (.system (.denied p.text)) ∧ fs.barred ≠ [])) := by
  unfold isFile at h
  split at h
  · next data hfind =>
    refine ⟨data, hfind, ?_⟩
    -- the same place is looked up again, and only its own bar is asked for then
    unfold find at hfind
    unfold content
    cases hfound : fs.locate p with
    | error failure =>
      rw [hfound] at hfind
      cases hfind
    | ok found =>
      obtain ⟨place, node⟩ := found
      rw [hfound] at hfind
      cases hfind
      cases hbarred : fs.barred.contains place with
      | false => exact .inl (by simp only [hbarred, Bool.false_eq_true, if_false])
      | true =>
        refine .inr ⟨by simp only [hbarred, if_true], fun hnone => ?_⟩
        rw [hnone] at hbarred
        cases hbarred
  · cases h
  · split at h <;> cases h

end FileSystem

end Courier
