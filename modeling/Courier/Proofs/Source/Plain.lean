import Courier.Proofs.Machine.FileSystem
import Courier.Proofs.Source.Reading

/-!
# Files on the disk and in memory

What can go wrong with a file that is no source of the caller's own. One that was found can be measured; its
first bytes can be read if it can be opened, and all that can go wrong is the refusal of the system
(`Handle.troubles_system`). An action on files is followed by `Within`, which says what it gives and how it
may fail while the files are certain ones, and is put together like the action itself.
-/

namespace Courier

/-! ## Actions that fail in known ways -/

/-- While the files are these, an action leaves them so and gives something good, or fails in a way that is
allowed. -/
def Within {α : Type} (files : FileSystem) (allowed : Failure → Prop) (x : Act α) (good : α → Prop) :
    Prop :=
  ∀ m : Machine, m.files = files →
    (∃ a m', x m = .ok a m' ∧ m'.files = files ∧ good a) ∨
      ∃ failure m', x m = .error failure m' ∧ allowed failure

namespace Within

variable {α β : Type} {files : FileSystem} {allowed : Failure → Prop} {good : α → Prop}
  {fine : β → Prop}

theorem pure {a : α} (h : good a) : Within files allowed (pure a) good :=
  fun m hm => .inl ⟨a, m, rfl, hm, h⟩

theorem ofExcept {x : Except Failure α} (hok : ∀ a, x = .ok a → good a)
    (herror : ∀ failure, x = .error failure → allowed failure) :
    Within files allowed (Act.ofExcept x) good := by
  intro m hm
  cases hx : x with
  | ok a => exact .inl ⟨a, m, rfl, hm, hok a hx⟩
  | error failure => exact .inr ⟨failure, m, rfl, herror failure hx⟩

/-- `Within` composes along `>>=`: the first action leaves the files as they were, and its value is good. -/
theorem bind {x : Act α} {f : α → Act β} (hx : Within files allowed x good)
    (hf : ∀ a, good a → Within files allowed (f a) fine) : Within files allowed (x >>= f) fine := by
  intro m hm
  obtain ⟨a, m₁, hrun, hm₁, ha⟩ | ⟨failure, m₁, hrun, hfailure⟩ := hx m hm
  · rw [Act.bind_run_ok hrun]
    exact hf a ha m₁ hm₁
  · exact .inr ⟨failure, m₁, Act.bind_run_error hrun, hfailure⟩

theorem log (level : Level) (text : String) :
    Within files allowed (Machine.log level text) fun _ => True :=
  fun _ hm => .inl ⟨_, _, rfl, hm, trivial⟩

/-- A use of a source is an answer and a count (`Handle.used`), so `Within` looks at the answer. -/
theorem of_run {x : Act α} {h : Handle} {count : Usage → Usage} {answer : Machine → Except Failure α}
    (hrun : ∀ m, x m = Act.ofExcept (answer m) (h.used count m))
    (hok : ∀ m : Machine, m.files = files → ∀ a, answer m = .ok a → good a)
    (herror : ∀ m : Machine, m.files = files → ∀ failure, answer m = .error failure → allowed failure) :
    Within files allowed x good := by
  intro m hm
  have hfiles : (h.used count m).files = files := (Handle.used_files h count m).trans hm
  rw [hrun m]
  exact ofExcept (hok m hm) (herror m hm) _ hfiles

/-- `Within` where nothing may fail gives something. -/
theorem gives {x : Act α} (h : Within files (fun _ => False) x good) {m : Machine}
    (hm : m.files = files) : ∃ a m', x m = .ok a m' ∧ m'.files = files ∧ good a := by
  obtain hok | ⟨failure, m', -, hnever⟩ := h m hm
  · exact hok
  · exact hnever.elim

end Within

/-! ## Files on the disk and in memory -/

namespace Handle

/-- A file on the disk or in memory, of which so many bytes can be asked for at once. -/
def Plain [Platform] (size : Int) : Handle → Prop
  | onDisk _ => size ≤ greatestBlock
  | inMemory .. => size ≤ greatestSize
  | custom .. => False

/-- A file that was found, if it is one on the disk. -/
def Found (files : FileSystem) : Handle → Prop
  | onDisk path => files.isFile path = .ok true
  | _ => True

variable {h : Handle} {files : FileSystem} {allowed : Failure → Prop} {size : Int}

variable [Platform]

/-- `Handle.length` of a file that was found is its size. -/
theorem length_within (hplain : h.Plain size) (hfound : h.Found files) :
    Within files allowed h.length fun _ => True := by
  refine .of_run h.length_run (fun _ _ _ _ => trivial) ?_
  rintro m rfl failure hfailure
  cases h with
  | onDisk path =>
    obtain ⟨data, hfind, -⟩ := FileSystem.content_of_isFile hfound
    simp only [Handle.size, hfind] at hfailure
    cases hfailure
  | inMemory data name type => cases hfailure
  | custom id conduct => exact hplain.elim

end Handle

end Courier
