import Courier.Cli
import Courier.Proofs.Action
import Mathlib.Data.List.Forall2

/-!
# Deciding on a command line

Everything on the command line is looked at before anything is sent, part after part. Each part is either
faulty, and then the command ends as called wrongly, or it is not, and then the command goes on
(`Cli.Decides`). Parts that follow each other are faulty if one of them is (`Cli.Decides.bind`), so that it
does not matter where a fault stands. Nothing but notes in the journal is left on the machine either way.

The parts that a command line repeats are pairs. A value is a pair (`Cli.Splits`) or malformed
(`Cli.Malformed`), and what is read of it is decided by that (`Cli.Send.pairOf_decides`).
-/

namespace Courier.Cli

variable {α β : Type}

/-! ## Doing something on the machine -/

variable {act : Act α} {c : Console} {a : α} {m : Machine}

/-- `Shell.onMachine` keeps the result of its action and puts the machine that it leaves into the console. -/
theorem Shell.onMachine_ok (h : act c.machine = .ok a m) :
    Shell.onMachine act c = .ok a { c with machine := m } := by
  unfold Shell.onMachine
  rw [h]

/-- The failure of the action becomes that of the command, with the machine that the action leaves. -/
theorem Shell.onMachine_error {failure : Failure} (h : act c.machine = .error failure m) :
    Shell.onMachine act c = .error (.failure failure) { c with machine := m } := by
  unfold Shell.onMachine
  rw [h]

/-- The console after notes in the journal. -/
def Console.noted (c : Console) (journal : Journal) : Console :=
  { c with machine := { c.machine with journal } }

/-- `Shell.onMachine_ok` for an action that leaves nothing but notes. -/
theorem Shell.onMachine_noted {journal : Journal}
    (h : act c.machine = .ok a { c.machine with journal }) :
    Shell.onMachine act c = .ok a (c.noted journal) := onMachine_ok h

/-! ## Parts of a command -/

/-- The command ends as called wrongly, with no more than notes in the journal. -/
def Rejects (x : Shell α) (c : Console) : Prop :=
  ∃ usage message journal, x c = .error (.misuse usage message) (c.noted journal)

/-- A part of a command ends it as called wrongly if there is a fault. If there is none it goes on with a
result of some kind. -/
def Decides (x : Shell α) (c : Console) (fault : Prop) (result : α → Prop) : Prop :=
  (fault ∧ Rejects x c) ∨ (¬ fault ∧ ∃ a journal, result a ∧ x c = .ok a (c.noted journal))

namespace Decides

variable {x : Shell α} {c : Console} {fault fault' : Prop} {result result' : α → Prop}

theorem rejects (hbad : fault) (h : Rejects x c) : Decides x c fault result := .inl ⟨hbad, h⟩

theorem accepts {a : α} {journal : Journal} (hgood : ¬ fault) (ha : result a)
    (hrun : x c = .ok a (c.noted journal)) : Decides x c fault result :=
  .inr ⟨hgood, a, journal, ha, hrun⟩

/-- `pure` finds no fault, and notes nothing. -/
theorem pure (a : α) (c : Console) : Decides (pure a : Shell α) c False (· = a) :=
  .accepts id rfl rfl

/-- `Decides` may be read under an equivalent fault and a weaker result. -/
theorem imp (h : Decides x c fault result) (hfault : fault ↔ fault')
    (hresult : ∀ a, result a → result' a) : Decides x c fault' result' := by
  rcases h with ⟨hbad, hrejects⟩ | ⟨hgood, a, journal, ha, hrun⟩
  · exact .inl ⟨hfault.mp hbad, hrejects⟩
  · exact .inr ⟨fun hbad => hgood (hfault.mpr hbad), a, journal, hresult a ha, hrun⟩

/-- **Two parts are faulty if one of them is.** -/
theorem bind {f : α → Shell β} {next : β → Prop} (h : Decides x c fault result)
    (hf : ∀ a journal, result a → Decides (f a) (c.noted journal) fault' next) :
    Decides (x >>= f) c (fault ∨ fault') next := by
  rcases h with ⟨hbad, usage, message, journal, hrun⟩ | ⟨hgood, a, journal, ha, hrun⟩
  · -- a fault of the first part keeps the second from being looked at
    exact .inl ⟨.inl hbad, usage, message, journal, Act.bind_run_error hrun⟩
  · have hbind : (x >>= f) c = f a (c.noted journal) := Act.bind_run_ok hrun
    rcases hf a journal ha with ⟨hbad, usage, message, journal', hrun'⟩ |
      ⟨hgood', b, journal', hb, hrun'⟩
    · exact .inl ⟨.inr hbad, usage, message, journal', hbind.trans hrun'⟩
    · refine .inr ⟨?_, b, journal', hb, hbind.trans hrun'⟩
      rintro (hbad | hbad)
      · exact hgood hbad
      · exact hgood' hbad

/-- **A repeated option is faulty if one of its values is**, wherever that stands. A loop takes a step for
each value, whose result tells of no more than the value; `whole` puts together what all of them come to, and
what a step has to find is left by each step. -/
theorem each {γ : Type} {loop : α → List String → Shell α} {step : α → String → Shell α}
    {whole : α → List γ → α} {bad : String → Prop} {good : String → γ → Prop} {ready : α → Prop}
    {files : FileSystem} (hnil : ∀ a, loop a [] = Pure.pure a)
    (hcons : ∀ a v rest, loop a (v :: rest) = step a v >>= fun a => loop a rest)
    (hnone : ∀ a, whole a [] = a) (hmore : ∀ a p ps, whole (whole a [p]) ps = whole a (p :: ps))
    {values : List String}
    (hstep : ∀ v ∈ values, ∀ a c, ready a → c.machine.files = files →
      Decides (step a v) c (bad v) fun a' => ∃ p, good v p ∧ a' = whole a [p] ∧ ready a')
    {a : α} {c : Console} (ha : ready a) (hc : c.machine.files = files) :
    Decides (loop a values) c (∃ v ∈ values, bad v)
      fun a' => ∃ ps, List.Forall₂ good values ps ∧ a' = whole a ps := by
  -- by induction on the values; what has come of those before is in the state that the loop goes on with
  induction values generalizing a c with
  | nil =>
    rw [hnil]
    refine (Decides.pure a c).imp (by simp) ?_
    rintro a rfl
    exact ⟨[], .nil, (hnone a).symm⟩
  | cons v rest ih =>
    rw [hcons]
    have hfirst := hstep v List.mem_cons_self a c ha hc
    refine (hfirst.bind fun a' journal ha' => ?_).imp (List.exists_mem_cons_iff ..).symm fun _ => id
    obtain ⟨p, hp, rfl, hready⟩ := ha'
    have hrest := ih (fun v hv => hstep v (List.mem_cons_of_mem _ hv)) hready
      (c := c.noted journal) hc
    refine hrest.imp Iff.rfl ?_
    rintro a'' ⟨ps, hps, rfl⟩
    exact ⟨p :: ps, .cons hp hps, hmore a p ps⟩

end Decides

/-! ## Pairs -/

/-- A value has the separator, and before its first one a name, which is given without the white space
around it. The rest is what follows, exactly as it stands. -/
def Splits (separator : Char) (value : String) (pair : String × String) : Prop :=
  ∃ before, value.toList = before ++ separator :: pair.2.toList ∧ separator ∉ before ∧
    pair.1 = Text.strip (String.ofList before) ∧ pair.1 ≠ ""

/-- A value lacks the separator, or the name before the first one is blank. -/
def Malformed (separator : Char) (value : String) : Prop :=
  separator ∉ value.toList ∨
    ∃ before rest, value.toList = before ++ separator :: rest ∧ separator ∉ before ∧
      Text.strip (String.ofList before) = ""

variable {separator : Char} {value : String} {pair : String × String}

/-- A name that is empty has no character that is not white space, but `Splits` has one that is not. -/
theorem Splits.name_ne (h : Splits separator value pair) : pair.1 ≠ "" := by
  obtain ⟨before, hvalue, hbefore, hname, hne⟩ := h
  exact hne

/-- `Splits` and `Malformed` exclude each other, as there is one first separator (`Text.cut_append_sep`). -/
theorem Splits.not_malformed (h : Splits separator value pair) : ¬ Malformed separator value := by
  obtain ⟨before, hvalue, hbefore, hname, hne⟩ := h
  rintro (hlacks | ⟨before', rest, hvalue', hbefore', hblank⟩)
  · -- a pair has the separator
    apply hlacks
    rw [hvalue]
    exact List.mem_append_right _ List.mem_cons_self
  · -- both are cut at the same place, so the blank name is the one of the pair
    have hcut : Text.cut separator value.toList = (before', some rest) := by
      rw [hvalue', Text.cut_append_sep hbefore']
    rw [hvalue, Text.cut_append_sep hbefore] at hcut
    cases hcut
    exact hne (hname.trans hblank)

/-- `Text.cut` finds one front before the first separator, and it is that of both. -/
theorem Splits.unique {other : String × String} (h : Splits separator value pair)
    (h' : Splits separator value other) : pair = other := by
  obtain ⟨before, hvalue, hbefore, hname, -⟩ := h
  obtain ⟨before', hvalue', hbefore', hname', -⟩ := h'
  have hcut : Text.cut separator value.toList = (before', some other.2.toList) := by
    rw [hvalue', Text.cut_append_sep hbefore']
  rw [hvalue, Text.cut_append_sep hbefore, Prod.mk.injEq, Option.some.injEq, String.toList_inj] at hcut
  obtain ⟨rfl, hrest⟩ := hcut
  exact Prod.ext (hname.trans hname'.symm) hrest

/-- The pairs of an option are determined by its values. Induction on `List.Forall₂` with `Splits.unique`. -/
theorem Splits.unique_each {values : List String} {pairs others : List (String × String)}
    (h : List.Forall₂ (Splits separator) values pairs)
    (h' : List.Forall₂ (Splits separator) values others) : pairs = others := by
  induction h generalizing others with
  | nil =>
    cases h'
    rfl
  | cons hp hrest ih =>
    cases h' with
    | cons hp' hrest' => rw [hp.unique hp', ih hrest']

namespace Send

/-- **What `pairOf` reads of a value is decided by the value.** By cases on whether the separator is in it
(`Text.cut_append_sep`, `Text.cut_of_not_mem`) and whether the name before it is blank. -/
theorem pairOf_decides (value : String) (separator : Char) (option : String) (c : Console) :
    Decides (pairOf value separator option) c (Malformed separator value) (Splits separator value) := by
  by_cases hmem : separator ∈ value.toList
  · obtain ⟨before, rest, hvalue, hbefore⟩ := List.eq_append_cons_of_mem hmem
    have hcut : Text.cut separator value.toList = (before, some rest) := by
      rw [hvalue, Text.cut_append_sep hbefore]
    by_cases hblank : Text.strip (String.ofList before) = ""
    · apply Decides.rejects (.inr ⟨before, rest, hvalue, hbefore, hblank⟩)
      simp only [pairOf, hcut, if_pos hblank]
      exact ⟨_, _, c.machine.journal, rfl⟩
    -- the name is cut at the first separator and not blank
    · have hsplits : Splits separator value (Text.strip (String.ofList before), String.ofList rest) :=
        ⟨before, by rw [String.toList_ofList, hvalue], hbefore, rfl, hblank⟩
      have hpair : pairOf value separator option =
          pure (Text.strip (String.ofList before), String.ofList rest) := by
        simp only [pairOf, hcut, if_neg hblank]
      rw [hpair]
      exact .accepts hsplits.not_malformed hsplits rfl
  · apply Decides.rejects (.inl hmem)
    simp only [pairOf, Text.cut_of_not_mem hmem]
    exact ⟨_, _, c.machine.journal, rfl⟩

end Send

end Courier.Cli
