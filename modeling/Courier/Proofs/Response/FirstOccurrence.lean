import Mathlib.Data.List.Basic

/-!
# Each element once

`List.eraseDups` keeps of each element the first occurrence. What it keeps is told by three facts
(`EachOnce`): no element stands twice, none is lost, and they stand in the order in which they first occur. To
put elements at the end of a list unless they are there already comes to the same (`insertNew_eraseDups`), and
to leave some elements out may be done before or after (`eraseDups_filter`).
-/

namespace Courier

variable {α : Type} [DecidableEq α]

/-- The elements of a list, each once, in the order in which they first occur. -/
structure EachOnce (elements once : List α) : Prop where
  nodup : once.Nodup
  mem_iff : ∀ a, a ∈ once ↔ a ∈ elements
  ordered : once.Pairwise fun a b => elements.idxOf a < elements.idxOf b

/-- `List.filter` does not change the order of what it leaves. Induction on the list. -/
theorem idxOf_lt_of_filter {p : α → Bool} {a b : α} (ha : p a = true) (hb : p b = true) {l : List α}
    (h : (l.filter p).idxOf a < (l.filter p).idxOf b) : l.idxOf a < l.idxOf b := by
  induction l with
  | nil => exact h
  | cons c rest ih =>
    by_cases hc : p c = true
    · rw [List.filter_cons_of_pos hc] at h
      by_cases hca : c = a
      · subst hca
        -- `a` comes first, and `b` is another element since it comes later in the filtered list
        have hcb : c ≠ b := by
          rintro rfl
          exact Nat.lt_irrefl _ h
        rw [List.idxOf_cons_self, List.idxOf_cons_ne _ hcb]
        exact Nat.succ_pos _
      · by_cases hcb : c = b
        · subst hcb
          rw [List.idxOf_cons_self] at h
          exact absurd h (Nat.not_lt_zero _)
        · rw [List.idxOf_cons_ne _ hca, List.idxOf_cons_ne _ hcb] at h
          rw [List.idxOf_cons_ne _ hca, List.idxOf_cons_ne _ hcb]
          exact Nat.succ_lt_succ (ih (Nat.lt_of_succ_lt_succ h))
    · rw [List.filter_cons_of_neg hc] at h
      -- `c` is filtered out, so it is neither of the two
      have hca : c ≠ a := fun heq => hc (heq ▸ ha)
      have hcb : c ≠ b := fun heq => hc (heq ▸ hb)
      rw [List.idxOf_cons_ne _ hca, List.idxOf_cons_ne _ hcb]
      exact Nat.succ_lt_succ (ih h)

theorem length_filter_ne_lt (a : α) (rest : List α) :
    (rest.filter fun b => !b == a).length < (a :: rest).length :=
  Nat.lt_succ_of_le (List.length_filter_le _ _)

/-- **Keeping the first occurrences keeps each element once**, in order. By induction on the length of the
list, since the head is taken out of all that follows it. -/
theorem eachOnce_eraseDups (l : List α) : EachOnce l l.eraseDups := by
  generalize hlen : l.length = n
  induction n using Nat.strongRecOn generalizing l with
  | _ n ih =>
    cases l with
    | nil => exact ⟨List.Pairwise.nil, fun _ => Iff.rfl, List.Pairwise.nil⟩
    | cons a rest =>
      have hrest := ih _ (hlen ▸ length_filter_ne_lt a rest) (rest.filter fun b => !b == a) rfl
      -- the copies of `a` are filtered from the rest, and the order of the others is that of the filtered
      -- list
      have hother : ∀ b ∈ (rest.filter fun b => !b == a).eraseDups, b ≠ a := by
        intro b hb
        have hfilter := (List.mem_filter.mp ((hrest.mem_iff b).mp hb)).2
        simpa using hfilter
      refine ⟨?_, fun b => List.mem_eraseDups, ?_⟩
      · rw [List.eraseDups_cons, List.nodup_cons]
        exact ⟨fun ha => hother a ha rfl, hrest.nodup⟩
      · rw [List.eraseDups_cons, List.pairwise_cons]
        refine ⟨fun b hb => ?_, hrest.ordered.imp_of_mem fun {b c} hb hc hlt => ?_⟩
        · rw [List.idxOf_cons_self, List.idxOf_cons_ne _ (hother b hb).symm]
          exact Nat.succ_pos _
        · rw [List.idxOf_cons_ne _ (hother b hb).symm, List.idxOf_cons_ne _ (hother c hc).symm]
          exact Nat.succ_lt_succ
            (idxOf_lt_of_filter (by simpa using hother b hb) (by simpa using hother c hc) hlt)

/-- An element is put at the end unless it is there. -/
def insertNew (l : List α) (a : α) : List α :=
  if a ∈ l then l else l ++ [a]

/-- **To insert what is not there is to keep first occurrences.** -/
theorem insertNew_eraseDups (l : List α) (a : α) :
    insertNew l.eraseDups a = (l ++ [a]).eraseDups := by
  unfold insertNew
  rw [List.eraseDups_append, List.cons_removeAll]
  by_cases ha : a ∈ l
  · rw [if_pos (List.mem_eraseDups.mpr ha), if_neg (by simpa using ha)]
    exact (List.append_nil _).symm
  · rw [if_neg (mt List.mem_eraseDups.mp ha), if_pos (by simpa using ha)]
    rfl

/-- `List.eraseDups` finds nothing new in a list after itself. -/
theorem eraseDups_append_self (l : List α) : (l ++ l).eraseDups = l.eraseDups := by
  have hnone : l.removeAll l = [] := by
    unfold List.removeAll
    rw [List.filter_eq_nil_iff]
    intro a ha
    simpa using ha
  rw [List.eraseDups_append, hnone, List.eraseDups_nil, List.append_nil]

/-- **Leaving out elements and keeping first occurrences do not depend on each other.** -/
theorem eraseDups_filter (p : α → Bool) (l : List α) :
    (l.filter p).eraseDups = l.eraseDups.filter p := by
  generalize hlen : l.length = n
  induction n using Nat.strongRecOn generalizing l with
  | _ n ih =>
    cases l with
    | nil => rfl
    | cons a rest =>
      have hrest := ih _ (hlen ▸ length_filter_ne_lt a rest) (rest.filter fun b => !b == a) rfl
      have hcomm : (rest.filter p).filter (fun b => !b == a) = (rest.filter fun b => !b == a).filter p := by
        rw [List.filter_filter, List.filter_filter]
        exact List.filter_congr fun b _ => Bool.and_comm _ _
      rw [List.eraseDups_cons]
      by_cases ha : p a = true
      · rw [List.filter_cons_of_pos ha, List.filter_cons_of_pos ha, List.eraseDups_cons, hcomm, hrest]
      · rw [List.filter_cons_of_neg ha, List.filter_cons_of_neg ha, ← hrest, ← hcomm]
        -- the element that is left out anyway is not among those that stay
        congr 1
        refine (List.filter_eq_self.mpr fun b hb => ?_).symm
        have hb' := (List.mem_filter.mp hb).2
        have hne : b ≠ a := fun heq => ha (heq ▸ hb')
        simpa using hne

end Courier
