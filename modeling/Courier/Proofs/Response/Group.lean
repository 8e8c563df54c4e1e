import Courier.Proofs.Response.FirstOccurrence
import Courier.Response
import Mathlib.Algebra.GroupWithZero.Nat

/-!
# The headers of a response by name

The groups of a list of headers are its names, each once, in the order of their first appearance, and under each
name the values that were sent under it, in order (`groupsOf`). A response forms them header by header: one more
header adds its value to the group of its name, or begins a group (`insertValue_groupsOf`), and one more value
stands in the groups (`length_insertValue`). Whether headers are left out before they are grouped, or their groups
afterwards, is the same (`groupsOf_filter`). Main statement: `Response.headerGroups_lossless`.
-/

namespace Courier

namespace Response

/-- The values that are sent under a name. -/
def valuesOf (headers : Net.Headers) (name : String) : List String :=
  (headers.filter fun h => h.1 = name).map Prod.snd

/-- The names of headers, each once, with the values that are sent under it. -/
def groupsOf (headers : Net.Headers) : List (String × List String) :=
  (headers.map Prod.fst).eraseDups.map fun name => (name, valuesOf headers name)

/-! ## One more header -/

theorem valuesOf_append (headers : Net.Headers) (sent value name : String) :
    valuesOf (headers ++ [(sent, value)]) name =
      if name = sent then valuesOf headers name ++ [value] else valuesOf headers name := by
  unfold valuesOf
  rw [List.filter_append, List.map_append]
  by_cases hname : name = sent
  · subst hname
    simp
  · rw [if_neg hname, List.filter_cons_of_neg (by simpa using Ne.symm hname)]
    simp

/-- `insertValue` adds the value to the group of its name, or begins a group. Induction on the names, none of
which comes twice. -/
theorem insertValue_map (names : List String) (hnodup : names.Nodup) (values : String → List String)
    (sent value : String) :
    insertValue (names.map fun name => (name, values name)) sent value =
      if sent ∈ names then
        names.map fun name => (name, if name = sent then values name ++ [value] else values name)
      else names.map (fun name => (name, values name)) ++ [(sent, [value])] := by
  induction names with
  | nil => rfl
  | cons name rest ih =>
    obtain ⟨hnew, hrest⟩ := List.nodup_cons.mp hnodup
    rw [List.map_cons, insertValue]
    by_cases hname : name = sent
    · subst hname
      -- no other group has the name
      have hothers : ∀ other ∈ rest, (other, values other) =
          (other, if other = name then values other ++ [value] else values other) := by
        intro other hother
        have hne : other ≠ name := fun heq => hnew (heq ▸ hother)
        rw [if_neg hne]
      rw [if_pos rfl, if_pos List.mem_cons_self, List.map_cons, if_pos rfl, List.map_congr_left hothers]
    · have hmem : sent ∈ name :: rest ↔ sent ∈ rest := by simp [Ne.symm hname]
      rw [if_neg hname, ih hrest]
      by_cases hsent : sent ∈ rest
      · rw [if_pos hsent, if_pos (hmem.mpr hsent), List.map_cons, if_neg hname]
      · rw [if_neg hsent, if_neg (mt hmem.mp hsent)]
        rfl

theorem valuesOf_eq_nil {headers : Net.Headers} {name : String} (h : name ∉ headers.map Prod.fst) :
    valuesOf headers name = [] := by
  unfold valuesOf
  rw [List.map_eq_nil_iff, List.filter_eq_nil_iff]
  intro header hheader hname
  exact h (List.mem_map.mpr ⟨header, hheader, by simpa using hname⟩)

/-- **One more header adds its value to the group of its name.** -/
theorem insertValue_groupsOf (headers : Net.Headers) (sent value : String) :
    insertValue (groupsOf headers) sent value = groupsOf (headers ++ [(sent, value)]) := by
  have hnames := insertNew_eraseDups (headers.map Prod.fst) sent
  -- the names grow by `sent` at most, and only the group of `sent` takes the value
  have hgroups : groupsOf (headers ++ [(sent, value)]) =
      (insertNew (headers.map Prod.fst).eraseDups sent).map fun name =>
        (name, if name = sent then valuesOf headers name ++ [value] else valuesOf headers name) := by
    unfold groupsOf
    rw [hnames, List.map_append, List.map_singleton]
    simp only [valuesOf_append]
  rw [hgroups]
  unfold groupsOf insertNew
  rw [insertValue_map _ (eachOnce_eraseDups _).nodup]
  by_cases hsent : sent ∈ (headers.map Prod.fst).eraseDups
  · rw [if_pos hsent, if_pos hsent]
  · rw [if_neg hsent, if_neg hsent, List.map_append, List.map_singleton, if_pos rfl]
    have hothers : ∀ name ∈ (headers.map Prod.fst).eraseDups, (name, valuesOf headers name) =
        (name, if name = sent then valuesOf headers name ++ [value] else valuesOf headers name) := by
      intro name hname
      have hne : name ≠ sent := fun heq => hsent (heq ▸ hname)
      rw [if_neg hne]
    rw [List.map_congr_left hothers, valuesOf_eq_nil (mt List.mem_eraseDups.mpr hsent), List.nil_append]

/-- More headers extend the groups. Induction on them with `insertValue_groupsOf`. -/
theorem foldl_insertValue (headers more : Net.Headers) :
    more.foldl (fun groups h => insertValue groups h.1 h.2) (groupsOf headers) =
      groupsOf (headers ++ more) := by
  induction more generalizing headers with
  | nil => rw [List.append_nil]; rfl
  | cons header rest ih =>
    rw [List.foldl_cons, insertValue_groupsOf, ih, List.append_assoc]
    rfl

/-- **The groups of a response are those of the headers that are wanted.** -/
theorem headerGroups_eq (r : Response) (wanted : Option String) :
    r.headerGroups wanted = groupsOf (r.headers.filter fun h => isWanted wanted h.1) := by
  unfold headerGroups
  rw [← List.foldl_filter]
  exact foldl_insertValue [] _

/-! ## Wanted names -/

/-- `valuesOf` a wanted name does not see that others are left out. -/
theorem valuesOf_filter (p : String → Bool) (headers : Net.Headers) {name : String} (h : p name = true) :
    valuesOf (headers.filter fun header => p header.1) name = valuesOf headers name := by
  unfold valuesOf
  rw [List.filter_filter]
  refine congrArg _ (List.filter_congr fun header _ => ?_)
  by_cases hname : header.1 = name
  · simp [hname, h]
  · simp [hname]

/-- **Leaving out names before grouping is leaving out their groups.** -/
theorem groupsOf_filter (p : String → Bool) (headers : Net.Headers) :
    groupsOf (headers.filter fun header => p header.1) = (groupsOf headers).filter fun group => p group.1 := by
  have hnames : (headers.filter fun header => p header.1).map Prod.fst =
      (headers.map Prod.fst).filter p := by
    rw [List.filter_map]
    rfl
  unfold groupsOf
  rw [hnames, eraseDups_filter, List.filter_map]
  refine List.map_congr_left fun name hname => ?_
  rw [valuesOf_filter p headers (List.mem_filter.mp hname).2]

/-! ## Nothing is lost -/

/-- How many values stand in groups. -/
def count (groups : List (String × List String)) : Nat :=
  (groups.map fun group => group.2.length).sum

/-- **One more header is one more value.** -/
theorem count_insertValue (groups : List (String × List String)) (name value : String) :
    count (insertValue groups name value) = count groups + 1 := by
  induction groups with
  | nil => rfl
  | cons group rest ih =>
    unfold insertValue
    split
    · simp [count]
      omega
    · simp only [count, List.map_cons, List.sum_cons] at ih ⊢
      omega

/-- Each header is one value more. Induction on the headers with `count_insertValue`. -/
theorem count_foldl (groups : List (String × List String)) (headers : Net.Headers) :
    count (headers.foldl (fun groups h => insertValue groups h.1 h.2) groups) =
      count groups + headers.length := by
  induction headers generalizing groups with
  | nil => rfl
  | cons header rest ih =>
    rw [List.foldl_cons, ih, count_insertValue, List.length_cons]
    omega

/-! ## All headers and those of one name -/

theorem isWanted_none (name : String) : isWanted none name = true := rfl

/-- `isWanted` compares the names in lower case; an empty wish wants all. -/
theorem isWanted_some {wanted : String} (h : wanted ≠ "") (name : String) :
    isWanted (some wanted) name = decide (Text.lower name = Text.lower wanted) := by
  unfold isWanted
  split
  · next heq => cases heq
  · next heq => exact absurd (Option.some.inj heq) h
  · next heq =>
    cases heq
    rfl

theorem headerGroups_none (r : Response) : r.headerGroups none = groupsOf r.headers := by
  rw [headerGroups_eq]
  simp only [isWanted_none, List.filter_true]

/-- **Headers are grouped without loss.** Whatever the letter case in which their names are sent, the groups have
the names in lower case, each once, in the order of their first appearance; under each name stand the values that
were sent under it, in order, and there are as many values as headers. The groups of one name are those among all
groups whose names are the same but for case. -/
theorem headerGroups_lossless (r : Response) (sent : Net.Headers) :
    let kept : Response := { r with headers := sent.map fun h => (Net.lowerName h.1, h.2) }
    EachOnce (sent.map fun h => Net.lowerName h.1) ((kept.headerGroups none).map Prod.fst) ∧
      (∀ group ∈ kept.headerGroups none,
        group.2 = (sent.filter fun h => Net.lowerName h.1 = group.1).map Prod.snd) ∧
      ((kept.headerGroups none).map fun group => group.2.length).sum = sent.length ∧
      ∀ wanted, wanted ≠ "" → kept.headerGroups (some wanted) =
        (kept.headerGroups none).filter fun group => Text.lower group.1 = Text.lower wanted := by
  intro kept
  have hgroups : kept.headerGroups none = groupsOf kept.headers := headerGroups_none kept
  have hnames : kept.headers.map Prod.fst = sent.map fun h => Net.lowerName h.1 := List.map_map
  refine ⟨?_, fun group hgroup => ?_, ?_, fun wanted hwanted => ?_⟩
  -- the keys are the lowered names, each at its first place
  · have hkeys : (groupsOf kept.headers).map Prod.fst = (sent.map fun h => Net.lowerName h.1).eraseDups := by
      unfold groupsOf
      rw [List.map_map, hnames]
      exact List.map_id _
    rw [hgroups, hkeys]
    exact eachOnce_eraseDups _
  · rw [hgroups] at hgroup
    obtain ⟨name, -, rfl⟩ := List.mem_map.mp hgroup
    show valuesOf kept.headers name = _
    unfold valuesOf
    rw [List.filter_map, List.map_map]
    rfl
  -- each header inserted adds one value to one group
  · calc count (kept.headerGroups none)
      _ = count (groupsOf ([] ++ kept.headers)) := by rw [hgroups, List.nil_append]
      _ = count (kept.headers.foldl (fun groups h => insertValue groups h.1 h.2) []) := by
          rw [← foldl_insertValue [] kept.headers]
          rfl
      _ = sent.length := by rw [count_foldl, List.length_map]; exact Nat.zero_add _
  · rw [headerGroups_eq, hgroups]
    simp only [isWanted_some hwanted]
    exact groupsOf_filter (fun name => decide (Text.lower name = Text.lower wanted)) kept.headers

/-- A reply that sets two cookies and has another header between them. -/
def cookies : Net.Headers :=
  [("Set-Cookie", "a=1"), ("X-Id", "7"), ("SET-COOKIE", "b=2")]

/-- `headerGroups_lossless` at two cookies, asked for by a name in capitals. -/
theorem headerGroups_lossless_cookies :
    "SET-COOKIE" ≠ "" ∧
      ({ status := 200, headers := cookies.map fun h => (Net.lowerName h.1, h.2), data := [], url := "" } :
        Response).headerGroups (some "SET-COOKIE") = [("set-cookie", ["a=1", "b=2"])] := by
  have hgiven : "SET-COOKIE" ≠ "" := by decide
  refine ⟨hgiven, ?_⟩
  obtain ⟨-, -, -, hwanted⟩ :=
    headerGroups_lossless { status := 200, headers := [], data := [], url := "" } cookies
  refine (hwanted "SET-COOKIE" hgiven).trans ?_
  decide

end Response

end Courier
