import Courier.Proofs.Response.FirstOccurrence
import Courier.Proofs.Text.Case
import Courier.Response
import Mathlib.Data.List.TakeWhile

/-!
# The methods that a server allows

The values of the header that allows methods are lists with commas between their elements. An element that is
not blank names a method: what is left of it without the white space around it, in capitals (`methodOf`). The
methods of a response are those that the elements of all values name, each once, in the order in which they are
first named. By induction on the elements: one more element adds its method unless it is there
(`insertMethod_named`). Since the elements of several values are those of the values joined with commas
(`splitOn_joinWith_flatMap`), it makes no difference over how many headers a list is spread. Main statement:
`Response.allowedMethods_once`.
-/

namespace Courier

namespace Text

/-! ## Splitting joined pieces -/

/-- `Text.splitOn` at a separator is the two lists of pieces. Induction on what stands before it. -/
theorem splitOn_append {α : Type} [DecidableEq α] (sep : α) (front back : List α) :
    splitOn sep (front ++ sep :: back) = splitOn sep front ++ splitOn sep back := by
  induction front with
  | nil => simp [splitOn]
  | cons a rest ih =>
    by_cases ha : a = sep
    · simp [splitOn, ha, ih]
    · cases hsplit : splitOn sep rest with
      | nil => exact absurd hsplit (splitOn_ne_nil sep rest)
      | cons piece pieces => simp [splitOn, ha, ih, hsplit]

/-- **The pieces of joined texts are the pieces of all of them.** -/
theorem splitOn_joinWith_flatMap {α : Type} [DecidableEq α] {sep : α} {texts : List (List α)}
    (hne : texts ≠ []) : splitOn sep (joinWith sep texts) = texts.flatMap (splitOn sep) := by
  induction texts with
  | nil => exact absurd rfl hne
  | cons text rest ih =>
    cases rest with
    | nil => exact (List.append_nil _).symm
    | cons next rest =>
      show splitOn sep (text ++ sep :: joinWith sep (next :: rest)) = _
      rw [splitOn_append, ih (List.cons_ne_nil _ _)]
      exact List.flatMap_cons.symm

/-- `List.intercalate` with one separator is `Text.joinWith`. Induction on the texts. -/
theorem intercalate_eq_joinWith {α : Type} (sep : α) (texts : List (List α)) :
    [sep].intercalate texts = joinWith sep texts := by
  induction texts with
  | nil => rfl
  | cons text rest ih =>
    cases rest with
    | nil => simp [joinWith]
    | cons next rest => rw [List.intercalate_cons_cons, ih, List.append_assoc]; rfl

/-! ## Capitals -/

/-- `upperChar` gives one character or an entry of `upperExpansions`, none of which is empty. -/
theorem upperChar_ne_nil (c : Char) : upperChar c ≠ [] := by
  have htable : ∀ e ∈ upperExpansions, e.2 ≠ [] := by decide +kernel
  unfold upperChar
  split
  · exact List.cons_ne_nil _ _
  · split
    · next ns hlookup =>
      obtain ⟨front, back, hsplit, -⟩ := List.lookup_eq_some_iff.mp hlookup
      have hmem : (c.toNat, ns) ∈ upperExpansions := by
        rw [hsplit]
        exact List.mem_append_right _ List.mem_cons_self
      simpa using htable _ hmem
    · exact List.cons_ne_nil _ _

theorem upper_eq_empty {cs : List Char} : upper (String.ofList cs) = "" ↔ cs = [] := by
  unfold upper
  rw [String.toList_ofList, ← String.ofList_nil, String.ofList_inj]
  cases cs with
  | nil => exact iff_of_true rfl rfl
  | cons c rest => simp [upperChar_ne_nil]

/-- `Text.stripChars` leaves nothing exactly if all is white space. -/
theorem stripChars_eq_nil {cs : List Char} : stripChars cs = [] ↔ ∀ c ∈ cs, isBlank c = true := by
  unfold stripChars trimBy
  rw [List.reverse_eq_nil_iff, List.dropWhile_eq_nil_iff]
  simp only [List.mem_reverse]
  constructor
  · intro h c hc
    rw [← List.takeWhile_append_dropWhile (p := isBlank) (l := cs), List.mem_append] at hc
    obtain hfront | hback := hc
    · exact List.mem_takeWhile_imp hfront
    · exact h c hback
  · intro h c hc
    exact h c ((List.dropWhile_sublist isBlank).subset hc)

end Text

namespace Response

/-! ## The methods that are named -/

/-- The method that an element names. -/
def methodOf (element : List Char) : String :=
  Text.upper (String.ofList (Text.stripChars element))

/-- An element with anything but white space. -/
def Names (element : List Char) : Prop :=
  ∃ c ∈ element, Text.isBlank c = false

instance (element : List Char) : Decidable (Names element) :=
  List.decidableBEx _ _

/-- An element names nothing exactly if it is blank (`stripChars_eq_nil`). -/
theorem methodOf_eq_empty {element : List Char} : methodOf element = "" ↔ ¬ Names element := by
  unfold methodOf Names
  rw [Text.upper_eq_empty, Text.stripChars_eq_nil]
  simp

/-- The elements between the commas of some values. -/
def elementsOf (values : List String) : List (List Char) :=
  values.flatMap fun value => Text.splitOn ',' value.toList

/-- The methods that elements name, as often as they do. -/
def named (elements : List (List Char)) : List String :=
  (elements.filter fun element => Names element).map methodOf

/-- **One more element adds its method, unless it is blank or the method is there.** -/
theorem insertMethod_named (elements : List (List Char)) (element : List Char) :
    insertMethod (named elements).eraseDups element = (named (elements ++ [element])).eraseDups := by
  unfold insertMethod named
  simp only [Bool.or_eq_true, decide_eq_true_eq, List.contains_iff_mem]
  by_cases hnames : Names element
  · have hsome : Text.upper (String.ofList (Text.stripChars element)) ≠ "" :=
      fun h => methodOf_eq_empty.mp h hnames
    rw [List.filter_append, List.filter_cons_of_pos (by simpa using hnames), List.filter_nil,
      List.map_append, List.map_singleton, ← insertNew_eraseDups]
    simp only [hsome, false_or]
    rfl
  · have hempty : Text.upper (String.ofList (Text.stripChars element)) = "" :=
      methodOf_eq_empty.mpr hnames
    rw [if_pos (.inl hempty), List.filter_append, List.filter_cons_of_neg (by simpa using hnames),
      List.filter_nil, List.append_nil]

/-- `insertMethod` of more elements. Induction on these with `insertMethod_named`. -/
theorem foldl_insertMethod (elements more : List (List Char)) :
    more.foldl insertMethod (named elements).eraseDups = (named (elements ++ more)).eraseDups := by
  induction more generalizing elements with
  | nil => rw [List.append_nil]; rfl
  | cons element rest ih =>
    rw [List.foldl_cons, insertMethod_named, ih, List.append_assoc]
    rfl

/-- **The methods are those that the elements of all values name, each once.** -/
theorem allowedMethods_eq (r : Response) :
    r.allowedMethods = (named (elementsOf (r.headerValues "allow"))).eraseDups := by
  unfold allowedMethods elementsOf
  rw [← List.foldl_flatMap]
  exact foldl_insertMethod [] _

/-- Membership in `named`, written out for the values of a header. -/
theorem mem_named_elementsOf {values : List String} {method : String} :
    method ∈ named (elementsOf values) ↔ ∃ value ∈ values, ∃ element ∈ Text.splitOn ',' value.toList,
      Names element ∧ methodOf element = method := by
  unfold named elementsOf
  simp only [List.mem_map, List.mem_filter, List.mem_flatMap, decide_eq_true_eq]
  constructor
  · rintro ⟨element, ⟨⟨value, hvalue, helement⟩, hnames⟩, hmethod⟩
    exact ⟨value, hvalue, element, helement, hnames, hmethod⟩
  · rintro ⟨value, hvalue, element, helement, hnames, hmethod⟩
    exact ⟨element, ⟨⟨value, hvalue, helement⟩, hnames⟩, hmethod⟩

/-! ## One header or several -/

theorem elementsOf_append (values more : List String) :
    elementsOf (values ++ more) = elementsOf values ++ elementsOf more :=
  List.flatMap_append

theorem named_append (elements more : List (List Char)) :
    named (elements ++ more) = named elements ++ named more := by
  unfold named
  rw [List.filter_append, List.map_append]

/-- `elementsOf` of values that are joined with commas names the same (`splitOn_joinWith_flatMap`); without a
value there is one blank element. -/
theorem named_joined (values : List String) :
    named (elementsOf [String.intercalate "," values]) = named (elementsOf values) := by
  cases values with
  | nil => rfl
  | cons value rest =>
    have hjoin : (String.intercalate "," (value :: rest)).toList =
        Text.joinWith ',' ((value :: rest).map String.toList) := by
      rw [String.toList_intercalate]
      exact Text.intercalate_eq_joinWith ',' _
    have helements : elementsOf [String.intercalate "," (value :: rest)] = elementsOf (value :: rest) := by
      show Text.splitOn ',' (String.intercalate "," (value :: rest)).toList ++ [] = _
      rw [List.append_nil, hjoin, Text.splitOn_joinWith_flatMap (by simp), List.flatMap_map]
      rfl
    rw [helements]

/-- `elementsOf` does not see whether a comma stands within a value or between two (`splitOn_append`). -/
theorem elementsOf_split (a b : String) (rest : List String) :
    elementsOf (a :: b :: rest) = elementsOf ((a ++ "," ++ b) :: rest) := by
  have hsplit : (a ++ "," ++ b).toList = a.toList ++ ',' :: b.toList := by
    rw [String.toList_append, String.toList_append, List.append_assoc]
    rfl
  show Text.splitOn ',' a.toList ++ (Text.splitOn ',' b.toList ++ elementsOf rest) =
    Text.splitOn ',' (a ++ "," ++ b).toList ++ elementsOf rest
  rw [hsplit, Text.splitOn_append, List.append_assoc]

/-- `Response.headerValues` filters the headers in order, so it goes over `++`. -/
theorem headerValues_append (r : Response) (front back : Net.Headers) (name : String) :
    ({ r with headers := front ++ back } : Response).headerValues name =
      ({ r with headers := front } : Response).headerValues name ++
        ({ r with headers := back } : Response).headerValues name := by
  unfold headerValues
  rw [List.filter_append, List.map_append]

theorem headerValues_cons (r : Response) (name value : String) (rest : Net.Headers) :
    ({ r with headers := (name, value) :: rest } : Response).headerValues name =
      value :: ({ r with headers := rest } : Response).headerValues name := by
  unfold headerValues
  rw [List.filter_cons_of_pos (by simp), List.map_cons]

/-- **The methods that a server allows are a set in order.** They are the methods that the elements of the
values name, each once, in the order in which they are first named; and they are the same if the values are
joined with commas into one header, if a value is split over two headers at a comma, and if all headers are sent
twice. -/
theorem allowedMethods_once (r : Response) :
    EachOnce (named (elementsOf (r.headerValues "allow"))) r.allowedMethods ∧
      (∀ method, method ∈ r.allowedMethods ↔
        ∃ value ∈ r.headerValues "allow", ∃ element ∈ Text.splitOn ',' value.toList,
          Names element ∧ methodOf element = method) ∧
      ({ r with headers := [("allow", String.intercalate "," (r.headerValues "allow"))] } :
        Response).allowedMethods = r.allowedMethods ∧
      (∀ (before after : Net.Headers) (a b : String),
        ({ r with headers := before ++ ("allow", a) :: ("allow", b) :: after } : Response).allowedMethods =
          ({ r with headers := before ++ ("allow", a ++ "," ++ b) :: after } : Response).allowedMethods) ∧
      ({ r with headers := r.headers ++ r.headers } : Response).allowedMethods = r.allowedMethods := by
  refine ⟨?_, fun method => ?_, ?_, fun before after a b => ?_, ?_⟩
  -- `allowedMethods_eq` makes each part a fact on the elements of the joined values
  · rw [allowedMethods_eq]
    exact eachOnce_eraseDups _
  · rw [allowedMethods_eq, List.mem_eraseDups, mem_named_elementsOf]
  · rw [allowedMethods_eq, allowedMethods_eq, headerValues_cons]
    exact congrArg List.eraseDups (named_joined _)
  · rw [allowedMethods_eq, allowedMethods_eq, headerValues_append, headerValues_append, headerValues_cons,
      headerValues_cons, headerValues_cons, elementsOf_append, elementsOf_append, elementsOf_split]
  · rw [allowedMethods_eq, allowedMethods_eq, headerValues_append, elementsOf_append, named_append,
      eraseDups_append_self]

/-- Three headers, two of them about methods. -/
example :
    ({ status := 200, data := [], url := "https://example.test/resource",
       headers := [("allow", "GET, post,OPTIONS"), ("date", ","), ("allow", "GET, PUT,")] } :
      Response).allowedMethods = ["GET", "POST", "OPTIONS", "PUT"] := by decide

end Response

end Courier
