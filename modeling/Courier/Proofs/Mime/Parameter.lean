import Courier.Mime.Parameter
import Courier.Proofs.Text.Digit

/-!
# Reading a parameter of a content type

A value of plain characters (`IsPlainValue`) is read as it stands: none of them ends the value, is taken
off its ends, or begins an escape. So the boundary of a multipart form is found in its content type
(`parameter?_boundary`).
-/

namespace Courier.Mime

/-- A character that is part of a value wherever it stands in one. -/
def IsPlainValue (c : Char) : Prop :=
  c ≠ ';' ∧ c ≠ '"' ∧ c ≠ '\\' ∧ c ≠ '<' ∧ Text.isBlank c = false

instance (c : Char) : Decidable (IsPlainValue c) :=
  inferInstanceAs (Decidable (_ ∧ _ ∧ _ ∧ _ ∧ _))

variable {value : List Char}

/-! ## Pieces -/

/-- A character that is neither a semicolon nor a quote goes to the piece that it stands before. -/
theorem pieces_cons {c : Char} (h : c ≠ ';' ∧ c ≠ '"') {escaped : Bool} {rest piece : List Char}
    {more : List (List Char)} (hrest : pieces false (c == '\\') rest = piece :: more) :
    pieces false escaped (c :: rest) = (c :: piece) :: more := by
  simp [pieces, h.1, h.2, hrest]

/-- `pieces` ends a piece at a semicolon outside quotes. Induction on what stands before it. -/
theorem pieces_semicolon (h : ∀ c ∈ value, c ≠ ';' ∧ c ≠ '"') (escaped : Bool) (rest : List Char) :
    pieces false escaped (value ++ ';' :: rest) = value :: pieces false false rest := by
  induction value generalizing escaped with
  | nil => rfl
  | cons c value ih =>
    exact pieces_cons (h c List.mem_cons_self) (ih (fun d hd => h d (List.mem_cons_of_mem _ hd)) _)

/-- `pieces` ends the last piece at the end. Induction on the value. -/
theorem pieces_last (h : ∀ c ∈ value, c ≠ ';' ∧ c ≠ '"') (escaped : Bool) :
    pieces false escaped value = [value] := by
  induction value generalizing escaped with
  | nil => rfl
  | cons c value ih =>
    exact pieces_cons (h c List.mem_cons_self) (ih (fun d hd => h d (List.mem_cons_of_mem _ hd)) _)

/-! ## Values -/

theorem stripChars_of_plain (h : ∀ c ∈ value, IsPlainValue c) : Text.stripChars value = value := by
  have hdrop : ∀ l : List Char, (∀ c ∈ l, IsPlainValue c) → l.dropWhile Text.isBlank = l := by
    intro l hl
    cases l with
    | nil => rfl
    | cons c l => exact List.dropWhile_cons_of_neg (by rw [(hl c List.mem_cons_self).2.2.2.2]; decide)
  unfold Text.stripChars Text.trimBy
  rw [hdrop value h, hdrop value.reverse fun c hc => h c (List.mem_reverse.mp hc),
    List.reverse_reverse]

/-- Without its first character there is no pair to replace. Induction on the value. -/
theorem replacePair_of_not_mem {a b by_ : Char} (h : a ∉ value) :
    replacePair a b by_ value = value := by
  induction value with
  | nil => rfl
  | cons c rest ih =>
    obtain ⟨hc, hrest⟩ := not_or.mp fun hmem => h (List.mem_cons.mpr hmem)
    cases rest with
    | nil => rfl
    | cons d rest =>
      have hno : ¬ (c = a && d = b) = true := by simp [Ne.symm hc]
      rw [replacePair, if_neg hno, ih hrest]

theorem unquoteValue_of_plain (h : ∀ c ∈ value, IsPlainValue c) : unquoteValue value = value := by
  match value with
  | [] => rfl
  | [_] => rfl
  | c :: d :: rest =>
    obtain ⟨-, hquote, -, hangle, -⟩ := h c List.mem_cons_self
    unfold unquoteValue
    simp [hquote, hangle]

/-- `escapeValue` has nothing to escape in a plain value. -/
theorem escapeValue_of_plain (h : ∀ c ∈ value, IsPlainValue c) : escapeValue value = value := by
  unfold escapeValue
  induction value with
  | nil => rfl
  | cons c value ih =>
    obtain ⟨-, hquote, hback, -, -⟩ := h c List.mem_cons_self
    have hno : ¬ (c = '\\' || c = '"') = true := by simp [hquote, hback]
    rw [List.flatMap_cons, if_neg hno, ih fun d hd => h d (List.mem_cons_of_mem _ hd)]
    rfl

/-- `unquoteValue` takes the quotes off, and a value without a backslash has nothing to be unescaped. -/
theorem unquoteValue_quoted (h : '\\' ∉ value) :
    unquoteValue ('"' :: (value ++ ['"'])) = value := by
  cases value with
  | nil => rfl
  | cons c value =>
    have hlast : (c :: (value ++ ['"'])).getLast (List.cons_ne_nil _ _) = '"' := by
      rw [List.getLast_cons (List.concat_ne_nil _ _), List.getLast_concat]
    have hinner : (c :: (value ++ ['"'])).dropLast = c :: value := by
      rw [← List.cons_append, List.dropLast_concat]
    show unquoteValue ('"' :: c :: (value ++ ['"'])) = _
    unfold unquoteValue
    simp only [hlast, hinner]
    rw [replacePair_of_not_mem h, replacePair_of_not_mem h]
    rfl

/-- `quoteValue` and `unquoteValue` undo each other on a plain value. -/
theorem unquoteValue_quoteValue_of_plain (h : ∀ c ∈ value, IsPlainValue c) :
    unquoteValue (quoteValue value) = value := by
  have hback : '\\' ∉ value := fun hmem => (h '\\' hmem).2.2.1 rfl
  unfold quoteValue
  rw [escapeValue_of_plain h]
  exact unquoteValue_quoted hback

/-! ## The boundary of a form -/

theorem nameAndValue_boundary (h : ∀ c ∈ value, IsPlainValue c) :
    nameAndValue (" boundary=".toList ++ value) = ("boundary".toList, value) := by
  have hletters : " boundary=".toList = " boundary".toList ++ ['='] := by decide
  have hname : (Text.lower (String.ofList (Text.stripChars " boundary".toList))).toList =
      "boundary".toList := by decide +kernel
  have hcut : Text.cut '=' (" boundary".toList ++ '=' :: value) =
      (" boundary".toList, some value) := Text.cut_append_sep (by decide)
  unfold nameAndValue
  rw [hletters, List.append_assoc, List.singleton_append, hcut]
  simp only [stripChars_of_plain h, hname]

/-- `pieces` of the content type of a form: its type, and its boundary. -/
theorem pieces_boundary (h : ∀ c ∈ value, IsPlainValue c) :
    pieces false false ("multipart/form-data; boundary=".toList ++ value) =
      ["multipart/form-data".toList, " boundary=".toList ++ value] := by
  have hletters : "multipart/form-data; boundary=".toList =
      "multipart/form-data".toList ++ ';' :: " boundary=".toList := by decide
  have hfirst : ∀ c ∈ "multipart/form-data".toList, c ≠ ';' ∧ c ≠ '"' :=
    Text.forall_mem_of_all (by decide)
  have hmiddle : ∀ c ∈ " boundary=".toList, c ≠ ';' ∧ c ≠ '"' :=
    Text.forall_mem_of_all (by decide)
  have hsecond : ∀ c ∈ " boundary=".toList ++ value, c ≠ ';' ∧ c ≠ '"' := by
    intro c hc
    rcases List.mem_append.mp hc with hc | hc
    · exact hmiddle c hc
    · exact ⟨(h c hc).1, (h c hc).2.1⟩
  rw [hletters, List.append_assoc, List.cons_append, pieces_semicolon hfirst, pieces_last hsecond]

/-- `parameters` of the content type of a form: its type, as one without a value, and its boundary. -/
theorem parameters_boundary {boundary : String} (h : ∀ c ∈ boundary.toList, IsPlainValue c) :
    parameters ("multipart/form-data; boundary=" ++ boundary) =
      .ok [("multipart/form-data".toList, .plain []), ("boundary".toList, .plain boundary.toList)] := by
  have hfirst : nameAndValue "multipart/form-data".toList = ("multipart/form-data".toList, []) := by
    decide +kernel
  have hword : continuation? "boundary".toList = none := by decide +kernel
  -- a name without a star has no pieces to be put together
  have hgroups : groupPieces [("boundary".toList, boundary.toList)] = .ok [] := by
    unfold groupPieces
    rw [List.foldlM_cons]
    simp only [hword]
    rfl
  unfold parameters
  rw [String.toList_append, pieces_boundary h, List.map_cons, List.map_singleton,
    nameAndValue_boundary h, hfirst]
  simp only [hgroups, List.filter_cons, hword, Option.isNone_none, if_true, List.filter_nil,
    List.map_cons, List.map_nil, unquoteValue_of_plain h, unquoteValue_quoteValue_of_plain h]
  rfl

/-- **The boundary is found in the content type of a form.** -/
theorem parameter?_boundary {boundary : String} (h : ∀ c ∈ boundary.toList, IsPlainValue c) :
    parameter? ("multipart/form-data; boundary=" ++ boundary) "boundary" =
      .ok (some (.plain boundary.toList)) := by
  have hother : Text.lower (String.ofList "multipart/form-data".toList) ≠ "boundary" := by
    decide +kernel
  have hname : Text.lower (String.ofList "boundary".toList) = "boundary" := by decide +kernel
  have hfind : [("multipart/form-data".toList, ParameterValue.plain []),
      ("boundary".toList, .plain boundary.toList)].find?
        (fun p => Text.lower (String.ofList p.1) = "boundary") =
      some ("boundary".toList, .plain boundary.toList) := by
    rw [List.find?_cons_of_neg (by simpa using hother), List.find?_cons_of_pos (by simpa using hname)]
  unfold parameter?
  rw [parameters_boundary h]
  show Except.ok (Option.map _ (List.find? _ _)) = _
  rw [hfind]
  rfl

end Courier.Mime
