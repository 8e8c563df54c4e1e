import Courier.Multipart.Parse
import Mathlib.Data.List.Infix

/-!
# Forms that are taken apart as they were put together

A form is rendered part by part, each behind a boundary line. The reader never cuts inside a header line
or a payload: a carriage return can only stand at the front of what it looks for (`cutAt_first`), so a
place where that occurs lies inside of a payload or behind it, never across its end. Hence rendering is
undone by parsing (`parse_render`).
-/

namespace Courier.Multipart

/-! ## Cutting -/

/-- Where the first byte of a pattern stands nowhere else in it, the pattern begins nowhere in bytes
before it that do not hold it themselves. -/
theorem not_prefix_before {x b : UInt8} {tail rest after : Bytes} (hx : x ∉ tail)
    (h : ¬ (x :: tail) <:+: (b :: rest)) :
    ¬ (x :: tail) <+: (b :: rest) ++ (x :: tail) ++ after := by
  intro hfront
  have hfront' : (x :: tail) <+: b :: (rest ++ x :: (tail ++ after)) := by simpa using hfront
  obtain ⟨rfl, htail⟩ := List.cons_prefix_cons.mp hfront'
  rcases Nat.lt_or_ge rest.length tail.length with hlong | hshort
  · -- the pattern would reach over the end, and so hold its first byte again
    have hover : rest ++ [x] <+: tail := by
      refine List.prefix_of_prefix_length_le ?_ htail ?_
      · exact ⟨tail ++ after, by simp⟩
      · rw [List.length_append]
        exact hlong
    exact hx (hover.subset (List.mem_append_right _ (List.mem_singleton_self x)))
  · have hinside : tail <+: rest :=
      List.prefix_of_prefix_length_le htail (List.prefix_append rest _) hshort
    exact h (List.cons_prefix_cons.mpr ⟨rfl, hinside⟩).isInfix

/-- **Bytes are cut at the pattern that stands behind them, and not before.** -/
theorem cutAt_first {x : UInt8} {tail before after : Bytes} (hx : x ∉ tail)
    (h : ¬ (x :: tail) <:+: before) :
    cutAt (x :: tail) (before ++ (x :: tail) ++ after) = some (before, after) := by
  induction before with
  | nil =>
    have hfront : (x :: tail).isPrefixOf (x :: (tail ++ after)) = true :=
      List.isPrefixOf_iff_prefix.mpr (List.prefix_append (x :: tail) after)
    show cutAt (x :: tail) (x :: (tail ++ after)) = _
    rw [cutAt, if_pos hfront]
    show some ([], (tail ++ after).drop tail.length) = _
    rw [List.drop_left]
  | cons b rest ih =>
    -- a match that begins in `before` and ends behind it would hold `x` in `tail`
    have hno : ¬ (x :: tail).isPrefixOf (b :: (rest ++ (x :: tail) ++ after)) = true :=
      fun hfront => not_prefix_before hx h (List.isPrefixOf_iff_prefix.mp hfront)
    have hrest : ¬ (x :: tail) <:+: rest := fun hheld => h (hheld.trans (List.suffix_cons b rest).isInfix)
    show cutAt (x :: tail) (b :: (rest ++ (x :: tail) ++ after)) = _
    rw [cutAt, if_neg hno, ih hrest]
    rfl

/-- `cutAt_first` for a line, which is cut at the line break behind it. -/
theorem cutAt_crlf {line : Bytes} (h : 13 ∉ line) (rest : Bytes) :
    cutAt crlf (line ++ crlf ++ rest) = some (line, rest) := by
  refine cutAt_first (by decide) fun hheld => h ?_
  exact hheld.subset List.mem_cons_self

/-! ## Headers -/

/-- Header lines and the empty line behind them. -/
def headerBlock (lines : List Bytes) : Bytes :=
  lines.flatMap (· ++ crlf) ++ crlf

theorem headerBlock_cons (line : Bytes) (lines : List Bytes) :
    headerBlock (line :: lines) = line ++ crlf ++ headerBlock lines := by
  unfold headerBlock
  rw [List.flatMap_cons, List.append_assoc]

/-- `readHeaders` unfolded once. -/
theorem readHeaders_eq (bytes : Bytes) :
    readHeaders bytes = match cutAt crlf bytes with
      | none => none
      | some (line, rest) =>
        if line = [] then some ([], rest)
        else (readHeaders rest).map fun (lines, body) => (line :: lines, body) := by
  rw [readHeaders]
  split <;> simp_all

/-- **Header lines are read up to the empty one, and what follows it is left.** -/
theorem readHeaders_headerBlock {lines : List Bytes} (h : ∀ line ∈ lines, line ≠ [] ∧ 13 ∉ line)
    (body : Bytes) : readHeaders (headerBlock lines ++ body) = some (lines, body) := by
  induction lines with
  | nil =>
    have hcut : cutAt crlf (headerBlock [] ++ body) = some ([], body) :=
      cutAt_crlf List.not_mem_nil body
    rw [readHeaders_eq, hcut]
    rfl
  | cons line lines ih =>
    obtain ⟨hne, hline⟩ := h line List.mem_cons_self
    -- a line without a carriage return ends at the first line break; the empty one ends the block
    have hcut : cutAt crlf (headerBlock (line :: lines) ++ body) =
        some (line, headerBlock lines ++ body) := by
      rw [headerBlock_cons, List.append_assoc]
      exact cutAt_crlf hline _
    rw [readHeaders_eq, hcut]
    simp only [if_neg hne]
    rw [ih fun l hl => h l (List.mem_cons_of_mem _ hl)]
    rfl

/-! ## Parts -/

/-- What the reader looks for behind a payload. -/
def delimiter (boundary : Bytes) : Bytes :=
  crlf ++ [45, 45] ++ boundary

/-- A part that can be told from what stands around it. -/
structure ReceivedPart.Clean (boundary : Bytes) (part : ReceivedPart) : Prop where
  headers : ∀ line ∈ part.headers, line ≠ [] ∧ 13 ∉ line
  payload : ¬ delimiter boundary <:+: part.payload

/-- A part as it is sent, with the boundary line before it and the line break behind it. -/
def ReceivedPart.bytes (boundary : Bytes) (part : ReceivedPart) : Bytes :=
  [45, 45] ++ boundary ++ crlf ++ headerBlock part.headers ++ part.payload ++ crlf

/-- A form as it is sent. -/
def render (boundary : Bytes) (parts : List ReceivedPart) : Bytes :=
  parts.flatMap (·.bytes boundary) ++ ([45, 45] ++ boundary ++ [45, 45] ++ crlf)

/-- What stands behind a boundary in front of these parts. -/
def renderRest (boundary : Bytes) : List ReceivedPart → Bytes
  | [] => [45, 45] ++ crlf
  | part :: rest =>
    crlf ++ (headerBlock part.headers ++ (part.payload ++ delimiter boundary ++ renderRest boundary rest))

/-- A form begins with its boundary, and what stands behind that is `renderRest`. -/
theorem render_eq (boundary : Bytes) (parts : List ReceivedPart) :
    render boundary parts = [45, 45] ++ boundary ++ renderRest boundary parts := by
  unfold render
  induction parts with
  | nil => simp only [List.flatMap_nil, List.nil_append, renderRest, List.append_assoc]
  | cons part rest ih =>
    rw [List.flatMap_cons, List.append_assoc, ih]
    simp only [ReceivedPart.bytes, renderRest, delimiter, List.append_assoc]

/-- `readParts` unfolded once, behind a boundary that a part follows. -/
theorem readParts_cons {boundary rest body payload after : Bytes} {headers : List Bytes}
    (hheaders : readHeaders rest = some (headers, body))
    (hpayload : cutAt (delimiter boundary) body = some (payload, after)) :
    readParts boundary (crlf ++ rest) = (readParts boundary after).map (⟨headers, payload⟩ :: ·) := by
  have hpayload' : cutAt (13 :: 10 :: 45 :: 45 :: boundary) body = some (payload, after) := hpayload
  -- a line break is not the end of the form
  have hnot : ¬ crlf ++ rest = [45, 45] ++ crlf := fun h => by cases h
  rw [readParts.eq_def, if_neg hnot]
  simp only [crlf, List.cons_append, List.nil_append]
  split
  · next hnone =>
    rw [hheaders] at hnone
    cases hnone
  · next hsome =>
    rw [hheaders] at hsome
    cases hsome
    split
    · next hnone =>
      rw [hpayload'] at hnone
      cases hnone
    · next hsome =>
      rw [hpayload'] at hsome
      cases hsome
      rfl

/-- **Parts are read one after the other, up to the end of the form.** -/
theorem readParts_renderRest {boundary : Bytes} (hboundary : 13 ∉ boundary)
    {parts : List ReceivedPart} (h : ∀ part ∈ parts, part.Clean boundary) :
    readParts boundary (renderRest boundary parts) = some parts := by
  have hdelimiter : (13 : UInt8) ∉ 10 :: 45 :: 45 :: boundary := by
    simp only [List.mem_cons, not_or]
    exact ⟨by decide, by decide, by decide, hboundary⟩
  induction parts with
  | nil =>
    rw [renderRest]
    unfold readParts
    rw [if_pos rfl]
  | cons part rest ih =>
    obtain ⟨hheaders, hpayload⟩ := h part List.mem_cons_self
    have hread := readHeaders_headerBlock hheaders
      (part.payload ++ delimiter boundary ++ renderRest boundary rest)
    -- the payload does not hold the delimiter, so the first one is that behind it
    have hcut : cutAt (delimiter boundary)
        (part.payload ++ delimiter boundary ++ renderRest boundary rest) =
          some (part.payload, renderRest boundary rest) := cutAt_first hdelimiter hpayload
    rw [renderRest, readParts_cons hread hcut, ih fun p hp => h p (List.mem_cons_of_mem _ hp)]
    rfl

/-- **Parsing undoes rendering.** -/
theorem parse_render {boundary : Bytes} (hboundary : 13 ∉ boundary) {parts : List ReceivedPart}
    (h : ∀ part ∈ parts, part.Clean boundary) :
    parse boundary (render boundary parts) = some parts := by
  have hfront : ([45, 45] ++ boundary).isPrefixOf (render boundary parts) = true := by
    rw [render_eq]
    exact List.isPrefixOf_iff_prefix.mpr (List.prefix_append _ _)
  have hdrop : (render boundary parts).drop (boundary.length + 2) = renderRest boundary parts := by
    rw [render_eq]
    exact List.drop_left' (by rw [List.length_append, Nat.add_comm]; rfl)
  unfold parse
  rw [if_pos hfront, hdrop, readParts_renderRest hboundary h]

end Courier.Multipart
