import Courier.Bytes

/-!
# Taking multipart forms apart

How a receiver reads a multipart form, given its boundary: each part begins with a boundary line, has
header lines up to an empty one, and carries what stands before the line break and the boundary that
follow. Two hyphens after the boundary end the form. Anything before, between or after the parts is
refused.
-/

namespace Courier.Multipart

/-- A part as it was received. -/
structure ReceivedPart where
  headers : List Bytes
  payload : Bytes
  deriving DecidableEq, Repr

/-- What stands before the first place where a pattern occurs, and what follows it. -/
def cutAt (pattern : Bytes) : Bytes → Option (Bytes × Bytes)
  | [] => if pattern = [] then some ([], []) else none
  | b :: rest =>
    if pattern.isPrefixOf (b :: rest) then some ([], (b :: rest).drop pattern.length)
    else (cutAt pattern rest).map fun (before, after) => (b :: before, after)

theorem cutAt_eq {pattern bytes before after : Bytes} (h : cutAt pattern bytes = some (before, after)) :
    bytes = before ++ pattern ++ after := by
  induction bytes generalizing before with
  | nil =>
    simp only [cutAt] at h
    split at h <;> simp_all
  | cons b rest ih =>
    simp only [cutAt] at h
    split at h
    · next hp =>
      obtain ⟨rfl, rfl⟩ : before = [] ∧ after = (b :: rest).drop pattern.length := by
        simpa [eq_comm] using h
      obtain ⟨t, ht⟩ := List.isPrefixOf_iff_prefix.1 hp
      simp [← ht]
    · simp only [Option.map_eq_some_iff, Prod.mk.injEq] at h
      obtain ⟨⟨x, y⟩, hxy, rfl, rfl⟩ := h
      simp [ih hxy]

/-- The header lines up to the empty one, and what follows it. -/
def readHeaders (bytes : Bytes) : Option (List Bytes × Bytes) :=
  match _h : cutAt crlf bytes with
  | none => none
  | some (line, rest) =>
    if line = [] then some ([], rest)
    else (readHeaders rest).map fun (lines, body) => (line :: lines, body)
termination_by bytes.length
decreasing_by
  have := cutAt_eq (by assumption)
  simp only [this, crlf, List.length_append, List.length_cons]
  omega

theorem readHeaders_shorter {bytes rest : Bytes} {lines : List Bytes}
    (h : readHeaders bytes = some (lines, rest)) : rest.length < bytes.length := by
  fun_induction readHeaders bytes generalizing lines with
  | case1 => simp at h
  | case2 bytes rest' hc =>
    simp only [Option.some.injEq, Prod.mk.injEq] at h
    have := cutAt_eq hc
    simp only [this, crlf, List.length_append, List.length_cons, ← h.2]
    omega
  | case3 bytes line rest' hc hl ih =>
    simp only [Option.map_eq_some_iff, Prod.mk.injEq] at h
    obtain ⟨⟨x, y⟩, hxy, rfl, rfl⟩ := h
    have h1 : y.length < rest'.length := ih hxy
    have h2 := cutAt_eq hc
    simp only [h2, List.length_append]
    exact Nat.lt_of_lt_of_le h1 (by simp)

/-- The parts after a boundary, up to the end of the form. -/
def readParts (boundary bytes : Bytes) : Option (List ReceivedPart) :=
  if bytes = [45, 45] ++ crlf then some []
  else
    match bytes with
    | 13 :: 10 :: rest =>
      match _h : readHeaders rest with
      | none => none
      | some (headers, body) =>
        match _h' : cutAt (crlf ++ [45, 45] ++ boundary) body with
        | none => none
        | some (payload, after) =>
          (readParts boundary after).map (⟨headers, payload⟩ :: ·)
    | _ => none
termination_by bytes.length
decreasing_by
  have h1 := readHeaders_shorter (by assumption)
  have h2 := cutAt_eq (by assumption)
  simp only [h2, List.length_append, List.length_cons] at h1 ⊢
  omega

/-- The parts of a form. -/
def parse (boundary body : Bytes) : Option (List ReceivedPart) :=
  if ([45, 45] ++ boundary).isPrefixOf body then
    readParts boundary (body.drop (boundary.length + 2))
  else none

end Courier.Multipart
