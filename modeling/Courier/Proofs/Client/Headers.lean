import Courier.Proofs.Client.Answer
import Courier.Proofs.Text.Case

/-!
# The headers of an attempt

The headers of a request are those that its caller added and that were taken, in the order in which they
were added, whatever else is done with the request (`Request.run_headers`). An attempt with an entity drops
those that speak of the entity, under whatever case of their names (`Request.speaksOfEntity_eq`), and adds
what the entity says of itself. Main statement: `Request.attempt_headers`.
-/

namespace Courier

/-! ## Names that speak of an entity -/

namespace Net

/-- `Net.sameName` compares the names in small letters, character by character. -/
theorem sameName_iff {a b : String} :
    sameName a b = true ↔ a.toList.map Char.toLower = b.toList.map Char.toLower := by
  unfold sameName lowerName
  rw [beq_iff_eq, String.ofList_inj]

theorem sameName_self (a : String) : sameName a a = true := sameName_iff.mpr rfl

end Net

namespace Request

/-- `Text.Spelled` for the two names: neither has a character that comes from beyond ASCII, in small letters
or in capitals. -/
theorem entityNames_spelled : ∀ w ∈ ["content-type".toList, "content-length".toList],
    Text.Spelled Text.lowered w ∧ Text.Spelled Text.raised (w.map Char.toUpper) := by
  decide +kernel

/-- `Text.lower` of a name is the word if `Net.sameName` says so (`Text.lower_eq_iff`). -/
theorem lower_eq_type (name : String) :
    Text.lower name = "content-type" ↔ Net.sameName name "Content-Type" = true := by
  rw [Net.sameName_iff]
  have hspelled := entityNames_spelled "content-type".toList List.mem_cons_self
  exact Text.lower_eq_iff hspelled.1 name

/-- The same for the name of the length, by `entityNames_spelled`. -/
theorem lower_eq_length (name : String) :
    Text.lower name = "content-length" ↔ Net.sameName name "Content-Length" = true := by
  rw [Net.sameName_iff]
  have hspelled := entityNames_spelled "content-length".toList (List.mem_cons_of_mem _ List.mem_cons_self)
  exact Text.lower_eq_iff hspelled.1 name

/-- **A name speaks of the entity if it is that of the type or of the length but for case.** -/
theorem speaksOfEntity_eq (name : String) :
    speaksOfEntity name =
      (Net.sameName name "Content-Type" || Net.sameName name "Content-Length") := by
  rw [Bool.eq_iff_iff, Bool.or_eq_true, ← lower_eq_type, ← lower_eq_length]
  simp [speaksOfEntity]

/-- **It does so whatever its case.** -/
theorem speaksOfEntity_recased {name name' : String} (h : Text.Recased name name') :
    speaksOfEntity name = speaksOfEntity name' := by
  unfold speaksOfEntity
  rcases h with hlower | hupper
  · rw [hlower]
  · -- both words can be told from the form in capitals
    obtain ⟨hsmall, hcapital⟩ := entityNames_spelled "content-type".toList List.mem_cons_self
    have htype : ∀ s, Text.lower s = "content-type" ↔ Text.upper s = "CONTENT-TYPE" :=
      Text.lower_iff_upper (by decide) hsmall hcapital
    obtain ⟨hsmall', hcapital'⟩ :=
      entityNames_spelled "content-length".toList (List.mem_cons_of_mem _ List.mem_cons_self)
    have hlength : ∀ s, Text.lower s = "content-length" ↔ Text.upper s = "CONTENT-LENGTH" :=
      Text.lower_iff_upper (by decide) hsmall' hcapital'
    rw [Bool.eq_iff_iff]
    simp only [List.contains_iff_mem, List.mem_cons, List.not_mem_nil, or_false, htype, hlength, hupper]

section

variable [Platform]

/-! ## The headers that were taken -/

/-- The header that a change adds, if it does: it needs a name, which is not empty, and a value. -/
def Change.header? : Change → Option (String × String)
  | .addHeader (some name) (some value) => if name = "" then none else some (name, value)
  | _ => none

/-- The header that a call adds. -/
def Call.header? : Call → Option (String × String)
  | .change added => added.header?
  | .send _ _ => none

/-- The headers that were taken in some calls, in order. -/
def takenHeaders (calls : List (Call × Machine)) : Net.Headers :=
  calls.filterMap fun call => call.1.header?

/-- **One change adds the header that it takes, or none.** By cases on the change: only `addHeader` looks at
the headers. -/
theorem perform_headers (r : Request) (m : Machine) (change : Change) :
    (r.perform m change).headers = r.headers ++ change.header?.toList := by
  cases hcall : change.call? with
  | none =>
    cases change with
    | addHeader name value =>
      cases name with
      | none => exact (List.append_nil _).symm
      | some name =>
        cases value with
        | none => exact (List.append_nil _).symm
        | some value =>
          show (if name = "" then (false, r) else _).2.headers = _ ++
            (if name = "" then none else some (name, value)).toList
          split
          · exact (List.append_nil _).symm
          · rfl
    | _ => cases hcall
  | some call =>
    -- a change of the body is none of the headers
    have hnone : change.header? = none := by
      cases change with
      | addHeader name value => cases hcall
      | _ => rfl
    rw [hnone, Option.toList_none, List.append_nil]
    cases hbody : r.body with
    | none => rw [(reply_bodiless hcall hbody).2]
    | some b => rw [perform_body hcall hbody]

/-- No attempt changes the headers (`Session.rebuilt_address`). -/
theorem execute_headers (manner : Net.Manner) (s : Session) :
    (stateAfter (s.execute manner)).request.headers = s.request.headers := by
  obtain ⟨last, -, hleft⟩ := s.tries_run manner
  obtain ⟨-, -, hheaders⟩ := s.atAttempt_address manner (last + 1)
  rw [hleft, Session.attempt_request, ← Session.atAttempt_request, hheaders]

/-- **The headers of a request are those that were taken**, in order, after those that it had. -/
theorem run_headers (r : Request) (calls : List (Call × Machine)) :
    (r.run calls).2.headers = r.headers ++ takenHeaders calls := by
  induction calls generalizing r with
  | nil => exact (List.append_nil _).symm
  | cons next rest ih =>
    obtain ⟨call, m⟩ := next
    cases call with
    | change change =>
      show ((r.perform m change).run rest).2.headers = _
      rw [ih, perform_headers, List.append_assoc]
      simp only [takenHeaders, List.filterMap_cons, Call.header?]
      cases change.header? <;> rfl
    | send manner client =>
      show ((stateAfter (Session.execute manner ⟨client, r, m⟩)).request.run rest).2.headers = _
      rw [ih, execute_headers]
      simp only [takenHeaders, List.filterMap_cons, Call.header?]

end

/-! ## What an entity says of itself -/

/-- The headers that an attempt with an entity has from the caller. -/
def survivors (headers : Net.Headers) : Net.Headers :=
  headers.filter fun h => !(Net.sameName h.1 "Content-Type" || Net.sameName h.1 "Content-Length")

/-- What an entity says of its length, if that is known. -/
def lengthHeader (e : Entity) : Net.Headers :=
  (e.length.map fun n => ("Content-Length", toString n)).toList

theorem signedNumeral_eq (n : Int) : Text.signedNumeral n = toString n := by
  cases n <;> rfl

/-- `Request.attempt` with an entity: what survives of the caller's headers, then the two of the entity. -/
theorem attempt_some (r : Request) (e : Entity) :
    (r.attempt (some e)).headers =
      survivors r.headers ++ ("Content-Type", e.contentType) :: lengthHeader e := by
  have hown : survivors r.headers = r.headers.filter fun h => !speaksOfEntity h.1 :=
    List.filter_congr fun h _ => by rw [speaksOfEntity_eq]
  have hentity : entityHeaders e = ("Content-Type", e.contentType) :: lengthHeader e := by
    unfold entityHeaders lengthHeader
    cases e.length with
    | none => rfl
    | some n =>
      show _ :: [("Content-Length", Text.signedNumeral n)] = _
      rw [signedNumeral_eq]
      rfl
  rw [hown, ← hentity]
  rfl

/-- `survivors` drops both names, so none is left under either. -/
theorem filter_survivors {name : String} (headers : Net.Headers)
    (hname : name = "Content-Type" ∨ name = "Content-Length") :
    (survivors headers).filter (fun h => Net.sameName h.1 name) = [] := by
  rw [List.filter_eq_nil_iff]
  intro h hmem hsame
  have hkept := (List.mem_filter.mp hmem).2
  rcases hname with rfl | rfl
  · rw [hsame] at hkept
    cases hkept
  · rw [hsame, Bool.or_true] at hkept
    cases hkept

/-- A filter by names goes over the two headers of an entity one by one. -/
theorem filter_said (e : Entity) (p : String → Bool) :
    (("Content-Type", e.contentType) :: lengthHeader e).filter (fun h => p h.1) =
      (if p "Content-Type" then [("Content-Type", e.contentType)] else []) ++
        (if p "Content-Length" then lengthHeader e else []) := by
  have hlength : (lengthHeader e).filter (fun h => p h.1) =
      if p "Content-Length" then lengthHeader e else [] := by
    unfold lengthHeader
    cases e.length with
    | none => exact (ite_self _).symm
    | some n =>
      show List.filter _ [_] = _
      rw [List.filter_singleton]
      cases p "Content-Length" <;> rfl
  rw [List.filter_cons, hlength]
  cases p "Content-Type" <;> rfl

section Joined

variable (own : Net.Headers) (e : Entity)

theorem sameName_length_type : Net.sameName "Content-Length" "Content-Type" = false := by decide

theorem sameName_type_length : Net.sameName "Content-Type" "Content-Length" = false := by decide

/-- Behind `survivors`, what an entity says of its type is the only header of that name (`filter_survivors`,
`filter_said`). -/
theorem joined_types :
    (survivors own ++ ("Content-Type", e.contentType) :: lengthHeader e).filter
      (fun h => Net.sameName h.1 "Content-Type") = [("Content-Type", e.contentType)] := by
  rw [List.filter_append, filter_survivors _ (.inl rfl),
    filter_said e (Net.sameName · "Content-Type"), Net.sameName_self, sameName_length_type]
  rfl

/-- Behind `survivors`, what an entity says of its length, if anything, is the only header of that name. -/
theorem joined_lengths :
    (survivors own ++ ("Content-Type", e.contentType) :: lengthHeader e).filter
      (fun h => Net.sameName h.1 "Content-Length") = lengthHeader e := by
  rw [List.filter_append, filter_survivors _ (.inr rfl),
    filter_said e (Net.sameName · "Content-Length"), Net.sameName_self, sameName_type_length]
  rfl

/-- `survivors` of both together are those of the caller. -/
theorem survivors_joined :
    survivors (survivors own ++ ("Content-Type", e.contentType) :: lengthHeader e) =
      survivors own := by
  have hstay : survivors (survivors own) = survivors own :=
    List.filter_eq_self.mpr fun h hmem => (List.mem_filter.mp hmem).2
  have hsaid : survivors (("Content-Type", e.contentType) :: lengthHeader e) = [] := by
    unfold survivors
    rw [filter_said e fun name =>
      !(Net.sameName name "Content-Type" || Net.sameName name "Content-Length"),
      Net.sameName_self, sameName_length_type, Net.sameName_self]
    rfl
  unfold survivors at hstay hsaid ⊢
  rw [List.filter_append, hstay, hsaid, List.append_nil]

end Joined

/-- The same headers, but for the case of their names. -/
def RecasedHeaders (own own' : Net.Headers) : Prop :=
  List.Forall₂ (fun h h' => Text.Recased h.1 h'.1 ∧ h.2 = h'.2) own own'

/-- Whether a header survives does not depend on its case (`speaksOfEntity_recased`). Induction on the
headers. -/
theorem survivors_recased {own own' : Net.Headers} (h : RecasedHeaders own own') :
    RecasedHeaders (survivors own) (survivors own') := by
  induction h with
  | nil => exact .nil
  | @cons a b own own' hab rest ih =>
    have hsame := speaksOfEntity_recased hab.1
    rw [speaksOfEntity_eq, speaksOfEntity_eq] at hsame
    unfold survivors at ih ⊢
    rw [List.filter_cons, List.filter_cons, hsame]
    split
    · exact .cons hab ih
    · exact ih

/-- **The headers of an attempt.** However a request was changed and sent: its headers are those that were
taken from its caller, in order, and an attempt without an entity has these. One with an entity has of them,
in order, all but those with the name of the type or of the length, whatever its case, and then the type of
the entity and, if it is known, its length: so there is one type, and one length or none, and all other
headers are those of the caller. Which of them survive does not depend on the case of their names. -/
theorem attempt_headers [Platform] (method : Method) (url charset : String) (sniffBytes : Int)
    (calls : List (Call × Machine)) :
    let r := ((create method url charset sniffBytes).run calls).2
    let own := takenHeaders calls
    r.headers = own ∧ (r.attempt none).headers = own ∧
    (∀ e : Entity,
      let headers := (r.attempt (some e)).headers
      headers = survivors own ++ ("Content-Type", e.contentType) :: lengthHeader e ∧
      headers.filter (fun h => Net.sameName h.1 "Content-Type") = [("Content-Type", e.contentType)] ∧
      headers.filter (fun h => Net.sameName h.1 "Content-Length") = lengthHeader e ∧
      survivors headers = survivors own) ∧
    ∀ (r' : Request) (e : Entity), RecasedHeaders own r'.headers →
      RecasedHeaders (survivors own) (survivors r'.headers) ∧
      (r'.attempt (some e)).headers =
        survivors r'.headers ++ ("Content-Type", e.contentType) :: lengthHeader e := by
  intro r own
  have hown : r.headers = own := by
    rw [run_headers]
    rfl
  -- without an entity the headers go out as they were added
  refine ⟨hown, hown, ?_, ?_⟩
  · intro e headers
    have hheaders : headers = survivors own ++ ("Content-Type", e.contentType) :: lengthHeader e := by
      rw [← hown]
      exact r.attempt_some e
    rw [hheaders]
    exact ⟨rfl, joined_types own e, joined_lengths own e, survivors_joined own e⟩
  · intro r' e hrecased
    exact ⟨survivors_recased hrecased, r'.attempt_some e⟩

/-- Two headers of one name, one that is refused, and two that speak of the entity. -/
def headerCalls : List (Call × Machine) :=
  [("cOnTeNt-tYpE", "a/b"), ("X-Id", "1"), ("", "lost"), ("X-Id", "2"), ("CONTENT-LENGTH", "9")].map
    fun h => (.change (.addHeader (some h.1) (some h.2)), {})

/-- A request with the same headers, in capitals and in small letters. -/
def otherCase : Request :=
  { create .post "http://localhost/" with
    headers := [("CONTENT-TYPE", "a/b"), ("x-id", "1"), ("X-ID", "2"), ("content-length", "9")] }

/-- Three bytes. -/
def threeBytes : Entity := .ofBytes .text "text/plain" none [1, 2, 3]

/-- `attempt_headers` at names in capitals and in small letters: both headers of one name survive, in either
case. -/
theorem attempt_headers_shouting :
    RecasedHeaders (takenHeaders headerCalls) otherCase.headers ∧
      RecasedHeaders [("X-Id", "1"), ("X-Id", "2")] (survivors otherCase.headers) ∧
      (otherCase.attempt (some threeBytes)).headers =
        survivors otherCase.headers ++ [("Content-Type", "text/plain"), ("Content-Length", "3")] := by
  obtain ⟨-, -, -, hrecased⟩ := attempt_headers .post "http://localhost/" "UTF-8" 32 headerCalls
  have hsame : RecasedHeaders (takenHeaders headerCalls) otherCase.headers := by
    have htaken : takenHeaders headerCalls =
        [("cOnTeNt-tYpE", "a/b"), ("X-Id", "1"), ("X-Id", "2"), ("CONTENT-LENGTH", "9")] := by
      decide
    rw [htaken]
    exact .cons ⟨.inl (by decide +kernel), rfl⟩ <| .cons ⟨.inl (by decide +kernel), rfl⟩ <|
      .cons ⟨.inr (by decide +kernel), rfl⟩ <| .cons ⟨.inr (by decide +kernel), rfl⟩ .nil
  have hkept : survivors (takenHeaders headerCalls) = [("X-Id", "1"), ("X-Id", "2")] := by
    decide +kernel
  obtain ⟨hsurvive, hheaders⟩ := hrecased otherCase threeBytes hsame
  rw [hkept] at hsurvive
  exact ⟨hsame, hsurvive, hheaders⟩

end Request

end Courier
