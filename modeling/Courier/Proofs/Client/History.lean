import Courier.Proofs.Builder.History
import Courier.Proofs.Client.Protocol

/-!
# The history of a request

A request is changed and sent, in any order and any number of times. A run makes one call after the
other, each on a machine of its own, and notes every change and every attempt to send the request, the
latter as its manner and the session in which it began. How many attempts were made is read off the waits
of the machine (`Session.tries`).

What is noted leads from the request before to the request after (`Request.run_leads`): a change leads
where it leads, an attempt to what its build left of the request. So facts about a run are proved by
induction on the notes, with one case for a change and one for an attempt.

The first such fact (`Request.Leads.alike`): but for the text of the body, the request is the one that the
changes alone make.
-/

namespace Courier

section

variable [Platform]

/-! ## The attempts of a run -/

namespace Session

variable {manner : Net.Manner} {s : Session}

/-- The attempts that are made when a request is sent, each as the session in which it begins: as many as
there are waits between them, and one more. -/
def tries (manner : Net.Manner) (s : Session) : List Session :=
  (List.range ((stateAfter (execute manner s)).machine.waits.length - s.machine.waits.length + 1)).map
    (atAttempt manner s)

/-- **Sending makes attempts up to a last one**, and leaves what that leaves. -/
theorem tries_run (manner : Net.Manner) (s : Session) :
    ∃ last, s.tries manner = (List.range (last + 1)).map (atAttempt manner s) ∧
      stateAfter (execute manner s) = stateAfter (attempt manner (atAttempt manner s last)) := by
  obtain ⟨last, hlast, hexecute⟩ := execute_run manner s
  have hleft : stateAfter (execute manner s) = stateAfter (outcome manner s last) := by
    rw [hexecute, stateAfter_concluded]
  refine ⟨last, ?_, hleft⟩
  have hwaits : (stateAfter (execute manner s)).machine.waits.length - s.machine.waits.length = last := by
    rw [hleft, hlast.waits, List.length_append, List.length_map, List.length_range,
      Nat.add_sub_cancel_left]
  unfold tries
  rw [hwaits]

/-- `Session.tries` begins with the session in which sending begins. -/
theorem tries_cons (manner : Net.Manner) (s : Session) :
    ∃ others, s.tries manner = s :: others := by
  obtain ⟨last, htries, -⟩ := tries_run manner s
  rw [List.range_succ_eq_map, List.map_cons] at htries
  exact ⟨_, htries⟩

end Session

namespace Request

/-! ## Runs -/

/-- A call that changes a request. -/
inductive Change where
  | addHeader (name value : Option String)
  | setBody (text type : Option String)
  | setCharset (charset : Option (List CodePoint))
  | addFile (fieldName fileName : Option String) (source : Source) (mimeType : Option String)
  | addParameter (name value : Option String)

/-- What a change sets the text of the body to, if it does. -/
def Change.text? : Change → Option (Option String)
  | .setBody text _ => some text
  | .addParameter none (some value) => some (some value)
  | _ => none

/-- The request after an action on it; one that fails leaves the request as it was. -/
def settle {α : Type} (r : Request) (request : α → Request) :
    EStateM.Result Failure Machine α → Request
  | .ok a _ => request a
  | .error _ _ => r

/-- The request after a change. -/
def perform (r : Request) (m : Machine) : Change → Request
  | .addHeader name value => (r.addHeader name value).2
  | .setBody text type => r.settle id (r.setBody text type m)
  | .setCharset charset => r.settle Prod.snd (r.setCharsetPoints charset m)
  | .addFile fieldName fileName source mimeType =>
    r.settle Prod.snd (r.addFile fieldName fileName source mimeType m)
  | .addParameter name value => r.settle Prod.snd (r.addParameter name value m)

/-- A call on a request: a change, or sending it with a client. -/
inductive Call where
  | change (change : Change)
  | send (manner : Net.Manner) (client : Client)

/-- What happens to a request: a change on a machine, or an attempt to send it. -/
inductive Event where
  | changed (change : Change) (machine : Machine)
  | tried (manner : Net.Manner) (start : Session)

/-- Makes calls one after the other, each on a machine of its own, and notes what happens. -/
def run (r : Request) : List (Call × Machine) → List Event × Request
  | [] => ([], r)
  | (.change change, m) :: rest =>
    let (events, last) := run (r.perform m change) rest
    (.changed change m :: events, last)
  | (.send manner client, m) :: rest =>
    let s : Session := ⟨client, r, m⟩
    let (events, last) := run (stateAfter (s.execute manner)).request rest
    ((s.tries manner).map (.tried manner) ++ events, last)

/-! ## Where events lead -/

/-- Events lead from one request to another. -/
inductive Leads : Request → List Event → Request → Prop where
  | nil (r : Request) : Leads r [] r
  | changed {r r' : Request} {change : Change} {m : Machine} {events : List Event}
      (rest : Leads (r.perform m change) events r') : Leads r (.changed change m :: events) r'
  | tried {manner : Net.Manner} {start : Session} {r' : Request} {events : List Event}
      (rest : Leads start.rebuilt events r') : Leads start.request (.tried manner start :: events) r'

namespace Leads

variable {r r' r'' : Request} {xs ys : List Event}

/-- What leads on from where others led. Induction on the first list. -/
theorem append (h : Leads r xs r') (h' : Leads r' ys r'') : Leads r (xs ++ ys) r'' := by
  induction h with
  | nil r => exact h'
  | changed rest ih => exact .changed (ih h')
  | tried rest ih => exact .tried (ih h')

/-- A list that leads somewhere can be cut anywhere. Induction on its front. -/
theorem split (h : Leads r (xs ++ ys) r'') : ∃ r', Leads r xs r' ∧ Leads r' ys r'' := by
  induction xs generalizing r with
  | nil => exact ⟨r, .nil r, h⟩
  | cons event xs ih =>
    rw [List.cons_append] at h
    cases h with
    | changed rest =>
      obtain ⟨r', hxs, hys⟩ := ih rest
      exact ⟨r', .changed hxs, hys⟩
    | tried rest =>
      obtain ⟨r', hxs, hys⟩ := ih rest
      exact ⟨r', .tried hxs, hys⟩

end Leads

/-- Attempts lead from the request before them to what the last build left. Induction on their number, with
`Session.atAttempt_request`. -/
theorem atAttempt_leads (manner : Net.Manner) (s : Session) (last : Nat) :
    Leads s.request (((List.range (last + 1)).map (Session.atAttempt manner s)).map (.tried manner))
      (Session.atAttempt manner s last).rebuilt := by
  induction last with
  | zero => exact .tried (.nil _)
  | succ last ih =>
    rw [List.range_succ, List.map_append, List.map_append]
    refine ih.append ?_
    -- the next attempt begins with what the last one left
    rw [← Session.atAttempt_request]
    exact .tried (.nil _)

/-- **What is noted in a run leads from the request before it to the request after it.** -/
theorem run_leads (r : Request) (calls : List (Call × Machine)) :
    Leads r (r.run calls).1 (r.run calls).2 := by
  induction calls generalizing r with
  | nil => exact .nil r
  | cons next rest ih =>
    obtain ⟨call, m⟩ := next
    cases call with
    | change change => exact .changed (ih _)
    | send manner client =>
      obtain ⟨last, htries, hleft⟩ := Session.tries_run manner ⟨client, r, m⟩
      have hsent := atAttempt_leads manner ⟨client, r, m⟩ last
      rw [← htries, ← Session.attempt_request manner, ← hleft] at hsent
      exact hsent.append (ih _)

/-! ## What a change does

A change of the body is a call on the builder. -/

variable {r : Request} {b : Builder} {m : Machine}

/-- The call on the builder that a change comes down to, if it is one of the body. -/
def Change.call? : Change → Option Builder.Call
  | .addHeader _ _ => none
  | .setBody text type => some (.setBody text type)
  | .setCharset charset => some (.setCharset charset)
  | .addFile fieldName fileName source mimeType => some (.addFile fieldName fileName source mimeType)
  | .addParameter name value => some (.addParameter name value)

omit [Platform] in
/-- `Request.onBody` settles the builder inside the request. -/
theorem settle_onBody (hbody : r.body = some b) (operation : String)
    (change : Builder → Act (Bool × Builder)) (reply : Bool → Builder.Reply) :
    r.settle Prod.snd (r.onBody operation change m) =
      { r with body := some (b.settle reply (change b m)).2 } := by
  have hrun : r.onBody operation change m =
      (change b >>= fun done => pure (done.1, { r with body := some done.2 })) m := by
    unfold onBody
    rw [hbody]
  rw [hrun]
  cases h : change b m with
  | ok done m' =>
    rw [Act.bind_run_ok h]
    rfl
  | error failure m' =>
    rw [Act.bind_run_error h]
    show r = { r with body := some b }
    rw [← hbody]

/-- **A change of the body is a call on its builder.** -/
theorem perform_body {change : Change} {call : Builder.Call} (hcall : change.call? = some call)
    (hbody : r.body = some b) :
    r.perform m change = { r with body := some (b.perform m call).2 } := by
  cases change with
  | addHeader name value => cases hcall
  | setBody text type =>
    cases hcall
    unfold perform setBody onBody
    rw [hbody]
    rfl
  | setCharset charset =>
    cases hcall
    exact settle_onBody hbody _ _ .answer
  | addFile fieldName fileName source mimeType =>
    cases hcall
    exact settle_onBody hbody _ _ .answer
  | addParameter name value =>
    cases hcall
    exact settle_onBody hbody _ _ .answer

/-! ## The request but for its text -/

/-- Two requests with a body, which differ in its text at most. -/
def Alike (r r' : Request) : Prop :=
  ∃ b text, r.body = some b ∧ r' = { r with body := some { b with text } }

omit [Platform] in
theorem Alike.refl (hbody : r.body = some b) : Alike r r :=
  ⟨b, b.text, hbody, by rw [← hbody]⟩

/-- A call on a builder is the same whatever its text. By cases on the call. -/
theorem Change.perform_text {change : Change} {call : Builder.Call}
    (hcall : change.call? = some call) (b : Builder) (m : Machine) (text : Option String) :
    ∃ text', (Builder.perform { b with text } m call).2 = { (b.perform m call).2 with text := text' } := by
  cases change with
  | addHeader name value => cases hcall
  | setBody own type =>
    cases hcall
    exact ⟨own, rfl⟩
  | setCharset charset =>
    cases hcall
    refine ⟨text, ?_⟩
    cases charset with
    | none => rfl
    | some points =>
      simp only [Builder.perform]
      cases hname : asString points with
      | error failure =>
        simp only [Builder.setCharsetPoints_surrogate _ hname]
        rfl
      | ok name =>
        obtain rfl := asString_ok_iff.mp hname
        have hrun := fun b : Builder => b.setCharsetPoints_ofString (some name)
        simp only [Option.map_some] at hrun
        simp only [hrun, Builder.setCharset]
        cases Codec.lookup name with
        | ok codec => rfl
        | error fault => cases fault <;> rfl
  | addFile fieldName fileName source mimeType =>
    cases hcall
    refine ⟨text, ?_⟩
    -- which file is attached does not depend on the builder
    obtain ⟨m', hrun⟩ := Builder.addFile_run fieldName fileName source mimeType m
    simp only [Builder.perform, hrun]
    cases Builder.attaching fieldName fileName source mimeType m with
    | ok found => cases found <;> rfl
    | error failure => rfl
  | addParameter name value =>
    cases hcall
    cases name with
    | some name => exact ⟨text, rfl⟩
    | none =>
      cases value with
      | some value => exact ⟨some value, rfl⟩
      | none => exact ⟨text, rfl⟩

omit [Platform] in
/-- `addHeader` neither reads nor writes the body. -/
theorem addHeader_body (r : Request) (name value : Option String) :
    ∃ headers, ∀ body, (({ r with body } : Request).addHeader name value).2 =
      { r with headers, body } := by
  cases name with
  | none => exact ⟨r.headers, fun body => rfl⟩
  | some name =>
    cases value with
    | none => exact ⟨r.headers, fun body => rfl⟩
    | some value =>
      unfold addHeader
      by_cases hname : name = ""
      · exact ⟨r.headers, fun body => by simp only [if_pos hname]⟩
      · exact ⟨r.headers ++ [(name, value)], fun body => by simp only [if_neg hname]⟩

/-- **A change keeps two requests alike.** -/
theorem Alike.perform {r' : Request} (h : Alike r r') (m : Machine) (change : Change) :
    Alike (r.perform m change) (r'.perform m change) := by
  obtain ⟨b, text, hbody, rfl⟩ := h
  cases hcall : change.call? with
  | none =>
    cases change with
    | addHeader name value =>
      -- a header changes `headers` alone, in the same way for any body
      obtain ⟨headers, hadded⟩ := r.addHeader_body name value
      refine ⟨b, text, ?_, ?_⟩
      · exact (congrArg Request.body (hadded r.body)).trans hbody
      · exact (hadded _).trans (congrArg (fun x : Request =>
          { x with body := some { b with text } }) (hadded r.body)).symm
    | _ => cases hcall
  | some call =>
    -- a call on the body gives the same builder, up to the text it holds
    obtain ⟨text', htext⟩ := Change.perform_text hcall b m text
    refine ⟨(b.perform m call).2, text', ?_, ?_⟩
    · rw [perform_body hcall hbody]
    · rw [perform_body hcall hbody, perform_body hcall rfl, htext]

/-- **What a build leaves of a request**: all of it; or, where there is neither a parameter nor a file,
all but the text. -/
theorem rebuilt_cases {s : Session} (hbody : s.request.body = some b) :
    s.rebuilt = s.request ∨
      (b.parameters = [] ∧ b.files = [] ∧
        s.rebuilt = { s.request with body := some { b with text := none } }) := by
  unfold Session.rebuilt
  cases hbuild : s.request.build s.machine with
  | error failure m => exact .inl rfl
  | ok built m =>
    obtain ⟨entity, r⟩ := built
    obtain ⟨hnone, -⟩ | ⟨b₁, b', hbody', hb, rfl⟩ := build_cases hbuild
    · rw [hbody] at hnone
      cases hnone
    · obtain rfl : b = b₁ := Option.some.inj (hbody.symm.trans hbody')
      have hsame : ({ s.request with body := some b } : Request) = s.request := by rw [← hbody]
      -- only a build that makes a text entity changes the builder
      cases Builder.builds_of_build hb with
      | text text e hfiles hparams htext hne he => exact .inr ⟨hparams, hfiles, rfl⟩
      | _ => exact .inl hsame

/-- By `rebuilt_cases`, a build changes nothing but the text. -/
theorem Alike.rebuilt {s : Session} (h : Alike r s.request) : Alike r s.rebuilt := by
  obtain ⟨b, text, hbody, hrequest⟩ := h
  obtain hsame | ⟨-, -, hspent⟩ := rebuilt_cases (s := s) (by rw [hrequest])
  · exact ⟨b, text, hbody, hsame.trans hrequest⟩
  · exact ⟨b, none, hbody, hspent.trans (by rw [hrequest])⟩

/-- The request that the changes among some events make. -/
def changedBy (r : Request) : List Event → Request
  | [] => r
  | .changed change m :: rest => (r.perform m change).changedBy rest
  | .tried _ _ :: rest => r.changedBy rest

/-- **Sending uses up no more than the text**: but for that, the request is the one that the changes alone
make. -/
theorem Leads.alike {r₀ r' : Request} {events : List Event} (h : Leads r events r')
    (hr : Alike r₀ r) : Alike (r₀.changedBy events) r' := by
  induction h generalizing r₀ with
  | nil r => exact hr
  | changed rest ih => exact ih (hr.perform _ _)
  | tried rest ih => exact ih hr.rebuilt

end Request

end

end Courier
