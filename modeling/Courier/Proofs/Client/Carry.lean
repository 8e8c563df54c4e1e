import Courier.Platform.Plain
import Courier.Proofs.Builder.Stable
import Courier.Proofs.Client.History

/-!
# What attempts carry

A request is changed and sent, in any order and any number of times. Parameters and files go with every
attempt: between two changes all attempts carry the same load, if the sources of the files answer the
same each time. A text goes with one attempt at most, the first after it was set for which an entity can
be built, and it is left alone while there are parameters or files.

To carry something is to send it (`Session.Carries`): an entity was built, and the exchanges that the
attempt adds to `Machine.sent` begin with the message that is made of it, whose body is the bytes of the
entity.

Main statement: `Request.run_carries`. Its parts are read off the notes of the run (`Request.Leads`), with
the facts about one attempt from the first two sections.
-/

namespace Courier

open Charset

section

variable [Platform]

/-! ## One attempt -/

/-- Whether a request has neither parameters nor files in its body. -/
def Request.isBare (r : Request) : Bool :=
  match r.body with
  | some b => b.parameters.isEmpty && b.files.isEmpty
  | none => true

omit [Platform] in
/-- `isBare` reads two lists of the body. -/
theorem Request.isBare_iff {r : Request} {b : Builder} (hbody : r.body = some b) :
    r.isBare = true ↔ b.parameters = [] ∧ b.files = [] := by
  unfold isBare
  rw [hbody, Bool.and_eq_true, List.isEmpty_iff, List.isEmpty_iff]

omit [Platform] in
/-- The other way round, as the builder's lemmas ask for it. -/
theorem Request.full_of_not_bare {r : Request} {b : Builder} (hbody : r.body = some b)
    (h : ¬ r.isBare = true) : b.files ≠ [] ∨ b.parameters ≠ [] := by
  rw [isBare_iff hbody] at h
  exact (not_and_or.mp h).symm

/-- The request has a body with this text; an empty one is none. -/
def Request.Holds (r : Request) (text : String) : Prop :=
  ∃ b, r.body = some b ∧ b.text.getD "" = text

/-- The build of a request with a body is that of the body. -/
theorem Request.build_ok {r : Request} {b b' : Builder} {entity : Option Entity} {m m' : Machine}
    (hbody : r.body = some b) (h : b.build m = .ok (entity, b') m') :
    r.build m = .ok (entity, { r with body := some b' }) m' := by
  unfold build
  rw [hbody]
  exact Act.bind_run_ok h

/-- It fails as that of the body does. -/
theorem Request.build_error {r : Request} {b : Builder} {failure : Failure} {m m' : Machine}
    (hbody : r.body = some b) (h : b.build m = .error failure m') :
    r.build m = .error failure m' := by
  unfold build
  rw [hbody]
  exact Act.bind_run_error h

namespace Session

variable {manner : Net.Manner} {t : Session} {b : Builder} {text : String}

/-- `Session.rebuilt` after a build that succeeded has the builder that the build left. -/
theorem rebuilt_ok {b' : Builder} {entity : Option Entity} {m : Machine}
    (hbody : t.request.body = some b) (h : b.build t.machine = .ok (entity, b') m) :
    t.rebuilt = { t.request with body := some b' } := by
  unfold rebuilt
  rw [Request.build_ok hbody h]

/-- After one that failed the request is as it was. -/
theorem rebuilt_error {failure : Failure} {m : Machine} (hbody : t.request.body = some b)
    (h : b.build t.machine = .error failure m) : t.rebuilt = t.request := by
  unfold rebuilt
  rw [Request.build_error hbody h]

/-- **An attempt carries an entity with these bytes**: the entity was built in it, and what the attempt
sends is the chain of the message that the client makes of it, with the bytes as body. The body is not read
where no connection comes about, and nothing is sent if no message can be made or the connection is closed. -/
structure Carries (manner : Net.Manner) (t : Session) (entity : Option Entity) (bytes : Bytes) : Prop where
  built : ∃ r m, t.request.build t.machine = .ok (entity, r) m
  wire :
    match t.client.messageOf manner (t.request.attempt entity) (entity.map Entity.content),
      (t.client.connect manner).1 with
    | .ok message, true =>
      Net.Chain t.client.config.timeout t.client.config.followRedirects message
        (if t.machine.upcoming.unconnected?.isSome then none else some bytes) (t.sent manner)
    | _, _ => t.sent manner = []

/-- No entity can be built in an attempt, and nothing is sent. -/
def Unbuilt (manner : Net.Manner) (t : Session) : Prop :=
  (∃ failure m, t.request.build t.machine = .error failure m) ∧ t.sent manner = []

/-- A build that fails leaves no message, so nothing is sent (`sent_of_untransmitted`). -/
theorem unbuilt_of_error {failure : Failure} {m : Machine}
    (h : t.request.build t.machine = .error failure m) : t.Unbuilt manner := by
  refine ⟨⟨failure, m, h⟩, sent_of_untransmitted ?_⟩
  unfold transmitted
  rw [h]

/-- **What is built is carried**, if it gives these bytes whenever the files are as they are. By
`sent_of_transmitted`: the body is read on the machine that the build leaves, whose files and outcomes are
those from before. -/
theorem carries_of_built {entity : Option Entity} {r : Request} {m : Machine} {bytes : Bytes}
    (hbuild : t.request.build t.machine = .ok (entity, r) m)
    (hread : ∀ w : Machine, w.files = t.machine.files → ∃ body w',
      (Net.Body.ofContent (entity.map Entity.content)).read manner w = .ok (bytes, body) w') :
    t.Carries manner entity bytes := by
  refine ⟨⟨r, m, hbuild⟩, ?_⟩
  have htransmitted : t.transmitted manner = _ := transmitted_of_ok hbuild
  cases hmessage : t.client.messageOf manner (t.request.attempt entity) (entity.map Entity.content) with
  | error failure =>
    rw [hmessage] at htransmitted
    exact sent_of_untransmitted htransmitted
  | ok message =>
    rw [hmessage] at htransmitted
    cases hopen : (t.client.connect manner).1 with
    | false =>
      rw [hopen] at htransmitted
      exact sent_of_untransmitted htransmitted
    | true =>
      rw [hopen] at htransmitted
      obtain ⟨entity', r', m', hbuild', hchain⟩ := sent_of_transmitted htransmitted
      cases hbuild.symm.trans hbuild'
      -- the body is read on the machine the build left: same files, same next answer
      have hupcoming := readied_keeps Machine.aside_upcoming hbuild
      have hfiles := readied_keeps Machine.aside_files hbuild
      have hbody : message.bodySent manner (t.readied entity r m).machine =
          if t.machine.upcoming.unconnected?.isSome then none else some bytes := by
        obtain ⟨body, w', hbytes⟩ := hread (t.readied entity r m).machine.advanced hfiles
        unfold Net.Message.bodySent
        rw [hupcoming, t.client.messageOf_body manner hmessage, hbytes]
        cases t.machine.upcoming.unconnected? <;> rfl
      rw [hbody] at hchain
      exact hchain

/-- The attempt carries no content and exactly the headers of the request. -/
def CarriesNothing (manner : Net.Manner) (t : Session) : Prop :=
  t.Carries manner none [] ∧ (t.request.attempt none).headers = t.request.headers

/-- The attempt carries a text, in the charset and with the type that the body has. -/
def CarriesText (manner : Net.Manner) (t : Session) (text : String) : Prop :=
  ∃ b bytes, t.request.body = some b ∧ encodeText b.charset text = .ok bytes ∧
    t.Carries manner
      (some (.ofBytes .text (b.textType ++ "; charset=" ++ b.charset) (some b.charset) bytes)) bytes

/-- No entity is no content: `carries_of_built` with the bytes of `Content.held []`. -/
theorem carriesNothing_of_built {r : Request} {m : Machine}
    (hbuild : t.request.build t.machine = .ok (none, r) m) : t.CarriesNothing manner :=
  ⟨carries_of_built hbuild fun w _ => ⟨.held [], w, rfl⟩, rfl⟩

/-- An attempt to send a bare request without a text carries nothing. -/
theorem carriesNothing_of_empty (manner : Net.Manner) (h : t.request.Holds "")
    (hbare : t.request.isBare = true) : t.CarriesNothing manner ∧ t.rebuilt.Holds "" := by
  obtain ⟨b, hbody, htext⟩ := h
  obtain ⟨hparams, hfiles⟩ := (Request.isBare_iff hbody).mp hbare
  have hbuild := Builder.build_nothing (m := t.machine) hfiles hparams htext
  refine ⟨carriesNothing_of_built (Request.build_ok hbody hbuild), b, ?_, htext⟩
  rw [rebuilt_ok hbody hbuild]

/-- **An attempt to send a bare request with a text**: either the charset refuses the text, and the
request keeps it; or the attempt carries the text, and the request has none from then on. -/
theorem carriesText_or_refused (manner : Net.Manner) (h : t.request.Holds text) (hne : text ≠ "")
    (hbare : t.request.isBare = true) :
    (t.Unbuilt manner ∧ t.rebuilt.Holds text) ∨ (t.CarriesText manner text ∧ t.rebuilt.Holds "") := by
  obtain ⟨b, hbody, htext⟩ := id h
  obtain ⟨hparams, hfiles⟩ := (Request.isBare_iff hbody).mp hbare
  -- a text that is not empty was set, so the build is of the text alone
  have hsome : b.text = some text := by
    cases hown : b.text with
    | none =>
      rw [hown] at htext
      exact absurd htext.symm hne
    | some own =>
      rw [hown] at htext
      exact congrArg some htext
  have hbuild := Builder.build_text (m := t.machine) hfiles hparams hsome hne
  unfold Builder.textEntity at hbuild
  cases hbytes : encodeText b.charset text with
  | error fault =>
    rw [hbytes] at hbuild
    rw [rebuilt_error hbody hbuild]
    exact .inl ⟨unbuilt_of_error (Request.build_error hbody hbuild), h⟩
  | ok bytes =>
    rw [hbytes] at hbuild
    rw [rebuilt_ok hbody hbuild]
    have hcarries : t.Carries manner _ bytes := carries_of_built (Request.build_ok hbody hbuild)
      fun w _ => ⟨.held bytes, w, rfl⟩
    exact .inr ⟨⟨b, bytes, hbody, hbytes, hcarries⟩, _, rfl, rfl⟩

end Session

/-! ### With parameters or files -/

namespace Builder

variable {b : Builder}

/-- `addFiles` asks for the files and their types, never for the text. Induction on the attachments. -/
theorem addFiles_text (b : Builder) (text : Option String) (textType : String) (d : Multipart.Draft)
    (as : List Attachment) : Builder.addFiles { b with text, textType } d as = b.addFiles d as := by
  induction as generalizing d with
  | nil => rfl
  | cons a rest ih =>
    unfold addFiles
    simp only [ih]
    rfl

/-- **Where there are parameters or files the entity is made without the text**: by an action that is the
same whatever the text is, and that leaves the builder alone. -/
theorem build_full (hfull : b.files ≠ [] ∨ b.parameters ≠ []) :
    ∃ entity : Act (Option Entity), ∀ text textType (m : Machine),
      Builder.build { b with text, textType } m =
        (entity >>= fun e => pure (e, { b with text, textType })) m := by
  cases b.way with
  | nothing hfiles hparams htext => exact (hfull.elim (fun h => h hfiles) fun h => h hparams).elim
  | text text hfiles hparams htext hne => exact (hfull.elim (fun h => h hfiles) fun h => h hparams).elim
  | form hfiles hparams =>
    -- in the three ways with parts the entity is made without a look at `text` and `textType`
    refine ⟨Act.ofExcept b.formEntity >>= fun e => pure (some e), fun text textType m => ?_⟩
    rw [build_form (b := { b with text, textType }) hfiles hparams, bind_assoc]
    simp only [pure_bind]
    rfl
  | file a hfiles hparams =>
    refine ⟨b.fileEntity a, fun text textType m => ?_⟩
    rw [build_file (b := { b with text, textType }) hfiles hparams]
    rfl
  | multipart hfiles hmany =>
    refine ⟨b.multipartEntity >>= fun e => pure (some e), fun text textType m => ?_⟩
    have hentity : Builder.multipartEntity { b with text, textType } = b.multipartEntity := by
      unfold multipartEntity
      simp only [addFiles_text]
    rw [build_multipart (b := { b with text, textType }) hfiles hmany, hentity, bind_assoc]
    simp only [pure_bind]

/-- The entity is then none of a text. -/
theorem build_full_kind {b' : Builder} {e : Entity} {m' : Machine}
    (hfull : b.files ≠ [] ∨ b.parameters ≠ []) (h : b.build m = .ok (some e, b') m') :
    e.kind ≠ .text := by
  cases builds_of_build h with
  | text text e hfiles hparams htext hne he =>
    exact (hfull.elim (fun h => h hfiles) fun h => h hparams).elim
  | form e hfiles hparams he =>
    rw [formEntity_kind he]
    nofun
  | file a e m' hfiles hparams he =>
    rw [fileEntity_kind he]
    nofun
  | multipart e m' hfiles hmany he =>
    rw [multipartEntity_kind he]
    nofun

end Builder

namespace Session

variable {t : Session} {b : Builder}

/-- The session, had its request this body. -/
def withBody (t : Session) (b : Builder) : Session :=
  { t with request := { t.request with body := some b } }

/-- `build_full` gives the builder back, and a build that fails changes nothing. -/
theorem rebuilt_of_full (hbody : t.request.body = some b)
    (hfull : b.files ≠ [] ∨ b.parameters ≠ []) : t.rebuilt = t.request := by
  obtain hsame | ⟨hparams, hfiles, -⟩ := Request.rebuilt_cases hbody
  · exact hsame
  · exact (hfull.elim (fun h => h hfiles) fun h => h hparams).elim

/-- Two attempts with the same client, in which the same is built for the same address, leave the same
machine. -/
theorem machine_of_sameBuild {t' : Session} {entity : Option Entity} {r r' : Request} {m : Machine}
    (hclient : t'.client = t.client) (hattempt : t'.request.attempt entity = t.request.attempt entity)
    (hbuild : t.request.build t.machine = .ok (entity, r) m)
    (hbuild' : t'.request.build t'.machine = .ok (entity, r') m) (manner : Net.Manner) :
    (stateAfter (attempt manner t')).machine = (stateAfter (attempt manner t)).machine := by
  rw [attempt_built manner hbuild, attempt_built manner hbuild', hclient, hattempt]
  have hmachine : (t'.readied entity r' m).machine = (t.readied entity r m).machine := by
    show stateAfter (logAttempt (t'.request.attempt entity) m) = _
    rw [hattempt]
    rfl
  -- all that the transmission sees is the link: the machine and the cookies of this manner
  have hlink : ((t'.readied entity r' m).connected manner).link manner =
      ((t.readied entity r m).connected manner).link manner := by
    show Net.Link.mk (t'.readied entity r' m).machine ((t'.client.connect manner).2.cookies manner) = _
    rw [hmachine, hclient]
    rfl
  cases t.client.messageOf manner (t.request.attempt entity) (entity.map Entity.content) with
  | error failure => exact hmachine
  | ok message =>
    cases (t.client.connect manner).1 with
    | false => exact hmachine
    | true =>
      simp only [if_true]
      rw [stateAfter_onLink, stateAfter_onLink, hlink]
      rfl

/-- **With parameters or files, an attempt has nothing to do with the text**: it never carries a text,
leaves the request as it was, and does to the machine what it would do with any other text; so it sends the
same. -/
theorem keeps_text (hbody : t.request.body = some b) (hfull : b.files ≠ [] ∨ b.parameters ≠ [])
    (manner : Net.Manner) :
    t.rebuilt = t.request ∧
      (∀ e r m, t.request.build t.machine = .ok (some e, r) m → e.kind ≠ .text) ∧
      ∀ text textType, (stateAfter (attempt manner (t.withBody { b with text, textType }))).machine =
        (stateAfter (attempt manner t)).machine := by
  refine ⟨rebuilt_of_full hbody hfull, ?_, fun text textType => ?_⟩
  · intro e r m hbuild
    obtain ⟨hnone, -⟩ | ⟨b₁, b', hbody', hb, -⟩ := Request.build_cases hbuild
    · rw [hbody] at hnone
      cases hnone
    · cases hbody.symm.trans hbody'
      exact Builder.build_full_kind hfull hb
  · have hclient : (t.withBody { b with text, textType }).client = t.client := rfl
    have hattempt : ∀ e, (t.withBody { b with text, textType }).request.attempt e = t.request.attempt e :=
      fun _ => rfl
    -- the action that makes the entity is the same with both texts
    obtain ⟨entity, hentity⟩ := Builder.build_full hfull
    have hown := hentity b.text b.textType t.machine
    have hother := hentity text textType t.machine
    cases he : entity t.machine with
    | ok e m =>
      rw [Act.bind_run_ok he] at hown hother
      exact machine_of_sameBuild hclient (hattempt e) (Request.build_ok hbody hown)
        (Request.build_ok rfl hother) manner
    | error failure m =>
      rw [Act.bind_run_error he] at hown hother
      rw [attempt_of_error (Request.build_error hbody hown),
        attempt_of_error (s := t.withBody { b with text, textType }) (Request.build_error rfl hother)]
      rfl

end Session

/-- **An attempt carries a load.** The boundary of a form is the one that is drawn in the attempt. -/
def Load.Carried (manner : Net.Manner) (t : Session) : Load → Prop
  | refused fault =>
    t.Unbuilt manner ∧ ∃ m, t.request.build t.machine = .error (.charset fault) m
  | nothing => t.CarriesNothing manner
  | plain kind type charset length bytes =>
    ∃ e, t.Carries manner (some e) bytes ∧ e.Is t.machine.files kind type charset length bytes
  | form charset length sections =>
    ∃ e, t.Carries manner (some e) (formBytes (Machine.boundary (t.machine.drawn + 1)) sections) ∧
      e.Is t.machine.files .multipart
        ("multipart/form-data; boundary=" ++ Machine.boundary (t.machine.drawn + 1)) (some charset)
        length (formBytes (Machine.boundary (t.machine.drawn + 1)) sections)

/-- An entity that gives these bytes whenever the files are as they are is carried with them. -/
theorem Entity.Is.carries {e : Entity} {t : Session} {r : Request} {m : Machine} {kind : EntityKind}
    {type : String} {charset : Option String} {length : Int} {bytes : Bytes}
    (h : e.Is t.machine.files kind type charset length bytes)
    (hbuild : t.request.build t.machine = .ok (some e, r) m) (manner : Net.Manner) :
    t.Carries manner (some e) bytes := by
  refine Session.carries_of_built hbuild fun w hfiles => ?_
  obtain ⟨w', hgives⟩ := h.gives w hfiles
  obtain ⟨body, hread⟩ := Net.Body.read_of_gives hgives manner
  exact ⟨body, w', hread⟩

/-- An attempt carries what a build makes. -/
theorem Load.Of.carried {load : Load} {t : Session} {b : Builder} (hbody : t.request.body = some b)
    (h : load.Of b t.machine) (manner : Net.Manner) : load.Carried manner t := by
  cases load with
  | refused fault =>
    obtain ⟨m, hbuild⟩ := h
    have hrequest := Request.build_error hbody hbuild
    exact ⟨Session.unbuilt_of_error hrequest, m, hrequest⟩
  | nothing =>
    obtain ⟨m, hbuild⟩ := h
    exact Session.carriesNothing_of_built (Request.build_ok hbody hbuild)
  | plain kind type charset length bytes =>
    obtain ⟨e, m, hbuild, he⟩ := h
    exact ⟨e, he.carries (Request.build_ok hbody hbuild) manner, he⟩
  | form charset length sections =>
    obtain ⟨e, m, hbuild, he⟩ := h
    exact ⟨e, he.carries (Request.build_ok hbody hbuild) manner, he⟩

/-! ## All attempts of a history -/

namespace Request

variable {r r' : Request} {events : List Event} {text : String}

/-- An attempt as an event. -/
def Event.ofTry (try_ : Net.Manner × Session) : Event := .tried try_.1 try_.2

/-- An attempt to send a bare request, with its manner. -/
def Event.bare? : Event → Option (Net.Manner × Session)
  | .tried manner t => if t.request.isBare then some (manner, t) else none
  | .changed _ _ => none

/-- The attempts to send the request while it is bare. -/
def bareTries (events : List Event) : List (Net.Manner × Session) :=
  events.filterMap Event.bare?

theorem bareTries_bare {t : Session} (h : t.request.isBare = true) (manner : Net.Manner)
    (events : List Event) :
    bareTries (.tried manner t :: events) = (manner, t) :: bareTries events :=
  List.filterMap_cons_some (if_pos h)

theorem bareTries_full {t : Session} (h : ¬ t.request.isBare = true) (manner : Net.Manner)
    (events : List Event) : bareTries (.tried manner t :: events) = bareTries events :=
  List.filterMap_cons_none (if_neg h)

/-- No change among the events sets the text. -/
def LeavesText (events : List Event) : Prop :=
  ∀ change m, .changed change m ∈ events → change.text? = none

/-- What holds of all events holds of the later ones. -/
theorem LeavesText.tail {event : Event} (h : LeavesText (event :: events)) : LeavesText events :=
  fun change m hmem => h change m (List.mem_cons_of_mem _ hmem)

/-! ### The text of the body -/

omit [Platform] in
/-- What a change sets the text to can be read off the call that it comes down to, whatever the reply. -/
theorem Change.text?_call {change : Change} {call : Builder.Call} (hcall : change.call? = some call)
    (m : Machine) (reply : Builder.Reply) :
    Builder.Event.text? ⟨call, m, reply⟩ = change.text? := by
  cases change with
  | addHeader name value => cases hcall
  | addParameter name value =>
    cases hcall
    cases name <;> cases value <;> rfl
  | _ =>
    cases hcall
    rfl

/-- The text after a change is `Change.text?`, or else the one from before. -/
theorem perform_holds {b : Builder} (hbody : r.body = some b) (m : Machine) (change : Change) :
    (r.perform m change).Holds ((change.text?.getD b.text).getD "") := by
  cases hcall : change.call? with
  | none =>
    cases change with
    | addHeader name value =>
      obtain ⟨headers, hadded⟩ := r.addHeader_body name value
      exact ⟨b, (congrArg Request.body (hadded r.body)).trans hbody, rfl⟩
    | _ => cases hcall
  | some call =>
    have htext := (b.perform_explained m call).text
    unfold Builder.lastOr at htext
    refine ⟨(b.perform m call).2, by rw [perform_body hcall hbody], ?_⟩
    rw [htext, List.filterMap_cons, Change.text?_call hcall]
    cases change.text? <;> rfl

/-- `perform_holds` for a change that does not set the text. -/
theorem Holds.perform (h : r.Holds text) (m : Machine) {change : Change}
    (hchange : change.text? = none) : (r.perform m change).Holds text := by
  obtain ⟨b, hbody, htext⟩ := h
  have hkept := perform_holds hbody m change
  rwa [hchange, Option.getD_none, htext] at hkept

/-- With parameters or files a build leaves the text alone (`rebuilt_of_full`). -/
theorem Holds.rebuilt {t : Session} (h : t.request.Holds text) (hfull : ¬ t.request.isBare = true) :
    t.rebuilt.Holds text := by
  obtain ⟨b, hbody, -⟩ := id h
  rwa [Session.rebuilt_of_full hbody (full_of_not_bare hbody hfull)]

/-- **Without a text, nothing is carried.** Induction on the events; without a text a build of a bare
request leaves it as it is. -/
theorem Leads.nothing (h : Leads r events r') (hr : r.Holds "") (hleaves : LeavesText events) :
    ∀ t ∈ bareTries events, t.2.CarriesNothing t.1 := by
  induction h with
  | nil r => exact List.forall_mem_nil _
  | @changed r r' change m events rest ih =>
    exact ih (hr.perform m (hleaves change m List.mem_cons_self)) hleaves.tail
  | @tried manner start r' events rest ih =>
    by_cases hbare : start.request.isBare = true
    · obtain ⟨hnothing, hkept⟩ := Session.carriesNothing_of_empty manner hr hbare
      rw [bareTries_bare hbare, List.forall_mem_cons]
      exact ⟨hnothing, ih hkept hleaves.tail⟩
    · rw [bareTries_full hbare]
      exact ih (hr.rebuilt hbare) hleaves.tail

/-- **A text is carried once.** Induction on the events: as long as no entity could be built the text is
still there, and from the attempt on that carries it there is none. -/
theorem Leads.once (h : Leads r events r') (hr : r.Holds text) (hne : text ≠ "")
    (hleaves : LeavesText events) :
    ∃ failed rest, bareTries events = failed ++ rest ∧ (∀ t ∈ failed, t.2.Unbuilt t.1) ∧
      ∀ first later, rest = first :: later →
        first.2.CarriesText first.1 text ∧ ∀ t ∈ later, t.2.CarriesNothing t.1 := by
  induction h with
  | nil r => exact ⟨[], [], rfl, List.forall_mem_nil _, fun first later heq => by cases heq⟩
  | @changed r r' change m events rest ih =>
    exact ih (hr.perform m (hleaves change m List.mem_cons_self)) hleaves.tail
  | @tried manner start r' events rest ih =>
    by_cases hbare : start.request.isBare = true
    · rw [bareTries_bare hbare]
      obtain ⟨hfailed, hkept⟩ | ⟨hcarried, hspent⟩ :=
        Session.carriesText_or_refused manner hr hne hbare
      · obtain ⟨failed, others, hsplit, hall, hothers⟩ := ih hkept hleaves.tail
        refine ⟨(manner, start) :: failed, others, by rw [hsplit]; rfl, ?_, hothers⟩
        exact List.forall_mem_cons.mpr ⟨hfailed, hall⟩
      · -- the text is spent, whatever comes after
        have hlater := rest.nothing hspent hleaves.tail
        refine ⟨[], (manner, start) :: bareTries events, rfl, List.forall_mem_nil _, fun first later heq => ?_⟩
        obtain ⟨rfl, rfl⟩ := List.cons.inj heq
        exact ⟨hcarried, hlater⟩
    · rw [bareTries_full hbare]
      exact ih (hr.rebuilt hbare) hleaves.tail

/-- Events that hold a change which sets a text can be cut behind it, where the request `Holds` that text
(`Leads.split`, `perform_holds`). -/
theorem Leads.set {before during after : List Event} {change : Change} {m : Machine} {b : Builder}
    {text : Option String} (h : Leads r (before ++ .changed change m :: (during ++ after)) r')
    (hbody : r.body = some b) (htext : change.text? = some text) :
    ∃ r₁ r₂, r₁.Holds (text.getD "") ∧ Leads r₁ during r₂ := by
  obtain ⟨r₁, hbefore, hrest⟩ := h.split
  obtain ⟨b₁, own, -, hr₁⟩ := hbefore.alike (.refl hbody)
  cases hrest with
  | changed hrest =>
    obtain ⟨r₂, hduring, -⟩ := hrest.split
    have hbody₁ : r₁.body = some { b₁ with text := own } := by rw [hr₁]
    have hset := perform_holds hbody₁ m change
    rw [htext] at hset
    exact ⟨_, r₂, hset, hduring⟩

/-! ### Parameters and files -/

/-- With parameters or files an attempt leaves the request as it was (`rebuilt_of_full`), and so do all
attempts between two changes. Induction on these. -/
theorem Leads.same {tries : List (Net.Manner × Session)} {after : List Event} {b : Builder}
    (h : Leads r (tries.map Event.ofTry ++ after) r') (hbody : r.body = some b)
    (hfull : b.files ≠ [] ∨ b.parameters ≠ []) : ∀ t ∈ tries, t.2.request = r := by
  induction tries generalizing r with
  | nil => exact List.forall_mem_nil _
  | cons first rest ih =>
    rw [List.map_cons, List.cons_append] at h
    cases h with
    | tried hrest =>
      -- the first attempt leaves the request, so the others begin with the same one
      rw [Session.rebuilt_of_full hbody hfull] at hrest
      exact List.forall_mem_cons.mpr ⟨rfl, ih hrest hbody⟩

/-! ## What a history carries -/

/-- What the attempts among events carry, which began with a request. -/
structure Carries (r : Request) (events : List Event) : Prop where
  /-- Between two changes, all attempts to send a request with parameters or files carry the same load, if
  the sources of the files answer the same in all of them. They carry nothing only if the single file is
  gone, and come to no entity only if the charset refuses a text. -/
  same : ∀ before first others after,
    events = before ++ ((first :: others).map Event.ofTry ++ after) →
    ∀ b, first.2.request.body = some b → (b.files ≠ [] ∨ b.parameters ≠ []) →
    ∀ answers : Handle → Option Answer, ∃ load : Load,
      (load = .nothing ↔ ∃ a, b.files = [a] ∧ b.parameters = [] ∧ answers a.source = none) ∧
      (∀ fault, load = .refused fault → ∃ text, encodeText b.charset text = .error fault) ∧
      ∀ t ∈ first :: others, t.2.request = first.2.request ∧
        ((∀ a ∈ b.files, a.Stable b.sniffBytes t.2.machine.files (answers a.source)) →
          load.Carried t.1 t.2)
  /-- From the setting of a text to the next, of all attempts to send the bare request the first that comes
  to an entity carries the text, and those after it carry nothing. -/
  once : ∀ before change m during after text,
    events = before ++ .changed change m :: (during ++ after) →
    change.text? = some (some text) → text ≠ "" → LeavesText during →
    ∃ failed rest, bareTries during = failed ++ rest ∧ (∀ t ∈ failed, t.2.Unbuilt t.1) ∧
      ∀ first later, rest = first :: later →
        first.2.CarriesText first.1 text ∧ ∀ t ∈ later, t.2.CarriesNothing t.1
  /-- After an empty text was set, or none, they all carry nothing. -/
  nothing : ∀ before change m during after text,
    events = before ++ .changed change m :: (during ++ after) →
    change.text? = some text → text.getD "" = "" → LeavesText during →
    ∀ t ∈ bareTries during, t.2.CarriesNothing t.1
  /-- With parameters or files, an attempt never carries a text, leaves the request as it is, and does to the
  machine what it would do with any other text. -/
  kept : ∀ manner t, .tried manner t ∈ events → ∀ b, t.request.body = some b →
    (b.files ≠ [] ∨ b.parameters ≠ []) →
    t.rebuilt = t.request ∧
      (∀ e r m, t.request.build t.machine = .ok (some e, r) m → e.kind ≠ .text) ∧
      ∀ text textType,
        (stateAfter (Session.attempt manner (t.withBody { b with text, textType }))).machine =
          (stateAfter (Session.attempt manner t)).machine
  /-- But for its text, the request that is sent is the one that the changes alone make. -/
  alike : ∀ before manner t after, events = before ++ .tried manner t :: after →
    Alike (r.changedBy before) t.request

/-- **What events lead to is what they carry.** Each field cuts the events where its statement does
(`Leads.split`, `Leads.set`) and is one of the inductions above: `Leads.same` with `Builder.load_of_stable`,
`Leads.once`, `Leads.nothing`, `Session.keeps_text` and `Leads.alike`. -/
theorem Leads.carries {b : Builder} (h : Leads r events r') (hbody : r.body = some b) :
    Carries r events where
  same := by
    rintro before first others after rfl b hfirst hfull answers
    obtain ⟨r₁, -, hrest⟩ := h.split
    -- one load for the builder, whatever the machine: each attempt that finds it unchanged carries it
    obtain ⟨load, hnothing, hrefused, hload⟩ := b.load_of_stable hfull answers
    have hr₁ : r₁ = first.2.request := by
      cases hrest
      rfl
    have hsame := hrest.same (hr₁ ▸ hfirst) hfull
    refine ⟨load, hnothing, hrefused, fun t ht => ?_⟩
    have hrequest : t.2.request = first.2.request := (hsame t ht).trans hr₁
    refine ⟨hrequest, fun hstable => ?_⟩
    exact (hload t.2.machine hstable).carried (by rw [hrequest, hfirst]) t.1
  once := by
    rintro before change m during after text rfl htext hne hleaves
    obtain ⟨r₁, r₂, hset, hduring⟩ := h.set hbody htext
    exact hduring.once hset hne hleaves
  nothing := by
    rintro before change m during after text rfl htext hempty hleaves
    obtain ⟨r₁, r₂, hset, hduring⟩ := h.set hbody htext
    exact hduring.nothing (hempty ▸ hset) hleaves
  kept := fun manner t _ b hbody hfull => Session.keeps_text hbody hfull manner
  alike := by
    rintro before manner t after rfl
    obtain ⟨r₁, hbefore, hrest⟩ := h.split
    have hr₁ : r₁ = t.request := by
      cases hrest
      rfl
    exact hr₁ ▸ hbefore.alike (.refl hbody)

end Request

end

namespace Request

end Request

end Courier
