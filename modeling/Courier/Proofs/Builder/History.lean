import Courier.Platform.Plain
import Courier.Proofs.Builder.Outcome
import Courier.Proofs.Charset.Points

/-!
# The history of a builder

What is in a builder is a function of the calls that were made on it. A run makes one call after the
other, goes on after calls that were refused or failed, and notes for each call the machine on which it
was made and what the caller got. Nothing ties the machines of a run together: between two calls files
may come and go and sources may change their mind.

The state is read off the notes alone: parameters and attachments are those that were taken, in order
(`Event.parameter?`, `Event.attachment?`); charset, type and text are what the last call that set them
said (`Event.charset?`, `Event.textType?`, `Event.text?`). Main statement: `Builder.run_explained`.
-/

namespace Courier.Builder

/-! ## Runs -/

/-- A call on a builder. The name of a charset may hold halves of surrogate pairs; what is said of a call
with any other text holds for the texts that have none. -/
inductive Call where
  | addParameter (name value : Option String)
  | setBody (text type : Option String)
  | setCharset (charset : Option (List CodePoint))
  | addFile (fieldName fileName : Option String) (source : Source) (mimeType : Option String)
  | build

/-- What the caller gets. -/
inductive Reply where
  /-- The call always succeeds. -/
  | done
  | answer (accepted : Bool)
  | entity (entity : Option Entity)
  | failed (failure : Failure)

/-- A call, the machine on which it was made, and what came of it. -/
structure Event where
  call : Call
  machine : Machine
  reply : Reply

/-- The reply and the builder after an action that answers; a failed one leaves the builder as it
was. -/
def settle {α : Type} (b : Builder) (reply : α → Reply) :
    EStateM.Result Failure Machine (α × Builder) → Reply × Builder
  | .ok (a, b') _ => (reply a, b')
  | .error failure _ => (.failed failure, b)

/-- Makes a call. -/
def perform [Platform] (b : Builder) (m : Machine) : Call → Reply × Builder
  | .addParameter name value =>
    let (accepted, b') := b.addParameter name value
    (.answer accepted, b')
  | .setBody text type => (.done, b.setBody text type)
  | .setCharset charset => b.settle .answer (b.setCharsetPoints charset m)
  | .addFile fieldName fileName source mimeType =>
    b.settle .answer (b.addFile fieldName fileName source mimeType m)
  | .build => b.settle .entity (b.build m)

/-- Makes calls one after the other, each on a machine of its own, and notes what came of them. -/
def run [Platform] (b : Builder) : List (Call × Machine) → List Event × Builder
  | [] => ([], b)
  | (call, m) :: rest =>
    let (reply, b') := b.perform m call
    let (events, last) := run b' rest
    (⟨call, m, reply⟩ :: events, last)

/-! ## What an event says -/

/-- The name under which a file is sent: the given one unless it is missing or empty, else the one that
its source has of itself. -/
def nameOf (given : Option String) (handle : Handle) (m : Machine) : Except Failure String :=
  match given? given with
  | some name => .ok name
  | none => handle.defaultName m.usage

/-- The file that a call attaches, if its source is one that can be attached and says that it is there.
After that it may be asked for its name. -/
def attaching (fieldName given : Option String) (source : Source) (mimeType : Option String) (m : Machine) :
    Except Failure (Option Attachment) := do
  match ← source.resolution m with
  | none => return none
  | some handle =>
    if ← handle.presence m then
      let name ← nameOf given handle (handle.asked m)
      return some ⟨fieldName, name, handle, mimeType⟩
    else return none

/-- `attaching` attaches what `Source.resolution` gives: the two questions that follow change nothing about
it. -/
theorem resolution_of_attaching {fieldName given mimeType : Option String} {source : Source} {m : Machine}
    {file : Attachment} (h : attaching fieldName given source mimeType m = .ok (some file)) :
    source.resolution m = .ok (some file.source) := by
  unfold attaching at h
  -- an attachment is made only at the end of the three steps, from the handle of the first
  cases hsource : source.resolution m with
  | error failure =>
    rw [hsource] at h
    cases h
  | ok found =>
    rw [hsource] at h
    cases found with
    | none => cases h
    | some handle =>
      replace h : (handle.presence m >>= _) = .ok (some file) := h
      cases hpresence : handle.presence m with
      | error failure =>
        rw [hpresence] at h
        cases h
      | ok there =>
        rw [hpresence] at h
        cases there with
        | false => cases h
        | true =>
          replace h : (nameOf given handle (handle.asked m) >>= _) = .ok (some file) := h
          cases hname : nameOf given handle (handle.asked m) with
          | error failure =>
            rw [hname] at h
            cases h
          | ok name =>
            rw [hname] at h
            cases h
            rfl

namespace Event

/-- The parameter that was added. -/
def parameter? (event : Event) : Option Parameter :=
  match event.call with
  | .addParameter (some name) value => some ⟨name, value⟩
  | _ => none

/-- The file that was attached: its source is one that can be, and said that it was there. -/
def attachment? (event : Event) : Option Attachment :=
  match event.call with
  | .addFile fieldName given source mimeType =>
    match attaching fieldName given source mimeType event.machine with
    | .ok file => file
    | .error _ => none
  | _ => none

/-- The charset that was set and accepted. -/
def charset? (event : Event) : Option String :=
  match event.call, event.reply with
  | .setCharset charset, .answer true => some ((charset.map CodePoint.text).getD defaultCharset)
  | _, _ => none

/-- The type that was set for the text. -/
def textType? (event : Event) : Option String :=
  match event.call with
  | .setBody _ (some type) => if type = "" then none else some type
  | _ => none

/-- What became of the text: it was set, by itself or as a value without a name, or it was used up by
a build that made a text entity. -/
def text? (event : Event) : Option (Option String) :=
  match event.call, event.reply with
  | .setBody text _, _ => some text
  | .addParameter none (some value), _ => some (some value)
  | .build, .entity (some e) => if e.kind = .text then some none else none
  | _, _ => none

end Event

/-- The last of what a list of events says, or else what was there before. -/
def lastOr {α : Type} (said : Event → Option α) (events : List Event) (before : α) : α :=
  (events.filterMap said).getLast?.getD before

/-- `lastOr` over two lists is that of the second, begun with that of the first. -/
theorem lastOr_append {α : Type} (said : Event → Option α) (xs ys : List Event) (before : α) :
    lastOr said (xs ++ ys) before = lastOr said ys (lastOr said xs before) := by
  unfold lastOr
  rw [List.filterMap_append, List.getLast?_append, Option.getD_or]

/-! ## The builder that a history explains -/

/-- Events lead from one builder to another: what is in the second is what was in the first and what
the events say. -/
structure Explained (b : Builder) (events : List Event) (b' : Builder) : Prop where
  parameters : b'.parameters = b.parameters ++ events.filterMap Event.parameter?
  files : b'.files = b.files ++ events.filterMap Event.attachment?
  charset : b'.charset = lastOr Event.charset? events b.charset
  textType : b'.textType = lastOr Event.textType? events b.textType
  text : b'.text = lastOr Event.text? events b.text
  sniffBytes : b'.sniffBytes = b.sniffBytes

theorem Explained.nil (b : Builder) : b.Explained [] b where
  parameters := (List.append_nil _).symm
  files := (List.append_nil _).symm
  charset := rfl
  textType := rfl
  text := rfl
  sniffBytes := rfl

/-- Events that lead on from where others led to: the lists of what was given grow, and of two last words the
later one counts (`lastOr_append`). -/
theorem Explained.append {b b' b'' : Builder} {xs ys : List Event} (h : b.Explained xs b')
    (h' : b'.Explained ys b'') : b.Explained (xs ++ ys) b'' where
  parameters := by rw [h'.parameters, h.parameters, List.filterMap_append, List.append_assoc]
  files := by rw [h'.files, h.files, List.filterMap_append, List.append_assoc]
  charset := by rw [h'.charset, h.charset, lastOr_append]
  textType := by rw [h'.textType, h.textType, lastOr_append]
  text := by rw [h'.text, h.text, lastOr_append]
  sniffBytes := h'.sniffBytes.trans h.sniffBytes

/-- `Explained` for an event that says nothing: each field is what it was. -/
theorem Explained.silent (b : Builder) {event : Event} (hparam : event.parameter? = none)
    (hfile : event.attachment? = none) (hcharset : event.charset? = none)
    (htype : event.textType? = none) (htext : event.text? = none) : b.Explained [event] b where
  parameters := by rw [List.filterMap_cons_none hparam, List.filterMap_nil, List.append_nil]
  files := by rw [List.filterMap_cons_none hfile, List.filterMap_nil, List.append_nil]
  charset := by unfold lastOr; rw [List.filterMap_cons_none hcharset]; rfl
  textType := by unfold lastOr; rw [List.filterMap_cons_none htype]; rfl
  text := by unfold lastOr; rw [List.filterMap_cons_none htext]; rfl
  sniffBytes := rfl

section Runs

variable [Platform]

/-! ## What each call does -/

/-- `setCharset` takes a charset, refuses it with a message, or fails where its name cannot be looked up. By
cases on `Codec.lookup`. -/
theorem setCharset_run (b : Builder) (charset : Option String) (m : Machine) :
    b.setCharset charset m = .ok (true, { b with charset := charset.getD defaultCharset }) m ∨
      (∃ m', b.setCharset charset m = .ok (false, b) m') ∨
        ∃ failure, b.setCharset charset m = .error failure m := by
  cases charset with
  | none => exact .inl rfl
  | some name =>
    simp only [setCharset]
    cases hc : Codec.lookup name with
    | ok codec => exact .inl rfl
    | error fault =>
      cases fault with
      | unknown => exact .inr (.inl ⟨_, rfl⟩)
      | nulInName => exact .inr (.inr ⟨_, rfl⟩)
      | notText => exact .inr (.inr ⟨_, rfl⟩)
      | refuses => exact .inr (.inr ⟨_, rfl⟩)

/-- `setCharsetPoints` looks a name of characters up as that text (`asString_ofString`). -/
theorem setCharsetPoints_ofString (b : Builder) (charset : Option String) :
    b.setCharsetPoints (charset.map CodePoint.ofString) = b.setCharset charset := by
  funext m
  unfold setCharsetPoints
  cases charset with
  | none => rfl
  | some name =>
    show (Act.ofExcept (some <$> asString (CodePoint.ofString name)) >>= _) m = _
    rw [asString_ofString]
    rfl

/-- `setCharsetPoints` fails as `asString` does, before anything is looked up. -/
theorem setCharsetPoints_surrogate (b : Builder) {points : List CodePoint} {failure : Failure}
    (h : asString points = .error failure) (m : Machine) :
    b.setCharsetPoints (some points) m = .error failure m := by
  unfold setCharsetPoints
  show (Act.ofExcept (some <$> asString points) >>= _) m = _
  rw [h]
  rfl

/-- In all three cases of `setCharset_run` only an accepted charset changes the builder. -/
theorem setCharsetPoints_run (b : Builder) (charset : Option (List CodePoint)) (m : Machine) :
    b.setCharsetPoints charset m =
        .ok (true, { b with charset := (charset.map CodePoint.text).getD defaultCharset }) m ∨
      (∃ m', b.setCharsetPoints charset m = .ok (false, b) m') ∨
        ∃ failure, b.setCharsetPoints charset m = .error failure m := by
  cases charset with
  | none => exact b.setCharset_run none m
  | some points =>
    cases hname : asString points with
    | error failure => exact .inr (.inr ⟨failure, b.setCharsetPoints_surrogate hname m⟩)
    | ok name =>
      obtain rfl := asString_ok_iff.mp hname
      have hrun := b.setCharset_run (some name) m
      rw [← setCharsetPoints_ofString] at hrun
      simpa only [Option.map_some, CodePoint.text_ofString] using hrun

/-- What comes of attaching a file, given which one it is. -/
def attach (b : Builder) (m : Machine) :
    Except Failure (Option Attachment) → EStateM.Result Failure Machine (Bool × Builder)
  | .ok (some file) => .ok (true, { b with files := b.files ++ [file] }) m
  | .ok none => .ok (false, b) m
  | .error failure => .error failure m

omit [Platform] in
/-- **Attaching a file asks its source first**, and what it answers does not depend on the builder. -/
theorem addFile_run (fieldName fileName : Option String) (source : Source) (mimeType : Option String)
    (m : Machine) :
    ∃ m', ∀ b : Builder, b.addFile fieldName fileName source mimeType m =
      b.attach m' (attaching fieldName fileName source mimeType m) := by
  have hrun := source.resolve?_run m
  unfold attaching
  cases hs : source.resolution m with
  | error failure =>
    rw [hs] at hrun
    exact ⟨m, fun b => Act.bind_run_error hrun⟩
  | ok found =>
    rw [hs] at hrun
    cases found with
    | none => exact ⟨_, fun b => Act.bind_run_ok hrun⟩
    | some handle =>
      have hasked := handle.exists?_run m
      refine ⟨handle.asked m, fun b => (Act.bind_run_ok hrun).trans ?_⟩
      show _ = b.attach _ (handle.presence m >>= _)
      cases hp : handle.presence m with
      | error failure =>
        rw [hp] at hasked
        exact Act.bind_run_error hasked
      | ok there =>
        rw [hp] at hasked
        refine (Act.bind_run_ok hasked).trans ?_
        cases there with
        | false => rfl
        | true =>
          -- a given name is taken as it is, and only else the source is asked for its own
          show _ = b.attach _ (nameOf fileName handle (handle.asked m) >>= _)
          unfold nameOf
          cases given? fileName with
          | some name => rfl
          | none =>
            show (Act.ofExcept (handle.defaultName (handle.asked m).usage) >>= _) _ = _
            cases handle.defaultName (handle.asked m).usage <;> rfl

/-! ## The history explains the builder -/

/-- By cases on name and value: a parameter, a value that is the text, or nothing. -/
theorem addParameter_explained (b : Builder) (m : Machine) (name value : Option String) :
    b.Explained [⟨.addParameter name value, m, (b.perform m (.addParameter name value)).1⟩]
      (b.perform m (.addParameter name value)).2 := by
  cases name with
  | some name =>
    exact { parameters := rfl, files := (List.append_nil _).symm, charset := rfl, textType := rfl,
            text := rfl, sniffBytes := rfl }
  | none =>
    cases value with
    | some value =>
      exact { parameters := (List.append_nil _).symm, files := (List.append_nil _).symm,
              charset := rfl, textType := rfl, text := rfl, sniffBytes := rfl }
    | none => exact .silent b rfl rfl rfl rfl rfl

/-- `setBody` sets the text, and the type of it unless that is empty. -/
theorem setBody_explained (b : Builder) (m : Machine) (text type : Option String) :
    b.Explained [⟨.setBody text type, m, (b.perform m (.setBody text type)).1⟩]
      (b.perform m (.setBody text type)).2 where
  parameters := (List.append_nil _).symm
  files := (List.append_nil _).symm
  charset := rfl
  textType := by
    cases type with
    | none => rfl
    | some type =>
      show (if type = "" then b.textType else type) = lastOr Event.textType? [_] b.textType
      unfold lastOr
      -- an empty type says nothing, and the one from before stays
      by_cases ht : type = ""
      · rw [if_pos ht, List.filterMap_cons_none (by simp [Event.textType?, ht])]
        rfl
      · rw [if_neg ht, List.filterMap_cons_some (b := type) (by simp [Event.textType?, ht])]
        rfl
  text := rfl
  sniffBytes := rfl

/-- The charset is set if it is accepted, by `setCharsetPoints_run`. -/
theorem setCharset_explained (b : Builder) (m : Machine) (charset : Option (List CodePoint)) :
    b.Explained [⟨.setCharset charset, m, (b.perform m (.setCharset charset)).1⟩]
      (b.perform m (.setCharset charset)).2 := by
  simp only [perform]
  rcases setCharsetPoints_run b charset m with h | ⟨m', h⟩ | ⟨failure, h⟩
  · rw [h]
    exact { parameters := (List.append_nil _).symm, files := (List.append_nil _).symm,
            charset := rfl, textType := rfl, text := rfl, sniffBytes := rfl }
  · rw [h]
    exact .silent b rfl rfl rfl rfl rfl
  · rw [h]
    exact .silent b rfl rfl rfl rfl rfl

/-- A file is attached if `attaching` gives one, by `addFile_run`. -/
theorem addFile_explained (b : Builder) (m : Machine) (fieldName fileName : Option String)
    (source : Source) (mimeType : Option String) :
    b.Explained
      [⟨.addFile fieldName fileName source mimeType, m,
        (b.perform m (.addFile fieldName fileName source mimeType)).1⟩]
      (b.perform m (.addFile fieldName fileName source mimeType)).2 := by
  obtain ⟨m', hrun⟩ := addFile_run fieldName fileName source mimeType m
  simp only [perform]
  rw [hrun]
  cases hfile : attaching fieldName fileName source mimeType m with
  | error failure => exact .silent b rfl (by simp [Event.attachment?, hfile]) rfl rfl rfl
  | ok found =>
    cases found with
    | none => exact .silent b rfl (by simp [Event.attachment?, hfile]) rfl rfl rfl
    | some file =>
      exact { parameters := (List.append_nil _).symm,
              files := by simp [settle, attach, Event.attachment?, hfile],
              charset := rfl, textType := rfl, text := rfl, sniffBytes := rfl }

/-- Only a build that gives a text entity changes the builder: it uses the text up. By cases of `Builds`. -/
theorem build_explained (b : Builder) (m : Machine) :
    b.Explained [⟨.build, m, (b.perform m .build).1⟩] (b.perform m .build).2 := by
  simp only [perform]
  cases h : b.build m with
  | error failure m' => exact .silent b rfl rfl rfl rfl rfl
  | ok result m' =>
    obtain ⟨entity, b'⟩ := result
    cases builds_of_build h with
    | nothing => exact .silent b rfl rfl rfl rfl rfl
    | text text e hfiles hparams htext hne he =>
      -- the only way on which the builder changes
      have hkind : e.kind = .text := textEntity_kind he
      exact { parameters := (List.append_nil _).symm, files := (List.append_nil _).symm,
              charset := rfl, textType := rfl,
              text := by simp [settle, lastOr, Event.text?, hkind], sniffBytes := rfl }
    | form e hfiles hparams he =>
      have hkind : e.kind = .form := formEntity_kind he
      exact .silent b rfl rfl rfl rfl (by simp [settle, Event.text?, hkind])
    | file a e m' hfiles hparams he =>
      refine .silent b rfl rfl rfl rfl ?_
      cases entity with
      | none => rfl
      | some e => simp [settle, Event.text?, fileEntity_kind he]
    | multipart e m' hfiles hmany he =>
      exact .silent b rfl rfl rfl rfl (by simp [settle, Event.text?, multipartEntity_kind he])

/-- **One call.** The builder after a call is the one that the event explains: one lemma for each constructor
of `Call`. -/
theorem perform_explained (b : Builder) (m : Machine) (call : Call) :
    b.Explained [⟨call, m, (b.perform m call).1⟩] (b.perform m call).2 := by
  cases call with
  | addParameter name value => exact b.addParameter_explained m name value
  | setBody text type => exact b.setBody_explained m text type
  | setCharset charset => exact b.setCharset_explained m charset
  | addFile fieldName fileName source mimeType =>
    exact b.addFile_explained m fieldName fileName source mimeType
  | build => exact b.build_explained m

/-- **A run.** The builder at the end is the one that the events explain, from whatever builder the
run started. Induction on the calls; each adds its own event in front. -/
theorem run_explained (b : Builder) (calls : List (Call × Machine)) :
    b.Explained (b.run calls).1 (b.run calls).2 := by
  induction calls generalizing b with
  | nil => exact .nil b
  | cons next rest ih =>
    obtain ⟨call, m⟩ := next
    exact (b.perform_explained m call).append (ih (b.perform m call).2)

/-- The events of a run are its calls, in order, each on its own machine. -/
theorem run_calls (b : Builder) (calls : List (Call × Machine)) :
    (b.run calls).1.map (fun event => (event.call, event.machine)) = calls := by
  induction calls generalizing b with
  | nil => rfl
  | cons next rest ih =>
    obtain ⟨call, m⟩ := next
    show (call, m) :: (((b.perform m call).2.run rest).1.map _) = _
    rw [ih]

/-- **The state of a builder is what its history says.** Whatever calls are made on a new builder, on
whatever machines, and whatever comes of them: it holds the parameters that were given a name and the files
that were there, in order; the last charset that was accepted, the last type that was not empty, and the last
text, unless a build has made an entity of it since. By `run_explained`, as a new builder holds nothing yet.
-/
theorem run_history (charset : String) (sniffBytes : Int) (calls : List (Call × Machine)) :
    ∃ (events : List Event) (b : Builder),
      ({ charset, sniffBytes } : Builder).run calls = (events, b) ∧
      events.map (fun event => (event.call, event.machine)) = calls ∧
      b.parameters = events.filterMap Event.parameter? ∧
      b.files = events.filterMap Event.attachment? ∧
      b.charset = lastOr Event.charset? events charset ∧
      b.textType = lastOr Event.textType? events "text/plain" ∧
      b.text = lastOr Event.text? events none ∧
      b.sniffBytes = sniffBytes := by
  have h := run_explained { charset, sniffBytes } calls
  refine ⟨_, _, rfl, run_calls _ calls, ?_, ?_, h.charset, h.textType, h.text, h.sniffBytes⟩
  · rw [h.parameters]
    exact List.nil_append _
  · rw [h.files]
    exact List.nil_append _

end Runs

/-- A run in which a file is missing, a charset is unknown, another cannot be looked up, and a text is used
up by a build. -/
def changes : List (Call × Machine) := [
  (.setBody (some "first") (some "text/csv"), {}),
  (.build, {}),
  (.setCharset (some (CodePoint.ofString "latin-1")), {}),
  (.setCharset (some (CodePoint.ofString "klingon")), {}),
  (.setCharset (some [.surrogate 0xD800]), {}),
  (.setBody none (some ""), {}),
  (.addFile none (some "") (.bytes [1]) none, {}),
  (.addFile none none (.path "missing.txt") none, {}),
  (.addParameter (some "a") none, {}),
  (.addParameter none (some "second"), {})]

/-- What was accepted is there in the end, and nothing else is. -/
example :
    let b := (({} : Builder).run changes).2
    b.parameters = [⟨"a", none⟩] ∧ b.files.map (·.fileName) = ["upload"] ∧ b.charset = "latin-1" ∧
      b.textType = "text/csv" ∧ b.text = some "second" := by
  decide

end Courier.Builder
