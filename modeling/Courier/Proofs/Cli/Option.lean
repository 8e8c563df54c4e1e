import Courier.Proofs.Builder.Answer
import Courier.Proofs.Cli.Decide

/-!
# What each option decides

Each option of the send command adds something to the request, or is faulty. A header or a parameter is
faulty if it is no pair (`Cli.Send.addHeaders_decides`, `Cli.Send.addParameters_decides`), a file also if
there is none at its path (`Cli.Send.addFiles_decides`), and a charset if the request does not take it
(`Cli.Send.setCharset_decides`). A text never is (`Cli.Send.setText_decides`).

Options that are repeated take a step for each value, and only the step is looked at (`Cli.Decides.each`).
-/

namespace Courier

/-! ## Changes of a body -/

namespace Request

/-- A request whose body, if it has one, is changed. -/
def mapBody (r : Request) (change : Builder → Builder) : Request :=
  { r with body := r.body.map change }

theorem mapBody_mapBody (r : Request) (first second : Builder → Builder) :
    (r.mapBody first).mapBody second = r.mapBody fun b => second (first b) := by
  unfold mapBody
  rw [Option.map_map]
  rfl

theorem mapBody_id (r : Request) : (r.mapBody fun b => b) = r := by
  show { r with body := r.body.map id } = r
  rw [Option.map_id_fun, id_eq]

theorem mapBody_bodiless (r : Request) (change : Builder → Builder) :
    (r.mapBody change).body = none ↔ r.body = none := Option.map_eq_none_iff

/-- `Request.onBody` runs the change on the body that there is, and puts the builder that comes of it in its
place. -/
theorem onBody_ok {r : Request} {b : Builder} (hbody : r.body = some b) {operation : String}
    {change : Builder → Act (Bool × Builder)} {answer : Bool × Builder} {m m' : Machine}
    (h : change b m = .ok answer m') :
    r.onBody operation change m = .ok (answer.1, { r with body := some answer.2 }) m' := by
  obtain ⟨method, url, headers, body⟩ := r
  cases hbody
  exact Act.bind_run_ok h

/-- A change that always succeeds is made; a request without a body only notes that it has none. -/
theorem onBody_pure (r : Request) (operation : String) (change : Builder → Bool × Builder)
    (m : Machine) :
    ∃ done journal, r.onBody operation (fun b => pure (change b)) m =
      .ok (done, r.mapBody fun b => (change b).2) { m with journal } := by
  obtain ⟨method, url, headers, body⟩ := r
  cases body with
  | none => exact ⟨false, _, rfl⟩
  | some b => exact ⟨(change b).1, m.journal, rfl⟩

end Request

namespace Cli

namespace Send

/-! ## Headers -/

/-- The headers of pairs are added to a request; their values are stripped too. -/
def withHeaders (r : Request) (pairs : List (String × String)) : Request :=
  { r with headers := r.headers ++ pairs.map fun p => (p.1, Text.strip p.2) }

theorem withHeaders_nil (r : Request) : withHeaders r [] = r := by
  unfold withHeaders
  rw [List.map_nil, List.append_nil]

/-- One pair after the other is all of them at once; this is the `whole` that `Decides.each` needs. -/
theorem withHeaders_cons (r : Request) (p : String × String) (ps : List (String × String)) :
    withHeaders (withHeaders r [p]) ps = withHeaders r (p :: ps) := by
  unfold withHeaders
  rw [List.append_assoc]
  rfl

/-- Adds one header. -/
def addHeader (r : Request) (header : String) : Shell Request := do
  let (name, value) ← pairOf header ':' "--header"
  return (r.addHeader (some name) (some (Text.strip value))).2

/-- `addHeaders` is a loop whose step is `addHeader`. -/
theorem addHeaders_cons (r : Request) (header : String) (rest : List String) :
    addHeaders r (header :: rest) = addHeader r header >>= fun r => addHeaders r rest := by
  unfold addHeader
  rw [addHeaders, bind_assoc]
  rfl

/-- One value: `pairOf_decides`, and what is read of it goes to `Request.addHeader`, which takes a name that
is not empty. -/
theorem addHeader_decides (header : String) (r : Request) (c : Console) :
    Decides (addHeader r header) c (Malformed ':' header)
      fun r' => ∃ p, Splits ':' header p ∧ r' = withHeaders r [p] ∧ True := by
  have hnext (p : String × String) (journal : Journal) (hp : Splits ':' header p) :
      Decides (pure (r.addHeader (some p.1) (some (Text.strip p.2))).2) (c.noted journal) False
        fun r' => ∃ p, Splits ':' header p ∧ r' = withHeaders r [p] ∧ True := by
    have hadded : (r.addHeader (some p.1) (some (Text.strip p.2))).2 = withHeaders r [p] := by
      simp only [Request.addHeader, if_neg hp.name_ne]
      rfl
    rw [hadded]
    exact .accepts id ⟨p, hp, rfl, trivial⟩ rfl
  exact ((pairOf_decides header ':' "--header" c).bind hnext).imp (or_iff_left id) fun _ => id

/-- A header that is no pair is a fault; if none is, they are all added in order. -/
theorem addHeaders_decides (values : List String) (r : Request) (c : Console) :
    Decides (addHeaders r values) c (∃ v ∈ values, Malformed ':' v)
      fun r' => ∃ pairs, List.Forall₂ (Splits ':') values pairs ∧ r' = withHeaders r pairs :=
  .each (fun _ => rfl) addHeaders_cons withHeaders_nil withHeaders_cons
    (fun v _ r c _ _ => addHeader_decides v r c) trivial rfl

/-! ## Parameters -/

/-- The parameters of pairs are added to a request. -/
def withParameters (r : Request) (pairs : List (String × String)) : Request :=
  r.mapBody fun b => { b with parameters := b.parameters ++ pairs.map fun p => ⟨p.1, some p.2⟩ }

theorem withParameters_bodiless (r : Request) (pairs : List (String × String)) :
    (withParameters r pairs).body = none ↔ r.body = none := r.mapBody_bodiless _

theorem withParameters_nil (r : Request) : withParameters r [] = r := by
  unfold withParameters
  simp only [List.map_nil, List.append_nil]
  exact r.mapBody_id

/-- Parameters are appended, so one pair after the other is all of them at once. -/
theorem withParameters_cons (r : Request) (p : String × String) (ps : List (String × String)) :
    withParameters (withParameters r [p]) ps = withParameters r (p :: ps) := by
  unfold withParameters
  rw [Request.mapBody_mapBody]
  simp only [List.append_assoc]
  rfl

/-- Adds one parameter. -/
def addParameter (r : Request) (param : String) : Shell Request := do
  let (name, value) ← pairOf param '=' "--param"
  let (_, r) ← Shell.onMachine (r.addParameter (some name) (some value))
  return r

/-- `addParameters` is a loop whose step is `addParameter`. -/
theorem addParameters_cons (r : Request) (param : String) (rest : List String) :
    addParameters r (param :: rest) = addParameter r param >>= fun r => addParameters r rest := by
  unfold addParameter
  rw [addParameters, bind_assoc]
  refine bind_congr fun p => ?_
  rw [bind_assoc]
  rfl

/-- One value: `pairOf_decides`, then `Builder.addParameter` with a name and a value, which never fails. -/
theorem addParameter_decides (param : String) (r : Request) (c : Console) :
    Decides (addParameter r param) c (Malformed '=' param)
      fun r' => ∃ p, Splits '=' param p ∧ r' = withParameters r [p] ∧ True := by
  have hnext (p : String × String) (journal : Journal) (hp : Splits '=' param p) :
      Decides (do
          let (_, r) ← Shell.onMachine (r.addParameter (some p.1) (some p.2))
          return r) (c.noted journal) False
        fun r' => ∃ p, Splits '=' param p ∧ r' = withParameters r [p] ∧ True := by
    obtain ⟨done, journal₁, hrun⟩ := r.onBody_pure "add_parameter"
      (fun b => b.addParameter (some p.1) (some p.2)) (c.noted journal).machine
    exact .accepts id ⟨p, hp, rfl, trivial⟩ (Act.bind_run_ok (Shell.onMachine_noted hrun))
  exact ((pairOf_decides param '=' "--param" c).bind hnext).imp (or_iff_left id) fun _ => id

/-- A parameter that is no pair is a fault; if none is, they are all added in order. -/
theorem addParameters_decides (values : List String) (r : Request) (c : Console) :
    Decides (addParameters r values) c (∃ v ∈ values, Malformed '=' v)
      fun r' => ∃ pairs, List.Forall₂ (Splits '=') values pairs ∧ r' = withParameters r pairs :=
  .each (fun _ => rfl) addParameters_cons withParameters_nil withParameters_cons
    (fun v _ r c _ _ => addParameter_decides v r c) trivial rfl

/-! ## Files -/

variable {mimeType : Option String} {files : FileSystem}

/-- The file of a pair of a field and a path. -/
def attachmentOf (mimeType : Option String) (p : String × String) : Attachment :=
  ⟨some p.1, (FilePath.ofText p.2).name, .onDisk (.ofText p.2), mimeType⟩

/-- The files of pairs are attached to a request. -/
def withFiles (mimeType : Option String) (r : Request) (pairs : List (String × String)) : Request :=
  r.mapBody fun b => { b with files := b.files ++ pairs.map (attachmentOf mimeType) }

theorem withFiles_nil (r : Request) : withFiles mimeType r [] = r := by
  unfold withFiles
  simp only [List.map_nil, List.append_nil]
  exact r.mapBody_id

/-- Attachments are appended, so one pair after the other is all of them at once. -/
theorem withFiles_cons (r : Request) (p : String × String) (ps : List (String × String)) :
    withFiles mimeType (withFiles mimeType r [p]) ps = withFiles mimeType r (p :: ps) := by
  unfold withFiles
  rw [Request.mapBody_mapBody]
  simp only [List.append_assoc]
  rfl

/-- Attaches one file. -/
def addFile (mimeType : Option String) (r : Request) (file : String) : Shell Request := do
  let (field, path) ← pairOf file '=' "--file"
  let (done, r) ← Shell.onMachine (r.addFile (some field) none (.path path) mimeType)
  if done then return r
  else invalid "--file" ("no such file: " ++ path)

/-- `addFiles` is a loop whose step is `addFile`. -/
theorem addFiles_cons (r : Request) (file : String) (rest : List String) :
    addFiles r mimeType (file :: rest) =
      addFile mimeType r file >>= fun r => addFiles r mimeType rest := by
  unfold addFile
  rw [addFiles, bind_assoc]
  refine bind_congr fun p => ?_
  rw [bind_assoc]
  refine bind_congr fun answer => ?_
  obtain ⟨done, r'⟩ := answer
  cases done <;> rfl

/-- A value of the file option is no pair, or there is no file at its path. -/
def NoFile (files : FileSystem) (value : String) : Prop :=
  Malformed '=' value ∨ ∃ p, Splits '=' value p ∧ files.isFile (.ofText p.2) ≠ .ok true

/-- Whether there is a file at the path of a value can be told. -/
def FileLookable (files : FileSystem) (value : String) : Prop :=
  ∀ p, Splits '=' value p → ∃ there, files.isFile (.ofText p.2) = .ok there

/-- `Request.addFile` attaches the path if `FileSystem.isFile` finds a file there, and answers with what it
found. -/
theorem addFile_path {r : Request} (hbody : r.body ≠ none) (p : String × String) {m : Machine}
    {there : Bool} (hlook : m.files.isFile (.ofText p.2) = .ok there) :
    r.addFile (some p.1) none (.path p.2) mimeType m =
      .ok (there, if there then withFiles mimeType r [p] else r) m := by
  obtain ⟨method, url, headers, body⟩ := r
  obtain ⟨b, rfl⟩ := Option.ne_none_iff_exists'.mp hbody
  have hpresence : (Handle.onDisk (.ofText p.2)).presence m = .ok there := hlook
  have hrun : b.addFile (some p.1) none (.path p.2) mimeType m =
      .ok (there, if there then { b with files := b.files ++ [attachmentOf mimeType p] } else b) m := by
    have hask : (Handle.onDisk (.ofText p.2)).exists? m = .ok there m := by
      rw [Handle.exists?_run, hpresence]
      rfl
    show ((Handle.onDisk (.ofText p.2)).exists? >>= _) m = _
    rw [Act.bind_run_ok hask]
    cases there <;> rfl
  refine (Request.onBody_ok rfl hrun).trans ?_
  cases there <;> rfl

/-- One value: `pairOf_decides`, and the answer of `addFile_path` for the path that it names. Both a value
that is no pair and a path without a file are `NoFile`. -/
theorem addFile_decides (file : String) {r : Request} {c : Console} (hbody : r.body ≠ none)
    (hfiles : c.machine.files = files) (hlook : FileLookable files file) :
    Decides (addFile mimeType r file) c (NoFile files file)
      fun r' => ∃ p, Splits '=' file p ∧ r' = withFiles mimeType r [p] ∧ r'.body ≠ none := by
  subst hfiles
  have hnext (p : String × String) (journal : Journal) (hp : Splits '=' file p) :
      Decides (do
          let (done, r) ← Shell.onMachine (r.addFile (some p.1) none (.path p.2) mimeType)
          if done then return r
          else invalid "--file" ("no such file: " ++ p.2)) (c.noted journal)
        (∃ p, Splits '=' file p ∧ c.machine.files.isFile (.ofText p.2) ≠ .ok true)
        fun r' => ∃ p, Splits '=' file p ∧ r' = withFiles mimeType r [p] ∧ r'.body ≠ none := by
    obtain ⟨there, hthere⟩ := hlook p hp
    have hadd : Shell.onMachine (r.addFile (some p.1) none (.path p.2) mimeType) (c.noted journal) =
        .ok (there, if there then withFiles mimeType r [p] else r) (c.noted journal) :=
      Shell.onMachine_noted (addFile_path hbody p hthere)
    cases there with
    | false =>
      apply Decides.rejects ⟨p, hp, by rw [hthere]; simp⟩
      exact ⟨_, _, journal, Act.bind_run_ok hadd⟩
    | true =>
      -- the body stays for the files after this one, and the pair is the only one of its value
      have hstays : (withFiles mimeType r [p]).body ≠ none := mt (r.mapBody_bodiless _).mp hbody
      refine .accepts ?_ ⟨p, hp, rfl, hstays⟩ (Act.bind_run_ok hadd)
      rintro ⟨p', hp', hgone⟩
      rw [← hp.unique hp'] at hgone
      exact hgone hthere
  exact ((pairOf_decides file '=' "--file" c).bind hnext).imp Iff.rfl fun _ => id

/-- A file option that is no pair or names no file is a fault; if none is, they are all attached in
order. -/
theorem addFiles_decides (values : List String) {r : Request} {c : Console}
    (hbody : values ≠ [] → r.body ≠ none) (hfiles : c.machine.files = files)
    (hlook : ∀ v ∈ values, FileLookable files v) :
    Decides (addFiles r mimeType values) c (∃ v ∈ values, NoFile files v)
      fun r' => ∃ pairs, List.Forall₂ (Splits '=') values pairs ∧ r' = withFiles mimeType r pairs := by
  by_cases hnone : values = []
  · -- without a file there need not be a body
    subst hnone
    exact .accepts (by simp) ⟨[], .nil, (withFiles_nil r).symm⟩ rfl
  · exact .each (fun _ => rfl) (fun _ _ _ => addFiles_cons ..) withFiles_nil withFiles_cons
      (fun v hv r c hr hc => addFile_decides v hr hc (hlook v hv)) (hbody hnone) hfiles

/-! ## The charset -/

section Charset

variable [Platform]

/-- A charset that is not empty is set, and refused with the words of the command if the request does not
take it. -/
theorem setCharset_given {r : Request} {name : String} (hne : name ≠ "") :
    setCharset r (some name) = (do
      let (done, r) ← Shell.onMachine (r.setCharset (some name))
      if done then return r
      else invalid "--charset" ("unknown charset " ++ Text.quoted name)) := by
  unfold setCharset
  split
  · next h => cases h
  · next h =>
    cases h
    exact absurd rfl hne
  · next h =>
    cases h
    rfl

/-- No charset and an empty one are passed over. -/
theorem setCharset_missing {charset : Option String} (h : Builder.given? charset = none) (r : Request) :
    setCharset r charset = pure r := by
  unfold setCharset
  split
  · rfl
  · rfl
  · next name hname =>
    have hgiven : Builder.given? (some name) = some name := by
      simpa [Builder.given?] using hname
    rw [hgiven] at h
    cases h

/-- `Request.setCharset` with a body takes the names that `Codec.lookup` knows. -/
theorem setCharset_body {r : Request} (hbody : r.body ≠ none) {name : String} (m : Machine)
    (hlook : Codec.lookup name ≠ .error .nulInName) :
    (∃ codec, Codec.lookup name = .ok codec) ∧
        r.setCharset (some name) m =
          .ok (true, r.mapBody fun b => { b with charset := name }) m ∨
      (∀ codec, Codec.lookup name ≠ .ok codec) ∧
        ∃ journal, r.setCharset (some name) m = .ok (false, r) { m with journal } := by
  obtain ⟨method, url, headers, body⟩ := r
  obtain ⟨b, rfl⟩ := Option.ne_none_iff_exists'.mp hbody
  cases hlookup : Codec.lookup name with
  | ok codec =>
    have hset : b.setCharset (some name) m = .ok (true, { b with charset := name }) m := by
      simp only [Builder.setCharset, hlookup]
      rfl
    exact .inl ⟨⟨codec, rfl⟩, (Request.onBody_ok rfl hset).trans rfl⟩
  | error fault =>
    -- refused with a warning in the journal; the null character is excluded by `hlook`
    obtain rfl | ⟨rfl, -⟩ := Codec.lookup_error hlookup
    · have hset : ∃ journal, b.setCharset (some name) m = .ok (false, b) { m with journal } := by
        simp only [Builder.setCharset, hlookup]
        exact ⟨_, rfl⟩
      obtain ⟨journal, hset⟩ := hset
      exact .inr ⟨by simp, journal, (Request.onBody_ok rfl hset).trans rfl⟩
    · exact absurd hlookup hlook

/-- A charset, if one is given, is set on a request. -/
def withCharset (r : Request) (charset : Option String) : Request :=
  r.mapBody fun b => { b with charset := (Builder.given? charset).getD b.charset }

/-- A charset is a fault if it is given and the request does not take it. By cases on `Builder.given?` and on
the body. -/
theorem setCharset_decides (r : Request) (charset : Option String) (c : Console)
    (hlook : ∀ name, Builder.given? charset = some name → Codec.lookup name ≠ .error .nulInName) :
    Decides (setCharset r charset) c
      (∃ name, Builder.given? charset = some name ∧
        (r.body = none ∨ ∀ codec, Codec.lookup name ≠ .ok codec))
      (· = withCharset r charset) := by
  unfold withCharset
  cases hgiven : Builder.given? charset with
  | none =>
    rw [setCharset_missing hgiven]
    exact (Decides.pure r c).imp (by simp) fun r' hr' => hr'.trans r.mapBody_id.symm
  | some name =>
    obtain ⟨rfl, hne⟩ : charset = some name ∧ name ≠ "" := by
      simpa [Builder.given?] using hgiven
    rw [setCharset_given hne]
    by_cases hbody : r.body = none
    · -- a request without a body takes no charset, known or not
      obtain ⟨method, url, headers, body⟩ := r
      cases hbody
      exact .rejects ⟨name, rfl, .inl rfl⟩ ⟨_, _, _, rfl⟩
    · rcases setCharset_body hbody c.machine (hlook name hgiven) with
        ⟨⟨codec, hcodec⟩, hrun⟩ | ⟨hrefused, journal, hrun⟩
      · have hshell : Shell.onMachine (r.setCharset (some name)) c =
            .ok (true, r.mapBody fun b => { b with charset := name }) (c.noted c.machine.journal) :=
          Shell.onMachine_noted hrun
        refine .accepts ?_ rfl (Act.bind_run_ok hshell)
        rintro ⟨name', hname', hnone | hrefused⟩
        · exact hbody hnone
        · cases hname'
          exact hrefused codec hcodec
      · exact .rejects ⟨name, rfl, .inr hrefused⟩
          ⟨_, _, journal, Act.bind_run_ok (Shell.onMachine_noted hrun)⟩

end Charset

/-! ## The text -/

/-- `Builder.setBody` leaves the type as it is unless another is given. -/
theorem setBody_eq (b : Builder) (text type : Option String) :
    b.setBody text type =
      { b with text, textType := (Builder.given? type).getD b.textType } := by
  unfold Builder.setBody Builder.given?
  cases type with
  | none => rfl
  | some t =>
    by_cases h : t = ""
    · subst h
      rfl
    · simp [Option.filter, h]

/-- A text, if there is one, is put into the body. -/
def withText (r : Request) (text type : Option String) : Request :=
  if text.isSome then r.mapBody fun b => b.setBody text type else r

theorem withText_bodiless (r : Request) (text type : Option String) :
    (withText r text type).body = none ↔ r.body = none := by
  unfold withText
  split
  · exact r.mapBody_bodiless _
  · rfl

/-- Sets the text of the body, if one is given. -/
def setText (r : Request) (text type : Option String) : Shell Request :=
  match text with
  | none => pure r
  | some text => Shell.onMachine (r.setBody (some text) type)

/-- A text is never a fault: the request takes it or has no body to put it in (`setBody_eq`). -/
theorem setText_decides (r : Request) (text type : Option String) (c : Console) :
    Decides (setText r text type) c False (· = withText r text type) := by
  cases text with
  | none => exact .pure r c
  | some text =>
    obtain ⟨done, journal, hrun⟩ := r.onBody_pure "set_body_content"
      (fun b => (true, b.setBody (some text) type)) c.machine
    exact .accepts id rfl (Shell.onMachine_noted (Act.bind_run_ok hrun))

end Send

end Cli

end Courier
