import Courier.Proofs.Cli.Option

/-!
# The request that a command line describes

What can be wrong with what a command line asks for is listed in `Cli.Send.Order.Fault`. If nothing is, the
request is known (`Cli.Send.Order.request`): its headers, parameters and files are the values of the options,
each in their order, and nothing else is in it. If anything is, there is no request, wherever the fault
stands among the rest. Main statement: `Cli.Send.requestOf_decides`.
-/

namespace Courier.Cli.Send

variable [Platform]

/-! ## A body for what goes there -/

/-- Something is given that goes into the body. -/
def Order.FillsBody (o : Order) : Prop := o.params ≠ [] ∨ o.files ≠ [] ∨ o.body ≠ none

/-- Ends the command if the request has no body, but something is given that goes there. -/
def checkBody (r : Request) (o : Order) : Shell Unit :=
  if r.body.isNone && (!o.params.isEmpty || !o.files.isEmpty || o.body.isSome) then
    misuse (r.method.name ++ " requests cannot carry parameters, files or a body")
  else pure ()

omit [Platform] in
/-- `checkBody` ends the command in one case, which is the condition that it tests. -/
theorem checkBody_decides (r : Request) (o : Order) (c : Console) :
    Decides (checkBody r o) c (r.body = none ∧ o.FillsBody)
      fun _ => ¬ (r.body = none ∧ o.FillsBody) := by
  have hcheck : (r.body.isNone && (!o.params.isEmpty || !o.files.isEmpty || o.body.isSome)) = true ↔
      r.body = none ∧ o.FillsBody := by
    unfold Order.FillsBody
    simp [or_assoc, Option.isSome_iff_ne_none]
  unfold checkBody
  by_cases hbad : r.body = none ∧ o.FillsBody
  · rw [if_pos (hcheck.mpr hbad)]
    exact .rejects hbad ⟨_, _, c.machine.journal, rfl⟩
  · rw [if_neg (mt hcheck.mp hbad)]
    exact .accepts hbad hbad rfl

/-! ## The whole order -/

namespace Order

/-- What a command line asks for: of an option that may be repeated all values in their order, and of any
other one the last. -/
def ofArguments (a : Arguments Key) (method : Method) (url : String) : Order where
  method := method
  url := url
  headers := valuesOf a .header
  params := valuesOf a .param
  files := valuesOf a .file
  fileMime := (valuesOf a .fileMime).getLast?
  body := (valuesOf a .body).getLast?
  bodyMime := (valuesOf a .bodyMime).getLast?
  charset := (valuesOf a .charset).getLast?
  verbose := a.options.any fun option => option.1 = .verbose

/-- What can be wrong with what a command line asks for. -/
inductive Fault (o : Order) (files : FileSystem) : Prop where
  /-- A header lacks its colon, or its name is blank. -/
  | header {value : String} (hmem : value ∈ o.headers) (hbad : Malformed ':' value)
  /-- Something to go into the body is given, even if it is empty, but the method has no body. -/
  | bodiless (hmethod : o.method.allowsBody = false) (hgiven : o.FillsBody)
  /-- A charset is given that the request does not take: it is unknown, or there is no body. -/
  | charset {name : String} (hname : Builder.given? o.charset = some name)
      (hrefused : o.method.allowsBody = false ∨ ∀ codec, Codec.lookup name ≠ .ok codec)
  /-- A parameter lacks its equals sign, or its name is blank. -/
  | param {value : String} (hmem : value ∈ o.params) (hbad : Malformed '=' value)
  /-- A file lacks its equals sign or the name before it, or its path is not that of a file. -/
  | file {value : String} (hmem : value ∈ o.files) (hbad : NoFile files value)

/-- What is looked up can be: the name of the charset, and the paths of the files. -/
structure Lookable (o : Order) (files : FileSystem) : Prop where
  charset : ∀ name, Builder.given? o.charset = some name → Codec.lookup name ≠ .error .nulInName
  file : ∀ value ∈ o.files, FileLookable files value

/-- The request that the command line describes, for the pairs of its headers, parameters and files. -/
def request (o : Order) (config : Config) (headers params files : List (String × String)) :
    Request where
  method := o.method
  url := o.url
  headers := headers.map fun p => (p.1, Text.strip p.2)
  body :=
    if o.method.allowsBody then
      some {
        charset := (Builder.given? o.charset).getD config.charset
        sniffBytes := config.sniffBytes
        text := o.body
        textType := (o.body.bind fun _ => Builder.given? o.bodyMime).getD defaultTextType
        parameters := params.map fun p => ⟨p.1, some p.2⟩
        files := files.map (attachmentOf o.fileMime) }
    else none

/-- `Fault` as one disjunction, in the order in which `requestOf` comes upon the faults. -/
theorem fault_iff (o : Order) (files : FileSystem) :
    o.Fault files ↔ (∃ v ∈ o.headers, Malformed ':' v) ∨
      (o.method.allowsBody = false ∧ o.FillsBody) ∨
      (∃ name, Builder.given? o.charset = some name ∧
        (o.method.allowsBody = false ∨ ∀ codec, Codec.lookup name ≠ .ok codec)) ∨
      (∃ v ∈ o.params, Malformed '=' v) ∨ ∃ v ∈ o.files, NoFile files v := by
  constructor
  · rintro (⟨hmem, hbad⟩ | ⟨hmethod, hgiven⟩ | ⟨hname, hrefused⟩ | ⟨hmem, hbad⟩ | ⟨hmem, hbad⟩)
    · exact .inl ⟨_, hmem, hbad⟩
    · exact .inr (.inl ⟨hmethod, hgiven⟩)
    · exact .inr (.inr (.inl ⟨_, hname, hrefused⟩))
    · exact .inr (.inr (.inr (.inl ⟨_, hmem, hbad⟩)))
    · exact .inr (.inr (.inr (.inr ⟨_, hmem, hbad⟩)))
  · rintro (⟨v, hmem, hbad⟩ | ⟨hmethod, hgiven⟩ | ⟨name, hname, hrefused⟩ | ⟨v, hmem, hbad⟩ |
      ⟨v, hmem, hbad⟩)
    · exact .header hmem hbad
    · exact .bodiless hmethod hgiven
    · exact .charset hname hrefused
    · exact .param hmem hbad
    · exact .file hmem hbad

/-- `Order.request` as the options put it together, one after the other. -/
theorem request_eq (o : Order) (client : Client) (headers params files : List (String × String)) :
    o.request client.config headers params files =
      withFiles o.fileMime (withParameters (withText
        (withCharset (withHeaders (client.createRequest o.method o.url) headers) o.charset)
        o.body o.bodyMime) params) files := by
  unfold request withText Client.createRequest Request.create
  cases hmethod : o.method.allowsBody with
  | false => cases o.body <;> rfl
  | true =>
    cases o.body with
    | none => rfl
    | some text =>
      simp only [Option.isSome_some, Request.mapBody, withHeaders, withCharset, withParameters,
        withFiles, setBody_eq]
      rfl

end Order

/-- `requestOf` looks at the options one after the other. -/
theorem requestOf_eq (client : Client) (o : Order) :
    requestOf client o = (do
      let r ← addHeaders (client.createRequest o.method o.url) o.headers
      checkBody r o
      let r ← setCharset r o.charset
      let r ← setText r o.body o.bodyMime
      let r ← addParameters r o.params
      addFiles r o.fileMime o.files) := by
  unfold requestOf checkBody setText
  refine bind_congr fun r => ?_
  cases hcheck : r.body.isNone && (!o.params.isEmpty || !o.files.isEmpty || o.body.isSome) with
  | true => cases o.body <;> rfl
  | false => cases o.body <;> rfl

/-- **What a command line asks for is a request, or there is a fault.** `requestOf` is its five parts one
after the other (`requestOf_eq`); each is decided by itself, and `Decides.bind` joins them. -/
theorem requestOf_decides (client : Client) (o : Order) (c : Console)
    (hlook : o.Lookable c.machine.files) :
    Decides (requestOf client o) c (o.Fault c.machine.files) fun r =>
      ∃ headers params files, List.Forall₂ (Splits ':') o.headers headers ∧
        List.Forall₂ (Splits '=') o.params params ∧
        List.Forall₂ (Splits '=') o.files files ∧
        r = o.request client.config headers params files := by
  rw [requestOf_eq]
  have hmethod (pairs : List (String × String)) :
      (withHeaders (client.createRequest o.method o.url) pairs).body = none ↔
        o.method.allowsBody = false := by
    show (if o.method.allowsBody then some _ else none) = none ↔ _
    cases o.method.allowsBody <;> simp
  -- option after option; what each came to is carried along, and so is that a request with something for
  -- its body has one
  refine Decides.imp ((addHeaders_decides o.headers _ c).bind ?_) (o.fault_iff _).symm fun _ => id
  rintro r journal ⟨headers, hheaders, rfl⟩
  refine Decides.imp ((checkBody_decides _ o _).bind ?_)
    (or_congr_left (and_congr_left' (hmethod headers))) fun _ => id
  intro _ journal₁ hfills
  rw [hmethod] at hfills
  refine Decides.imp ((setCharset_decides _ o.charset _ hlook.charset).bind ?_)
    (or_congr_left (exists_congr fun name => and_congr_right' (or_congr_left (hmethod headers))))
    fun _ => id
  rintro r journal₂ rfl
  refine Decides.imp ((setText_decides _ o.body o.bodyMime _).bind ?_) (iff_of_eq (false_or _))
    fun _ => id
  rintro r journal₃ rfl
  refine (addParameters_decides o.params _ _).bind ?_
  rintro r journal₄ ⟨params, hparams, rfl⟩
  have hbody : o.files ≠ [] → (withParameters (withText
      (withCharset (withHeaders (client.createRequest o.method o.url) headers) o.charset)
      o.body o.bodyMime) params).body ≠ none := by
    intro hfiles hnone
    rw [withParameters_bodiless, withText_bodiless, withCharset, Request.mapBody_bodiless, hmethod]
      at hnone
    exact hfills ⟨hnone, .inr (.inl hfiles)⟩
  refine Decides.imp (addFiles_decides o.files hbody rfl hlook.file) Iff.rfl ?_
  rintro r ⟨files, hfiles, rfl⟩
  exact ⟨headers, params, files, hheaders, hparams, hfiles, (o.request_eq client ..).symm⟩

end Courier.Cli.Send
