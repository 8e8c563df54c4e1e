import Courier.Proofs.Builder.Answer
import Courier.Proofs.Builder.Makes
import Courier.Proofs.Entity.Usage

/-!
# What a build does with files

A build asks each attached file once whether it is there. Of those that are, it opens the ones whose type must
be told, each once and for a single reading (`Builder.found_uses`). It opens no others: measuring the files does
not (`Quiet`). The entity that comes of it is read from the files that were there (`Entity.MadeOf`). Main
statement: `Builder.build_looks`.
-/

namespace Courier

open Multipart Machine

/-! ## Attached files -/

namespace Attachment

variable [Platform]

/-- Whether a file is there, if its source is asked on this machine. -/
def isThere (m : Machine) (a : Attachment) : Bool :=
  match a.source.presence m with
  | .ok there => there
  | .error _ => false

/-- Whether the type of a file must be told: the source is asked for its own after it was asked whether it is
there. -/
def isUntyped (m : Machine) (a : Attachment) : Bool :=
  match a.declared (a.source.asked m).usage with
  | .ok none => true
  | _ => false

/-- The type of a file is the one that is declared, or it is told from its name and a single reading of so many
bytes. -/
def Looked (m : Machine) (size : Int) (a : Attachment) (type : String) : Prop :=
  a.declared (a.source.asked m).usage = .ok (some type) ∨
    a.declared (a.source.asked m).usage = .ok none ∧ ∃ (s s' : Stream) (start : Bytes),
      a.source.opening (a.source.asked m) = .ok s ∧ s.read size = .ok (start, s') ∧
      type = (Mime.sniff start (some a.fileName)).getD defaultFileType

variable {a : Attachment} {m m' : Machine} {size : Int} {type : String}

omit [Platform] in
/-- A file that `isThere` on some machine is `Handle.There` while its files are the same. -/
theorem there_of_isThere (h : a.isThere m = true) : a.source.There m.files := by
  unfold isThere at h
  cases hpresence : a.source.presence m with
  | error failure =>
    rw [hpresence] at h
    cases h
  | ok there =>
    rw [hpresence] at h
    obtain rfl : there = true := h
    exact ⟨m, rfl, hpresence⟩

/-! What is done with other files changes nothing about a file: all of it is read off the files and its own use. -/

omit [Platform] in
theorem isThere_of_alike (h : a.source.Alike m m') : a.isThere m' = a.isThere m := by
  unfold isThere
  rw [h.presence]

omit [Platform] in
theorem declared_of_alike (h : a.source.Alike m m') : a.declared m'.usage = a.declared m.usage := by
  unfold declared
  rw [h.mimeType]

omit [Platform] in
theorem isUntyped_of_alike (h : a.source.Alike m m') : a.isUntyped m' = a.isUntyped m := by
  unfold isUntyped
  rw [declared_of_alike h.asked]

/-- So a type that was told on the later machine counts for the earlier one: `Looked` is about the source
alone. -/
theorem looked_of_alike (h : a.source.Alike m m') (hlooked : a.Looked m' size type) :
    a.Looked m size type := by
  unfold Looked at hlooked ⊢
  rwa [declared_of_alike h.asked, h.asked.opening] at hlooked

end Attachment

namespace Builder

variable [Platform] {b : Builder} {m : Machine} {a : Attachment}

/-! ## One file -/

/-- Between two machines nothing but this file was used. -/
def OnlyUsed (a : Attachment) (m m' : Machine) : Prop :=
  ∀ x : Attachment, (∀ id, x.source.number? = some id → a.source.number? ≠ some id) → x.source.Alike m m'

omit [Platform] in
/-- A file is asked whether it is there; one that is not is reported. Only its own count changes
(`OnlyUsed`). -/
theorem isAvailable_uses (hcalm : ∃ there, a.source.presence m = .ok there) :
    ∃ m', isAvailable a m = .ok (a.isThere m) m' ∧ Uses [a.source] [] m m' ∧ OnlyUsed a m m' ∧
      (a.isThere m = true → m' = a.source.asked m) := by
  obtain ⟨there, hpresence⟩ := hcalm
  have hthere : a.isThere m = there := by
    unfold Attachment.isThere
    rw [hpresence]
  have hrun := a.source.exists?_run m
  rw [hpresence] at hrun
  have huses : Uses [a.source] [] m (a.source.asked m) := a.source.asked_uses m
  have honly : OnlyUsed a m (a.source.asked m) := fun x hother => .used hother _ m
  rw [hthere]
  unfold isAvailable
  rw [Act.bind_run_ok hrun]
  cases there with
  | true => exact ⟨_, rfl, huses, honly, fun _ => rfl⟩
  | false =>
    -- the report is put in the journal, which no source looks at
    exact ⟨_, rfl, huses.trans (.of_same rfl rfl),
      fun x hother => (honly x hother).trans (.of_same rfl rfl), nofun⟩

/-- **A file is opened once if its type must be told, and else not at all.** By the cases of
`resolveType_run`. -/
theorem resolveType_uses (hreported : ∀ usage, ∃ type, a.source.mimeType usage = .ok type)
    (hopens : a.source.Opens m.files b.sniffBytes) :
    ∃ type m', b.resolveType a (a.source.asked m) = .ok type m' ∧
      Uses [] (([a].filter (Attachment.isUntyped m)).map Attachment.source) (a.source.asked m) m' ∧
      OnlyUsed a (a.source.asked m) m' ∧ a.Looked m b.sniffBytes type := by
  obtain ⟨reported, hreported⟩ := hreported (a.source.asked m).usage
  have hdeclared := Attachment.declared_of_reported hreported
  rw [resolveType_run, hdeclared]
  cases htype : a.typeWith reported with
  | some type =>
    rw [htype] at hdeclared
    have htyped : a.isUntyped m = false := by
      unfold Attachment.isUntyped
      rw [hdeclared]
    rw [List.filter_cons_of_neg (by rw [htyped]; exact Bool.false_ne_true)]
    exact ⟨type, _, rfl, .refl _, fun x _ => .of_same rfl rfl, .inl hdeclared⟩
  | none =>
    rw [htype] at hdeclared
    have huntyped : a.isUntyped m = true := by
      unfold Attachment.isUntyped
      rw [hdeclared]
    rw [List.filter_cons_of_pos huntyped]
    -- no type is declared, so the source is opened for one reading
    obtain ⟨s, hopening, -, ⟨start, s'⟩, hread⟩ :=
      hopens (a.source.asked m) (Handle.used_files _ _ m)
    have hrun := a.source.openRead_run (a.source.asked m)
    rw [hopening] at hrun
    refine ⟨_, _, ?_, a.source.opened_uses _, fun x hother => .used hother _ _,
      .inr ⟨hdeclared, s, s', start, hopening, hread, rfl⟩⟩
    show b.sniffType a _ = _
    unfold sniffType Handle.readOnce
    simp only [bind_assoc]
    rw [Act.bind_run_ok hrun, hread]
    rfl

/-! ## All files -/

/-- The sources of files that count their use under different numbers. -/
def Distinct (as : List Attachment) : Prop :=
  (numbers (as.map Attachment.source)).Nodup

omit [Platform] in
/-- The rest of distinct files is distinct, and no file of it has the number of the first. -/
theorem Distinct.of_cons {rest : List Attachment} (h : Distinct (a :: rest)) :
    Distinct rest ∧ ∀ x ∈ rest, ∀ id, x.source.number? = some id → a.source.number? ≠ some id := by
  unfold Distinct at h ⊢
  rw [List.map_cons, ← List.singleton_append, numbers_append, List.nodup_append] at h
  obtain ⟨-, hrest, hdisjoint⟩ := h
  refine ⟨hrest, fun x hx id hid hsame => hdisjoint id ?_ id ?_ rfl⟩
  · exact List.mem_filterMap.mpr ⟨a.source, List.mem_singleton_self _, hsame⟩
  · exact List.mem_filterMap.mpr ⟨x.source, List.mem_map_of_mem hx, hid⟩

/-- **Each file is asked for once, and those that are there are found.** Of these, the ones whose type must be
told are opened once. Induction on the files: what is done with the first leaves the others alike
(`OnlyUsed`). -/
theorem found_uses {as : List Attachment} (hcalm : ∀ a ∈ as, a.source.Calm m.files b.sniffBytes)
    (hdistinct : Distinct as) :
    ∃ found m', b.found as m = .ok found m' ∧
      found.map Prod.fst = as.filter (Attachment.isThere m) ∧
      Uses (as.map Attachment.source)
        (((as.filter (Attachment.isThere m)).filter (Attachment.isUntyped m)).map Attachment.source) m m' ∧
      ∀ f ∈ found, f.1.Looked m b.sniffBytes f.2 := by
  induction as generalizing m with
  | nil => exact ⟨[], m, rfl, rfl, .refl m, fun f hf => absurd hf List.not_mem_nil⟩
  | cons a rest ih =>
    have ha := hcalm a List.mem_cons_self
    have hrest := fun x hx => hcalm x (List.mem_cons_of_mem _ hx)
    obtain ⟨htail, hapart⟩ := hdistinct.of_cons
    -- what is done with the first file changes nothing about the others
    have hlater : ∀ {m₁}, OnlyUsed a m m₁ →
        rest.filter (Attachment.isThere m₁) = rest.filter (Attachment.isThere m) ∧
        (rest.filter (Attachment.isThere m)).filter (Attachment.isUntyped m₁) =
          (rest.filter (Attachment.isThere m)).filter (Attachment.isUntyped m) := by
      intro m₁ honly
      refine ⟨List.filter_congr fun x hx => ?_, List.filter_congr fun x hx => ?_⟩
      · exact Attachment.isThere_of_alike (honly x (hapart x hx))
      · exact Attachment.isUntyped_of_alike (honly x (hapart x (List.mem_of_mem_filter hx)))
    have hkept : ∀ {m₁} {found : List (Attachment × String)}, OnlyUsed a m m₁ →
        found.map Prod.fst = rest.filter (Attachment.isThere m) →
        (∀ f ∈ found, f.1.Looked m₁ b.sniffBytes f.2) → ∀ f ∈ found, f.1.Looked m b.sniffBytes f.2 := by
      intro m₁ found honly hmap hlooked f hf
      have hmem : f.1 ∈ rest.filter (Attachment.isThere m) := hmap ▸ List.mem_map_of_mem hf
      exact Attachment.looked_of_alike (honly f.1 (hapart f.1 (List.mem_of_mem_filter hmem)))
        (hlooked f hf)
    obtain ⟨m₁, hasked, huses₁, honly₁, hsame⟩ := isAvailable_uses (ha.asked m rfl)
    rw [found_cons]
    cases hthere : a.isThere m with
    | false =>
      rw [hthere] at hasked
      -- it is gone: the others are asked on the machine that the question left
      obtain ⟨found, m', hfound, hmap, huses, hlooked⟩ := ih (m := m₁) (huses₁.files ▸ hrest) htail
      obtain ⟨hfilter, huntyped⟩ := hlater honly₁
      rw [hfilter] at hmap huses
      rw [huntyped] at huses
      rw [List.filter_cons_of_neg (by rw [hthere]; exact Bool.false_ne_true)]
      refine ⟨found, m', ?_, hmap, huses₁.trans huses, hkept honly₁ hmap hlooked⟩
      rw [Act.bind_run_ok hasked]
      exact hfound
    | true =>
      rw [hthere] at hasked
      obtain rfl := hsame hthere
      have hopens := ha.opens (Attachment.there_of_isThere hthere)
      -- it is there: its type is told before the others are asked
      obtain ⟨type, m₂, htype, huses₂, honly₂, htold⟩ := resolveType_uses ha.reported hopens
      have hboth := huses₁.trans huses₂
      have honly : OnlyUsed a m m₂ := fun x hx => (honly₁ x hx).trans (honly₂ x hx)
      obtain ⟨found, m', hfound, hmap, huses, hlooked⟩ := ih (m := m₂) (hboth.files ▸ hrest) htail
      obtain ⟨hfilter, huntyped⟩ := hlater honly
      rw [hfilter] at hmap huses
      rw [huntyped] at huses
      rw [List.filter_cons_of_pos hthere]
      refine ⟨(a, type) :: found, m', ?_, ?_, ?_, ?_⟩
      · rw [Act.bind_run_ok hasked]
        simp only [if_true]
        rw [Act.bind_run_ok htype, Act.bind_run_ok hfound]
        rfl
      · rw [List.map_cons, hmap]
      · have hall := hboth.trans huses
        rw [List.nil_append, ← List.map_append, ← List.filter_append] at hall
        exact hall
      · intro f hf
        rcases List.mem_cons.mp hf with rfl | hf
        · exact htold
        · exact hkept honly hmap hlooked f hf

end Builder

/-! ## Measuring -/

/-- While the files are these, an action comes to an end and neither asks nor opens any source. -/
def Quiet {α : Type} (files : FileSystem) (x : Act α) : Prop :=
  ∀ m : Machine, m.files = files → ∃ a m', x m = .ok a m' ∧ Uses [] [] m m'

namespace Quiet

variable {α β : Type} {files : FileSystem}

theorem pure (a : α) : Quiet files (pure a) := fun m _ => ⟨a, m, rfl, .refl m⟩

/-- `Quiet` is closed under sequences: the uses of both steps are none. -/
theorem bind {x : Act α} {f : α → Act β} (hx : Quiet files x) (hf : ∀ a, Quiet files (f a)) :
    Quiet files (x >>= f) := by
  intro m hm
  obtain ⟨a, m₁, hrun, huses⟩ := hx m hm
  obtain ⟨b, m₂, hrun', huses'⟩ := hf a m₁ (huses.files.trans hm)
  exact ⟨b, m₂, (Act.bind_run_ok hrun).trans hrun', huses.trans huses'⟩

/-- `Handle.length` asks nothing and opens nothing, whatever it gives. -/
theorem length {h : Handle} (hsize : ∀ m : Machine, m.files = files → ∃ n, h.size m = .ok n) :
    Quiet files h.length := by
  intro m hm
  obtain ⟨n, hn⟩ := hsize m hm
  have hrun := h.length_run m
  rw [hn] at hrun
  exact ⟨n, _, hrun, h.measured_uses m⟩

end Quiet

namespace Multipart.Draft

/-- `Draft.partsLength` measures the parts without opening a file. Induction on the parts with
`Quiet.length`. -/
theorem partsLength_quiet {files : FileSystem} {parts : List Part}
    (h : ∀ part ∈ parts, ∀ source, part.payload = .file source →
      ∀ m : Machine, m.files = files → ∃ n, source.size m = .ok n) :
    Quiet files (partsLength parts) := by
  induction parts with
  | nil => exact .pure 0
  | cons part rest ih =>
    have hrest := ih fun p hp => h p (List.mem_cons_of_mem _ hp)
    have hpart : Quiet files (partLength part) := by
      have hsize := h part List.mem_cons_self
      unfold partLength
      split
      · exact .pure _
      · next source hsource => exact (Quiet.length (hsize source hsource)).bind fun _ => .pure _
    exact hpart.bind fun _ => hrest.bind fun _ => .pure _

/-- The pieces of `Draft.partPieces` are read from the file of the part, if it has one. -/
theorem sources_partPieces (header : Bytes) :
    (∀ source, Piece.sources (partPieces ⟨header, .file source⟩) = [source]) ∧
      ∀ data, Piece.sources (partPieces ⟨header, .held data⟩) = [] := by
  refine ⟨fun source => rfl, fun data => ?_⟩
  cases data <;> rfl

end Multipart.Draft

/-! ## Entities of files that were found -/

/-- An entity is made of these files with these types: of none, if it is held in memory. -/
inductive Entity.MadeOf : List (Attachment × String) → Entity → Prop where
  | held {e : Entity} {bytes : Bytes} (hcontent : e.content = .held bytes) : MadeOf [] e
  | file (a : Attachment) (type : String) (length : Int) :
      MadeOf [(a, type)] (.ofPieces .file type none (some length) [.file a.source])
  | form {found : List (Attachment × String)} {texts : List (Parameter × Bytes)} {d : Draft}
      (hparts : d.parts = (found.map fun f => d.filePart f.1 f.2) ++
        texts.map fun p => d.textPart p.1 p.2)
      (hclosing : d.closing = .ok d.lastLine) (charset : String) (length : Int) :
      MadeOf found (.ofPieces .multipart d.contentType (some charset) (some length) d.pieces)

namespace Entity.MadeOf

variable [Platform] {found : List (Attachment × String)} {e : Entity}

omit [Platform] in
/-- **It is read from their sources, in their order.** -/
theorem sources (h : e.MadeOf found) : e.sources = found.map fun f => f.1.source := by
  cases h with
  | held hcontent =>
    unfold Entity.sources
    rw [hcontent]
    rfl
  | file a type length => rfl
  | @form _ texts d hparts hclosing charset length =>
    show Piece.sources d.pieces = _
    unfold Draft.pieces Piece.sources
    rw [hclosing, hparts, List.filterMap_append, List.filterMap_flatMap, List.flatMap_append,
      List.flatMap_map, List.flatMap_map, List.map_eq_flatMap]
    -- only the parts of files have a source among their pieces
    have htexts : (texts.flatMap fun p =>
        (Draft.partPieces (d.textPart p.1 p.2)).filterMap Piece.source?) = [] :=
      List.flatMap_eq_nil_iff.mpr fun p _ => (Draft.sources_partPieces _).2 _
    rw [htexts, List.append_nil]
    exact List.append_nil _

/-- It can be read if they can: by cases of `MadeOf`, as only the parts of files have sources
(`mem_partPieces`). -/
theorem calm {files : FileSystem} {size : Int} (h : e.MadeOf found)
    (hopens : ∀ f ∈ found, f.1.source.Opens files size) : e.Calm files size := by
  intro p hp
  cases h with
  | held hcontent =>
    rw [hcontent] at hp
    rw [List.mem_singleton.mp hp]
    exact trivial
  | file a type length =>
    rw [List.mem_singleton.mp hp]
    exact hopens _ (List.mem_singleton_self _)
  | @form _ texts d hparts hclosing charset length =>
    replace hp : p ∈ d.pieces := hp
    unfold Draft.pieces at hp
    rw [hclosing, List.mem_append] at hp
    rcases hp with hp | hp
    · obtain ⟨part, hpart, hp⟩ := List.mem_flatMap.mp hp
      obtain ⟨bytes, rfl⟩ | ⟨source, hsource, rfl⟩ := Builder.mem_partPieces hp
      · exact trivial
      · rw [hparts, List.mem_append, List.mem_map, List.mem_map] at hpart
        obtain ⟨f, hf, rfl⟩ | ⟨q, -, rfl⟩ := hpart
        · cases hsource
          exact hopens f hf
        · cases hsource
    · rw [List.mem_singleton.mp hp]
      exact trivial

end Entity.MadeOf

/-! ## Builds -/

namespace Builder

variable [Platform] {b : Builder} {m : Machine}

/-- What a build does with the attached files: it asks each once, and opens once each of those that are there
and whose type must be told. The entity, if one comes of it, is made of those that are there, with types that
are given or told. -/
structure Looks {α : Type} (b : Builder) (m : Machine) (entity? : α → Option Entity)
    (result : EStateM.Result Failure Machine α) : Prop where
  uses : Uses (b.files.map Attachment.source)
    (((b.files.filter (Attachment.isThere m)).filter (Attachment.isUntyped m)).map Attachment.source) m
      (stateAfter result)
  made : ∀ r m' e, result = .ok r m' → entity? r = some e → ∃ found : List (Attachment × String),
    found.map Prod.fst = b.files.filter (Attachment.isThere m) ∧
      (∀ f ∈ found, f.1.Looked m b.sniffBytes f.2) ∧ e.MadeOf found

/-- `Looks` speaks of what is asked and opened, so `pure` may follow. -/
theorem Looks.map {α β : Type} {entity? : α → Option Entity} {entity?' : β → Option Entity}
    {x : Act α} {f : α → β} (h : b.Looks m entity? (x m)) (hf : ∀ r, entity?' (f r) = entity? r) :
    b.Looks m entity?' ((x >>= fun r => pure (f r)) m) := by
  have huses := h.uses
  cases hrun : x m with
  | error failure m₁ =>
    rw [hrun] at huses
    rw [Act.bind_run_error hrun]
    refine ⟨huses, fun r m' e hmade => ?_⟩
    cases hmade
  | ok r m₁ =>
    rw [hrun] at huses
    rw [Act.bind_run_ok hrun]
    refine ⟨huses, ?_⟩
    rintro _ _ e ⟨⟩ he
    exact h.made r m₁ e hrun ((hf r).symm.trans he)

/-- A single file: it is asked, its type is told, and it is measured, which opens nothing (`Quiet.length`).
-/
theorem fileEntity_looks {a : Attachment} (hfiles : b.files = [a])
    (hcalm : a.source.Calm m.files b.sniffBytes) : b.Looks m id (b.fileEntity a m) := by
  obtain ⟨m₁, hasked, huses₁, -, hsame⟩ := isAvailable_uses (hcalm.asked m rfl)
  unfold fileEntity
  cases hthere : a.isThere m with
  | false =>
    rw [hthere] at hasked
    -- a file that is not there is asked once and is then left alone
    have hnone : [a].filter (Attachment.isThere m) = [] := by
      rw [List.filter_cons_of_neg (by rw [hthere]; exact Bool.false_ne_true)]
      rfl
    rw [Act.bind_run_ok hasked]
    refine ⟨?_, ?_⟩
    · rw [hfiles, hnone]
      exact huses₁
    · rintro _ _ e ⟨⟩ ⟨⟩
  | true =>
    rw [hthere] at hasked
    obtain rfl := hsame hthere
    have hfound := Attachment.there_of_isThere hthere
    have hone : [a].filter (Attachment.isThere m) = [a] := by
      rw [List.filter_cons_of_pos hthere]
      rfl
    obtain ⟨type, m₂, htype, huses₂, -, htold⟩ :=
      resolveType_uses hcalm.reported (hcalm.opens hfound)
    -- asked, sniffed, measured: three uses in a row
    have hboth := huses₁.trans huses₂
    obtain ⟨length, m₃, hlength, huses₃⟩ :=
      Quiet.length (hcalm.measured hfound) m₂ hboth.files
    rw [Act.bind_run_ok hasked]
    simp only [if_true]
    rw [Act.bind_run_ok htype, Act.bind_run_ok hlength]
    refine ⟨?_, ?_⟩
    · rw [hfiles, hone]
      have hall := hboth.trans huses₃
      simp only [List.append_nil, List.nil_append] at hall
      exact hall
    · rintro _ _ e ⟨⟩ ⟨⟩
      refine ⟨[(a, type)], ?_, ?_, .file a type length⟩
      · rw [hfiles, hone]
        rfl
      · intro f hf
        rw [List.mem_singleton.mp hf]
        exact htold

/-- The part headers of a form can be written under the charset. -/
def WritesHeaders (charset : String) : Prop :=
  ∃ codec, headerCodec charset = .ok codec ∧ codec.writes = true

omit [Platform] in
/-- The count of drawn boundaries is nothing that a source sees. -/
theorem drawn_alike (m : Machine) (h : Handle) : h.Alike m { m with drawn := m.drawn + 1 } := .of_same rfl rfl

omit [Platform] in
/-- So the files that are there, and those of which the type must be told, are the same. -/
theorem asked_drawn (m : Machine) :
    Attachment.isThere { m with drawn := m.drawn + 1 } = Attachment.isThere m ∧
      Attachment.isUntyped { m with drawn := m.drawn + 1 } = Attachment.isUntyped m :=
  ⟨funext fun a => Attachment.isThere_of_alike (drawn_alike m a.source),
    funext fun a => Attachment.isUntyped_of_alike (drawn_alike m a.source)⟩

/-- A multipart form. Its files are looked at (`found_uses`) on the machine with one boundary more, which
makes no difference (`asked_drawn`); then it is measured, or refused for one of its texts. -/
theorem multipartEntity_looks (hcharset : WritesHeaders b.charset)
    (hcalm : ∀ a ∈ b.files, a.source.Calm m.files b.sniffBytes) (hdistinct : Distinct b.files) :
    b.Looks m some (b.multipartEntity m) := by
  obtain ⟨codec, hcodec, hwrites⟩ := hcharset
  -- drawing the boundary touches no file, so what is asked before it and after it agree
  have hdrawn : Uses [] [] m { m with drawn := m.drawn + 1 } := .of_same rfl rfl
  obtain ⟨found, m₁, hfound, hmap, huses, hlooked⟩ :=
    found_uses (b := b) (m := { m with drawn := m.drawn + 1 }) hcalm hdistinct
  obtain ⟨hthere, huntyped⟩ := asked_drawn m
  rw [hthere] at hmap huses
  rw [huntyped] at huses
  replace hlooked : ∀ f ∈ found, f.1.Looked m b.sniffBytes f.2 := fun f hf =>
    Attachment.looked_of_alike (drawn_alike m f.1.source) (hlooked f hf)
  replace huses := hdrawn.trans huses
  cases htexts : textsOf b.charset b.parameters with
  | error fault =>
    rw [multipartEntity_refused hcodec hwrites htexts hfound]
    refine ⟨huses, fun r m' e hmade => ?_⟩
    cases hmade
  | ok texts =>
    rw [multipartEntity_of_found hcodec (fun _ => hwrites) htexts hfound]
    have hparts : (b.filledForm codec m found texts).parts =
        (found.map fun f => (b.filledForm codec m found texts).filePart f.1 f.2) ++
          (b.parameters.zip texts).map fun p => (b.filledForm codec m found texts).textPart p.1 p.2 := rfl
    have hboundary : (b.filledForm codec m found texts).boundary = Machine.boundary (m.drawn + 1) := rfl
    generalize b.filledForm codec m found texts = d at hparts hboundary
    have hclosing : d.closing = .ok d.lastLine := Draft.closing_of_drawn hboundary
    -- the length is read off the handles that were found, and none of these refuses it
    have hmeasured : Quiet m.files d.length := by
      unfold Draft.length
      refine (Draft.partsLength_quiet ?_).bind fun _ => ?_
      · intro part hpart source hsource
        rw [hparts, List.mem_append, List.mem_map, List.mem_map] at hpart
        obtain ⟨f, hf, rfl⟩ | ⟨q, -, rfl⟩ := hpart
        · cases hsource
          have hmem : f.1 ∈ b.files.filter (Attachment.isThere m) := hmap ▸ List.mem_map_of_mem hf
          obtain ⟨hfile, hthere⟩ := List.mem_filter.mp hmem
          exact (hcalm f.1 hfile).measured (Attachment.there_of_isThere hthere)
        · cases hsource
      · rw [hclosing]
        exact .pure _
    obtain ⟨length, m₂, hlength, huses₂⟩ := hmeasured m₁ huses.files
    rw [Act.bind_run_ok hlength]
    refine ⟨?_, ?_⟩
    · have hall := huses.trans huses₂
      rw [List.append_nil, List.append_nil] at hall
      exact hall
    · rintro _ _ e ⟨⟩ ⟨⟩
      exact ⟨found, hmap, hlooked, .form hparts hclosing _ _⟩

/-- `Looks` for a text or a form of parameters: nothing is attached, nothing is asked, and the content is
held in memory. -/
theorem held_looks (hfiles : b.files = []) {x : Except Failure Entity}
    (hx : ∀ e, x = .ok e → ∃ bytes, e.content = .held bytes) : b.Looks m some (Act.ofExcept x m) := by
  have hquiet : stateAfter (Act.ofExcept x m) = m := by cases x <;> rfl
  refine ⟨?_, fun r m' e hrun he => ?_⟩
  · rw [hfiles, hquiet]
    exact .refl m
  · obtain ⟨hok, rfl⟩ := Act.ofExcept_eq_ok.mp hrun
    cases he
    obtain ⟨bytes, hbytes⟩ := hx r hok
    refine ⟨[], ?_, fun f hf => absurd hf List.not_mem_nil, .held hbytes⟩
    rw [hfiles]
    rfl

/-- **A build looks at its files and does no more with them**, if their sources do not raise and count under
different numbers. By the ways of `Builder.way`; in a text or a form of parameters no file has a part. -/
theorem build_looks
    (hcharset : b.files ≠ [] → (b.files.length = 1 → b.parameters ≠ []) → WritesHeaders b.charset)
    (hcalm : ∀ a ∈ b.files, a.source.Calm m.files b.sniffBytes) (hdistinct : Distinct b.files) :
    b.Looks m Prod.fst (b.build m) := by
  cases b.way with
  | nothing hfiles hparams htext =>
    rw [build_nothing hfiles hparams htext]
    refine ⟨?_, ?_⟩
    · rw [hfiles]
      exact .refl m
    · rintro _ _ e ⟨⟩ ⟨⟩
  | text text hfiles hparams htext hne =>
    rw [build_text hfiles hparams htext hne]
    refine (held_looks hfiles fun e he => ?_).map fun _ => rfl
    obtain ⟨bytes, -, rfl⟩ := textEntity_of_ok he
    exact ⟨bytes, rfl⟩
  | form hfiles hparams =>
    rw [build_form hfiles hparams]
    refine (held_looks hfiles fun e he => ?_).map fun _ => rfl
    obtain ⟨bytes, -, rfl⟩ := formEntity_of_ok he
    exact ⟨bytes, rfl⟩
  | file a hfiles hparams =>
    have ha : a.source.Calm m.files b.sniffBytes := hcalm a (hfiles ▸ List.mem_singleton_self a)
    rw [build_file hfiles hparams]
    exact (fileEntity_looks hfiles ha).map fun _ => rfl
  | multipart hfiles hmany =>
    rw [build_multipart hfiles hmany]
    exact (multipartEntity_looks (hcharset hfiles hmany) hcalm hdistinct).map fun _ => rfl

end Builder

end Courier
