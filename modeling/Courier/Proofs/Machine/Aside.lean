import Courier.Client
import Courier.Proofs.Builder.Outcome
import Courier.Proofs.Entity.Drain

/-!
# Parts of the machine that nothing is done to

To build an entity, sources are used, boundaries are drawn, and notes are written into the journal. Every
part of the machine that has nothing to do with these (`Machine.Aside`) is the same after a build as before
(`Request.build_keeps`), whatever is read, found or refused on the way: what was sent, what will come of the
next exchanges, and the waits.

Sending a message does not take time either (`Net.transmit_keepsWaits`), so every wait stands between two
attempts.
-/

namespace Courier

variable {α τ : Type} {part : Machine → τ}

/-- A part of the machine that has nothing to do with sources, boundaries and the journal. -/
structure Machine.Aside (part : Machine → τ) : Prop where
  usage : ∀ m usage, part { m with usage } = part m
  drawn : ∀ m drawn, part { m with drawn } = part m
  journal : ∀ m journal, part { m with journal } = part m

namespace Machine

theorem aside_waits : Aside waits := ⟨fun _ _ => rfl, fun _ _ => rfl, fun _ _ => rfl⟩

theorem aside_files : Aside files := ⟨fun _ _ => rfl, fun _ _ => rfl, fun _ _ => rfl⟩

/-- What was sent, and what will come of the next exchanges. -/
def wire (m : Machine) : List Net.Exchange × List Net.Outcome := (m.sent, m.script)

theorem aside_wire : Aside wire := ⟨fun _ _ => rfl, fun _ _ => rfl, fun _ _ => rfl⟩

namespace Aside

theorem log (h : Aside part) (level : Level) (text : String) : Keeps part (Machine.log level text) :=
  fun m => h.journal m _

theorem drawBoundary (h : Aside part) : Keeps part Machine.drawBoundary := fun m => h.drawn m _

end Aside

end Machine

section Building

variable (hpart : Machine.Aside part)

include hpart

/-! ## Sources -/

namespace Handle

/-- `Handle.used` counts a source of the caller's own; the others leave no trace. -/
theorem used_keeps (h : Handle) (count : Usage → Usage) (m : Machine) :
    part (h.used count m) = part m := by
  cases h with
  | onDisk path => rfl
  | inMemory data name mimeType => rfl
  | custom id conduct => exact hpart.usage m _

/-- A use of a source is an answer and a count (`Handle.used`), and no part aside is either. -/
theorem keeps_of_run {x : Act α} {h : Handle} {count : Usage → Usage}
    {answer : Machine → Except Failure α}
    (hrun : ∀ m, x m = Act.ofExcept (answer m) (h.used count m)) : Keeps part x := by
  intro m
  have hkeeps : Keeps part (Act.ofExcept (answer m)) := .ofExcept _
  rw [hrun m, hkeeps (h.used count m), used_keeps hpart]

theorem exists?_keeps (h : Handle) : Keeps part h.exists? :=
  keeps_of_run hpart h.exists?_run

theorem length_keeps (h : Handle) : Keeps part h.length :=
  keeps_of_run hpart h.length_run

theorem openRead_keeps (h : Handle) : Keeps part h.openRead :=
  keeps_of_run hpart h.openRead_run

/-- `Handle.readOnce` opens the source; the stream that it reads is no part of the machine. -/
theorem readOnce_keeps [Platform] (h : Handle) (size : Int) :
    Keeps part (h.readOnce size) :=
  (h.openRead_keeps hpart).bind fun stream =>
    (Keeps.ofExcept (stream.read size)).bind fun _ => .pure _

end Handle

/-! ## Building -/

variable [Platform]

namespace Builder

omit [Platform] in
/-- `isAvailable` asks, and notes a source that is missing. -/
theorem isAvailable_keeps (a : Attachment) : Keeps part (isAvailable a) := by
  refine (a.source.exists?_keeps hpart).bind fun there => ?_
  cases there with
  | true => exact .pure _
  | false => exact (hpart.log _ _).bind fun _ => .pure _

/-- A type that is declared or reported needs no reading; one that is sniffed needs one (`readOnce_keeps`).
-/
theorem resolveType_keeps (b : Builder) (a : Attachment) : Keeps part (b.resolveType a) := by
  unfold resolveType
  split
  · exact .pure _
  · have hread : Keeps part (get : Act Machine) := fun _ => rfl
    refine hread.bind fun m => (Keeps.ofExcept (a.source.mimeType m.usage)).bind fun own => ?_
    split
    · exact .pure _
    · exact (a.source.readOnce_keeps hpart _).bind fun _ => .pure _

theorem fileEntity_keeps (b : Builder) (a : Attachment) : Keeps part (b.fileEntity a) := by
  refine (isAvailable_keeps hpart a).bind fun there => ?_
  cases there with
  | true =>
    exact (b.resolveType_keeps hpart a).bind fun _ =>
      (a.source.length_keeps hpart).bind fun _ => .pure _
  | false => exact .pure _

theorem addFiles_keeps (b : Builder) (d : Multipart.Draft) (files : List Attachment) :
    Keeps part (b.addFiles d files) := by
  induction files generalizing d with
  | nil => exact .pure _
  | cons a rest ih =>
    refine (isAvailable_keeps hpart a).bind fun there => ?_
    cases there with
    | true =>
      exact (b.resolveType_keeps hpart a).bind fun type => (Keeps.ofExcept _).bind fun d => ih d
    | false => exact ih d

end Builder

namespace Multipart.Draft

/-- `Draft.begin` draws a boundary, or fails before that. -/
theorem begin_keeps (charset : String) : Keeps part (begin charset none) := by
  unfold begin
  cases headerCodec charset with
  | error fault => exact .throw _
  | ok codec => exact hpart.drawBoundary.bind fun _ => .pure _

omit [Platform] in
theorem partLength_keeps (p : Part) : Keeps part (partLength p) := by
  unfold partLength
  split
  · exact .pure _
  · next source _ => exact (source.length_keeps hpart).bind fun _ => .pure _

omit [Platform] in
theorem partsLength_keeps (parts : List Part) : Keeps part (partsLength parts) := by
  induction parts with
  | nil => exact .pure _
  | cons p rest ih =>
    exact (partLength_keeps hpart p).bind fun _ => ih.bind fun _ => .pure _

omit [Platform] in
theorem length_keeps (d : Draft) : Keeps part d.length :=
  (partsLength_keeps hpart d.parts).bind fun _ => (Keeps.ofExcept d.closing).bind fun _ => .pure _

end Multipart.Draft

/-- `multipartEntity` step by step, with `Keeps.bind`. -/
theorem Builder.multipartEntity_keeps (b : Builder) : Keeps part b.multipartEntity :=
  (Multipart.Draft.begin_keeps hpart b.charset).bind fun d =>
    (b.addFiles_keeps hpart d b.files).bind fun d =>
      (Keeps.ofExcept (addTexts d b.parameters)).bind fun d =>
        (d.length_keeps hpart).bind fun _ => .pure _

/-- `Builder.build` by cases on what the builder has: a text, parameters, a file, or a form. -/
theorem Builder.build_keeps (b : Builder) : Keeps part b.build := by
  unfold build
  split
  · split
    · exact .pure _
    · exact .pure _
    · exact (Keeps.ofExcept _).bind fun _ => .pure _
  · exact (Keeps.ofExcept _).bind fun _ => .pure _
  · exact (b.fileEntity_keeps hpart _).bind fun _ => .pure _
  · exact (b.multipartEntity_keeps hpart).bind fun _ => .pure _

/-- **To build an entity is to do nothing to what is aside.** -/
theorem Request.build_keeps (r : Request) : Keeps part r.build := by
  unfold build
  split
  · exact .pure _
  · next b _ => exact (b.build_keeps hpart).bind fun _ => .pure _

/-- `Piece.drain` opens sources, and does nothing else on the machine. Induction on the pieces. -/
theorem Piece.drain_keeps (pieces : List Piece) (m : Machine) :
    part (drain pieces m).2 = part m := by
  induction pieces generalizing m with
  | nil => rfl
  | cons piece rest ih =>
    cases piece with
    | chunk bytes => exact ih m
    | fault failure => rfl
    | file source =>
      -- opening a source keeps the part, and reading a stream does not touch the machine
      have hopen := source.openRead_keeps hpart m
      rw [drain_file]
      cases h : source.openRead m with
      | error failure m₁ =>
        rw [h] at hopen
        exact hopen
      | ok stream m₁ =>
        rw [h] at hopen
        simp only [drainFrom]
        split
        · exact hopen
        · exact (ih m₁).trans hopen

end Building

/-! ## Sending -/

/-- An action in which nothing is waited for. -/
abbrev KeepsWaits (x : Act α) : Prop := Keeps Machine.waits x

namespace Net

/-- `Link.onMachine` leaves of the machine what its action leaves. -/
theorem Link.onMachine_keeps [Platform] {x : Act α} (h : Keeps part x) :
    Keeps (fun l : Link => part l.machine) (Link.onMachine x) := by
  intro l
  have hx := h l.machine
  unfold Link.onMachine
  cases hrun : x l.machine with
  | ok a m =>
    rw [hrun] at hx
    exact hx
  | error failure m =>
    rw [hrun] at hx
    exact hx

theorem Link.learn_keeps [Platform] (url : Url) (reply : Reply) :
    Keeps (fun l : Link => part l.machine) (Link.learn url reply) := fun _ => rfl

theorem noteSent_keepsWaits (exchange : Net.Exchange) : KeepsWaits (Machine.noteSent exchange) :=
  fun _ => rfl

theorem nextOutcome_keepsWaits : KeepsWaits Machine.nextOutcome := by
  refine Keeps.bind (fun _ => rfl) fun w => ?_
  split
  · exact fun _ => rfl
  · exact Keeps.bind (fun _ => rfl) fun _ => .pure _

variable [Platform]

/-- `Body.read` uses sources at most (`Piece.drain_keeps`). -/
theorem Body.read_keeps (hpart : Machine.Aside part) (body : Body) (manner : Manner) :
    Keeps part (body.read manner) := by
  intro m
  cases body with
  | held bytes => rfl
  | streamed pieces spent =>
    cases spent with
    | true => rfl
    | false =>
      have hdirect : part ((Content.streamed pieces).drain m).2 = part m :=
        Piece.drain_keeps hpart pieces m
      -- fetched one by one the chunks are those that are read through
      have hstepwise : part ((Content.streamed pieces).drainStepwise m).2 = part m := by
        rw [Content.drainStepwise_eq]
        exact hdirect
      cases manner with
      | direct =>
        simp only [Body.read]
        split <;> exact hdirect
      | stepwise =>
        simp only [Body.read]
        split <;> exact hstepwise

theorem readBody_keepsWaits (m : Message) (manner : Manner) (timeout : Float) :
    KeepsWaits (readBody m manner timeout) := by
  intro w
  have hread := m.body.read_keeps Machine.aside_waits manner w
  unfold readBody
  cases h : m.body.read manner w with
  | ok result w₁ =>
    rw [h] at hread
    exact hread
  | error failure w₁ =>
    rw [h] at hread
    exact hread

/-- `Net.exchange` takes the outcome, reads the body, and notes what was sent. -/
theorem exchange_keepsWaits (m : Message) (manner : Manner) (timeout : Float) :
    KeepsWaits (exchange m manner timeout) := by
  refine (Keeps.ofExcept (checkScheme m.url)).bind fun _ =>
    nextOutcome_keepsWaits.bind fun outcome => ?_
  have hread := readBody_keepsWaits m manner timeout
  cases outcome with
  | reply reply => exact hread.bind fun result => (noteSent_keepsWaits _).bind fun _ => .pure _
  | fails failure =>
    -- the body is read unless no connection comes about
    cases hretry : failure.isRetryable with
    | true =>
      simp only [hretry, if_true]
      exact (noteSent_keepsWaits _).bind fun _ => .throw _
    | false =>
      simp only [hretry, Bool.false_eq_true, if_false]
      exact hread.bind fun result => (noteSent_keepsWaits _).bind fun _ => .throw _

/-- Induction on the number of exchanges that are allowed; what a redirect asks for is remembered with the
cookies. -/
theorem sendOn_keepsWaits (manner : Manner) (timeout : Float) (follow : Bool) (left : Nat)
    (m : Message) :
    Keeps (fun l : Link => l.machine.waits) (sendOn manner timeout follow left m) := by
  induction left generalizing m with
  | zero => exact .throw _
  | succ left ih =>
    have hget : Keeps (fun l : Link => l.machine.waits) (get : Transfer Link) := fun _ => rfl
    refine (Link.onMachine_keeps (exchange_keepsWaits m manner timeout)).bind fun result =>
      (Link.learn_keeps _ _).bind fun _ => hget.bind fun l =>
        (Link.onMachine_keeps (.ofExcept (redirect? l.cookies result.2 result.1))).bind
          fun next => ?_
    cases next with
    | none => exact .pure _
    | some next =>
      cases follow with
      | true => exact ih next
      | false => exact .pure _

/-- **Nothing is waited for while a message is sent**, however often it is sent on. -/
theorem transmit_keepsWaits (manner : Manner) (timeout : Float) (follow : Bool) (m : Message) :
    Keeps (fun l : Link => l.machine.waits) (transmit manner timeout follow m) :=
  sendOn_keepsWaits manner timeout follow (redirectLimit + 1) m

end Net

end Courier
