import Courier.Mime.Parameter
import Courier.Source

/-!
# Entities

A finished body. Its bytes are held in memory or come from a list of pieces that are read while the
body is sent; either way they can be had only once. The whole content can be had at one go or chunk
by chunk.
-/

namespace Courier

/-- The wire encodings of a body. -/
inductive EntityKind where
  | text | form | file | multipart
  deriving DecidableEq, Repr

namespace EntityKind

/-- The name of an encoding. -/
def name : EntityKind → String
  | text => "text"
  | form => "form"
  | file => "file"
  | multipart => "multipart"

/-- The encoding of a name. -/
def ofName (name : String) : Except Failure EntityKind :=
  match [text, form, file, multipart].find? (·.name = name) with
  | some kind => .ok kind
  | none => .error (.unknownEntityKind name)

end EntityKind

/-! ## Pieces -/

/-- A piece of a streamed body. -/
inductive Piece where
  | chunk (bytes : Bytes)
  | file (source : Handle)
  | fault (failure : Failure)

namespace Piece

/-- Reads pieces to the end of the last one, each file to its end. -/
def drain [Platform] : List Piece → Machine → Drained × Machine
  | [], m => (⟨[], none⟩, m)
  | chunk bytes :: rest, m =>
    let (d, m) := drain rest m
    (d.cons bytes, m)
  | fault failure :: _, m => (⟨[], some failure⟩, m)
  | file source :: rest, m =>
    match source.openRead m with
    | .error failure m => (⟨[], some failure⟩, m)
    | .ok stream m =>
      let first := stream.drain
      match first.failure with
      | some _ => (first, m)
      | none =>
        let (d, m) := drain rest m
        (⟨first.chunks ++ d.chunks, d.failure⟩, m)

end Piece

/-! ## Chunk by chunk -/

/-- A streamed body that is being read: the file that is open, and the pieces after it. -/
structure Cursor where
  current : Option Stream
  pieces : List Piece

namespace Cursor

/-- How much of the open file is left. -/
def left (c : Cursor) : Nat :=
  match c.current with
  | some stream => stream.rest.length
  | none => 0

/-- The next chunk from pieces none of which is open yet. -/
def start [Platform] : List Piece → Act (Option (Bytes × Cursor))
  | [] => pure none
  | .chunk bytes :: rest => pure (some (bytes, ⟨none, rest⟩))
  | .fault failure :: _ => throw failure
  | .file source :: rest => do
    let stream ← source.openRead
    let (bytes, stream) ← Act.ofExcept (stream.read chunkSize)
    if bytes = [] then start rest else pure (some (bytes, ⟨some stream, rest⟩))

/-- The next chunk; none at the end. -/
def next [Platform] (c : Cursor) : Act (Option (Bytes × Cursor)) :=
  match c.current with
  | none => start c.pieces
  | some stream =>
    match stream.read chunkSize with
    | .error failure => throw failure
    | .ok (bytes, stream) =>
      if bytes = [] then start c.pieces else pure (some (bytes, ⟨some stream, c.pieces⟩))

theorem start_shorter [Platform] {pieces : List Piece} {m m' : Machine} {bytes : Bytes} {c : Cursor}
    (h : start pieces m = .ok (some (bytes, c)) m') : c.pieces.length < pieces.length := by
  induction pieces generalizing m with
  | nil => simp [start, pure, EStateM.pure] at h
  | cons piece rest ih =>
    cases piece with
    | chunk b =>
      simp only [start, pure, EStateM.pure, EStateM.Result.ok.injEq, Option.some.injEq,
        Prod.mk.injEq] at h
      obtain ⟨⟨-, rfl⟩, -⟩ := h
      simp
    | fault failure => cases h
    | file source =>
      simp only [start, bind, EStateM.bind] at h
      split at h
      · split at h
        · split at h
          · have := ih h
            simp only [List.length_cons]
            omega
          · simp only [pure, EStateM.pure, EStateM.Result.ok.injEq, Option.some.injEq,
              Prod.mk.injEq] at h
            obtain ⟨⟨-, rfl⟩, -⟩ := h
            simp
        · simp at h
      · simp at h

/-- The next chunk leaves fewer pieces, or the same with less of the open file. -/
theorem next_shorter [Platform] {c c' : Cursor} {m m' : Machine} {bytes : Bytes}
    (h : c.next m = .ok (some (bytes, c')) m') :
    Prod.Lex (· < ·) (· < ·) (c'.pieces.length, c'.left) (c.pieces.length, c.left) := by
  cases hc : c.current with
  | none =>
    simp only [next, hc] at h
    exact Prod.Lex.left _ _ (start_shorter h)
  | some stream =>
    simp only [next, hc] at h
    cases hr : stream.read chunkSize with
    | error failure =>
      simp only [hr] at h
      cases h
    | ok pair =>
      obtain ⟨b, stream'⟩ := pair
      simp only [hr] at h
      by_cases hb : b = []
      · rw [if_pos hb] at h
        exact Prod.Lex.left _ _ (start_shorter h)
      · rw [if_neg hb] at h
        simp only [pure, EStateM.pure, EStateM.Result.ok.injEq, Option.some.injEq,
          Prod.mk.injEq] at h
        obtain ⟨⟨-, rfl⟩, -⟩ := h
        have := Stream.read_shorter hr hb
        exact Prod.Lex.right _ (by simpa [left, hc] using this)

/-- Takes chunk after chunk to the end. -/
def drain [Platform] (c : Cursor) (m : Machine) : Drained × Machine :=
  match _h : c.next m with
  | .error failure m => (⟨[], some failure⟩, m)
  | .ok none m => (⟨[], none⟩, m)
  | .ok (some (bytes, c')) m =>
    let (d, m) := drain c' m
    (d.cons bytes, m)
termination_by (c.pieces.length, c.left)
decreasing_by exact next_shorter (by assumption)

end Cursor

/-! ## Entities -/

/-- Where the bytes of an entity come from. -/
inductive Content where
  | held (bytes : Bytes)
  | streamed (pieces : List Piece)

/-- A finished body. -/
structure Entity where
  kind : EntityKind
  contentType : String
  charset : Option String := none
  length : Option Int
  content : Content
  consumed : Bool := false

namespace Entity

/-- An entity of content in memory, whose length is the number of its bytes. -/
def ofBytes (kind : EntityKind) (contentType : String) (charset : Option String) (bytes : Bytes) :
    Entity :=
  { kind, contentType, charset, length := some bytes.length, content := .held bytes }

/-- An entity that is streamed. -/
def ofPieces (kind : EntityKind) (contentType : String) (charset : Option String)
    (length : Option Int) (pieces : List Piece) : Entity :=
  { kind, contentType, charset, length, content := .streamed pieces }

/-- An entity of either content or a stream. -/
def make (kind : EntityKind) (contentType : String) (charset : Option String)
    (length : Option Int) (content : Option Bytes) (stream : Option (List Piece)) :
    Except Failure Entity :=
  match content, stream with
  | some bytes, none => .ok (ofBytes kind contentType charset bytes)
  | none, some pieces => .ok (ofPieces kind contentType charset length pieces)
  | _, _ => .error .contentUnclear

/-- The mime type of an entity. -/
def mimeType (e : Entity) : String :=
  Mime.mimeTypeOf e.contentType

/-- Whether the bytes are read while the entity is sent. -/
def isStreaming (e : Entity) : Bool :=
  match e.content with
  | .held _ => false
  | .streamed _ => true

/-- How a length is shown. -/
def lengthText (length : Option Int) : String :=
  match length with
  | some n => Text.signedNumeral n
  | none => "None"

/-- How an entity is shown. -/
def shown (e : Entity) : String :=
  "Entity(kind=" ++ e.kind.name ++ ", content_type=" ++ Text.quoted e.contentType ++ ", length=" ++
    lengthText e.length ++ ")"

/-- The content, which can be taken once. -/
def take (e : Entity) : Except Failure Content × Entity :=
  if e.consumed then (.error (.entityConsumed consumedText), e)
  else (.ok e.content, { e with consumed := true })

end Entity

namespace Content

/-- The content chunk by chunk; what is held in memory is one chunk. -/
def drain [Platform] : Content → Machine → Drained × Machine
  | held bytes, m => (⟨[bytes], none⟩, m)
  | streamed pieces, m =>
    let (d, m) := Piece.drain pieces m
    (d.told Failure.leavingLoop, m)

/-- The content chunk by chunk, each chunk fetched on its own while others wait for it. -/
def drainStepwise [Platform] : Content → Machine → Drained × Machine
  | held bytes, m => (⟨[bytes], none⟩, m)
  | streamed pieces, m =>
    let (d, m) := Cursor.drain ⟨none, pieces⟩ m
    ((d.told Failure.leavingLoop).told Failure.fetched, m)

end Content

namespace Entity

/-- Takes the content and does something with it. -/
def consume {α : Type} (e : Entity) (use : Content → Machine → Except Failure α × Machine)
    (m : Machine) : Except Failure α × Entity × Machine :=
  match e.take with
  | (.error failure, e) => (.error failure, e, m)
  | (.ok content, e) =>
    let (result, m) := use content m
    (result, e, m)

/-- All bytes of an entity. -/
def read [Platform] (e : Entity) : Machine → Except Failure Bytes × Entity × Machine :=
  e.consume fun content m =>
    let (d, m) := content.drain m
    (d.toExcept, m)

/-- The chunks of an entity. -/
def chunks [Platform] (e : Entity) : Machine → Except Failure (List Bytes) × Entity × Machine :=
  e.consume fun content m =>
    let (d, m) := content.drain m
    (d.chunksOrFailure, m)

/-- The chunks of an entity, each fetched on its own. -/
def chunksStepwise [Platform] (e : Entity) : Machine → Except Failure (List Bytes) × Entity × Machine :=
  e.consume fun content m =>
    let (d, m) := content.drainStepwise m
    (d.chunksOrFailure, m)

end Entity

end Courier
