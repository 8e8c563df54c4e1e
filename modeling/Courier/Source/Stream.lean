import Courier.Failure
import Courier.Platform

/-!
# Opened files

A file that was opened is read from front to end. How much one reading gives is up to what lies
behind it, but a reading that gives nothing is the last. Main statements: a reading and what it leaves
make up what was there before it (`read_append`), and a reading that gives something leaves less
(`read_shorter`).
-/

namespace Courier

/-- What an opened source gives: its content, the most bytes that each reading gives, and the readings
that fail. Readings are counted from zero. -/
structure Delivery where
  content : Bytes
  most : Nat → Option Nat := fun _ => none
  fault : Nat → Option Failure := fun _ => none

/-- What lies behind an opened file, which decides how it is read. -/
inductive Medium where
  | disk
  | memory
  | custom (delivery : Delivery)

/-- An opened file: what is left of it, and how often it was read. -/
structure Stream where
  medium : Medium
  rest : Bytes
  readings : Nat := 0

/-- The greatest size that fits a machine word. -/
def greatestSize : Int := 0x7FFFFFFFFFFFFFFF

/-- Refuses a size that cannot be read. A negative size stands for all that is left; on a disk only
minus one does, and there must be room for what is asked for. -/
def Medium.refusal? [Platform] (medium : Medium) (left : Nat) (size : Int) : Option Failure :=
  if greatestSize < size || size < -greatestSize - 1 then some .sizeTooLarge
  else
    match medium with
    | .memory | .custom _ => none
    | .disk =>
      if size < -1 then some .negativeSize
      else if greatestSize - 33 < size then some .blockTooLarge
      else if Platform.room < (if size < 0 then (left : Int) else size) then some .outOfMemory
      else none

/-- How many bytes a reading of the given size asks for; none for all that is left. -/
def askedFor (size : Int) : Option Nat :=
  if size < 0 then none else some size.toNat

/-- At most so many bytes from the front. -/
def takeMost (limit : Option Nat) (bytes : Bytes) : Bytes :=
  match limit with
  | none => bytes
  | some n => bytes.take n

/-- The size that a reading asks for where a source gives only so much at a time. -/
def Delivery.cutSize (delivery : Delivery) (reading : Nat) (size : Int) : Int :=
  match delivery.most reading with
  | none => size
  | some most => if size < 0 then most else min size most

namespace Stream

/-- The size that the next reading asks for. -/
def askedSize (s : Stream) (size : Int) : Int :=
  match s.medium with
  | .custom delivery => delivery.cutSize s.readings size
  | _ => size

/-- How many bytes the next reading gives at most. -/
def limit (s : Stream) (size : Int) : Option Nat :=
  askedFor (s.askedSize size)

/-- The failure of the next reading, if it fails. A source of the caller's own fails before it looks
at the size. -/
def failure? [Platform] (s : Stream) (size : Int) : Option Failure :=
  let refusal := s.medium.refusal? s.rest.length (s.askedSize size)
  match s.medium with
  | .custom delivery => (delivery.fault s.readings).or refusal
  | _ => refusal

/-- Reads bytes. -/
def read [Platform] (s : Stream) (size : Int) : Except Failure (Bytes × Stream) :=
  match s.failure? size with
  | some failure => .error failure
  | none =>
    let bytes := takeMost (s.limit size) s.rest
    .ok (bytes, { s with rest := s.rest.drop bytes.length, readings := s.readings + 1 })

theorem takeMost_isPrefix (limit : Option Nat) (bytes : Bytes) :
    takeMost limit bytes ++ bytes.drop (takeMost limit bytes).length = bytes := by
  cases limit with
  | none => simp [takeMost]
  | some n =>
    simp only [takeMost, List.length_take]
    rcases Nat.le_total n bytes.length with h | h
    · rw [Nat.min_eq_left h, List.take_append_drop]
    · rw [Nat.min_eq_right h, List.take_of_length_le h, List.drop_length, List.append_nil]

theorem read_append [Platform] {s s' : Stream} {size : Int} {bytes : Bytes}
    (h : s.read size = .ok (bytes, s')) : bytes ++ s'.rest = s.rest := by
  unfold read at h
  split at h
  · simp at h
  · simp only [Except.ok.injEq, Prod.mk.injEq] at h
    obtain ⟨rfl, rfl⟩ := h
    exact takeMost_isPrefix _ _

theorem read_shorter [Platform] {s s' : Stream} {size : Int} {bytes : Bytes}
    (h : s.read size = .ok (bytes, s')) (hne : bytes ≠ []) : s'.rest.length < s.rest.length := by
  have := read_append h
  rw [← this, List.length_append]
  have := List.length_pos_iff.2 hne
  omega

end Stream

/-! ## Reading to the end -/

/-- How many bytes are read at a time when a file is sent. -/
def chunkSize : Int := 65536

/-- What came out of a source, chunk by chunk, and the failure that ended it, if one did. -/
structure Drained where
  chunks : List Bytes
  failure : Option Failure := none

namespace Drained

/-- All bytes that came out. -/
def bytes (d : Drained) : Bytes := d.chunks.flatten

/-- The same with a chunk before all others. -/
def cons (chunk : Bytes) (d : Drained) : Drained := { d with chunks := chunk :: d.chunks }

/-- The same with the failure told as something makes of it. -/
def told (d : Drained) (tell : Failure → Failure) : Drained :=
  { d with failure := d.failure.map tell }

/-- All bytes, or the failure. -/
def toExcept (d : Drained) : Except Failure Bytes :=
  match d.failure with
  | some failure => .error failure
  | none => .ok d.bytes

/-- All chunks, or the failure. -/
def chunksOrFailure (d : Drained) : Except Failure (List Bytes) :=
  match d.failure with
  | some failure => .error failure
  | none => .ok d.chunks

end Drained

/-- Reads a stream to its end, which is the first reading that gives nothing. -/
def Stream.drain [Platform] (s : Stream) : Drained :=
  match _h : s.read chunkSize with
  | .error failure => ⟨[], some failure⟩
  | .ok (bytes, s') => if bytes = [] then ⟨[], none⟩ else (drain s').cons bytes
termination_by s.rest.length
decreasing_by exact Stream.read_shorter (by assumption) (by assumption)

theorem Stream.drain_eq [Platform] (s : Stream) :
    s.drain = match s.read chunkSize with
      | .error failure => ⟨[], some failure⟩
      | .ok (bytes, s') => if bytes = [] then ⟨[], none⟩ else s'.drain.cons bytes := by
  rw [Stream.drain]
  split <;> simp_all

end Courier
