import Courier.Form

/-!
# Names that are looked up alike

Of a charset name only letters, digits and full stops count, and where other characters stand between them.
Two names that agree in that are looked up alike (`Codec.Alike`). What can be written and read under the one
can be written and read under the other, with the same result. A name that cannot be looked up is unknown, unless it
has a NUL character (`Codec.lookup_error`).
-/

namespace Courier

namespace Codec

/-- Whether a character of a name counts where it stands. -/
def counts (c : Char) : Bool :=
  c.isAlphanum || c = '.'

/-- `Codec.lookup` fails in two ways: the name is unknown, or has a NUL character. -/
theorem lookup_error [Platform] {name : String} {fault : CharsetFault} (h : Codec.lookup name = .error fault) :
    fault = .unknown name ∨ (fault = .nulInName ∧ Char.ofNat 0 ∈ name.toList) := by
  unfold Codec.lookup at h
  split at h
  · next hnul =>
    cases h
    exact .inr ⟨rfl, by simpa using hnul⟩
  · split at h
    · cases h
    · cases h
      exact .inl rfl

/-! ## Characters that do not count -/

/-- `normalizeFrom` notes a gap at a character that does not count, and goes on. -/
theorem normalizeFrom_other {c : Char} (h : counts c = false) (gap started : Bool) (rest : List Char) :
    normalizeFrom gap started (c :: rest) = normalizeFrom true started rest := by
  unfold counts at h
  rw [normalizeFrom, if_neg (by simpa using h)]

/-- `normalizeFrom` drops the note of a gap before the first character that counts. Induction on the name. -/
theorem normalizeFrom_start (gap gap' : Bool) (cs : List Char) :
    normalizeFrom gap false cs = normalizeFrom gap' false cs := by
  induction cs with
  | nil => rfl
  | cons c rest ih =>
    cases hc : counts c with
    | false => rw [normalizeFrom_other hc, normalizeFrom_other hc]
    | true =>
      -- no underscore is put before the first character that counts
      unfold counts at hc
      rw [normalizeFrom, normalizeFrom, if_pos hc, if_pos hc]
      simp only [Bool.and_false]

/-- Behind a name such characters add nothing. Induction on the name, and then on them. -/
theorem normalizeFrom_others {cs : List Char} (h : ∀ c ∈ cs, counts c = false) (gap started : Bool)
    (rest : List Char) :
    normalizeFrom gap started (rest ++ cs) = normalizeFrom gap started rest := by
  induction rest generalizing gap started with
  | nil =>
    -- a gap that nothing follows leaves no trace
    rw [List.nil_append]
    induction cs generalizing gap with
    | nil => rfl
    | cons c cs ih =>
      rw [normalizeFrom_other (h c List.mem_cons_self), ih fun d hd => h d (List.mem_cons_of_mem _ hd)]
      rfl
  | cons c rest ih =>
    rw [List.cons_append, normalizeFrom, normalizeFrom]
    simp only [ih]

/-- Before a name they leave only the note of a gap, which `normalizeFrom_start` drops. -/
theorem normalizeFrom_before {cs : List Char} (h : ∀ c ∈ cs, counts c = false) (gap : Bool)
    (rest : List Char) :
    normalizeFrom gap false (cs ++ rest) = normalizeFrom gap false rest := by
  induction cs generalizing gap with
  | nil => rfl
  | cons c cs ih =>
    rw [List.cons_append, normalizeFrom_other (h c List.mem_cons_self),
      ih (fun d hd => h d (List.mem_cons_of_mem _ hd))]
    exact normalizeFrom_start _ _ _

/-! ## Names -/

/-- The second name is looked up as the first one is, if that has no NUL character. -/
def Alike (a b : List Char) : Prop :=
  normalizeFrom false false b = normalizeFrom false false a ∧ (Char.ofNat 0 ∈ b → Char.ofNat 0 ∈ a)

namespace Alike

variable {a b c : List Char}

theorem refl (a : List Char) : Alike a a := ⟨rfl, id⟩

theorem trans (h : Alike a b) (h' : Alike b c) : Alike a c :=
  ⟨h'.1.trans h.1, fun hc => h.2 (h'.2 hc)⟩

/-- `Codec.lookup` sees the normal form of a name, which is one for names that are `Alike`. -/
theorem lookup [Platform] {name name' : String} {codec : Codec} (h : Alike name.toList name'.toList)
    (hname : Codec.lookup name = .ok codec) : Codec.lookup name' = .ok codec := by
  unfold Codec.lookup at hname ⊢
  cases hnul : name.toList.contains (Char.ofNat 0) with
  | true =>
    rw [hnul] at hname
    cases hname
  | false =>
    have hnul' : name'.toList.contains (Char.ofNat 0) = false := by
      simp only [List.contains_eq_mem, decide_eq_false_iff_not] at hnul ⊢
      exact fun hmem => hnul (h.2 hmem)
    -- the key looked for is the same; only the null character is asked of the name itself
    have hkey : normalize name' = normalize name := congrArg String.ofList h.1
    rw [hnul, if_neg Bool.false_ne_true] at hname
    rw [hnul', hkey, if_neg Bool.false_ne_true]
    cases hfind : find? (normalize name) with
    | none =>
      rw [hfind] at hname
      cases hname
    | some own =>
      rw [hfind] at hname
      exact hname

end Alike

/-- `Codec.lookup` answers `.embeddedNul` before it looks at the rest of a name. -/
theorem no_nul_of_lookup [Platform] {name : String} {codec : Codec} (h : Codec.lookup name = .ok codec) :
    name.toList.contains (Char.ofNat 0) = false := by
  unfold Codec.lookup at h
  cases hnul : name.toList.contains (Char.ofNat 0) with
  | false => rfl
  | true =>
    rw [hnul] at h
    cases h

/-- `Codec.decodeWith` uses the given fault only where it fails. -/
theorem decodeWith_of_ok {codec : Codec} {own : PlatformCodec → Bytes → Except String Decoded}
    {refused refused' : String → DecodeFault} {bytes : Bytes} {d : Decoded}
    (h : codec.decodeWith own refused bytes = .ok d) : codec.decodeWith own refused' bytes = .ok d := by
  cases codec
  case platform reader =>
    simp only [decodeWith] at h ⊢
    cases hread : own reader bytes with
    | ok decoded => simpa only [hread] using h
    | error reason => simp [hread] at h
  -- either the fault is not looked at, or nothing is read
  all_goals first | exact h | cases h

/-- The empty name is unknown: no table and no platform has it. -/
theorem lookup_empty [Platform] : Codec.lookup "" = .error (.unknown "") := by
  have hfind : Codec.find? (Codec.normalize "") = none := by
    show (Option.map Codec.platform (Platform.codec? "")) = none
    rw [Platform.codec?_empty]
    rfl
  unfold Codec.lookup
  rw [hfind]
  rfl

theorem ne_nil_of_lookup [Platform] {name : String} {codec : Codec}
    (h : Codec.lookup name = .ok codec) : name.toList ≠ [] := by
  intro hnil
  have hname : name = "" := String.toList_eq_nil_iff.mp hnil
  rw [hname, lookup_empty] at h
  cases h

end Codec

/-! ## Texts under either name -/

variable [Platform]

/-- `lookupText` is `lookup`, restricted to the codecs for texts. -/
theorem lookupText_eq_ok {name : String} {codec own : Codec} (h : Codec.lookup name = .ok codec) :
    Codec.lookupText name = .ok own ↔ codec.isText = true ∧ own = codec := by
  unfold Codec.lookupText
  rw [h]
  cases htext : codec.isText with
  | false => simp [htext]
  | true => simp [htext, eq_comm]

/-- `encodeText` under a name that is known is `Codec.encode?`, for codecs of texts. -/
theorem encodeText_eq_ok {name text : String} {codec : Codec} {bytes : Bytes}
    (h : Codec.lookup name = .ok codec) :
    encodeText name text = .ok bytes ↔ codec.isText = true ∧ codec.encode? text.toList = some bytes := by
  unfold encodeText Codec.lookupText
  rw [h]
  cases htext : codec.isText with
  | false => simp [htext]
  | true =>
    simp only [htext, if_true, true_and]
    cases codec.encode? text.toList with
    | none => simp
    | some own => simp

omit [Platform] in
/-- `Except` steps transfer: where each step gives what the other gives, so do two in a row. -/
theorem bind_of_ok {ε α β : Type} {x y : Except ε α} {f g : α → Except ε β} {b : β}
    (hx : ∀ a, x = .ok a → y = .ok a) (hf : ∀ a, f a = .ok b → g a = .ok b)
    (h : (x >>= f) = .ok b) : (y >>= g) = .ok b := by
  cases hstep : x with
  | error fault =>
    rw [hstep] at h
    cases h
  | ok a =>
    rw [hstep] at h
    rw [hx a hstep]
    exact hf a h

/-! The form is written step by step; each equation is one function of it. -/

namespace Form

theorem encodeField_eq (charset text : String) (hne : text ≠ "") :
    encodeField charset text =
      encodeText charset text >>= fun bytes => .ok (escape (text.toList.contains ' ') bytes) := by
  unfold encodeField
  rw [if_neg hne]
  cases encodeText charset text <;> rfl

theorem encodeParameter_eq (charset : String) (p : Parameter) :
    encodeParameter charset p = encodeField charset p.name >>= fun field =>
      match p.value with
      | none => .ok field
      | some value => encodeField charset value >>= fun other => .ok (field ++ 61 :: other) := by
  unfold encodeParameter
  cases encodeField charset p.name with
  | error fault => rfl
  | ok field =>
    cases p.value with
    | none => rfl
    | some value => cases hvalue : encodeField charset value <;> simp only [hvalue] <;> rfl

theorem encodePairs_cons (charset : String) (p : Parameter) (rest : List Parameter) :
    encodePairs charset (p :: rest) = encodeParameter charset p >>= fun pair =>
      encodePairs charset rest >>= fun pairs => .ok (pair :: pairs) := by
  rw [encodePairs]
  cases encodeParameter charset p with
  | error fault => rfl
  | ok pair => cases encodePairs charset rest <;> rfl

end Form

section Names

variable {name name' : String} {codec : Codec} (h : Codec.lookup name = .ok codec)
  (h' : Codec.lookup name' = .ok codec)

include h h'

/-- Both names have one codec (`encodeText_eq_ok`), so the bytes are the same. -/
theorem encodeText_of_lookup {text : String} {bytes : Bytes}
    (hname : encodeText name text = .ok bytes) : encodeText name' text = .ok bytes :=
  (encodeText_eq_ok h').mpr ((encodeText_eq_ok h).mp hname)

/-- Both names have one codec; `decodeWith_of_ok` passes over the fault that names the charset. -/
theorem decodeText_of_lookup {bytes : Bytes} {d : Decoded} (hname : decodeText name bytes = .ok d) :
    decodeText name' bytes = .ok d := by
  unfold decodeText at hname ⊢
  rw [Codec.no_nul_of_lookup h] at hname
  rw [Codec.no_nul_of_lookup h']
  simp only [Bool.false_eq_true, if_false] at hname ⊢
  split
  · next hempty => simpa only [hempty, if_true] using hname
  · next hne =>
    simp only [hne, Bool.false_eq_true, if_false] at hname
    cases htext : Codec.lookupText name with
    | error fault =>
      rw [htext] at hname
      cases hname
    | ok own =>
      rw [htext] at hname
      rw [(lookupText_eq_ok h').mpr ((lookupText_eq_ok h).mp htext)]
      -- the two differ in the fault that names the charset
      exact Codec.decodeWith_of_ok hname

/-! A form that was written under a name can be under the other. -/

namespace Form

/-- By `encodeField_eq` and `encodeText_of_lookup`; an empty field is empty under every name. -/
theorem encodeField_of_lookup {text : String} {bytes : Bytes}
    (hname : encodeField name text = .ok bytes) : encodeField name' text = .ok bytes := by
  by_cases htext : text = ""
  · subst htext
    exact hname
  · rw [encodeField_eq name text htext] at hname
    rw [encodeField_eq name' text htext]
    exact bind_of_ok (fun _ => encodeText_of_lookup h h') (fun _ => id) hname

/-- By `encodeParameter_eq` and `bind_of_ok`, for the name and for the value. -/
theorem encodeParameter_of_lookup {p : Parameter} {bytes : Bytes}
    (hname : encodeParameter name p = .ok bytes) : encodeParameter name' p = .ok bytes := by
  rw [encodeParameter_eq] at hname ⊢
  refine bind_of_ok (fun _ => encodeField_of_lookup h h') (fun field hfield => ?_) hname
  cases hvalue : p.value with
  | none =>
    rw [hvalue] at hfield
    exact hfield
  | some value =>
    rw [hvalue] at hfield
    exact bind_of_ok (fun _ => encodeField_of_lookup h h') (fun _ => id) hfield

/-- Induction on the parameters, with `bind_of_ok` at each one. -/
theorem encodePairs_of_lookup {ps : List Parameter} {pairs : List Bytes}
    (hname : encodePairs name ps = .ok pairs) : encodePairs name' ps = .ok pairs := by
  induction ps generalizing pairs with
  | nil => exact hname
  | cons p rest ih =>
    rw [encodePairs_cons] at hname ⊢
    refine bind_of_ok (fun _ => encodeParameter_of_lookup h h') (fun pair hpair => ?_) hname
    exact bind_of_ok (fun _ => ih) (fun _ => id) hpair

/-- **A form that is written under one name is written under the other, to the same bytes.** What is left
after `encodePairs_of_lookup` is to join the pairs. -/
theorem encode_of_lookup {ps : List Parameter} {bytes : Bytes} (hname : encode name ps = .ok bytes) :
    encode name' ps = .ok bytes := by
  unfold encode at hname ⊢
  cases hpairs : encodePairs name ps with
  | error fault =>
    rw [hpairs] at hname
    cases hname
  | ok pairs =>
    rw [hpairs] at hname
    rw [encodePairs_of_lookup h h' hpairs]
    exact hname

end Form

end Names

end Courier
