import Courier.Proofs.Charset.Name
import Courier.Proofs.Mime.Parameter
import Courier.Response

/-!
# The charset behind a type

A charset that is put behind a type as its parameter is what a receiver finds, provided that the quotes of
the type are closed, that its own parameters can be read, and that none of them is a charset already
(`Extensible`). On the way white space and quotes are taken off the name and backslashes are added and
dropped, none of which makes a difference when it is looked up (`alike_unquoteValue`, `alike_quoteValue`,
`alike_stripChars`). Main statement: `charsetSent_declared`.
-/

namespace Courier

namespace Mime

open Codec

/-! ## What a content type does to a name -/

theorem counts_range {c : Char} (h : counts c = true) : 46 ≤ c.toNat ∧ c.toNat < 0x80 := by
  unfold counts at h
  simp only [Bool.or_eq_true, decide_eq_true_eq] at h
  rcases h with h | rfl
  · obtain ⟨hlow, hhigh⟩ := Text.isAlphanum_range h
    omega
  · decide

/-- White space lies below the full stop, or beyond ASCII. -/
theorem counts_of_isBlank {c : Char} (h : Text.isBlank c = true) : counts c = false := by
  cases hc : counts c with
  | false => rfl
  | true =>
    -- what counts lies between the blank characters
    obtain ⟨hlow, hhigh⟩ := counts_range hc
    unfold Text.isBlank at h
    simp only [Bool.or_eq_true, Bool.and_eq_true, decide_eq_true_eq, beq_iff_eq] at h
    omega

/-- What `dropWhile` drops stands in front of what it leaves. -/
theorem dropWhile_append {α : Type} (p : α → Bool) (cs : List α) :
    ∃ junk, cs = junk ++ cs.dropWhile p ∧ ∀ c ∈ junk, p c = true :=
  ⟨cs.takeWhile p, (List.takeWhile_append_dropWhile).symm, fun _ hc =>
    List.all_eq_true.mp List.all_takeWhile _ hc⟩

/-- `Text.stripChars` takes white space off the ends, none of which counts (`normalizeFrom_before`,
`normalizeFrom_others`). -/
theorem alike_stripChars (cs : List Char) : Alike cs (Text.stripChars cs) := by
  obtain ⟨before, hbefore, hblank⟩ := dropWhile_append Text.isBlank cs
  obtain ⟨behind, hbehind, hblank'⟩ :=
    dropWhile_append Text.isBlank (cs.dropWhile Text.isBlank).reverse
  -- what is stripped is blank on both sides, and blanks do not count in a name
  have hsplit : cs = before ++ (Text.stripChars cs ++ behind.reverse) := by
    have hrest : cs.dropWhile Text.isBlank = Text.stripChars cs ++ behind.reverse := by
      have h := congrArg List.reverse hbehind
      rwa [List.reverse_reverse, List.reverse_append] at h
    rw [← hrest]
    exact hbefore
  constructor
  · conv => rhs; rw [hsplit]
    rw [normalizeFrom_before fun c hc => counts_of_isBlank (hblank c hc),
      normalizeFrom_others fun c hc => counts_of_isBlank (hblank' c (List.mem_reverse.mp hc))]
  · intro hmem
    rw [hsplit]
    exact List.mem_append_right _ (List.mem_append_left _ hmem)

/-- `replacePair` leaves the normal form as it is, if neither character of the pair counts. By its recursion.
-/
theorem normalizeFrom_replacePair {a b : Char} (ha : counts a = false) (hb : counts b = false)
    (gap started : Bool) (cs : List Char) :
    normalizeFrom gap started (replacePair a b b cs) = normalizeFrom gap started cs := by
  fun_induction replacePair a b b cs generalizing gap started with
  | case1 c d rest hpair ih =>
    simp only [Bool.and_eq_true, decide_eq_true_eq] at hpair
    obtain ⟨rfl, rfl⟩ := hpair
    rw [normalizeFrom_other hb, normalizeFrom_other ha, normalizeFrom_other hb, ih]
  | case2 c d rest hpair ih =>
    rw [normalizeFrom, normalizeFrom]
    simp only [ih]
  | case3 => rfl

/-- `replacePair` takes characters away and adds none. By its recursion. -/
theorem mem_replacePair {a b c : Char} {cs : List Char} (h : c ∈ replacePair a b b cs) : c ∈ cs := by
  fun_induction replacePair a b b cs with
  | case1 c' d rest hpair ih =>
    simp only [Bool.and_eq_true, decide_eq_true_eq] at hpair
    rcases List.mem_cons.mp h with h | h
    · simp [h, hpair.2]
    · exact List.mem_cons_of_mem _ (List.mem_cons_of_mem _ (ih h))
  | case2 c' d rest hpair ih =>
    rcases List.mem_cons.mp h with rfl | h
    · exact List.mem_cons_self
    · exact List.mem_cons_of_mem _ (ih h)
  | case3 => exact h

/-- `Alike` without the first and the last character, if neither counts. -/
theorem alike_inner {first last : Char} (hfirst : counts first = false) (hlast : counts last = false)
    (inner : List Char) : Alike (first :: (inner ++ [last])) inner := by
  constructor
  · rw [normalizeFrom_other hfirst, normalizeFrom_others (by simpa using hlast)]
    exact normalizeFrom_start _ _ _
  · intro h
    exact List.mem_cons_of_mem _ (List.mem_append_left _ h)

/-- `Alike` for the pairs that a backslash makes within a name. -/
theorem alike_replacePair {a b : Char} (ha : counts a = false) (hb : counts b = false)
    (cs : List Char) : Alike cs (replacePair a b b cs) :=
  ⟨normalizeFrom_replacePair ha hb _ _ _, mem_replacePair⟩

/-- `unquoteValue` takes quotes or brackets off (`alike_inner`) and undoes escapes (`alike_replacePair`). -/
theorem alike_unquoteValue (cs : List Char) : Alike cs (unquoteValue cs) := by
  match cs with
  | [] => exact .refl _
  | [_] => exact .refl _
  | first :: second :: rest =>
    have hsplit : first :: second :: rest =
        first :: ((second :: rest).dropLast ++ [(second :: rest).getLast (List.cons_ne_nil _ _)]) := by
      rw [List.dropLast_concat_getLast]
    -- a pair of quotes goes, or a pair of brackets, or nothing
    unfold unquoteValue
    simp only
    split
    · next hquotes =>
      simp only [Bool.and_eq_true, decide_eq_true_eq] at hquotes
      obtain ⟨hfirst, hlast⟩ := hquotes
      rw [hsplit, hfirst, hlast]
      exact (alike_inner rfl rfl _).trans
        ((alike_replacePair rfl rfl _).trans (alike_replacePair rfl rfl _))
    · split
      · next hangles =>
        simp only [Bool.and_eq_true, decide_eq_true_eq] at hangles
        obtain ⟨hfirst, hlast⟩ := hangles
        rw [hsplit, hfirst, hlast]
        exact alike_inner rfl rfl _
      · exact .refl _

/-- A backslash is no more than one more character that does not count. Induction on the value. -/
theorem normalizeFrom_escapeValue (gap started : Bool) (cs : List Char) :
    normalizeFrom gap started (escapeValue cs) = normalizeFrom gap started cs := by
  induction cs generalizing gap started with
  | nil => rfl
  | cons c rest ih =>
    unfold escapeValue at ih ⊢
    rw [List.flatMap_cons]
    by_cases hc : (c = '\\' || c = '"') = true
    · -- neither the backslash nor what it stands before counts
      have hother : counts c = false := by
        simp only [Bool.or_eq_true, decide_eq_true_eq] at hc
        rcases hc with rfl | rfl <;> rfl
      rw [if_pos hc, List.cons_append, List.cons_append, List.nil_append, normalizeFrom_other rfl,
        normalizeFrom_other hother, normalizeFrom_other hother, ih]
    · rw [if_neg hc, List.cons_append, List.nil_append, normalizeFrom, normalizeFrom]
      simp only [ih]

/-- `quoteValue` puts quotes around a name and backslashes into it, none of which counts. -/
theorem alike_quoteValue (cs : List Char) : Alike cs (quoteValue cs) := by
  -- neither the quotes nor the backslashes of an escaped value count in a name
  have hquote : ∀ c ∈ ['"'], counts c = false := by
    intro c hc
    rw [List.mem_singleton.mp hc]
    rfl
  unfold quoteValue
  constructor
  · rw [List.cons_append, normalizeFrom_other rfl, normalizeFrom_others hquote,
      normalizeFrom_escapeValue]
    exact normalizeFrom_start _ _ _
  · intro h
    simp only [List.cons_append, List.mem_cons, List.mem_append, List.not_mem_nil, or_false] at h
    obtain h | h | h := h
    · exact absurd h (by decide)
    · unfold escapeValue at h
      obtain ⟨c, hc, hmem⟩ := List.mem_flatMap.mp h
      split at hmem
      · rcases List.mem_cons.mp hmem with h | h
        · exact absurd h (by decide)
        · exact List.mem_singleton.mp h ▸ hc
      · exact List.mem_singleton.mp hmem ▸ hc
    · exact absurd h (by decide)

/-! ## A parameter behind a type -/

/-- Whether the quotes of the last piece are closed; the flags are those of `pieces`. -/
def closed (inside escaped : Bool) : List Char → Bool
  | [] => !inside
  | c :: rest =>
    if c = ';' && !inside then closed false false rest
    else closed (if c = '"' && !escaped then !inside else inside) (c == '\\') rest

theorem pieces_ne_nil (inside escaped : Bool) (cs : List Char) : pieces inside escaped cs ≠ [] := by
  cases cs with
  | nil => exact List.cons_ne_nil _ _
  | cons c rest =>
    unfold pieces
    split
    · exact List.cons_ne_nil _ _
    · simp only
      split <;> exact List.cons_ne_nil _ _

/-- **Where the quotes are closed a semicolon begins a new piece.** -/
theorem pieces_append {inside escaped : Bool} {cs : List Char} (h : closed inside escaped cs = true)
    (rest : List Char) :
    pieces inside escaped (cs ++ ';' :: rest) = pieces inside escaped cs ++ pieces false false rest := by
  -- what stands behind is kept closed, or the induction would open it too
  generalize hbehind : pieces false false rest = behind
  induction cs generalizing inside escaped with
  | nil =>
    have hinside : inside = false := by simpa [closed] using h
    subst hinside
    show [] :: pieces false false rest = [] :: behind
    rw [hbehind]
  | cons c cs ih =>
    unfold closed at h
    rw [List.cons_append]
    unfold pieces
    split
    · next hsep =>
      rw [if_pos hsep] at h
      rw [ih h, List.cons_append]
    · next hsep =>
      rw [if_neg hsep] at h
      simp only [ih h]
      cases hcs : pieces (if c = '"' && !escaped then !inside else inside) (c == '\\') cs with
      | nil => exact absurd hcs (pieces_ne_nil _ _ _)
      | cons piece more => rfl

/-- `pieces` of what has no semicolon is one piece, whatever its quotes. Induction on the characters. -/
theorem pieces_of_not_mem {cs : List Char} (h : ';' ∉ cs) (inside escaped : Bool) :
    pieces inside escaped cs = [cs] := by
  induction cs generalizing inside escaped with
  | nil => rfl
  | cons c cs ih =>
    obtain ⟨hc, hcs⟩ := not_or.mp fun hmem => h (List.mem_cons.mpr hmem)
    unfold pieces
    rw [if_neg (by simp [Ne.symm hc])]
    simp only [ih hcs]

theorem nameAndValue_charset (value : List Char) :
    nameAndValue (" charset=".toList ++ value) = ("charset".toList, Text.stripChars value) := by
  have hletters : " charset=".toList = " charset".toList ++ ['='] := by decide
  have hname : (Text.lower (String.ofList (Text.stripChars " charset".toList))).toList =
      "charset".toList := by decide +kernel
  have hcut : Text.cut '=' (" charset".toList ++ '=' :: value) =
      (" charset".toList, some value) := Text.cut_append_sep (by decide)
  unfold nameAndValue
  rw [hletters, List.append_assoc, List.singleton_append, hcut]
  simp only [hname]

/-- `groupPieces` collects numbered parameters alone, and this one has no number. -/
theorem groupPieces_append {params : List (List Char × List Char)} {name value : List Char}
    (h : continuation? name = none) : groupPieces (params ++ [(name, value)]) = groupPieces params := by
  unfold groupPieces
  rw [List.foldlM_append]
  simp only [List.foldlM_cons, h, List.foldlM_nil, bind_pure]

/-- Behind such a type a charset is found: its quotes are closed, its parameters can be read, and neither
they nor what stands before them is called a charset. -/
structure Extensible (type : String) : Prop where
  closed : closed false false type.toList = true
  readable : ∃ params, parameters type = .ok params
  unnamed : ∀ piece ∈ pieces false false type.toList,
    Text.lower (String.ofList (nameAndValue piece).1) ≠ "charset"

variable {type charset : String}

/-- `Extensible` holds of a type without semicolons and quotes, unless it is itself called a charset. -/
theorem extensible_of_plain (h : ∀ c ∈ type.toList, c ≠ ';' ∧ c ≠ '"')
    (hname : Text.lower (String.ofList (nameAndValue type.toList).1) ≠ "charset") : Extensible type := by
  have hpiece : pieces false false type.toList = [type.toList] := pieces_last h false
  -- without a quote the scan never enters a quoted text, so it ends outside one
  have hclosed : ∀ (escaped : Bool) (cs : List Char), (∀ c ∈ cs, c ≠ ';' ∧ c ≠ '"') →
      Mime.closed false escaped cs = true := by
    intro escaped cs hcs
    induction cs generalizing escaped with
    | nil => rfl
    | cons c rest ih =>
      have hc := hcs c List.mem_cons_self
      unfold Mime.closed
      rw [if_neg (by simp [hc.1]), if_neg (by simp [hc.2])]
      exact ih _ fun d hd => hcs d (List.mem_cons_of_mem _ hd)
  refine ⟨hclosed false _ h, ?_, ?_⟩
  · unfold parameters
    rw [hpiece]
    exact ⟨_, rfl⟩
  · rw [hpiece]
    simpa using hname

/-- What becomes of the name of a charset on its way into a parameter. -/
def carried (charset : String) : List Char :=
  unquoteValue (quoteValue (unquoteValue (Text.stripChars charset.toList)))

/-- The charset comes behind all that a name of its own could hide it: only values that are spread over
several parameters follow. -/
theorem parameters_charset (htype : Extensible type) (hcharset : ';' ∉ charset.toList) :
    ∃ before behind, parameters (type ++ "; charset=" ++ charset) =
        .ok (before ++ ("charset".toList, .plain (carried charset)) :: behind) ∧
      ∀ p ∈ before, Text.lower (String.ofList p.1) ≠ "charset" := by
  have hword : continuation? "charset".toList = none := by decide +kernel
  -- one more piece than the type has by itself
  have hpieces : pieces false false (type ++ "; charset=" ++ charset).toList =
      pieces false false type.toList ++ [" charset=".toList ++ charset.toList] := by
    have hletters : "; charset=".toList = ';' :: " charset=".toList := by decide
    have hspace : ';' ∉ " charset=".toList ++ charset.toList := by
      rw [List.mem_append, not_or]
      exact ⟨by decide, hcharset⟩
    rw [String.toList_append, String.toList_append, hletters, List.append_assoc, List.cons_append,
      pieces_append htype.closed, pieces_of_not_mem hspace]
  obtain ⟨params, hparams⟩ := htype.readable
  have hunnamed := htype.unnamed
  unfold parameters at hparams ⊢
  rw [hpieces, List.map_append, List.map_singleton, nameAndValue_charset]
  cases hfirst : pieces false false type.toList with
  | nil => exact absurd hfirst (pieces_ne_nil _ _ _)
  | cons piece more =>
    rw [hfirst] at hparams hunnamed
    simp only [List.map_cons, List.cons_append] at hparams ⊢
    rw [groupPieces_append hword, List.filter_append, List.map_append]
    -- what is spread can be put together, for it can where there is no charset
    cases hgroups : groupPieces (more.map nameAndValue) with
    | error fault =>
      rw [hgroups] at hparams
      cases hparams
    | ok groups =>
      rw [hgroups] at hparams
      simp only [bind, Except.bind] at hparams ⊢
      split at hparams
      · cases hparams
      · next spread hspread =>
        refine ⟨((nameAndValue piece).1, .plain (unquoteValue (nameAndValue piece).2)) ::
          ((more.map nameAndValue).filter fun p => (continuation? p.1).isNone).map (fun p =>
            (p.1, .plain (unquoteValue (quoteValue (unquoteValue p.2))))), spread, ?_, fun p hp => ?_⟩
        · simp only [List.filter_cons, hword, Option.isNone_none, if_true, List.filter_nil,
            List.map_cons, List.map_nil, List.cons_append, List.append_assoc, List.nil_append]
          rfl
        · rcases List.mem_cons.mp hp with rfl | hp
          · exact hunnamed piece List.mem_cons_self
          · obtain ⟨q, hq, rfl⟩ := List.mem_map.mp hp
            obtain ⟨other, hother, rfl⟩ := List.mem_map.mp (List.mem_filter.mp hq).1
            exact hunnamed other (List.mem_cons_of_mem _ hother)

/-- **The charset is found behind the type.** -/
theorem parameter?_charset (htype : Extensible type) (hcharset : ';' ∉ charset.toList) :
    parameter? (type ++ "; charset=" ++ charset) "charset" = .ok (some (.plain (carried charset))) := by
  have hname : Text.lower (String.ofList "charset".toList) = "charset" := by decide +kernel
  obtain ⟨before, behind, hparams, hbefore⟩ := parameters_charset htype hcharset
  have hfind : (before ++ ("charset".toList, ParameterValue.plain (carried charset)) :: behind).find?
      (fun p => Text.lower (String.ofList p.1) = "charset") =
        some ("charset".toList, .plain (carried charset)) := by
    rw [List.find?_append, List.find?_eq_none.mpr (by simpa using hbefore), Option.none_or,
      List.find?_cons_of_pos (by simpa using hname)]
  unfold parameter?
  rw [hparams]
  show Except.ok (Option.map _ (List.find? _ _)) = _
  rw [hfind]
  rfl

/-- The name of the charset as a receiver reads it. -/
def received (charset : String) : String :=
  String.ofList (Text.stripChars (unquoteValue (carried charset)))

/-- The steps that a name goes through, joined by `Alike.trans`. -/
theorem alike_received (charset : String) : Alike charset.toList (received charset).toList := by
  unfold received carried
  rw [String.toList_ofList]
  exact (alike_stripChars _).trans ((alike_unquoteValue _).trans ((alike_quoteValue _).trans
    ((alike_unquoteValue _).trans ((alike_unquoteValue _).trans (alike_stripChars _)))))

/-- **A receiver reads a name of the same codec.** -/
theorem charsetSent_declared [Platform] {codec : Codec} (htype : Extensible type)
    (hcharset : ';' ∉ charset.toList) (hknown : Codec.lookup charset = .ok codec) :
    charsetSent (type ++ "; charset=" ++ charset) = .ok (some (received charset)) ∧
      Codec.lookup (received charset) = .ok codec := by
  have hlookup := (alike_received charset).lookup hknown
  -- an empty value would be no charset, but no empty name is known
  have hne : Text.stripChars (unquoteValue (carried charset)) ≠ [] := by
    have h := Codec.ne_nil_of_lookup hlookup
    unfold received at h
    rwa [String.toList_ofList] at h
  refine ⟨?_, hlookup⟩
  unfold charsetSent
  rw [parameter?_charset htype hcharset]
  simp only [ParameterValue.decode]
  rw [if_neg (by simpa using hne)]
  rfl

end Mime

end Courier
