import ProtoUpkeep.Proofs.Status.Generated

/-!
# Names that share an identifier

The names of a proto enum are in upper case, in segments that are joined by underscores
(`IsUpperName`). An identifier has no underscores: it marks where a segment starts by an upper-case
letter. That loses two things. A segment that starts with a digit is not marked at all, and `ID`, the
one acronym whose spelling is not the capitalized one, is marked like the two segments `I` and `D`.
Nothing else is lost: the identifier can be read back (`readBack`), and what comes out is the name with
`ID` in two segments and no underscore in front of a digit (`shownName`, `readBack_swiftName`). So two
names share an identifier exactly if they are shown alike, and names in which neither of the two occurs
never do (`identifier_eq_iff`).
-/

namespace ProtoUpkeep

open Text

variable {c d : Char} {t u v name name' segment : Text} {segments segments' : List Text}
  {code code' : StatusCode}

/-! ## Names in upper case -/

/-- A letter in upper case or a digit, of ASCII. -/
def IsUpperOrDigit (c : Char) : Prop := c.isUpper = true ∨ c.isDigit = true

instance : DecidablePred IsUpperOrDigit := fun c =>
  inferInstanceAs (Decidable (c.isUpper = true ∨ c.isDigit = true))

/-- A name that starts with a letter and consists of segments of upper-case letters and digits, joined
by underscores. -/
@[mk_iff]
structure IsUpperName (name : Text) : Prop where
  /-- The first character is a letter. -/
  head : name.head?.any Char.isUpper = true
  /-- No segment is empty. -/
  ne_nil : ∀ segment ∈ name.pieces '_', segment ≠ []
  /-- The segments consist of upper-case letters and digits. -/
  isUpperOrDigit : ∀ segment ∈ name.pieces '_', ∀ c ∈ segment, IsUpperOrDigit c

-- The characters of a segment are gone through as a list; there are too many characters to try each.
instance : DecidablePred IsUpperName := fun name =>
  decidable_of_iff (name.head?.any Char.isUpper = true ∧ (∀ segment ∈ name.pieces '_', segment ≠ []) ∧
      (name.pieces '_').all (·.all fun c => decide (IsUpperOrDigit c)) = true) <| by
    simp only [isUpperName_iff, List.all_eq_true, decide_eq_true_eq]

/-- What an identifier shows of a segment that is not the first. -/
def shownSegment (segment : Text) : Text :=
  if segment = "ID" then "_I_D"
  else if segment.head?.any Char.isDigit then segment
  else '_' :: segment

/-- The name with `ID` behind the first segment spelt in two segments, and without the underscores in
front of digits. -/
def shownName (name : Text) : Text :=
  match name.pieces '_' with
  | [] => []
  | first :: others => first ++ others.flatMap shownSegment

/-- An identifier read back: an upper-case letter starts a segment. -/
def readBack (identifier : Text) : Text :=
  identifier.flatMap fun c => if c.isUpper then ['_', c] else [c.toUpper]

/-! ## Letter case of ASCII -/

/-- A letter or a digit is a character of ASCII. -/
theorem lt_of_isAlphanum (h : c.isAlphanum = true) : c.toNat < 128 := by
  rcases Bool.or_eq_true_iff.1 h with h | h
  · rcases Bool.or_eq_true_iff.1 h with h | h
    · exact Nat.lt_of_le_of_lt (m := 90) (of_decide_eq_true h).2 (by decide)
    · exact Nat.lt_of_le_of_lt (m := 122) (of_decide_eq_true (Bool.and_eq_true_iff.1 h).2) (by decide)
  · simp only [Char.isDigit, Bool.and_eq_true, decide_eq_true_eq] at h
    exact Nat.lt_of_le_of_lt (m := 57) h.2 (by decide)

/-- An upper-case letter or a digit is a letter or a digit. -/
theorem IsUpperOrDigit.isAlphanum (h : IsUpperOrDigit c) : c.isAlphanum = true := by
  rcases h with h | h
  · exact Bool.or_eq_true_iff.2 (.inl (Bool.or_eq_true_iff.2 (.inl h)))
  · exact Bool.or_eq_true_iff.2 (.inr h)

/-- An upper-case letter or a digit is a character of ASCII. -/
theorem IsUpperOrDigit.lt (h : IsUpperOrDigit c) : c.toNat < 128 := lt_of_isAlphanum h.isAlphanum

/-- What a check of all characters of ASCII shows of the upper-case letters and the digits. -/
theorem IsUpperOrDigit.of_forall {p : Char → Prop}
    (h : ∀ n < 128, IsUpperOrDigit (Char.ofNat n) → p (Char.ofNat n)) (hc : IsUpperOrDigit c) : p c :=
  ascii_forall (p := fun c => IsUpperOrDigit c → p c) h hc.lt hc

/-- Upper case leaves an upper-case letter and a digit. -/
theorem IsUpperOrDigit.toUpper (h : IsUpperOrDigit c) : c.toUpper = c :=
  h.of_forall (p := fun c => c.toUpper = c) (by decide)

/-- Text of ASCII in lower case. -/
theorem Text.lower_eq_map (h : ∀ c ∈ t, c.toNat < 128) : t.lower = t.map Char.toLower := by
  unfold Text.lower
  generalize ([] : Text) = behind
  induction t generalizing behind with
  | nil => rfl
  | cons c t ih =>
    obtain ⟨image, himage, ⟨-, rfl⟩ | ⟨hc, -⟩⟩ := exists_lower_cons behind c t
    · rw [himage, ih fun d hd => h d (by simp [hd])]
      rfl
    · exact absurd (h c (by simp)) hc

/-- The characters of a text of ASCII in lower case. -/
theorem Text.flatMap_lowerChar (h : ∀ c ∈ t, c.toNat < 128) :
    t.flatMap lowerChar = t.map Char.toLower := by
  have hone : ∀ c ∈ t, lowerChar c = [c.toLower] := fun c hc => if_pos (h c hc)
  rw [List.flatMap_congr hone, List.map_eq_flatMap]

/-- A segment capitalized. -/
theorem capitalize_cons (h : ∀ d ∈ c :: t, IsUpperOrDigit d) :
    Text.capitalize (c :: t) = c :: t.map Char.toLower := by
  have hc := h c (by simp)
  rw [Text.capitalize, upperChar, if_pos hc.lt, hc.toUpper,
    Text.flatMap_lowerChar fun d hd => (h d (by simp [hd])).lt]
  rfl

/-- Of the default acronyms `ID` alone is not spelt as it is capitalized. -/
theorem swiftSegment_defaultAcronyms (segment : Text) :
    swiftSegment StatusSettings.defaultAcronyms segment =
      if segment = "ID" then "ID".toList else segment.capitalize := by
  have hentries : ∀ e ∈ StatusSettings.defaultAcronyms.entries,
      e.2 = if e.1 = "ID" then "ID".toList else e.1.capitalize := by decide
  unfold swiftSegment
  cases hget : StatusSettings.defaultAcronyms.get? segment with
  | some value => exact hentries _ (mem_of_lookup hget)
  | none =>
    have hne : segment ≠ "ID" := by
      rintro rfl
      revert hget
      decide
    rw [if_neg hne, Option.getD_none]

/-! ## Reading an identifier back -/

/-- Reading back goes along the identifier. -/
theorem readBack_append (u v : Text) : readBack (u ++ v) = readBack u ++ readBack v :=
  List.flatMap_append

/-- What is put in lower case is read back. -/
theorem readBack_map_toLower (h : ∀ c ∈ t, IsUpperOrDigit c) : readBack (t.map Char.toLower) = t := by
  induction t with
  | nil => rfl
  | cons c t ih =>
    have hc : c.toLower.isUpper = false ∧ c.toLower.toUpper = c :=
      (h c (by simp)).of_forall (p := fun c => c.toLower.isUpper = false ∧ c.toLower.toUpper = c)
        (by decide)
    have ht := ih fun d hd => h d (by simp [hd])
    rw [List.map_cons, readBack, List.flatMap_cons, hc.1, ← readBack, ht]
    simp [hc.2]

/-- What is read back from a segment is what is shown of it. -/
theorem readBack_swiftSegment (hne : segment ≠ []) (h : ∀ c ∈ segment, IsUpperOrDigit c) :
    readBack (swiftSegment StatusSettings.defaultAcronyms segment) = shownSegment segment := by
  rw [swiftSegment_defaultAcronyms, shownSegment]
  by_cases hid : segment = "ID"
  · rw [if_pos hid, if_pos hid]
    decide
  rw [if_neg hid, if_neg hid]
  obtain ⟨c, t, rfl⟩ := List.exists_cons_of_ne_nil hne
  have hc := h c (by simp)
  have ht := readBack_map_toLower fun d (hd : d ∈ t) => h d (by simp [hd])
  rw [capitalize_cons h, readBack, List.flatMap_cons, ← readBack, ht, hc.toUpper, List.head?_cons,
    Option.any_some]
  -- A digit is no letter, so exactly one of the two marks the start of the segment.
  have hcase : c.isUpper = !c.isDigit :=
    hc.of_forall (p := fun c => c.isUpper = !c.isDigit) (by decide)
  rw [hcase]
  cases c.isDigit <;> rfl

/-- What is read back from the identifier of a name is what is shown of the name. -/
theorem readBack_swiftName (h : IsUpperName name) :
    readBack (swiftName StatusSettings.defaultAcronyms name) = shownName name := by
  obtain ⟨first, others, hpieces⟩ := List.exists_cons_of_ne_nil (List.splitOn_ne_nil '_' name)
  have hne := h.ne_nil
  have hall := h.isUpperOrDigit
  unfold swiftName shownName
  rw [show name.pieces '_' = first :: others from hpieces] at hne hall ⊢
  simp only
  have hfirst := hall first (by simp)
  rw [readBack_append, Text.lower_eq_map fun c hc => (hfirst c hc).lt, readBack_map_toLower hfirst,
    readBack, List.flatMap_assoc]
  exact congrArg (first ++ ·) (List.flatMap_congr fun segment hsegment =>
    readBack_swiftSegment (hne segment (by simp [hsegment])) (hall segment (by simp [hsegment])))

/-! ## Nothing else is lost -/

/-- The identifier of a name consists of letters and digits. -/
theorem isAlphanum_of_mem_swiftName (h : IsUpperName name) :
    ∀ d ∈ swiftName StatusSettings.defaultAcronyms name, d.isAlphanum = true := by
  have hlower : ∀ {t : Text}, (∀ c ∈ t, IsUpperOrDigit c) →
      ∀ d ∈ t.map Char.toLower, d.isAlphanum = true := by
    intro t ht d hd
    obtain ⟨c, hc, rfl⟩ := List.mem_map.1 hd
    exact (ht c hc).of_forall (p := fun c => c.toLower.isAlphanum = true) (by decide)
  obtain ⟨first, others, hpieces⟩ := List.exists_cons_of_ne_nil (List.splitOn_ne_nil '_' name)
  have hne := h.ne_nil
  have hall := h.isUpperOrDigit
  unfold swiftName
  rw [show name.pieces '_' = first :: others from hpieces] at hne hall ⊢
  intro d hd
  rcases List.mem_append.1 hd with hd | hd
  · have hfirst := hall first (by simp)
    rw [Text.lower_eq_map fun c hc => (hfirst c hc).lt] at hd
    exact hlower hfirst d hd
  · obtain ⟨segment, hsegment, hd⟩ := List.mem_flatMap.1 hd
    have hsegs := hall segment (by simp [hsegment])
    rw [swiftSegment_defaultAcronyms] at hd
    split at hd
    · exact List.all_eq_true.1 (by decide : "ID".toList.all Char.isAlphanum = true) d hd
    · obtain ⟨c, t, rfl⟩ := List.exists_cons_of_ne_nil (hne segment (by simp [hsegment]))
      rw [capitalize_cons hsegs] at hd
      rcases List.mem_cons.1 hd with rfl | hd
      · exact (hsegs d (by simp)).isAlphanum
      · exact hlower (fun e he => hsegs e (by simp [he])) d hd

/-- The first letter or digit is settled by what is read back. -/
theorem eq_of_readBack_cons (hc : c.isAlphanum = true) (hd : d.isAlphanum = true)
    (h : readBack (c :: u) = readBack (d :: v)) : c = d ∧ readBack u = readBack v := by
  have hone : ∀ {c : Char}, c.isAlphanum = true → c.isUpper = false →
      c.toUpper ≠ '_' ∧ c.toUpper.toLower = c := fun hc =>
    ascii_forall (p := fun c => c.isAlphanum = true → c.isUpper = false →
      c.toUpper ≠ '_' ∧ c.toUpper.toLower = c) (by decide) (lt_of_isAlphanum hc) hc
  unfold readBack at h ⊢
  rw [List.flatMap_cons, List.flatMap_cons] at h
  cases hcu : c.isUpper <;> cases hdu : d.isUpper <;> rw [hcu, hdu] at h
  · obtain ⟨heq, hrest⟩ := List.cons.inj h
    exact ⟨by rw [← (hone hc hcu).2, heq, (hone hd hdu).2], hrest⟩
  · exact absurd (List.cons.inj h).1 (hone hc hcu).1
  · exact absurd (List.cons.inj h).1.symm (hone hd hdu).1
  · obtain ⟨-, hrest⟩ := List.cons.inj h
    exact List.cons.inj hrest

/-- Letters and digits are settled by what is read back. -/
theorem eq_of_readBack (hu : ∀ c ∈ u, c.isAlphanum = true) (hv : ∀ c ∈ v, c.isAlphanum = true)
    (h : readBack u = readBack v) : u = v := by
  have hne : ∀ (c : Char) (t : Text), readBack (c :: t) ≠ [] := by
    intro c t
    rw [readBack, List.flatMap_cons]
    split <;> simp
  induction u generalizing v with
  | nil =>
    cases v with
    | nil => rfl
    | cons d v => exact absurd h.symm (hne d v)
  | cons c u ih =>
    cases v with
    | nil => exact absurd h (hne c u)
    | cons d v =>
      obtain ⟨rfl, hrest⟩ := eq_of_readBack_cons (hu c (by simp)) (hv d (by simp)) h
      rw [ih (fun e he => hu e (by simp [he])) (fun e he => hv e (by simp [he])) hrest]

/-- Two names have one identifier exactly if they are shown alike. -/
theorem swiftName_eq_iff (h : IsUpperName name) (h' : IsUpperName name') :
    swiftName StatusSettings.defaultAcronyms name = swiftName StatusSettings.defaultAcronyms name' ↔
      shownName name = shownName name' := by
  rw [← readBack_swiftName h, ← readBack_swiftName h']
  exact ⟨congrArg readBack,
    eq_of_readBack (isAlphanum_of_mem_swiftName h) (isAlphanum_of_mem_swiftName h')⟩

/-! ## Names that are shown as they are -/

/-- No segment but the first starts with a digit, and none of them is `I` in front of `D`. -/
def Unambiguous (name : Text) : Prop :=
  (∀ segment ∈ (name.pieces '_').tail, segment.head?.any Char.isDigit = false) ∧
    ¬ ["I".toList, "D".toList] <:+: (name.pieces '_').tail

instance : DecidablePred Unambiguous := fun name =>
  inferInstanceAs (Decidable (
    (∀ segment ∈ (name.pieces '_').tail, segment.head?.any Char.isDigit = false) ∧
      ¬ ["I".toList, "D".toList] <:+: (name.pieces '_').tail))

/-- The segments that are shown for one that is not the first. -/
def shownPieces (segment : Text) : List Text :=
  if segment = "ID" then ["I".toList, "D".toList] else [segment]

/-- Segments of which none is `I` in front of `D` are not shown with these two at their start, unless
the first of them is `ID`. -/
theorem flatMap_shownPieces_ne {rest : List Text} (hne : segment ≠ "ID")
    (h : ¬ ["I".toList, "D".toList] <:+: segment :: segments) :
    (segment :: segments).flatMap shownPieces ≠ "I".toList :: "D".toList :: rest := by
  intro heq
  rw [List.flatMap_cons, shownPieces, if_neg hne, List.singleton_append] at heq
  obtain ⟨rfl, hrest⟩ := List.cons.inj heq
  cases segments with
  | nil => cases hrest
  | cons next segments =>
    rw [List.flatMap_cons, shownPieces] at hrest
    split at hrest
    · exact absurd (List.cons.inj hrest).1 (by decide)
    · obtain ⟨rfl, -⟩ := List.cons.inj hrest
      exact h (List.infix_append [] _ segments)

/-- Segments of which none is `I` in front of `D` are settled by what is shown of them. -/
theorem eq_of_flatMap_shownPieces (h : ¬ ["I".toList, "D".toList] <:+: segments)
    (h' : ¬ ["I".toList, "D".toList] <:+: segments')
    (heq : segments.flatMap shownPieces = segments'.flatMap shownPieces) : segments = segments' := by
  have hnil : ∀ (s : Text) (ss : List Text), (s :: ss).flatMap shownPieces ≠ [] := by
    intro s ss
    rw [List.flatMap_cons, shownPieces]
    split <;> simp
  induction segments generalizing segments' with
  | nil =>
    cases segments' with
    | nil => rfl
    | cons s' ss' => exact absurd heq.symm (hnil s' ss')
  | cons s ss ih =>
    cases segments' with
    | nil => exact absurd heq (hnil s ss)
    | cons s' ss' =>
      have htail : ∀ {s : Text} {ss : List Text}, ¬ ["I".toList, "D".toList] <:+: s :: ss →
          ¬ ["I".toList, "D".toList] <:+: ss := fun h hin =>
        h (hin.trans (List.suffix_cons _ _).isInfix)
      have hid : ∀ ss : List Text, ("ID".toList :: ss).flatMap shownPieces =
          "I".toList :: "D".toList :: ss.flatMap shownPieces := fun _ => rfl
      by_cases hs : s = "ID" <;> by_cases hs' : s' = "ID"
      · rw [hs, hs', hid, hid] at heq
        rw [hs, hs', ih (htail h) (htail h') (List.cons.inj (List.cons.inj heq).2).2]
      · rw [hs, hid] at heq
        exact absurd heq.symm (flatMap_shownPieces_ne hs' h')
      · rw [hs', hid] at heq
        exact absurd heq (flatMap_shownPieces_ne hs h)
      · rw [List.flatMap_cons, List.flatMap_cons, shownPieces, shownPieces, if_neg hs,
          if_neg hs'] at heq
        obtain ⟨rfl, hrest⟩ := List.cons.inj heq
        rw [ih (htail h) (htail h') hrest]

/-- What is shown of segments that do not start with digits, in front of each of which an underscore
is put. -/
theorem flatMap_shownSegment (h : ∀ segment ∈ segments, segment.head?.any Char.isDigit = false) :
    segments.flatMap shownSegment = (segments.flatMap shownPieces).flatMap ('_' :: ·) := by
  rw [List.flatMap_assoc]
  refine List.flatMap_congr fun segment hsegment => ?_
  rw [shownSegment, shownPieces]
  split
  · rfl
  · rw [h segment hsegment]
    simp

/-- The segments that are joined are those between the underscores. -/
theorem pieces_append_flatMap {first : Text} (hfirst : '_' ∉ first)
    (h : ∀ segment ∈ segments, '_' ∉ segment) :
    (first ++ segments.flatMap ('_' :: ·)).pieces '_' = first :: segments := by
  induction segments generalizing first with
  | nil =>
    rw [List.flatMap_nil, List.append_nil]
    exact pieces_of_not_mem hfirst
  | cons segment segments ih =>
    rw [List.flatMap_cons, List.cons_append, pieces_append_cons,
      ih (h segment (by simp)) fun s hs => h s (by simp [hs]), pieces_of_not_mem hfirst]
    rfl

/-- Unambiguous names that are shown alike are equal. -/
theorem eq_of_shownName (h : Unambiguous name) (h' : Unambiguous name')
    (heq : shownName name = shownName name') : name = name' := by
  -- What is shown of a name has the first segment and the shown ones between its underscores.
  have hshown : ∀ {name : Text}, Unambiguous name → ∃ first others, name.pieces '_' = first :: others ∧
      (shownName name).pieces '_' = first :: others.flatMap shownPieces := by
    intro name h
    obtain ⟨first, others, hpieces⟩ := List.exists_cons_of_ne_nil (List.splitOn_ne_nil '_' name)
    rw [← pieces] at hpieces
    refine ⟨first, others, hpieces, ?_⟩
    have hdigit := h.1
    rw [hpieces, List.tail_cons] at hdigit
    rw [shownName, hpieces]
    simp only
    rw [flatMap_shownSegment hdigit]
    refine pieces_append_flatMap (not_mem_of_mem_pieces (by rw [hpieces]; simp)) fun piece hpiece => ?_
    obtain ⟨segment, hsegment, hpiece⟩ := List.mem_flatMap.1 hpiece
    rw [shownPieces] at hpiece
    split at hpiece
    · rcases List.mem_cons.1 hpiece with rfl | hpiece
      · decide
      · rw [List.mem_singleton.1 hpiece]
        decide
    · rw [List.mem_singleton.1 hpiece]
      exact not_mem_of_mem_pieces (by rw [hpieces]; simp [hsegment])
  obtain ⟨first, others, hpieces, hread⟩ := hshown h
  obtain ⟨first', others', hpieces', hread'⟩ := hshown h'
  rw [heq, hread'] at hread
  obtain ⟨rfl, hothers⟩ := List.cons.inj hread
  have hpair := h.2
  have hpair' := h'.2
  rw [hpieces, List.tail_cons] at hpair
  rw [hpieces', List.tail_cons] at hpair'
  obtain rfl := eq_of_flatMap_shownPieces hpair' hpair hothers
  rw [← joinWith_pieces '_' name, hpieces, ← hpieces', joinWith_pieces]

/-! ## Generated entries -/

/-- The identifier that a declaration declares: on its last line, behind the word `case` and up to the
next blank. -/
def declaredIdentifier (declaration : Text) : Text :=
  ((dropHead? "    case " ((lines declaration).getLast?.getD [])).getD []).takeWhile (· != ' ')

/-- The identifier that a case of the switch to a raw value matches: behind the dot and up to the
colon. -/
def matchedIdentifier (entry : Text) : Text :=
  ((dropHead? "        case ." entry).getD []).takeWhile (· != ':')

/-- The last line of a declaration is the one of the case. -/
theorem getLast?_lines_caseDeclaration {s : Style} (hname : '\n' ∉ s.name code) :
    (lines (s.caseDeclaration code)).getLast? = some (s.caseLine code) := by
  have hline := newline_not_mem_caseLine hname
  rw [caseDeclaration_eq, Style.docLine]
  split
  · next doc _ =>
    have hshape : "    /// ".toList ++ (doc ++ ['\n']) ++ s.caseLine code =
        ("    /// ".toList ++ doc) ++ '\n' :: s.caseLine code := by
      simp only [List.append_assoc, List.singleton_append]
    rw [hshape, lines_append_cons, lines_eq_of_not_mem hline, List.getLast?_concat]
  · rw [List.nil_append, lines_eq_of_not_mem hline, List.getLast?_singleton]

/-- A declaration declares the identifier of its code, if that is free of blanks. -/
theorem declaredIdentifier_caseDeclaration {s : Style} (hblank : ' ' ∉ s.name code)
    (hnewline : '\n' ∉ s.name code) : declaredIdentifier (s.caseDeclaration code) = s.name code := by
  have hbehind : "  // = ".toList = ' ' :: " // = ".toList := rfl
  rw [declaredIdentifier, getLast?_lines_caseDeclaration hnewline, Option.getD_some]
  unfold Style.caseLine
  rw [dropHead?_append, Option.getD_some, hbehind, List.cons_append, takeWhile_append_cons hblank]

/-- A case of the switch to a raw value matches the identifier of its code, if that is free of
colons. -/
theorem matchedIdentifier_rawValueCase {s : Style} (hcolon : ':' ∉ s.name code) :
    matchedIdentifier (s.rawValueCase code) = s.name code := by
  have hbehind : ": return ".toList = ':' :: " return ".toList := rfl
  unfold matchedIdentifier Style.rawValueCase
  rw [List.append_assoc, List.append_assoc, dropHead?_append, Option.getD_some, hbehind,
    List.cons_append, takeWhile_append_cons hcolon]

/-- Two codes have one identifier, in their declarations and in the switch to raw values, exactly if
their names are shown alike; unambiguous names that differ have identifiers that differ. -/
theorem identifier_eq_iff {s : Style} (hs : s.acronyms = StatusSettings.defaultAcronyms)
    (h : IsUpperName code.name) (h' : IsUpperName code'.name) :
    (swiftName s.acronyms code.name = swiftName s.acronyms code'.name ↔
        shownName code.name = shownName code'.name) ∧
      (declaredIdentifier (s.caseDeclaration code) = declaredIdentifier (s.caseDeclaration code') ↔
        shownName code.name = shownName code'.name) ∧
      (matchedIdentifier (s.rawValueCase code) = matchedIdentifier (s.rawValueCase code') ↔
        shownName code.name = shownName code'.name) ∧
      (Unambiguous code.name → Unambiguous code'.name →
        swiftName s.acronyms code.name = swiftName s.acronyms code'.name → code.name = code'.name) := by
  have hname : s.name code = s.name code' ↔ shownName code.name = shownName code'.name := by
    rw [Style.name, Style.name, hs]
    exact swiftName_eq_iff h h'
  have hfree : ∀ {code : StatusCode}, IsUpperName code.name → ∀ {c : Char}, c.isAlphanum = false →
      c ∉ s.name code := by
    intro code h c hc hmem
    rw [Style.name, hs] at hmem
    rw [isAlphanum_of_mem_swiftName h c hmem] at hc
    cases hc
  refine ⟨hname, ?_, ?_, fun hu hu' heq => eq_of_shownName hu hu' (hname.1 heq)⟩
  · rw [declaredIdentifier_caseDeclaration (hfree h (by decide)) (hfree h (by decide)),
      declaredIdentifier_caseDeclaration (hfree h' (by decide)) (hfree h' (by decide)), hname]
  · rw [matchedIdentifier_rawValueCase (hfree h (by decide)),
      matchedIdentifier_rawValueCase (hfree h' (by decide)), hname]

/-- An acronym behind a digit: of the four names the first two share an identifier, and the third and
the fourth, which are unambiguous, do not. -/
theorem identifier_eq_iff_token2 :
    let s := Style.default
    let code : Text → StatusCode := fun name => ⟨name, 22, [], false⟩
    (IsUpperName "TOKEN_2_ID" ∧ IsUpperName "TOKEN2_I_D" ∧
      declaredIdentifier (s.caseDeclaration (code "TOKEN_2_ID")) =
        declaredIdentifier (s.caseDeclaration (code "TOKEN2_I_D"))) ∧
    (IsUpperName "TOKEN2_ID" ∧ IsUpperName "TOKEN2_IDS" ∧
      matchedIdentifier (s.rawValueCase (code "TOKEN2_ID")) ≠
        matchedIdentifier (s.rawValueCase (code "TOKEN2_IDS"))) := by
  intro s code
  have h₁ : IsUpperName (code "TOKEN_2_ID").name := by decide
  have h₂ : IsUpperName (code "TOKEN2_I_D").name := by decide
  have h₃ : IsUpperName (code "TOKEN2_ID").name := by decide
  have h₄ : IsUpperName (code "TOKEN2_IDS").name := by decide
  have hshared := identifier_eq_iff (s := s) rfl h₁ h₂
  have hapart := identifier_eq_iff (s := s) rfl h₃ h₄
  refine ⟨⟨h₁, h₂, hshared.2.1.2 (by decide)⟩, h₃, h₄, fun heq => ?_⟩
  have hnames := hapart.2.2.2 (by decide) (by decide) (hapart.1.2 (hapart.2.2.1.1 heq))
  exact absurd hnames (by decide)

/-- Names that differ by an underscore in front of a digit, or by one inside `ID`, have one identifier,
which two codes declare and match. -/
theorem identifier_shared :
    let s := Style.default
    ∀ names ∈ [("A_1".toList, "A1".toList), ("X_ID".toList, "X_I_D".toList)],
      let code : StatusCode := ⟨names.1, 22, [], false⟩
      let code' : StatusCode := ⟨names.2, 23, [], false⟩
      IsUpperName code.name ∧ IsUpperName code'.name ∧ code.name ≠ code'.name ∧
        swiftName StatusSettings.defaultAcronyms code.name =
          swiftName StatusSettings.defaultAcronyms code'.name ∧
        declaredIdentifier (s.caseDeclaration code) = declaredIdentifier (s.caseDeclaration code') ∧
        matchedIdentifier (s.rawValueCase code) = matchedIdentifier (s.rawValueCase code') := by
  decide +kernel

end ProtoUpkeep
