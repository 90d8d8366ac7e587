import ProtoUpkeep.Proofs.Status.Codes
import ProtoUpkeep.Proofs.Status.Landmarks
import ProtoUpkeep.Proofs.Status.Names

/-!
# What generated text maps

The fragments that `Style.fragments` generates are read again by the next run, so it matters which
raw values the scan for mappings finds in them. The cases of the switch from a raw value map the
numbers of their codes (`mem_ofSwift_initCases`); a declaration maps what its comment happens to map
(`mem_ofSwift_caseDeclarations`), because comments are free text; the other fragments map nothing by
themselves. Each fragment but the list entries separates the text before it from what it maps. A
list entry starts with a dot, so it may complete a mapping that the text before it has begun.
-/

namespace ProtoUpkeep

open Text RawValues

/-- The style of the default settings. -/
def Style.default : Style := StatusSettings.default.style

variable {code : StatusCode} {codes : List StatusCode} {n : Int} {p : Char → Prop} {d : Char}

/-! ## The parts of an entry -/

/-- The code has a number that is read back: a natural number that fits. -/
def StatusCode.Numbered (c : StatusCode) : Prop := ∃ n ≤ maxCode, c.number = (n : Int)

/-- The number of a code is written with decimal digits. -/
theorem StatusCode.Numbered.ofInt_number (h : code.Numbered) :
    ∃ k ≤ maxCode, code.number = (k : Int) ∧ Text.ofInt code.number = Text.ofNat k := by
  obtain ⟨k, hk, hnumber⟩ := h
  refine ⟨k, hk, hnumber, ?_⟩
  rw [hnumber, Text.ofInt, if_neg (by omega), Int.natAbs_natCast]

/-- The written number of a code has digits only. -/
theorem StatusCode.Numbered.isDigit_of_mem (h : code.Numbered)
    (hd : d ∈ Text.ofInt code.number) : isDigit d = true := by
  obtain ⟨k, -, -, hofInt⟩ := h.ofInt_number
  rw [hofInt] at hd
  exact isDigit_of_mem_ofNat hd

/-- The written number of a code has a digit. -/
theorem StatusCode.Numbered.ofInt_ne_nil (h : code.Numbered) : Text.ofInt code.number ≠ [] := by
  obtain ⟨k, -, -, hofInt⟩ := h.ofInt_number
  rw [hofInt]
  exact ofNat_ne_nil k

/-- The written number of a code is read back. -/
theorem StatusCode.Numbered.readCode?_ofInt (h : code.Numbered) :
    readCode? (Text.ofInt code.number) = some code.number := by
  obtain ⟨k, hk, hnumber, hofInt⟩ := h.ofInt_number
  rw [hofInt, readCode?_ofNat hk, hnumber]

/-- The number of a code that was read is read back. -/
theorem StatusCode.WellRead.numbered (h : code.WellRead) : code.Numbered := h.number

/-- Marks are not in the identifier of a code that was read. -/
theorem StatusCode.WellRead.not_mem_identifier (h : code.WellRead) (hd : ¬ IsNameChar d) :
    d ∉ Style.default.name code := fun hmem => hd (isNameChar_of_mem_name h.isWord d hmem)

/-- Marks are not in the name of a code that was read. -/
theorem StatusCode.WellRead.not_mem_name (h : code.WellRead) (hd : ¬ IsNameChar d) :
    d ∉ code.name := fun hmem => hd (isNameChar_of_isWord (h.isWord d hmem))

/-- Marks are not in the number of a code. -/
theorem StatusCode.Numbered.not_mem_number (h : code.Numbered) (hd : ¬ IsNameChar d) :
    d ∉ Text.ofInt code.number := fun hmem =>
  hd (isNameChar_of_isWord (isWord_of_isDigit (h.isDigit_of_mem hmem)))

/-! ## Characters of entries -/

/-- The case to a raw value has no equals sign. -/
theorem equals_not_mem_rawValueCase (h : code.WellRead) :
    '=' ∉ Style.default.rawValueCase code := by
  have hd : ¬ IsNameChar '=' := by decide
  unfold Style.rawValueCase
  simp [h.not_mem_identifier hd, h.numbered.not_mem_number hd]

/-- The list entry has no colon. -/
theorem colon_not_mem_allCasesEntry (h : code.WellRead) :
    ':' ∉ Style.default.allCasesEntry code := by
  have hd : ¬ IsNameChar ':' := by decide
  unfold Style.allCasesEntry
  simp [h.not_mem_identifier hd]

/-- The map entry has no equals sign. -/
theorem equals_not_mem_nameMapEntry (h : code.WellRead) : '=' ∉ Style.nameMapEntry code := by
  have hd : ¬ IsNameChar '=' := by decide
  unfold Style.nameMapEntry
  simp [h.not_mem_name hd, h.numbered.not_mem_number hd]

/-! ## Declarations -/

/-- The doc comment line of a declaration, with its line feed, where there is one. -/
def Style.docLine (s : Style) (c : StatusCode) : Text :=
  match s.docComment? c.comment c.deprecated with
  | some doc => "    /// ".toList ++ (doc ++ ['\n'])
  | none => []

/-- The line of a declaration. -/
def Style.caseLine (s : Style) (c : StatusCode) : Text :=
  "    case ".toList ++ (s.name c ++ ("  // = ".toList ++ Text.ofInt c.number))

/-- A declaration is its doc comment line and its line. -/
theorem caseDeclaration_eq (s : Style) (c : StatusCode) :
    s.caseDeclaration c = s.docLine c ++ s.caseLine c := by
  unfold Style.caseDeclaration Style.docLine Style.caseLine
  cases s.docComment? c.comment c.deprecated <;> simp

/-- The line of a declaration has no line feed, if the identifier has none. -/
theorem newline_not_mem_caseLine {s : Style} (hname : '\n' ∉ s.name code) :
    '\n' ∉ s.caseLine code := by
  have hnumber : '\n' ∉ Text.ofInt code.number := fun hmem => by
    rcases isDigit_of_mem_ofInt hmem with hdigit | hminus
    · exact absurd hdigit (by decide)
    · exact absurd hminus (by decide)
  unfold Style.caseLine
  simp [hname, hnumber]

/-- What stands in front of the comment in a doc comment. -/
def docMarks : List Text := ["", "[Deprecated]", "[Deprecated] "]

/-- A doc comment is the comment, perhaps behind the deprecation marker. -/
theorem docComment?_eq_some {doc : Text}
    (h : Style.default.docComment? code.comment code.deprecated = some doc) :
    ∃ mark ∈ docMarks, doc = mark ++ code.comment := by
  have hmarker : Style.default.marker = "[Deprecated]".toList := rfl
  unfold Style.docComment? at h
  rw [hmarker] at h
  cases hempty : code.comment.isEmpty <;> cases hdep : code.deprecated <;>
    rw [hempty, hdep] at h <;> cases h
  · exact ⟨"".toList, by simp [docMarks], rfl⟩
  · exact ⟨"[Deprecated] ".toList, by simp [docMarks], by simp⟩
  · exact ⟨"[Deprecated]".toList, by simp [docMarks], by simp [List.isEmpty_iff.1 hempty]⟩

/-- What a doc comment line starts with. -/
def docHeads : List Text := docMarks.map ("    /// ".toList ++ ·)

/-- A doc comment line says the comment, behind a mark and perhaps the deprecation marker. -/
theorem docLine_eq (code : StatusCode) :
    (Style.default.docLine code = [] ∧ code.comment = []) ∨
      ∃ head ∈ docHeads, Style.default.docLine code = head ++ (code.comment ++ ['\n']) := by
  unfold Style.docLine
  cases hdoc : Style.default.docComment? code.comment code.deprecated with
  | some doc =>
    obtain ⟨mark, hmark, rfl⟩ := docComment?_eq_some hdoc
    exact .inr ⟨_, List.mem_map_of_mem hmark, by simp⟩
  | none =>
    refine .inl ⟨rfl, ?_⟩
    unfold Style.docComment? at hdoc
    split at hdoc
    · cases hdoc
    · cases hdoc
    · cases hdoc
    · next hempty _ => exact List.isEmpty_iff.1 hempty

/-- A declaration maps what its comment maps. -/
theorem mappings_caseDeclaration (h : code.WellRead) :
    mappings (Style.default.caseDeclaration code) = mappings code.comment := by
  have hcolon : ':' ∉ Style.default.caseLine code := by
    have hd : ¬ IsNameChar ':' := by decide
    unfold Style.caseLine
    simp [h.not_mem_identifier hd, h.numbered.not_mem_number hd]
  have hheads : ∀ head ∈ docHeads, EndsApart head "case".toList := by decide
  have hseparates : Separates ('\n' :: Style.default.caseLine code) :=
    separates_of_prefix "\n    c" ⟨_, rfl⟩ (by decide)
  rw [caseDeclaration_eq]
  rcases docLine_eq code with ⟨hline, hcomment⟩ | ⟨head, hhead, hline⟩
  · rw [hline, hcomment, List.nil_append, mappings_eq_nil (by simp) hcolon, mappings_nil]
  · have hshape : head ++ (code.comment ++ ['\n']) ++ Style.default.caseLine code =
        head ++ (code.comment ++ '\n' :: Style.default.caseLine code) := by simp
    have hnil : mappings ('\n' :: Style.default.caseLine code) = [] :=
      mappings_eq_nil (d := ':') (by simp) (by simp [hcolon])
    rw [hline, hshape, mappings_append_of_endsApart (hheads head hhead), mappings_append hseparates,
      hnil, List.append_nil]

/-- A declaration separates. -/
theorem separates_caseDeclaration (code : StatusCode) :
    Separates (Style.default.caseDeclaration code) := by
  have hheads : ∀ head ∈ docHeads, "    /".toList <+: head := by decide
  rw [caseDeclaration_eq]
  rcases docLine_eq code with ⟨hline, -⟩ | ⟨head, hhead, hline⟩
  · rw [hline, List.nil_append]
    exact separates_of_prefix "    c" ⟨_, rfl⟩ (by decide)
  · rw [hline, List.append_assoc]
    exact separates_of_prefix "    /"
      ((hheads head hhead).trans (List.prefix_append ..)) (by decide)

/-- A declaration has no closing brace. -/
theorem brace_not_mem_caseDeclaration (h : code.WellRead) :
    '\x7d' ∉ Style.default.caseDeclaration code := by
  have hd : ¬ IsNameChar '\x7d' := by decide
  have hheads : ∀ head ∈ docHeads, '\x7d' ∉ head := by decide
  have hcase : '\x7d' ∉ Style.default.caseLine code := by
    unfold Style.caseLine
    simp [h.not_mem_identifier hd, h.numbered.not_mem_number hd]
  rw [caseDeclaration_eq]
  rcases docLine_eq code with ⟨hline, -⟩ | ⟨head, hhead, hline⟩
  · simp [hline, hcase]
  · simp [hline, hcase, hheads head hhead, h.brace]

/-! ## Cases of the switch from a raw value -/

/-- A case from a raw value is indented, and its identifier stands behind a dot. -/
theorem initCase_eq (s : Style) (code : StatusCode) : s.initCase code = "        ".toList ++
    ("case ".toList ++ (Text.ofInt code.number ++ ": self =".toList) ++
      ([' '] ++ '.' :: s.name code)) := by
  unfold Style.initCase
  simp

/-- Up to its equals sign a case from a raw value is a stem. -/
theorem stem_initCase (hnumber : code.Numbered) : Stem (Text.ofInt code.number)
    ("case ".toList ++ (Text.ofInt code.number ++ ": self =".toList)) := by
  have hblank : ∀ d ∈ [' '], isBlank d = true := List.all_iff_forall_prop.1 rfl
  have hnil : ∀ d ∈ ([] : Text), isBlank d = true := by simp
  simpa using Stem.mk (by simp) hblank hnumber.ofInt_ne_nil (fun c hc => hnumber.isDigit_of_mem hc)
    hblank hblank hnil

/-- Behind the indentation a case from a raw value starts with a mapping of its number to the word
that the identifier starts with. -/
theorem mappingAt?_initCase (hnumber : code.Numbered) (name : Text) :
    mappingAt? ("case ".toList ++ (Text.ofInt code.number ++ ": self =".toList) ++
        ([' '] ++ '.' :: name)) =
      (run? isWord name).map fun r => (⟨Text.ofInt code.number, r.1⟩, r.2) := by
  have hstem := stem_initCase hnumber
  have hnone : mappingAt? ("case ".toList ++ (Text.ofInt code.number ++ ": self =".toList)) =
      none := by
    refine Option.eq_none_iff_forall_ne_some.2 fun ⟨m, rest⟩ hat => ?_
    obtain ⟨w, hw, heq, -⟩ := mappingAt?_eq_some_iff.1 hat
    have hdot := hw.mem '.' (by simp)
    exact hstem.dot_not_mem (by rw [heq]; exact List.mem_append_left rest hdot)
  have hat := fun (m : Mapping) (rest : Text) =>
    mappingAt?_append_dot (b := [' ']) (s := name) m rest hnone (List.all_iff_forall_prop.1 rfl)
  cases hrun : run? isWord name with
  | some r => exact (hat ⟨Text.ofInt code.number, r.1⟩ r.2).2 ⟨hstem, hrun⟩
  | none =>
    refine Option.eq_none_iff_forall_ne_some.2 fun ⟨m, rest⟩ hm => ?_
    cases hrun.symm.trans ((hat m rest).1 hm).2

/-- The case from a raw value maps the number of its code, if the identifier starts with a word
character. -/
theorem mappings_initCase (hnumber : code.Numbered) (hname : ':' ∉ Style.default.name code) :
    mappings (Style.default.initCase code) =
      ((run? isWord (Style.default.name code)).map fun r =>
        ⟨Text.ofInt code.number, r.1⟩).toList := by
  have hat := mappingAt?_initCase hnumber (Style.default.name code)
  rw [initCase_eq, mappings_append_of_endsApart (by decide)]
  cases hrun : run? isWord (Style.default.name code) with
  | some r =>
    obtain ⟨identifier, rest⟩ := r
    have hrest : ':' ∉ rest := fun hc => hname (by
      rw [(run?_eq_some_iff.1 hrun).1]
      exact List.mem_append_right identifier hc)
    rw [hrun] at hat
    rw [mappings_of_some hat, mappings_eq_nil (d := ':') (by simp) hrest]
    rfl
  | none =>
    -- There is no other place for a mapping to start before the identifier, and none in it.
    have hc : 'c' ∉ "ase ".toList ++ (Text.ofInt code.number ++ ": self = .".toList) := by
      have hdigits : 'c' ∉ Text.ofInt code.number := fun hmem =>
        absurd (hnumber.isDigit_of_mem hmem) (by decide)
      simp [hdigits]
    have hcons : "case ".toList ++ (Text.ofInt code.number ++ ": self =".toList) ++
        ([' '] ++ '.' :: Style.default.name code) =
        'c' :: ("ase ".toList ++ (Text.ofInt code.number ++ ": self = .".toList) ++
          Style.default.name code) := by
      simp
    rw [hrun, hcons] at hat
    rw [hcons, mappings_of_none hat,
      mappings_append_of_endsApart (EndsApart.of_not_mem "ase".toList hc),
      mappings_eq_nil (d := ':') (by simp) hname]
    rfl

/-- The case from a raw value separates, and so does a line feed in front of it. -/
theorem separates_initCase (code : StatusCode) : Separates (Style.default.initCase code) := by
  unfold Style.initCase
  simp only [List.append_assoc]
  exact separates_of_prefix "        c" ⟨_, rfl⟩ (by decide)

/-! ## Fragments -/

/-- A number is mapped by the mappings of several texts if one of them maps it. -/
theorem mem_ofSwift_of_flatMap {t : Text} {f : StatusCode → Text}
    (ht : mappings t = codes.flatMap fun c => mappings (f c)) :
    n ∈ ofSwift t ↔ ∃ c ∈ codes, n ∈ ofSwift (f c) := by
  simp only [mem_ofSwift, ht, List.mem_flatMap]
  constructor
  · rintro ⟨m, ⟨c, hc, hm⟩, hcode⟩
    exact ⟨c, hc, m, hm, hcode⟩
  · rintro ⟨c, hc, m, hm, hcode⟩
    exact ⟨m, ⟨c, hc, hm⟩, hcode⟩

/-- The declarations map what their comments map. -/
theorem mem_ofSwift_caseDeclarations (h : ∀ c ∈ codes, c.WellRead) :
    n ∈ ofSwift (Style.default.fragments codes).caseDeclarations ↔
      ∃ c ∈ codes, n ∈ ofSwift c.comment := by
  refine mem_ofSwift_of_flatMap ?_
  have hall : ∀ t ∈ codes.map Style.default.caseDeclaration, Separates ("\n\n".toList ++ t) := by
    intro t ht
    obtain ⟨c, -, rfl⟩ := List.mem_map.1 ht
    exact (separates_caseDeclaration c).append_blanks (List.all_iff_forall_prop.1 rfl)
  unfold Style.fragments
  rw [mappings_append_blanks (List.all_iff_forall_prop.1 rfl), mappings_joinWith (by decide) hall,
    List.flatMap_map]
  exact List.flatMap_congr fun c hc => mappings_caseDeclaration (h c hc)

/-- The cases from raw values map the numbers of the codes whose identifiers start with a word
character. -/
theorem mem_ofSwift_initCases (h : ∀ c ∈ codes, c.WellRead) :
    n ∈ ofSwift (Style.default.fragments codes).initCases ↔
      ∃ c ∈ codes, c.number = n ∧ (Style.default.name c).head?.any isWord = true := by
  have hflat : mappings (Style.default.fragments codes).initCases =
      codes.flatMap fun c => mappings (Style.default.initCase c) := by
    have hall : ∀ t ∈ codes.map Style.default.initCase, Separates (['\n'] ++ t) := by
      intro t ht
      obtain ⟨c, -, rfl⟩ := List.mem_map.1 ht
      exact (separates_initCase c).append_blanks (List.all_iff_forall_prop.1 rfl)
    unfold Style.fragments Text.ofLines
    rw [mappings_joinWith (by decide) hall, List.flatMap_map]
  have hone : ∀ c ∈ codes, n ∈ ofSwift (Style.default.initCase c) ↔
      c.number = n ∧ (Style.default.name c).head?.any isWord = true := by
    intro c hc
    have hread := (h c hc).numbered.readCode?_ofInt
    have hcolon : ':' ∉ Style.default.name c := (h c hc).not_mem_identifier (by decide)
    rw [mem_ofSwift, mappings_initCase (h c hc).numbered hcolon]
    cases hrun : run? isWord (Style.default.name c) with
    | none =>
      have hhead : (Style.default.name c).head?.any isWord = false := head?_any_of_run?_eq_none hrun
      simp [hhead]
    | some r =>
      obtain ⟨run, rest⟩ := r
      obtain ⟨hname, hne, hword, -⟩ := run?_eq_some_iff.1 hrun
      obtain ⟨d, run, rfl⟩ := List.exists_cons_of_ne_nil hne
      have hd : isWord d = true := hword d (by simp)
      rw [hname]
      simp [hread, hd]
  rw [mem_ofSwift_of_flatMap hflat]
  constructor
  · rintro ⟨c, hc, hn⟩
    exact ⟨c, hc, (hone c hc).1 hn⟩
  · rintro ⟨c, hc, hn⟩
    exact ⟨c, hc, (hone c hc).2 hn⟩

/-- A character that no entry and no separator has is not in a joined text. -/
theorem not_mem_joinWith {sep : Text} {entry : StatusCode → Text} (hsep : d ∉ sep)
    (hentry : ∀ c ∈ codes, d ∉ entry c) : d ∉ joinWith sep (codes.map entry) := by
  intro hmem
  refine forall_mem_joinWith (p := (· ≠ d)) (fun c hc => ?_) (fun t ht c hc => ?_) d hmem rfl
  · rintro rfl
    exact hsep hc
  · obtain ⟨code, hcode, rfl⟩ := List.mem_map.1 ht
    rintro rfl
    exact hentry code hcode hc

/-- A text without mappings maps no number. -/
theorem not_mem_ofSwift {t : Text} {d : Char} (hd : d ∈ [':', '=', '.']) (ht : d ∉ t) :
    n ∉ ofSwift t := by
  rw [mem_ofSwift, mappings_eq_nil hd ht]
  simp

/-- The cases to raw values map nothing. -/
theorem not_mem_ofSwift_rawValueCases (h : ∀ c ∈ codes, c.WellRead) :
    n ∉ ofSwift (Style.default.fragments codes).rawValueCases :=
  not_mem_ofSwift (d := '=') (by simp)
    (not_mem_joinWith (by decide) fun c hc => equals_not_mem_rawValueCase (h c hc))

/-- The map entries map nothing. -/
theorem not_mem_ofSwift_nameMap (h : ∀ c ∈ codes, c.WellRead) :
    n ∉ ofSwift (Style.default.fragments codes).nameMap :=
  not_mem_ofSwift (d := '=') (by simp)
    (not_mem_joinWith (by decide) fun c hc => equals_not_mem_nameMapEntry (h c hc))

/-- The list entries start with blanks, a dot and the first identifier, and hold no colon. -/
theorem allCases_cons (h : ∀ c ∈ code :: codes, c.WellRead) : ∃ rest, ':' ∉ rest ∧
    (Style.default.fragments (code :: codes)).allCases =
      "        ".toList ++ '.' :: (Style.default.name code ++ ',' :: rest) := by
  have hentry : ∀ c ∈ codes, ':' ∉ Style.default.allCasesEntry c := fun c hc =>
    colon_not_mem_allCasesEntry (h c (by simp [hc]))
  unfold Style.fragments Text.ofLines
  cases codes with
  | nil =>
    refine ⟨[], by simp, ?_⟩
    unfold Style.allCasesEntry
    simp [joinWith]
  | cons c codes =>
    refine ⟨'\n' :: joinWith ['\n'] ((c :: codes).map Style.default.allCasesEntry), ?_, ?_⟩
    · simpa using not_mem_joinWith (by decide) hentry
    · unfold Style.allCasesEntry
      simp [joinWith, List.intercalate_cons_cons]

/-- Joined texts separate if the first of them does. -/
theorem separates_joinWith {sep : Text} {entry : StatusCode → Text} (hne : codes ≠ [])
    (hentry : ∀ c ∈ codes, Separates (entry c)) : Separates (joinWith sep (codes.map entry)) := by
  obtain ⟨c, codes, rfl⟩ := List.exists_cons_of_ne_nil hne
  cases codes with
  | nil => simpa [joinWith] using hentry c
  | cons c' codes =>
    have := (hentry c (by simp)).append (sep ++ joinWith sep ((c' :: codes).map entry))
    simpa [joinWith, List.intercalate_cons_cons] using this

/-- The map entry separates: no blank of a mapping stands in front of a quotation mark. -/
theorem separates_nameMapEntry (h : code.WellRead) : Separates (Style.nameMapEntry code) := by
  have hdot : '.' ∉ Text.ofInt code.number := h.numbered.not_mem_number (by decide)
  refine ⟨"            ".toList ++ (Text.ofInt code.number ++ ": \"".toList),
    code.name ++ "\",".toList,
    ?_, rfl, by simp [hdot], fun hchain => ?_⟩
  · unfold Style.nameMapEntry
    simp
  · have hinfix : [' ', '"'] <:+:
        "            ".toList ++ (Text.ofInt code.number ++ ": \"".toList) :=
      ⟨"            ".toList ++ (Text.ofInt code.number ++ ":".toList), [], by simp⟩
    have hsub := List.IsChain.infix hchain hinfix
    exact absurd hsub (by decide)

/-- Every fragment but the list entries separates. -/
theorem separates_fragments (h : ∀ c ∈ codes, c.WellRead) (hne : codes ≠ []) {sec : Section}
    (hsec : sec ≠ .allCases) : Separates ((Style.default.fragments codes).get sec) := by
  cases sec with
  | caseDeclarations =>
    exact (separates_joinWith hne fun c _ => separates_caseDeclaration c).append _
  | initCases => exact separates_joinWith hne fun c _ => separates_initCase c
  | rawValueCases =>
    refine separates_joinWith hne fun c _ => ?_
    unfold Style.rawValueCase
    simp only [List.append_assoc]
    exact separates_of_prefix "        c" ⟨_, rfl⟩ (by decide)
  | allCases => exact absurd rfl hsec
  | nameMap => exact separates_joinWith hne fun c hc => separates_nameMapEntry (h c hc)

/-- No fragment has a closing brace. -/
theorem brace_not_mem_fragments (h : ∀ c ∈ codes, c.WellRead) (sec : Section) :
    '\x7d' ∉ (Style.default.fragments codes).get sec := by
  have hd : ¬ IsNameChar '\x7d' := by decide
  cases sec with
  | caseDeclarations =>
    have hsep : '\x7d' ∉ "\n\n".toList := by decide
    have hjoin := not_mem_joinWith hsep fun c hc => brace_not_mem_caseDeclaration (h c hc)
    simpa [PerSection.get, Style.fragments] using hjoin
  | initCases =>
    refine not_mem_joinWith (by decide) fun c hc => ?_
    unfold Style.initCase
    simp [(h c hc).not_mem_identifier hd, (h c hc).numbered.not_mem_number hd]
  | rawValueCases =>
    refine not_mem_joinWith (by decide) fun c hc => ?_
    unfold Style.rawValueCase
    simp [(h c hc).not_mem_identifier hd, (h c hc).numbered.not_mem_number hd]
  | allCases =>
    refine not_mem_joinWith (by decide) fun c hc => ?_
    unfold Style.allCasesEntry
    simp [(h c hc).not_mem_identifier hd]
  | nameMap =>
    refine not_mem_joinWith (by decide) fun c hc => ?_
    unfold Style.nameMapEntry
    simp [(h c hc).not_mem_name hd, (h c hc).numbered.not_mem_number hd]

/-- The landmark of the list entries cannot start before a fragment and reach into it. -/
theorem not_crosses_fragments (hne : codes ≠ []) (sec : Section) (u v : Text) :
    ¬ Crosses Section.allCases.landmark u ((Style.default.fragments codes).get sec ++ v) := by
  obtain ⟨c, codes, rfl⟩ := List.exists_cons_of_ne_nil hne
  have hjoin : ∀ (sep : Text) (entry : StatusCode → Text),
      entry c <+: joinWith sep ((c :: codes).map entry) := by
    intro sep entry
    cases codes <;> simp [joinWith, List.intercalate_cons_cons]
  have hhead : ∀ (head : Text) {t : Text}, Apart Section.allCases.landmark head → head <+: t →
      ¬ Crosses Section.allCases.landmark u (t ++ v) := by
    rintro head t hapart ⟨r, rfl⟩
    rw [List.append_assoc]
    exact hapart.not_crosses
  have hblanks : Apart Section.allCases.landmark "        " := by decide
  cases sec with
  | caseDeclarations =>
    have hfirst : Style.default.caseDeclaration c <+:
        (Style.default.fragments (c :: codes)).caseDeclarations :=
      (hjoin _ _).trans (List.prefix_append ..)
    have hheads : ∀ head ∈ docHeads, "    /".toList <+: head := by decide
    rw [caseDeclaration_eq] at hfirst
    rcases docLine_eq c with ⟨hline, -⟩ | ⟨head, hmem, hline⟩
    · rw [hline, List.nil_append] at hfirst
      exact hhead "    c" (by decide) (.trans ⟨_, rfl⟩ hfirst)
    · rw [hline, List.append_assoc] at hfirst
      exact hhead "    /" (by decide)
        ((hheads head hmem).trans ((List.prefix_append ..).trans hfirst))
  | initCases =>
    refine hhead _ hblanks (.trans ?_ (hjoin _ _))
    unfold Style.initCase
    exact ⟨_, by simp only [List.append_assoc]; rfl⟩
  | rawValueCases =>
    refine hhead _ hblanks (.trans ?_ (hjoin _ _))
    unfold Style.rawValueCase
    exact ⟨_, by simp only [List.append_assoc]; rfl⟩
  | allCases =>
    refine hhead _ hblanks (.trans ?_ (hjoin _ _))
    unfold Style.allCasesEntry
    exact ⟨_, by simp only [List.append_assoc]; rfl⟩
  | nameMap =>
    refine hhead _ hblanks (.trans ?_ (hjoin _ _))
    unfold Style.nameMapEntry
    exact ⟨_, by simp only [List.append_assoc]; rfl⟩

end ProtoUpkeep
