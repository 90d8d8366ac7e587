import ProtoUpkeep.Proofs.Status.Sayings

/-!
# What inserted declarations say

The declarations that are inserted for codes are read back as the codes (`sayings_joined`). A
declaration is cut into the lines of its doc comment and its line (`declaration_lines`), and a blank
line follows each of them, so no doc comment reaches over to the next declaration or to what stands
below the insertion point. The point itself has to be at the start of a line that is not preceded by
a doc comment line, or the first new declaration would be read with what stands above it.
-/

namespace ProtoUpkeep

open Text Declaration Piece

variable {code : StatusCode} {codes : List StatusCode} {x l t t' : Text} {d : Char}

/-! ## A declaration is read as its code -/

/-- What a declaration of the code should say. -/
def StatusCode.saying (c : StatusCode) : Saying where
  number := c.number
  comment := c.comment
  deprecated := c.deprecated

/-- Blanks with the indentation of a declaration behind them are blanks. -/
theorem isBlank_indent (hx : ∀ d ∈ x, isBlank d = true) :
    ∀ d ∈ x ++ "    ".toList, isBlank d = true := by
  have hindent : ∀ d ∈ "    ".toList, isBlank d = true := List.all_iff_forall_prop.1 rfl
  exact List.forall_mem_append.2 ⟨hx, hindent⟩

/-- The parts of a case line that is put together. -/
theorem caseLine?_of_parts {identifier digits : Text} (hx : ∀ d ∈ x, isBlank d = true)
    (hname : identifier ≠ []) (hword : ∀ d ∈ identifier, isWord d = true) (hdigits : digits ≠ [])
    (hdigit : ∀ d ∈ digits, isDigit d = true) :
    caseLine? (x ++ ("    case ".toList ++ (identifier ++ ("  // = ".toList ++ digits)))) =
      some { identifier, digits } := by
  have hstart : trimStart (x ++ ("    case ".toList ++
        (identifier ++ ("  // = ".toList ++ digits)))) =
      "case".toList ++ ([' '] ++ (identifier ++ ("  // = ".toList ++ digits))) := by
    have hblank := isBlank_indent hx
    have htrim : trimStart (x ++ "    ".toList ++
        ("case".toList ++ ([' '] ++ (identifier ++ ("  // = ".toList ++ digits))))) = _ :=
      trimStart_append hblank rfl
    rw [← htrim]
    simp
  have hblanks : dropBlanks? ([' '] ++ (identifier ++ ("  // = ".toList ++ digits))) =
      some (identifier ++ ("  // = ".toList ++ digits)) := by
    obtain ⟨e, name, rfl⟩ := List.exists_cons_of_ne_nil hname
    have he : isBlank e = false := isBlank_of_isWord (hword e (by simp))
    exact dropBlanks?_eq_some_iff.2
      ⟨[' '], rfl, by simp, List.all_iff_forall_prop.1 rfl, by simpa using he⟩
  have hrun : run? isWord (identifier ++ ("  // = ".toList ++ digits)) =
      some (identifier, "  // = ".toList ++ digits) := run?_append hname hword rfl
  have hslashes : trimStart ("  // = ".toList ++ digits) =
      "//".toList ++ (" = ".toList ++ digits) := by
    have hblank : ∀ d ∈ "  ".toList, isBlank d = true := List.all_iff_forall_prop.1 rfl
    have htrim : trimStart ("  ".toList ++ ("// = ".toList ++ digits)) = "// = ".toList ++ digits :=
      trimStart_append hblank rfl
    simpa using htrim
  have hequals : trimStart (" = ".toList ++ digits) = "=".toList ++ (" ".toList ++ digits) := by
    have hblank : ∀ d ∈ " ".toList, isBlank d = true := List.all_iff_forall_prop.1 rfl
    have htrim : trimStart (" ".toList ++ ("= ".toList ++ digits)) = "= ".toList ++ digits :=
      trimStart_append hblank rfl
    simpa using htrim
  have hnumber : trimStart (" ".toList ++ digits) = digits := by
    obtain ⟨e, ds, rfl⟩ := List.exists_cons_of_ne_nil hdigits
    have he : isBlank e = false := isBlank_of_isDigit (hdigit e (by simp))
    exact trimStart_append (List.all_iff_forall_prop.1 rfl) (by simpa using he)
  have hlast : run? isDigit digits = some (digits, []) := by
    have hrun : run? isDigit (digits ++ []) = some (digits, []) := run?_append hdigits hdigit rfl
    rwa [List.append_nil] at hrun
  simp only [caseLine?, hstart, dropHead?_append, hblanks, hrun, hslashes, hequals, hnumber, hlast,
    Option.bind_eq_bind, Option.bind_some]
  rfl

/-- The line of a declaration, behind blanks, is read as the identifier and the number, if the
identifier is a word. -/
theorem head?_caseLine (hnumber : code.Numbered) (hname : Style.default.name code ≠ [])
    (hword : ∀ d ∈ Style.default.name code, isWord d = true) (hx : ∀ d ∈ x, isBlank d = true) :
    head? (x ++ Style.default.caseLine code) = some (Style.default.name code, code.number) := by
  have hdigits := hnumber.ofInt_ne_nil
  have hread := hnumber.readCode?_ofInt
  have hend : (x ++ Style.default.caseLine code).dropEndWhile (· == '\r') =
      x ++ Style.default.caseLine code := by
    have hlast : (x ++ Style.default.caseLine code).getLast?.any (· == '\r') = false := by
      unfold Style.caseLine
      simp only [← List.append_assoc]
      rw [List.getLast?_append_of_ne_nil _ hdigits, List.getLast?_eq_some_getLast hdigits,
        Option.any_some, beq_eq_false_iff_ne]
      intro hcr
      have := hnumber.isDigit_of_mem (List.getLast_mem hdigits)
      rw [hcr] at this
      exact absurd this (by decide)
    simpa using dropEndWhile_append (b := []) (by simp) hlast
  have hline : caseLine? (x ++ Style.default.caseLine code) =
      some { identifier := Style.default.name code, digits := Text.ofInt code.number } :=
    caseLine?_of_parts hx hname hword hdigits fun d hd => hnumber.isDigit_of_mem hd
  simp only [head?, hend, hline, Option.bind_eq_bind, Option.bind_some, hread]

/-- The lines of a declaration behind some text: its doc comment line, where there is one, and its
line. -/
theorem lines_caseDeclaration (hcomment : '\n' ∉ code.comment)
    (hline : '\n' ∉ Style.default.caseLine code) (hx : '\n' ∉ x) : ∃ y, (y = x ∨ y = []) ∧
    lines (x ++ Style.default.caseDeclaration code) =
      ((Style.default.docComment? code.comment code.deprecated).map fun text =>
        x ++ "    ".toList ++ ("/// ".toList ++ text)).toList ++
          [y ++ Style.default.caseLine code] := by
  rw [caseDeclaration_eq, Style.docLine]
  cases hdoc : Style.default.docComment? code.comment code.deprecated with
  | none =>
    refine ⟨x, .inl rfl, lines_eq_of_not_mem ?_⟩
    rw [List.mem_append, not_or]
    exact ⟨hx, hline⟩
  | some doc =>
    obtain ⟨mark, hmark, rfl⟩ := docComment?_eq_some hdoc
    have hmarks : ∀ mark ∈ docMarks, '\n' ∉ mark := by decide
    have hfirst : '\n' ∉ x ++ "    ".toList ++ ("/// ".toList ++ (mark ++ code.comment)) := by
      simp [hx, hcomment, hmarks mark hmark]
    have hshape : x ++ ("    /// ".toList ++ (mark ++ code.comment ++ ['\n']) ++
        Style.default.caseLine code) =
          x ++ "    ".toList ++ ("/// ".toList ++ (mark ++ code.comment)) ++
            '\n' :: Style.default.caseLine code := by simp
    refine ⟨[], .inr rfl, ?_⟩
    simp only [hshape]
    rw [lines_append_cons, lines_eq_of_not_mem hfirst, lines_eq_of_not_mem hline]
    rfl

/-- A blank in front of a comment makes no landmark. -/
theorem SwitchFree.blank_cons (hfree : SwitchFree t) (ht : Trimmed t) : SwitchFree (' ' :: t) := by
  intro sec hsec hin
  rcases List.infix_cons_iff.1 hin with hp | hin
  · -- A landmark starts with more than one blank, and the comment with none.
    have hhead : ∃ r, sec.landmark = ' ' :: ' ' :: r := by
      rcases hsec with rfl | rfl <;> exact ⟨_, rfl⟩
    obtain ⟨r, hr⟩ := hhead
    rw [hr, List.cons_prefix_cons] at hp
    obtain ⟨z, rfl⟩ := hp.2
    have hfirst := ht.1
    rw [List.cons_append, List.head?_cons, Option.any_some] at hfirst
    exact absurd hfirst (by decide)
  · exact hfree sec hsec hin

/-- A mark in front of a comment makes no landmark. -/
theorem SwitchFree.mark_append (hfree : SwitchFree t) (ht : Trimmed t) {mark : Text}
    (hmark : mark ∈ docMarks) : SwitchFree (' ' :: (mark ++ t)) := by
  have hbracket : ∀ {v : Text}, SwitchFree v → SwitchFree (" [Deprecated".toList ++ ']' :: v) := by
    intro v hv sec hsec hin
    have hnot : ']' ∉ sec.landmark := by rcases hsec with rfl | rfl <;> decide
    rcases (infix_append_cons_of_not_mem hnot).1 hin with hin | hin
    · rcases hsec with rfl | rfl <;> exact absurd hin (by decide)
    · exact hv sec hsec hin
  simp only [docMarks, List.mem_cons, List.not_mem_nil, or_false] at hmark
  rcases hmark with rfl | rfl | rfl
  · exact hfree.blank_cons ht
  · exact hbracket hfree
  · exact hbracket (hfree.blank_cons ht)

/-- A doc comment line that is written for a code holds no landmark of a switch unless the comment
does. -/
theorem switchFree_docLine (h : Trimmed code.comment) (hfree : SwitchFree code.comment)
    {doc b : Text} (hb : ∀ d ∈ b, isBlank d = true)
    (hdoc : Style.default.docComment? code.comment code.deprecated = some doc) :
    SwitchFree (b ++ ("/// ".toList ++ doc)) := by
  intro sec hsec hin
  obtain ⟨mark, hmark, rfl⟩ := docComment?_eq_some hdoc
  have hslash : '/' ∉ sec.landmark := by rcases hsec with rfl | rfl <;> decide
  have hnil : ¬ sec.landmark <:+: [] := by rcases hsec with rfl | rfl <;> decide
  have hblank : ¬ sec.landmark <:+: b := fun hin => by
    have hcolon : ':' ∈ sec.landmark := by rcases hsec with rfl | rfl <;> decide
    exact absurd (hb ':' (hin.subset hcolon)) (by decide)
  have hshape : b ++ ("/// ".toList ++ (mark ++ code.comment)) =
      b ++ '/' :: ([] ++ '/' :: ([] ++ '/' :: (' ' :: (mark ++ code.comment)))) := by simp
  rw [hshape, infix_append_cons_of_not_mem hslash, infix_append_cons_of_not_mem hslash,
    infix_append_cons_of_not_mem hslash] at hin
  exact hfree.mark_append h hmark sec hsec
    (((hin.resolve_left hblank).resolve_left hnil).resolve_left hnil)

/-- What a declaration behind blanks says, and its doc comment line. -/
theorem sayings_caseDeclaration (h : code.WellRead) (hplain : code.Plain) (hmark : code.Unmarked)
    (hx : ∀ d ∈ x, isBlank d = true) (hnl : '\n' ∉ x) :
    sayings (lines (x ++ Style.default.caseDeclaration code)) = [code.saying] ∧
      (SwitchFree code.comment → Clean (x ++ Style.default.caseDeclaration code)) := by
  have hline := newline_not_mem_caseLine (h.not_mem_identifier (by decide))
  obtain ⟨y, hy, hlines⟩ := lines_caseDeclaration h.newline hline hnl
  have hblank := isBlank_indent hx
  have hyblank : ∀ d ∈ y, isBlank d = true := by
    rcases hy with rfl | rfl
    · exact hx
    · simp
  have hhead := head?_caseLine h.numbered hplain.name_ne_nil
    (hplain.isWord_of_mem_name h.isWord) hyblank
  have hdecl : Declares (y ++ Style.default.caseLine code) := by
    rw [Declares, hhead]
    rfl
  have hsplit := splitMarker_joinDoc h.trimmed hmark hblank
  have hdocs : ∀ {l : Text}, l ∈ ((Style.default.docComment? code.comment code.deprecated).map
      fun text => x ++ "    ".toList ++ ("/// ".toList ++ text)).toList →
        isDocLine l = true ∧ (SwitchFree code.comment → SwitchFree l) := by
    intro l hl
    rw [Option.mem_toList, Option.map_eq_some_iff] at hl
    obtain ⟨doc, hdoc, rfl⟩ := hl
    refine ⟨?_, fun hfree => switchFree_docLine h.trimmed hfree hblank hdoc⟩
    rw [isDocLine, trimStart_append hblank rfl]
    rfl
  constructor
  · rw [sayings, hlines, ofLines_doc_append (fun l hl => (hdocs hl).1) hdecl]
    simp only [List.filterMap_cons, says?, hhead, Option.map_some, hsplit]
    rfl
  · intro hfree l hl hldoc
    rw [hlines] at hl
    rcases List.mem_append.1 hl with hl | hl
    · exact (hdocs hl).2 hfree
    · exact absurd (List.mem_singleton.1 hl ▸ hdecl) (not_declares_of_isDocLine hldoc)

/-! ## Declarations are inserted -/

/-- A text with a line feed in it is clean if both sides are. -/
theorem clean_append_cons {u v : Text} : Clean (u ++ '\n' :: v) ↔ Clean u ∧ Clean v := by
  unfold Clean
  rw [lines_append_cons]
  simp only [List.mem_append, or_imp, forall_and]

/-- A blank line parts what stands above it from what stands below. -/
theorem sayings_append_nil_cons (ls ls' : List Text) :
    sayings (ls ++ [] :: ls') = sayings ls ++ sayings ls' :=
  sayings_insert_line (x := []) (y := []) (by decide) (.inl rfl)

/-- Joined declarations behind blanks say what their codes say. -/
theorem sayings_joined (h : ∀ c ∈ codes, c.WellRead ∧ c.Plain ∧ c.Unmarked) (hne : codes ≠ [])
    (hx : ∀ d ∈ x, isBlank d = true) (hnl : '\n' ∉ x) :
    sayings (lines (x ++ joinWith "\n\n" (codes.map Style.default.caseDeclaration))) =
        codes.map StatusCode.saying ∧
      ((∀ c ∈ codes, SwitchFree c.comment) →
        Clean (x ++ joinWith "\n\n" (codes.map Style.default.caseDeclaration))) := by
  induction codes generalizing x with
  | nil => exact absurd rfl hne
  | cons c codes ih =>
    obtain ⟨hread, hplain, hmark⟩ := h c (by simp)
    obtain ⟨hsay, hclean⟩ := sayings_caseDeclaration hread hplain hmark hx hnl
    cases codes with
    | nil =>
      have hone : joinWith "\n\n" ([c].map Style.default.caseDeclaration) =
          Style.default.caseDeclaration c := by simp [joinWith]
      rw [hone]
      exact ⟨hsay, fun hfree => hclean (hfree c (by simp))⟩
    | cons c' codes =>
      obtain ⟨ihsay, ihclean⟩ := ih (x := []) (fun c'' hc => h c'' (by simp [hc])) (by simp)
        (by simp) (by simp)
      rw [List.nil_append] at ihsay ihclean
      have hshape : x ++ joinWith "\n\n" ((c :: c' :: codes).map Style.default.caseDeclaration) =
          x ++ Style.default.caseDeclaration c ++ '\n' :: ([] ++ '\n' ::
            joinWith "\n\n" ((c' :: codes).map Style.default.caseDeclaration)) := by
        simp [joinWith, List.intercalate_cons_cons]
      rw [hshape]
      constructor
      · rw [lines_append_cons, lines_append_cons, lines_eq_of_not_mem (t := []) (by simp),
          List.singleton_append, sayings_append_nil_cons, hsay, ihsay]
        rfl
      · intro hfree
        refine clean_append_cons.2 ⟨hclean (hfree c (by simp)), clean_append_cons.2 ⟨?_, ?_⟩⟩
        · intro l hl hdoc
          rw [lines_eq_of_not_mem (by simp), List.mem_singleton] at hl
          subst hl
          cases hdoc
        · exact ihclean fun c'' hc => hfree c'' (by simp [hc])

/-- The first line of the landmark of the declarations. -/
def unrecognizedDoc : Text := "    /// swift-format-ignore: AlwaysUseLowerCamelCase"

/-- The second line of the landmark of the declarations. -/
def unrecognizedCase : Text := "    case unrecognized(Int32)"

/-- The landmark of the declarations has two lines. -/
theorem landmark_caseDeclarations :
    Section.caseDeclarations.landmark = unrecognizedDoc ++ '\n' :: unrecognizedCase := by
  decide +kernel

/-- A text is cut at the landmark of the declarations where a line ends with its first line and the
next one starts with its second. -/
theorem lines_of_cutAt {before rest : Text} {ls : List Text}
    (hcut : Text.cutAt Section.caseDeclarations.landmark t = some (before, rest))
    (hbefore : before.lines = ls ++ [x]) : ∃ y below,
      rest.lines = unrecognizedDoc :: (unrecognizedCase ++ y) :: below ∧
      t.lines = ls ++ (x ++ unrecognizedDoc) :: (unrecognizedCase ++ y) :: below := by
  obtain ⟨r, rfl⟩ := prefix_of_cutAt hcut
  obtain ⟨y, below, hr⟩ := exists_lines_eq_cons r
  have hrest : lines (Section.caseDeclarations.landmark ++ r) =
      unrecognizedDoc :: (unrecognizedCase ++ y) :: below := by
    rw [landmark_caseDeclarations, List.append_assoc, List.cons_append, lines_append_cons,
      lines_eq_of_not_mem (by decide), lines_append_of_not_mem (by decide) hr]
    rfl
  refine ⟨y, below, hrest, ?_⟩
  rw [← append_of_cutAt hcut]
  exact Text.lines_append hbefore hrest

/-- The text ends with blanks at the start of a line, and the line above is no doc comment line. -/
def OpensLine (t : Text) : Prop :=
  ∃ ls x, t.lines = ls ++ [x] ∧ (∀ d ∈ x, isBlank d = true) ∧ ls.getLast?.any isDocLine = false

/-- The lines around inserted declarations. -/
theorem Inserted.lines_declarations
    (h : Inserted .caseDeclarations (Style.default.fragments codes).caseDeclarations t t') :
    ∃ before rest, Text.cutAt Section.caseDeclarations.landmark t = some (before, rest) ∧
      ∀ ls x, before.lines = ls ++ [x] → t'.lines =
        ls ++ lines (x ++ joinWith "\n\n" (codes.map Style.default.caseDeclaration)) ++
          [] :: rest.lines := by
  obtain ⟨before, rest, hcut, rfl⟩ := h
  refine ⟨before, rest, hcut, fun ls x hbefore => ?_⟩
  have hx : '\n' ∉ x := newline_not_mem_of_mem_lines (t := before) (by simp [hbefore])
  have hshape : before ++ ((Style.default.fragments codes).caseDeclarations ++ '\n' :: rest) =
      before ++ joinWith "\n\n" (codes.map Style.default.caseDeclaration) ++
        '\n' :: ([] ++ '\n' :: rest) := by
    unfold Style.fragments
    simp
  obtain ⟨y, ys, hjoined⟩ := exists_lines_eq_cons
    (joinWith "\n\n" (codes.map Style.default.caseDeclaration))
  rw [hshape, lines_append_cons, lines_append_cons, lines_eq_of_not_mem (t := []) (by simp),
    Text.lines_append hbefore hjoined, lines_append_of_not_mem hx hjoined]
  rfl

/-- Blanks are no declaration and no doc comment. -/
theorem not_declares_of_blanks (hx : ∀ d ∈ x, isBlank d = true) :
    ¬ Declares x ∧ isDocLine x = false := by
  constructor
  · intro h
    obtain ⟨b, r, -, rfl, -⟩ := h.shape
    exact absurd (hx 'c' (by simp)) (by decide)
  · have hnil : trimStart x = [] := List.dropWhile_eq_nil_iff.2 hx
    rw [isDocLine, hnil]
    rfl

/-- Blanks at the start of the last line say nothing. -/
theorem sayings_append_blanks (hx : ∀ d ∈ x, isBlank d = true) (ls : List Text) :
    sayings (ls ++ [x]) = sayings ls := by
  obtain ⟨hdecl, hdoc⟩ := not_declares_of_blanks hx
  have hline : sayings (ls ++ [x ++ []]) = sayings ls ++ sayings [] :=
    sayings_insert_line (by rwa [List.append_nil]) (.inl (by rwa [List.append_nil]))
  rw [List.append_nil] at hline
  rw [hline]
  exact List.append_nil _

/-- Inserted declarations add what their codes say. -/
theorem Inserted.sayings_declarations (h : ∀ c ∈ codes, c.WellRead ∧ c.Plain ∧ c.Unmarked)
    (hne : codes ≠ [])
    (hins : Inserted .caseDeclarations (Style.default.fragments codes).caseDeclarations t t')
    (hopen : ∀ before rest, Text.cutAt Section.caseDeclarations.landmark t = some (before, rest) →
      OpensLine before) :
    ∃ before rest, Text.cutAt Section.caseDeclarations.landmark t = some (before, rest) ∧
      sayings t'.lines =
        sayings before.lines ++ (codes.map StatusCode.saying ++ sayings rest.lines) ∧
      (Clean t → (∀ c ∈ codes, SwitchFree c.comment) → Clean t') := by
  obtain ⟨before, rest, hcut, hlines⟩ := hins.lines_declarations
  obtain ⟨ls, x, hbefore, hx, hdoc⟩ := hopen before rest hcut
  have hnl : '\n' ∉ x := newline_not_mem_of_mem_lines (t := before) (by simp [hbefore])
  obtain ⟨hsay, hclean⟩ := sayings_joined h hne hx hnl
  have ht' := hlines ls x hbefore
  refine ⟨before, rest, hcut, ?_, fun ht hfree l hl hldoc => ?_⟩
  · rw [ht', sayings_append_nil_cons, sayings_append (.inl hdoc), hsay, hbefore,
      sayings_append_blanks hx, List.append_assoc]
  · obtain ⟨y, below, hrest, htlines⟩ := lines_of_cutAt hcut hbefore
    rw [ht', List.mem_append, List.mem_append, List.mem_cons, hrest, List.mem_cons] at hl
    rcases hl with (hl | hl) | rfl | rfl | hl
    · exact ht l (by rw [htlines]; simp [hl]) hldoc
    · exact hclean hfree l hl hldoc
    · cases hldoc
    · intro sec hsec
      rcases hsec with rfl | rfl <;> decide
    · exact ht l (by rw [htlines]; simp only [List.mem_append, List.mem_cons] at hl ⊢; tauto) hldoc

end ProtoUpkeep
