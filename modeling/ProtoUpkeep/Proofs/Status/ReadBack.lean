import ProtoUpkeep.Proofs.Status.Entries

/-!
# Generated text is read back

The next run reads two of the fragments that are generated for a list of codes: the declarations,
and the cases of the switch from a raw value. If the names are words, the declarations are the codes
one by one, each on the lines that were generated for it (`forall₂_readAs`), and the cases map each
number to the identifier of its code (`getElem?_ofSwift_initCases`). If a name is not a word, its
identifier is none either (`StatusCode.Plain.isWord_of_identifier`), and no declaration is ever read
with it; so the two fragments are read back exactly if the names are words
(`fragments_readBack_iff`).
-/

namespace ProtoUpkeep

open Text Declaration RawValues

variable {code c : StatusCode} {codes : List StatusCode} {d : Declaration} {x : Char} {n : Int}
  {acronyms : Dictionary} {name t : Text}

/-! ## Identifiers that are words -/

/-- A character that has no other case stays where a text is put in lower case. -/
theorem Text.mem_lower (hx : x ∈ t) (hsigma : x ≠ 'Σ') (hlower : lowerChar x = [x]) :
    x ∈ t.lower := by
  unfold Text.lower
  generalize ([] : Text) = behind
  induction t generalizing behind with
  | nil => cases hx
  | cons e t ih =>
    rw [Text.lower.go]
    rcases List.mem_cons.1 hx with rfl | hx
    · have himage : (x == 'Σ') = false := by simpa using hsigma
      simp [himage, hlower]
    · exact List.mem_append_right _ (ih hx _)

/-- A character that has no other case stays where a text is capitalized. -/
theorem Text.mem_capitalize (hx : x ∈ t) (hlower : lowerChar x = [x]) (hupper : upperChar x = [x]) :
    x ∈ t.capitalize := by
  cases t with
  | nil => cases hx
  | cons e t =>
    rw [Text.capitalize]
    rcases List.mem_cons.1 hx with rfl | hx
    · simp [hupper]
    · exact List.mem_append_right _ (List.mem_flatMap.2 ⟨x, hx, by simp [hlower]⟩)

/-- A character that has no other case and is in no acronym stays in the identifier of a name. -/
theorem mem_swiftName (hx : x ∈ name) (hsep : x ≠ '_') (hsigma : x ≠ 'Σ')
    (hlower : lowerChar x = [x]) (hupper : upperChar x = [x])
    (hacr : ∀ e ∈ acronyms.entries, x ∉ e.1) : x ∈ swiftName acronyms name := by
  obtain ⟨q, hq, hxq⟩ := mem_pieces_iff.2 ⟨hx, hsep⟩
  unfold swiftName
  split
  · next heq => rw [heq] at hq; cases hq
  · next first others heq =>
    rw [heq] at hq
    rcases List.mem_cons.1 hq with rfl | hq
    · exact List.mem_append_left _ (mem_lower hxq hsigma hlower)
    · refine List.mem_append_right _ (List.mem_flatMap.2 ⟨q, hq, ?_⟩)
      unfold swiftSegment
      cases hget : acronyms.get? q with
      | none => exact mem_capitalize hxq hlower hupper
      | some value => exact absurd hxq (hacr _ (mem_of_lookup hget))

/-- The case mappings leave an ASCII character that is not a word character. -/
theorem eq_of_not_isAsciiWord (hlt : x.toNat < 128) (hx : isAsciiWord x = false) :
    lowerChar x = [x] ∧ upperChar x = [x] := by
  have hcase : x.toLower = x ∧ x.toUpper = x :=
    ascii_forall (p := fun x => isAsciiWord x = false → x.toLower = x ∧ x.toUpper = x)
      (by decide +kernel) hlt hx
  rw [lowerChar, upperChar, if_pos hlt, if_pos hlt, hcase.1, hcase.2]
  exact ⟨rfl, rfl⟩

/-- Where the identifier of a code with a plain name is a word, the name is one. -/
theorem StatusCode.Plain.isWord_of_identifier (h : code.Plain)
    (hword : ∀ x ∈ Style.default.name code, isWord x = true) : ∀ x ∈ code.name, isWord x = true := by
  intro x hx
  have hlt := h.1 x hx
  rw [isWord, if_pos hlt]
  by_contra hnot
  rw [Bool.not_eq_true] at hnot
  have hne : ∀ e : Char, isAsciiWord e = true ∨ ¬ e.toNat < 128 → x ≠ e := by
    rintro e (he | he) rfl
    · rw [hnot] at he
      cases he
    · exact he hlt
  have hacr : ∀ e ∈ StatusSettings.defaultAcronyms.entries, x ∉ e.1 := by
    have hall : (StatusSettings.defaultAcronyms.entries.all fun e => e.1.all isAsciiWord) = true := by
      decide +kernel
    intro e he hmem
    have := List.all_eq_true.1 (List.all_eq_true.1 hall e he) x hmem
    rw [hnot] at this
    cases this
  obtain ⟨hlower, hupper⟩ := eq_of_not_isAsciiWord hlt hnot
  have hmem : x ∈ Style.default.name code :=
    mem_swiftName hx (hne _ (.inl (by decide))) (hne _ (.inr (by decide))) hlower hupper hacr
  have := hword x hmem
  rw [isWord, if_pos hlt, hnot] at this
  cases this

/-- The identifier of a declaration is a word. -/
theorem isWord_of_mem_ofSwift {marker : Text} (h : d ∈ Declaration.ofSwift marker t) :
    ∀ x ∈ d.identifier, isWord x = true := by
  unfold Declaration.ofSwift at h
  generalize ([] : List Text) = above, 0 = k, t.lines = ls at h
  induction ls generalizing above k with
  | nil => cases h
  | cons l ls ih =>
    rw [onLines] at h
    rcases List.mem_append.1 h with h | h
    · rw [Option.mem_toList, onLine?_eq, Option.map_eq_some_iff] at h
      obtain ⟨head, hhead, rfl⟩ := h
      simp only [head?, Option.bind_eq_bind, Option.bind_eq_some_iff, Option.some.injEq] at hhead
      obtain ⟨cl, hcl, number, -, rfl⟩ := hhead
      obtain ⟨-, -, -, -, -, -, -, hword, -⟩ := caseLine?_eq_some hcl
      exact hword
    · exact ih _ _ h

/-! ## Declarations -/

/-- The lines that the declaration covers of the given ones: its doc comment and its own line. -/
def Declaration.ownLines (ls : List Text) (d : Declaration) : List Text :=
  (ls.drop d.firstLine).take (d.caseLine + 1 - d.firstLine)

/-- The declaration, which stands on the given lines, says all that the code says, and it covers
exactly the lines that are generated for the code. -/
structure ReadAs (ls : List Text) (c : StatusCode) (d : Declaration) : Prop where
  /-- The number is that of the code. -/
  number : d.number = c.number
  /-- The identifier is that of the code. -/
  identifier : d.identifier = Style.default.name c
  /-- The comment is that of the code. -/
  comment : d.comment = c.comment
  /-- The deprecation is that of the code. -/
  deprecated : d.deprecated = c.deprecated
  /-- The lines are those of the code. -/
  ownLines : d.ownLines ls = (Style.default.caseDeclaration c).lines

/-- A code whose declaration is read back: its identifier is a word, its number fits, and its comment
is a trimmed line that cannot be taken for one with the deprecation marker. -/
structure StatusCode.Declarable (c : StatusCode) : Prop where
  /-- The identifier is not empty. -/
  ne_nil : Style.default.name c ≠ []
  /-- The identifier is a word. -/
  isWord : ∀ x ∈ Style.default.name c, isWord x = true
  /-- The number fits. -/
  numbered : c.Numbered
  /-- The comment is trimmed. -/
  trimmed : Trimmed c.comment
  /-- The comment stands on one line. -/
  newline : '\n' ∉ c.comment
  /-- The comment does not start like the deprecation marker without being one. -/
  unmarked : c.Unmarked

/-- The lines of the declaration of a code. -/
theorem StatusCode.Declarable.lines_eq (h : c.Declarable) :
    (Style.default.caseDeclaration c).lines =
      docLines Style.default c (Style.default.caseLine c) ++ [Style.default.caseLine c] := by
  have hname : '\n' ∉ Style.default.name c := fun hmem =>
    absurd (h.isWord _ hmem) (by decide)
  have hline := newline_not_mem_caseLine hname
  obtain ⟨y, hy, hlines⟩ := lines_caseDeclaration (x := []) h.newline hline (by simp)
  obtain rfl : y = [] := hy.elim id id
  exact hlines

/-- The line of the declaration of a code is read as the identifier and the number. -/
theorem StatusCode.Declarable.head?_eq (h : c.Declarable) :
    head? (Style.default.caseLine c) = some (Style.default.name c, c.number) :=
  head?_caseLine (x := []) h.numbered h.ne_nil h.isWord (by simp)

/-- The doc comment lines of a code are read as its comment and its deprecation. -/
theorem StatusCode.Declarable.splitMarker_eq (h : c.Declarable) :
    splitMarker "[Deprecated]" (joinDoc (docLines Style.default c (Style.default.caseLine c))) =
      (c.comment, c.deprecated) :=
  splitMarker_joinDoc (b := "    ") h.trimmed h.unmarked (List.all_iff_forall_prop.1 rfl)

/-- The declarations that are generated for codes, with a blank line behind each. -/
def generatedLines (codes : List StatusCode) : List Text :=
  codes.flatMap fun c => (Style.default.caseDeclaration c).lines ++ [[]]

/-- The lines of the generated declarations. -/
theorem lines_caseDeclarations (hne : codes ≠ []) :
    (Style.default.fragments codes).caseDeclarations.lines = generatedLines codes := by
  have hentries : ∀ codes : List StatusCode,
      lines (codes.flatMap (Style.default.entry .caseDeclarations)) =
        generatedLines codes ++ [[]] := by
    intro codes
    induction codes with
    | nil => rfl
    | cons c codes ih =>
      have hshape : (c :: codes).flatMap (Style.default.entry .caseDeclarations) =
          Style.default.caseDeclaration c ++ '\n' :: ([] ++ '\n' ::
            codes.flatMap (Style.default.entry .caseDeclarations)) := by
        simp [Style.entry]
      rw [hshape, lines_append_cons, lines_append_cons, ih,
        lines_eq_of_not_mem (List.not_mem_nil)]
      simp [generatedLines]
  have hfragment := hentries codes
  rw [← fragments_append_newline Style.default hne .caseDeclarations, lines_append_cons,
    lines_eq_of_not_mem (List.not_mem_nil)] at hfragment
  exact List.append_cancel_right hfragment

/-- The pieces of the declaration that is generated for a code, in front of those of other lines. -/
theorem StatusCode.Declarable.ofLines_append (h : c.Declarable) (ls : List Text) :
    Piece.ofLines ((Style.default.caseDeclaration c).lines ++ [[]] ++ ls) =
      .declaration (docLines Style.default c (Style.default.caseLine c))
        (Style.default.caseLine c) :: .line [] :: Piece.ofLines ls := by
  have hdeclares : Declares (Style.default.caseLine c) := by
    rw [Declares, h.head?_eq]
    rfl
  have hblank : Piece.ofLines ([] :: ls) = .line [] :: Piece.ofLines ls :=
    Piece.ofLines_cons (by decide) (.inl (by decide))
  rw [h.lines_eq, List.append_assoc, List.append_assoc, List.singleton_append,
    List.singleton_append, Piece.ofLines_doc_append (fun l hl => Piece.isDocLine_of_mem_docLines hl)
      hdeclares, hblank]

/-- The declarations that are generated for codes are read as the codes, whatever lines stand above
them. -/
theorem forall₂_readAs (h : ∀ c ∈ codes, c.Declarable) (above : List Text) :
    List.Forall₂ (ReadAs (above ++ generatedLines codes)) codes
      (Piece.declarations "[Deprecated]" above.length (Piece.ofLines (generatedLines codes))) := by
  induction codes generalizing above with
  | nil => exact .nil
  | cons c codes ih =>
    have hc := h c (by simp)
    obtain ⟨doc, hdoc⟩ : ∃ doc, docLines Style.default c (Style.default.caseLine c) = doc :=
      ⟨_, rfl⟩
    have hlines := hdoc ▸ hc.lines_eq
    have hcons : generatedLines (c :: codes) =
        (Style.default.caseDeclaration c).lines ++ [[]] ++ generatedLines codes := List.flatMap_cons
    have hread : Piece.declarations "[Deprecated]" above.length
        (Piece.ofLines (generatedLines (c :: codes))) =
          { number := c.number, identifier := Style.default.name c, comment := c.comment,
            deprecated := c.deprecated, firstLine := above.length,
            caseLine := above.length + doc.length } ::
          Piece.declarations "[Deprecated]"
            (above ++ ((Style.default.caseDeclaration c).lines ++ [[]])).length
            (Piece.ofLines (generatedLines codes)) := by
      have hlen : above.length + (doc ++ [Style.default.caseLine c]).length + 1 =
          (above ++ ((Style.default.caseDeclaration c).lines ++ [[]])).length := by
        rw [hlines]
        simp only [List.length_append, List.length_singleton]
        omega
      rw [hcons, hc.ofLines_append, hdoc, Piece.declarations, Piece.declarations]
      simp only [Piece.declaration?, hc.head?_eq, Option.map_some, ← hdoc, hc.splitMarker_eq,
        Option.toList_some, Option.toList_none, List.nil_append, List.singleton_append, Piece.lines,
        List.length_singleton]
      simp only [hdoc, hlen]
    rw [hread]
    refine .cons ⟨rfl, rfl, rfl, rfl, ?_⟩ ?_
    · have hlen : above.length + doc.length + 1 - above.length =
          (Style.default.caseDeclaration c).lines.length := by
        rw [hlines]
        simp only [List.length_append, List.length_singleton]
        omega
      rw [hcons, Declaration.ownLines, hlen, List.drop_left, List.append_assoc, List.take_left]
    · have htail := ih (fun c' hc' => h c' (by simp [hc']))
        (above ++ ((Style.default.caseDeclaration c).lines ++ [[]]))
      rwa [List.append_assoc, ← hcons] at htail

/-! ## The switch from a raw value -/

/-- A table that is filled code by code gives each number the identifier of its code. -/
theorem getElem?_foldl_insert (hnodup : (codes.map (·.number)).Nodup) (table : RawValues) (n : Int) :
    (codes.foldl (fun table c => table.insert c.number (Style.default.name c)) table)[n]? =
      ((codes.find? (·.number == n)).map Style.default.name).or table[n]? := by
  induction codes generalizing table with
  | nil => rfl
  | cons c codes ih =>
    obtain ⟨hc, hnodup⟩ := List.nodup_cons.1 hnodup
    rw [List.foldl_cons, ih hnodup, Std.TreeMap.getElem?_insert, List.find?_cons]
    by_cases hn : c.number = n
    · have hnone : codes.find? (·.number == n) = none := by
        rw [List.find?_eq_none]
        rintro c' hc' heq
        exact hc (List.mem_map.2 ⟨c', hc', (beq_iff_eq.1 heq).trans hn.symm⟩)
      simp [hn, hnone]
    · have hbeq : (c.number == n) = false := by simpa using hn
      have hcompare : ¬ compare c.number n = .eq := by
        rwa [Std.LawfulEqCmp.compare_eq_iff_eq]
      rw [hbeq, if_neg hcompare]

/-- The cases that are generated for codes map each number to the identifier of its code. -/
theorem getElem?_ofSwift_initCases (hnodup : (codes.map (·.number)).Nodup)
    (h : ∀ c ∈ codes, c.Declarable) (n : Int) :
    (RawValues.ofSwift (Style.default.fragments codes).initCases)[n]? =
      (codes.find? (·.number == n)).map Style.default.name := by
  have hone : ∀ c ∈ codes, mappings (Style.default.initCase c) =
      [⟨Text.ofInt c.number, Style.default.name c⟩] := by
    intro c hc
    have hcolon : ':' ∉ Style.default.name c := fun hmem =>
      absurd ((h c hc).isWord _ hmem) (by decide)
    have hrun : run? isWord (Style.default.name c) = some (Style.default.name c, []) := by
      have hend : ([] : Text).head?.any isWord = false := rfl
      have := run?_append (h c hc).ne_nil (h c hc).isWord hend
      rwa [List.append_nil] at this
    rw [mappings_initCase (h c hc).numbered hcolon, hrun]
    rfl
  have hall : ∀ t ∈ codes.map Style.default.initCase, Separates (['\n'] ++ t) := by
    intro t ht
    obtain ⟨c, -, rfl⟩ := List.mem_map.1 ht
    exact (separates_initCase c).append_blanks (List.all_iff_forall_prop.1 rfl)
  have hmappings : mappings (Style.default.fragments codes).initCases =
      codes.map fun c => ⟨Text.ofInt c.number, Style.default.name c⟩ := by
    unfold Style.fragments Text.ofLines
    rw [mappings_joinWith (by decide) hall, List.flatMap_map, List.flatMap_congr hone]
    exact List.map_eq_flatMap.symm
  have hfold : RawValues.ofSwift (Style.default.fragments codes).initCases =
      codes.foldl (fun table c => table.insert c.number (Style.default.name c)) ∅ := by
    rw [RawValues.ofSwift, hmappings, List.foldl_map]
    refine List.foldl_ext _ _ _ fun table c hc => ?_
    rw [add, (h c hc).numbered.readCode?_ofInt]
  rw [hfold, getElem?_foldl_insert hnodup, Std.TreeMap.getElem?_emptyc, Option.or_none]

/-! ## Both fragments -/

/-- The declarations and the cases from raw values that are generated for codes with plain names are
read back as the codes exactly if the names are words. -/
theorem fragments_readBack_iff (hnodup : (codes.map (·.number)).Nodup)
    (hnumber : ∀ c ∈ codes, 0 ≤ c.number ∧ c.number ≤ maxCode) (hplain : ∀ c ∈ codes, c.Plain)
    (htrimmed : ∀ c ∈ codes, Trimmed c.comment) (hnewline : ∀ c ∈ codes, '\n' ∉ c.comment)
    (hmark : ∀ c ∈ codes, c.Unmarked) (hne : codes ≠ []) :
    let fragments := Style.default.fragments codes
    (List.Forall₂ (ReadAs fragments.caseDeclarations.lines) codes
        (Declaration.ofSwift "[Deprecated]" fragments.caseDeclarations) ∧
      ∀ n, (RawValues.ofSwift fragments.initCases)[n]? =
        (codes.find? (·.number == n)).map Style.default.name) ↔
    ∀ c ∈ codes, ∀ x ∈ c.name, isWord x = true := by
  intro fragments
  constructor
  · rintro ⟨hread, -⟩ c hc
    refine (hplain c hc).isWord_of_identifier ?_
    have hnames : codes.map Style.default.name =
        (Declaration.ofSwift "[Deprecated]" fragments.caseDeclarations).map (·.identifier) := by
      rw [← List.forall₂_eq_eq_eq, List.forall₂_map_left_iff, List.forall₂_map_right_iff]
      exact hread.imp fun c d h => h.identifier.symm
    obtain ⟨d, hd, hcd⟩ := List.mem_map.1 (hnames ▸ List.mem_map_of_mem hc)
    rw [← hcd]
    exact isWord_of_mem_ofSwift hd
  · intro hword
    have hcodes : ∀ c ∈ codes, c.Declarable := fun c hc => {
      ne_nil := (hplain c hc).name_ne_nil
      isWord := (hplain c hc).isWord_of_mem_name (hword c hc)
      numbered := by
        obtain ⟨hlow, hhigh⟩ := hnumber c hc
        exact ⟨c.number.toNat, by omega, by omega⟩
      trimmed := htrimmed c hc
      newline := hnewline c hc
      unmarked := hmark c hc }
    refine ⟨?_, getElem?_ofSwift_initCases hnodup hcodes⟩
    rw [Piece.ofSwift_eq, lines_caseDeclarations hne]
    exact forall₂_readAs hcodes []

/-- A deprecated code and one without a comment are read back. -/
theorem fragments_readBack_two_codes :
    let codes : List StatusCode := [⟨"OK", 22, "Done.", true⟩, ⟨"INVALID_FILE_ID", 3, [], false⟩]
    let fragments := Style.default.fragments codes
    (codes.map (·.number)).Nodup ∧ (∀ c ∈ codes, 0 ≤ c.number ∧ c.number ≤ maxCode) ∧
      (∀ c ∈ codes, c.Plain) ∧ (∀ c ∈ codes, Trimmed c.comment) ∧
      (∀ c ∈ codes, '\n' ∉ c.comment) ∧ (∀ c ∈ codes, c.Unmarked) ∧ codes ≠ [] ∧
      List.Forall₂ (ReadAs fragments.caseDeclarations.lines) codes
        (Declaration.ofSwift "[Deprecated]" fragments.caseDeclarations) ∧
      ∀ n, (RawValues.ofSwift fragments.initCases)[n]? =
        (codes.find? (·.number == n)).map Style.default.name := by
  intro codes fragments
  have hnodup : (codes.map (·.number)).Nodup := by decide
  have hnumber : ∀ c ∈ codes, 0 ≤ c.number ∧ c.number ≤ maxCode := by decide
  have hplain : ∀ c ∈ codes, c.Plain := by decide
  have htrimmed : ∀ c ∈ codes, Trimmed c.comment := by decide
  have hnewline : ∀ c ∈ codes, '\n' ∉ c.comment := by decide
  have hmark : ∀ c ∈ codes, c.Unmarked := by decide
  have hne : codes ≠ [] := by decide
  have hword : ∀ c ∈ codes, c.name.all isWord = true := by decide
  exact ⟨hnodup, hnumber, hplain, htrimmed, hnewline, hmark, hne,
    (fragments_readBack_iff hnodup hnumber hplain htrimmed hnewline hmark hne).2
      fun c hc => List.all_eq_true.1 (hword c hc)⟩

/-- The declaration of a code whose name is plain but no word is not read back: it is no declaration
line. -/
theorem fragments_not_readBack :
    let code : StatusCode := ⟨"A-B", 1, [], false⟩
    let fragments := Style.default.fragments [code]
    code.Plain ∧ code.Unmarked ∧
      ¬ List.Forall₂ (ReadAs fragments.caseDeclarations.lines) [code]
        (Declaration.ofSwift "[Deprecated]" fragments.caseDeclarations) := by
  intro code fragments
  have hnil : Declaration.ofSwift "[Deprecated]" fragments.caseDeclarations = [] := by decide
  refine ⟨by decide, by decide, fun h => ?_⟩
  rw [hnil] at h
  cases h

end ProtoUpkeep
