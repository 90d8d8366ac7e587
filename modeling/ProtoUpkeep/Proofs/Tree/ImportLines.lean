import ProtoUpkeep.Proofs.Text.Lines
import ProtoUpkeep.Proofs.Text.Search
import ProtoUpkeep.Proofs.Text.Trim
import ProtoUpkeep.Tree.Imports

/-!
# Flat imports stay flat

The first import on a line is rewritten to one of the path without its directories
(`ImportLine.spelt`). The text in front of it stays, and no import comes up there
(`ImportLine.importAt?_append_spelt`), so in the rewritten line the first import is the rewritten one.
Its path has no directory left (`ImportLine.fileOf_fileOf`), and the line is still one whose import is
rewritten (`ImportLine.isFlattened_flatten`). Hence a line, and a text, that has been flattened is
flat (`flattenImports?_of_eq_some`).
-/

namespace ProtoUpkeep

open Text

variable {t u before old path file rest line : Text} {proto flat : Text}

namespace ImportLine

/-! ## Paths without directories -/

/-- A directory is dropped exactly if the path starts with one. -/
theorem dropDirectory?_eq_some_iff : dropDirectory? path = some rest ↔
    ∃ dir, dir ≠ [] ∧ '/' ∉ dir ∧ path = dir ++ '/' :: rest := by
  constructor
  · intro h
    unfold dropDirectory? at h
    split at h
    · next c tail htail =>
      split at h
      · next hlen =>
        obtain rfl := Option.some.inj h
        obtain rfl : c = '/' := by
          have := List.head?_dropWhile_not (· != '/') path
          simpa [htail] using this
        have hpath : path.takeWhile (· != '/') ++ '/' :: tail = path := by
          rw [← htail, List.takeWhile_append_dropWhile]
        refine ⟨path.takeWhile (· != '/'), fun hnil => ?_, fun hmem => ?_, hpath.symm⟩
        · rw [hnil, List.nil_append] at hpath
          rw [← hpath, List.length_cons] at hlen
          omega
        · exact absurd (List.mem_takeWhile_imp hmem) (by decide)
      · cases h
    · cases h
  · rintro ⟨dir, hdir, hslash, rfl⟩
    have hpos := List.length_pos_of_ne_nil hdir
    rw [dropDirectory?, List.dropWhile_append_of_pos
      fun c hc => bne_iff_ne.2 (ne_of_mem_of_not_mem hc hslash)]
    simp only [List.dropWhile_cons, bne_self_eq_false, Bool.false_eq_true, if_false,
      List.length_append, List.length_cons]
    exact if_pos (by omega)

/-- What stands behind the first directory ends the path. -/
theorem suffix_of_dropDirectory? (h : dropDirectory? path = some rest) : rest <:+ path := by
  obtain ⟨dir, -, -, rfl⟩ := dropDirectory?_eq_some_iff.1 h
  exact ⟨dir ++ ['/'], by simp⟩

/-- A path without its directories is the end of the path. -/
theorem fileOf_suffix (path : Text) : fileOf path <:+ path := by
  fun_induction fileOf path with
  | case1 => exact List.suffix_refl _
  | case2 path rest h hne ih => exact ih.trans (suffix_of_dropDirectory? h)
  | case3 => exact List.suffix_refl _

/-- Something is left of a path without its directories. -/
theorem fileOf_ne_nil (h : path ≠ []) : fileOf path ≠ [] := by
  fun_induction fileOf path with
  | case1 => exact h
  | case2 path rest _ hne ih => exact ih (by simpa using hne)
  | case3 => exact h

/-- A path without its directories has no directory left. -/
theorem fileOf_fileOf (path : Text) : fileOf (fileOf path) = fileOf path := by
  fun_induction fileOf path with
  | case1 path rest h hempty => rw [fileOf, h]; simp [hempty]
  | case2 path rest h hne ih => exact ih
  | case3 path h => rw [fileOf, h]

/-- A path of one component has no directory. -/
theorem fileOf_of_not_mem (h : '/' ∉ path) : fileOf path = path := by
  rw [fileOf]
  split
  · next hsome =>
    obtain ⟨dir, -, -, rfl⟩ := dropDirectory?_eq_some_iff.1 hsome
    simp at h
  · rfl

/-- A directory in front of a path is left out. -/
theorem fileOf_append {dir : Text} (hdir : dir ≠ []) (hslash : '/' ∉ dir) (hfile : file ≠ []) :
    fileOf (dir ++ '/' :: file) = fileOf file := by
  have hdrop : dropDirectory? (dir ++ '/' :: file) = some file :=
    dropDirectory?_eq_some_iff.2 ⟨dir, hdir, hslash, rfl⟩
  rw [fileOf]
  split
  · next hsome =>
    obtain rfl := Option.some.inj (hdrop.symm.trans hsome)
    rw [if_neg (by simpa using hfile)]
  · next hnone => cases hdrop.symm.trans hnone

/-! ## Imports -/

/-- A text is cut at its first quote in one way. -/
theorem eq_of_first_quote {u v u' v' : Text} (hu : '"' ∉ u) (hu' : '"' ∉ u')
    (h : u ++ '"' :: v = u' ++ '"' :: v') : u = u' ∧ v = v' := by
  obtain rfl : u = u' := by rw [← takeWhile_append_cons hu v, h, takeWhile_append_cons hu' v']
  exact ⟨rfl, (List.cons.inj (List.append_cancel_left h)).2⟩

/-- A quote is no blank. -/
theorem quote_not_mem_of_isBlank {gap : Text} (h : ∀ c ∈ gap, isBlank c = true) : '"' ∉ gap :=
  fun hmem => absurd (h _ hmem) (by decide)

/-- An import of a path stands at the start of the text: the word, blanks, and the path in quotes. -/
def IsImport (t path rest : Text) : Prop :=
  ∃ gap, gap ≠ [] ∧ (∀ c ∈ gap, isBlank c = true) ∧ path ≠ [] ∧ '"' ∉ path ∧
    t = "import".toList ++ (gap ++ '"' :: (path ++ '"' :: rest))

/-- The imports that are found are those of a path. -/
theorem importAt?_eq_some_iff : importAt? t = some (path, rest) ↔ IsImport t path rest := by
  constructor
  · intro h
    simp only [importAt?, bind, Option.bind_eq_some_iff] at h
    obtain ⟨t₁, hword, t₂, hblanks, t₃, hopen, ⟨p, t₄⟩, hrun, t₅, hclose, heq⟩ := h
    cases heq
    obtain ⟨gap, rfl, hne, hgap, -⟩ := dropBlanks?_eq_some_iff.1 hblanks
    obtain ⟨rfl, hpath, hquote, -⟩ := run?_eq_some_iff.1 hrun
    rw [dropHead?_eq_some_iff] at hword hopen hclose
    simp only at hclose
    refine ⟨gap, hne, hgap, hpath, fun hmem => absurd (hquote _ hmem) (by decide), ?_⟩
    rw [hword, hopen, hclose]
    rfl
  · rintro ⟨gap, hne, hgap, hpath, hquote, rfl⟩
    have hblanks : dropBlanks? (gap ++ '"' :: (path ++ '"' :: rest)) =
        some ('"' :: (path ++ '"' :: rest)) :=
      dropBlanks?_eq_some_iff.2 ⟨gap, rfl, hne, hgap, rfl⟩
    have hrun : run? (· != '"') (path ++ '"' :: rest) = some (path, '"' :: rest) := by
      refine run?_append hpath (fun c hc => ?_) rfl
      rw [bne_iff_ne]
      rintro rfl
      exact hquote hc
    have hopen : dropHead? "\"" ('"' :: (path ++ '"' :: rest)) = some (path ++ '"' :: rest) := rfl
    have hclose : dropHead? "\"" ('"' :: rest) = some rest := rfl
    simp only [importAt?, dropHead?_append, bind, Option.bind_some, hblanks, hopen, hrun, hclose]

/-- An import of a path, with what stands behind it. -/
def spelt (path rest : Text) : Text :=
  "import".toList ++ ([' '] ++ '"' :: (path ++ '"' :: rest))

theorem spelt_eq (path rest : Text) :
    spelt path rest = "import".toList ++ ([' '] ++ '"' :: (path ++ '"' :: rest)) := rfl

/-- The import of a path is one. -/
theorem importAt?_spelt (hne : path ≠ []) (hquote : '"' ∉ path) (rest : Text) :
    importAt? (spelt path rest) = some (path, rest) :=
  importAt?_eq_some_iff.2 ⟨[' '], by simp, List.forall_mem_singleton.2 rfl, hne, hquote, rfl⟩

/-- What is quoted behind an open quote in front of a rewritten import was quoted before. -/
theorem exists_quoted_of_append_spelt {path' rest' : Text} (hold : importAt? old = some (path, rest))
    (hpath' : path' ≠ []) (hquote' : '"' ∉ path')
    (h : t ++ spelt file rest = path' ++ '"' :: rest') :
    ∃ path₁ rest₁, path₁ ≠ [] ∧ '"' ∉ path₁ ∧ t ++ old = path₁ ++ '"' :: rest₁ := by
  by_cases hin : '"' ∈ t
  · obtain ⟨z, w, rfl, hz⟩ := List.eq_append_cons_of_mem hin
    rw [List.append_assoc, List.cons_append] at h
    obtain ⟨rfl, -⟩ := eq_of_first_quote hz hquote' h
    exact ⟨z, _, hpath', hz, List.append_assoc z _ _⟩
  · obtain ⟨gap, -, hgap, -, -, rfl⟩ := importAt?_eq_some_iff.1 hold
    refine ⟨t ++ ("import".toList ++ gap), path ++ '"' :: rest,
      List.append_ne_nil_of_right_ne_nil t (List.append_ne_nil_of_left_ne_nil (by decide) gap),
      ?_, by simp only [List.append_assoc]⟩
    simp only [List.mem_append, not_or]
    exact ⟨hin, by decide, quote_not_mem_of_isBlank hgap⟩

/-- The word of a rewritten import is not the end of another one in front of it: the blanks behind
that would hold a letter of the word. -/
theorem ne_word_of_append {gap : Text} (hblank : ∀ c ∈ gap, isBlank c = true) (hne : before ≠ []) :
    before ++ "import ".toList ≠ "import".toList ++ gap := by
  intro heq
  have hlen := congrArg List.length heq
  have hsuffix : "t ".toList <:+ gap := by
    have hend : "t ".toList <:+ "import".toList ++ gap :=
      heq ▸ ⟨before ++ "impor".toList, List.append_assoc before _ _⟩
    refine List.suffix_of_suffix_length_le hend (List.suffix_append _ gap) ?_
    have hpos := List.length_pos_of_ne_nil hne
    have hshort : "import ".toList.length = "import".toList.length + 1 := by decide
    have htwo : "t ".toList.length = 2 := by decide
    simp only [List.length_append] at hlen
    omega
  exact absurd (hblank 't' (hsuffix.subset (by decide))) (by decide)

/-- No import comes up in front of one that is rewritten. -/
theorem importAt?_append_spelt (hold : importAt? old = some (path, rest)) (hne : before ≠ [])
    (hnone : importAt? (before ++ old) = none) :
    importAt? (before ++ spelt file rest) = none := by
  refine Option.eq_none_iff_forall_ne_some.2 fun ⟨path', rest'⟩ hsome => ?_
  obtain ⟨gap, hgap, hblank, hpath', hquote', heq⟩ := importAt?_eq_some_iff.1 hsome
  have hword : '"' ∉ "import".toList ++ gap := by
    rw [List.mem_append, not_or]
    exact ⟨by decide, quote_not_mem_of_isBlank hblank⟩
  rw [← List.append_assoc "import".toList] at heq
  by_cases hmem : '"' ∈ before
  · -- The quote that opens the path stands in front, so an import stood there before.
    obtain ⟨x, y, rfl, hx⟩ := List.eq_append_cons_of_mem hmem
    rw [List.append_assoc, List.cons_append] at heq
    obtain ⟨rfl, hy⟩ := eq_of_first_quote hx hword heq
    obtain ⟨path₁, rest₁, hpath₁, hquote₁, hold₁⟩ :=
      exists_quoted_of_append_spelt hold hpath' hquote' hy
    refine absurd (importAt?_eq_some_iff.2 ⟨gap, hgap, hblank, hpath₁, hquote₁, ?_⟩)
      (Option.eq_none_iff_forall_ne_some.1 hnone (path₁, rest₁))
    rw [← hold₁]
    simp only [List.append_assoc, List.cons_append]
  · -- The first quote is the one of the rewritten import, whose word would be made of blanks.
    have hsplit : before ++ spelt file rest =
        (before ++ "import ".toList) ++ '"' :: (file ++ '"' :: rest) := by
      rw [List.append_assoc]
      rfl
    have hfront : '"' ∉ before ++ "import ".toList := by
      rw [List.mem_append, not_or]
      exact ⟨hmem, by decide⟩
    rw [hsplit] at heq
    exact ne_word_of_append hblank hne (eq_of_first_quote hfront hword heq).1

/-! ## The first import on a line -/

/-- An import at the start of a text is rewritten, and otherwise the search goes on. -/
theorem flattenFirst_cons (c : Char) (t : Text) : flattenFirst (c :: t) =
    match importAt? (c :: t) with
    | some (path, rest) => spelt (fileOf path) rest
    | none => c :: flattenFirst t := by
  have hdef : flattenFirst (c :: t) = match importAt? (c :: t) with
    | some (path, rest) => "import \"".toList ++ fileOf path ++ '"' :: rest
    | none => c :: flattenFirst t := rfl
  rw [hdef]
  cases importAt? (c :: t) with
  | none => rfl
  | some found => exact List.append_assoc _ (fileOf found.1) _

/-- The first import on a line is rewritten. -/
theorem flattenFirst_append (hold : importAt? old = some (path, rest))
    (hnone : ∀ u, u <:+ before → u ≠ [] → importAt? (u ++ old) = none) :
    flattenFirst (before ++ old) = before ++ spelt (fileOf path) rest := by
  induction before with
  | nil =>
    cases old with
    | nil => cases hold
    | cons c t =>
      rw [List.nil_append, List.nil_append, flattenFirst_cons, hold]
  | cons c before ih =>
    have hfirst := hnone (c :: before) List.suffix_rfl (by simp)
    rw [List.cons_append] at hfirst
    rw [List.cons_append, flattenFirst_cons, hfirst]
    simp only
    rw [ih fun u hu => hnone u (hu.trans (List.suffix_cons c before)), List.cons_append]

/-- A line has a first import, unless it stays as it is. -/
theorem flattenFirst_cases (line : Text) : flattenFirst line = line ∨
    ∃ before old path rest, line = before ++ old ∧ importAt? old = some (path, rest) ∧
      ∀ u, u <:+ before → u ≠ [] → importAt? (u ++ old) = none := by
  induction line with
  | nil => exact .inl rfl
  | cons c t ih =>
    cases hfirst : importAt? (c :: t) with
    | some found =>
      refine .inr ⟨[], c :: t, found.1, found.2, rfl, hfirst, fun u hu hne => ?_⟩
      exact absurd (List.suffix_nil.1 hu) hne
    | none =>
      rcases ih with hsame | ⟨before, old, path, rest, rfl, hold, hnone⟩
      · refine .inl ?_
        rw [flattenFirst_cons, hfirst]
        simp only [hsame]
      · refine .inr ⟨c :: before, old, path, rest, rfl, hold, fun u hu hne => ?_⟩
        rcases List.suffix_cons_iff.1 hu with rfl | hu
        · exact hfirst
        · exact hnone u hu hne

/-- No import stands in front of the first one after it is rewritten either. -/
theorem importAt?_append_spelt_of_first (hold : importAt? old = some (path, rest))
    (hnone : ∀ u, u <:+ before → u ≠ [] → importAt? (u ++ old) = none) (file : Text) :
    ∀ u, u <:+ before → u ≠ [] → importAt? (u ++ spelt file rest) = none := fun u hu hne =>
  importAt?_append_spelt hold hne (hnone u hu hne)

/-- A line whose first import has been rewritten stays as it is. -/
theorem flattenFirst_flattenFirst (line : Text) :
    flattenFirst (flattenFirst line) = flattenFirst line := by
  rcases flattenFirst_cases line with hsame | ⟨before, old, path, rest, rfl, hold, hnone⟩
  · rw [hsame, hsame]
  · obtain ⟨-, -, -, hpath, hquote, -⟩ := importAt?_eq_some_iff.1 hold
    have hspelt := importAt?_spelt (fileOf_ne_nil hpath)
      (fun hmem => hquote ((fileOf_suffix path).subset hmem)) rest
    rw [flattenFirst_append hold hnone,
      flattenFirst_append hspelt (importAt?_append_spelt_of_first hold hnone _), fileOf_fileOf]

/-! ## Flat lines -/

/-- Whether a text that starts with a word behind another text starts with the word does not depend
on what follows. -/
theorem prefix_append_head {word u v w : Text} (h : word <+: u ++ (word ++ v)) :
    word <+: u ++ (word ++ w) := by
  have hshort : word <+: u ++ word := by
    rw [← List.append_assoc] at h
    exact List.prefix_of_prefix_length_le h (List.prefix_append _ v) (by simp)
  rw [← List.append_assoc]
  exact hshort.trans (List.prefix_append _ w)

/-- Text that starts with no blank is not trimmed at its start. -/
theorem trimStart_append_of_head (hne : u ≠ []) (hhead : u.head?.any isBlank = false) (t : Text) :
    trimStart (t ++ u) = trimStart t ++ u := by
  obtain ⟨blanks, hblanks, ht, hrest⟩ := exists_trimStart t
  obtain ⟨c, u, rfl⟩ := List.exists_cons_of_ne_nil hne
  cases htrim : trimStart t with
  | nil =>
    rw [htrim, List.append_nil] at ht
    rw [ht, trimStart_append hblanks hhead, List.nil_append]
  | cons d rest =>
    rw [htrim] at ht hrest
    conv_lhs => rw [ht]
    rw [List.append_assoc, trimStart_append hblanks (by simpa using hrest)]

/-- A line is one whose import is rewritten if it starts with the word and does not mention the
library. -/
theorem isFlattened_iff {line : Text} : isFlattened line = true ↔
    "import".toList <+: trimStart line ∧ ¬ "google".toList <:+: line := by
  have hgoogle : line.contains "google" = true ↔ "google".toList <:+: line := isSome_cutAt_iff
  rw [isFlattened, Bool.and_eq_true, Bool.not_eq_true', ← Bool.not_eq_true, hgoogle, startsWith,
    List.isPrefixOf_iff_prefix, startsWith_trim_iff (by decide)]

/-- A line stays one whose import is rewritten. -/
theorem isFlattened_flattenFirst {line : Text} (h : isFlattened line = true) :
    isFlattened (flattenFirst line) = true := by
  rcases flattenFirst_cases line with hsame | ⟨before, old, path, rest, rfl, hold, hnone⟩
  · rwa [hsame]
  rw [flattenFirst_append hold hnone]
  obtain ⟨gap, hgap, -, -, -, rfl⟩ := importAt?_eq_some_iff.1 hold
  rw [isFlattened_iff] at h ⊢
  obtain ⟨hword, hgoogle⟩ := h
  constructor
  · rw [trimStart_append_of_head (by simp) (by rfl)] at hword
    rw [spelt_eq, trimStart_append_of_head (by simp) (by rfl)]
    exact prefix_append_head hword
  · -- The library's name holds neither a quote nor a blank, so it would stand in one of the parts.
    have hquote : '"' ∉ "google".toList := by decide
    have hspace : ' ' ∉ "google".toList := by decide
    rw [← List.append_assoc, ← List.append_assoc, infix_append_cons_of_not_mem hquote,
      infix_append_cons_of_not_mem hquote] at hgoogle
    rw [spelt_eq, ← List.append_assoc, List.singleton_append, infix_append_cons_of_not_mem hspace,
      ← List.nil_append ('"' :: _), infix_append_cons_of_not_mem hquote,
      infix_append_cons_of_not_mem hquote]
    rintro (h | h | h | h)
    · exact hgoogle (.inl (h.trans (List.prefix_append _ gap).isInfix))
    · exact absurd h (by decide)
    · exact hgoogle (.inr (.inl (h.trans (fileOf_suffix path).isInfix)))
    · exact hgoogle (.inr (.inr h))

/-- An import that does not mention the library is rewritten. -/
theorem flatten_spelt (hne : path ≠ []) (hquote : '"' ∉ path)
    (hgoogle : ¬ "google".toList <:+: spelt path rest) :
    flatten (spelt path rest) = spelt (fileOf path) rest := by
  have hflattened : isFlattened (spelt path rest) = true := by
    refine isFlattened_iff.2 ⟨?_, hgoogle⟩
    have hhead : (spelt path rest).head?.any isBlank = false := rfl
    have hstart : trimStart ([] ++ spelt path rest) = spelt path rest :=
      trimStart_append (by simp) hhead
    rw [List.nil_append] at hstart
    rw [hstart]
    exact List.prefix_append _ _
  have hfirst : flattenFirst ([] ++ spelt path rest) = [] ++ spelt (fileOf path) rest :=
    flattenFirst_append (importAt?_spelt hne hquote rest) fun u hu hne' =>
      absurd (List.suffix_nil.1 hu) hne'
  rw [flatten, if_pos hflattened]
  exact hfirst

/-- A line that has been flattened is flat. -/
theorem flatten_flatten (line : Text) : flatten (flatten line) = flatten line := by
  by_cases h : isFlattened line = true
  · have hflat : flatten line = flattenFirst line := if_pos h
    rw [hflat, flatten, if_pos (isFlattened_flattenFirst h), flattenFirst_flattenFirst]
  · have hsame : flatten line = line := if_neg h
    rw [hsame, hsame]

/-- Flattening adds no line feed. -/
theorem newline_not_mem_flatten {line : Text} (h : '\n' ∉ line) : '\n' ∉ flatten line := by
  unfold flatten
  split
  · rcases flattenFirst_cases line with hsame | ⟨before, old, path, rest, rfl, hold, hnone⟩
    · rwa [hsame]
    rw [flattenFirst_append hold hnone]
    obtain ⟨gap, -, -, -, -, rfl⟩ := importAt?_eq_some_iff.1 hold
    have hfile := (fileOf_suffix path).subset
    simp only [spelt_eq, List.mem_append, List.mem_cons, not_or] at h ⊢
    exact ⟨h.1, h.2.1, by simp, by decide, fun hmem => h.2.2.2.2.1 (hfile hmem), h.2.2.2.2.2⟩
  · exact h

end ImportLine

/-! ## Flat texts -/

/-- The flattened lines are the lines of their text. -/
theorem lines_ofLines_map_flatten (proto : Text) :
    lines (ofLines (proto.lines.map ImportLine.flatten)) = proto.lines.map ImportLine.flatten := by
  refine lines_ofLines (by simpa using lines_ne_nil proto) fun l hl => ?_
  obtain ⟨line, hline, rfl⟩ := List.mem_map.1 hl
  exact ImportLine.newline_not_mem_flatten (newline_not_mem_of_mem_lines hline)

/-- Whether or not something changes, the flattened text is the one of the flattened lines. -/
theorem getD_flattenImports? (proto : Text) :
    (flattenImports? proto).getD proto = ofLines (proto.lines.map ImportLine.flatten) := by
  simp only [flattenImports?]
  split
  · next hsame => exact hsame.symm
  · rfl

/-- The lines of a flattened text. -/
theorem lines_getD_flattenImports? (proto : Text) :
    ((flattenImports? proto).getD proto).lines = proto.lines.map ImportLine.flatten := by
  rw [getD_flattenImports?, lines_ofLines_map_flatten]

/-- The lines of a flat text. -/
theorem lines_of_flattenImports? (h : flattenImports? proto = some flat) :
    flat.lines = proto.lines.map ImportLine.flatten := by
  rw [← lines_getD_flattenImports?, h, Option.getD_some]

/-- A text of one line is flattened by rewriting its import. -/
theorem flattenImports?_of_line (hline : '\n' ∉ proto) (h : ImportLine.flatten proto = flat)
    (hne : flat ≠ proto) : flattenImports? proto = some flat := by
  have hlines : ofLines (proto.lines.map ImportLine.flatten) = flat := by
    rw [lines_eq_of_not_mem hline, List.map_singleton, h]
    exact joinWith_singleton _ flat
  rw [flattenImports?, hlines]
  exact if_neg hne

/-- There is nothing to flatten in a flattened text. -/
theorem flattenImports?_getD_flattenImports? (proto : Text) :
    flattenImports? ((flattenImports? proto).getD proto) = none := by
  have hlines : (proto.lines.map ImportLine.flatten).map ImportLine.flatten =
      proto.lines.map ImportLine.flatten := by
    rw [List.map_map]
    exact List.map_congr_left fun line _ => ImportLine.flatten_flatten line
  rw [getD_flattenImports?, flattenImports?, lines_ofLines_map_flatten, hlines]
  exact if_pos rfl

/-- A text that has been flattened is flat. -/
theorem flattenImports?_of_eq_some (h : flattenImports? proto = some flat) :
    flattenImports? flat = none := by
  simpa only [h, Option.getD_some] using flattenImports?_getD_flattenImports? proto

end ProtoUpkeep
