import ProtoUpkeep.Proofs.Status.Insertion
import ProtoUpkeep.Proofs.Status.Redoc

/-!
# What the declarations of a text say

`said` lists what the declarations of a text say, from top to bottom. What is written for a code is
read back as the code (`splitMarker_joinDoc`), with one exception that the source has to rule out:
the comment of a code that is not deprecated must not start like the deprecation marker
(`StatusCode.Unmarked`). A text that is cut at a line feed says what its two parts say, if no doc
comment reaches over the cut (`said_append`); so text inserted there adds what it says itself, and
text without declarations adds nothing.
-/

namespace ProtoUpkeep

open Text Declaration

variable {code : StatusCode} {b l t u v text : Text}

/-! ## Doc comments are read as they are written -/

/-- What a doc comment line says that was written for a text. -/
theorem docText_append (hb : ∀ c ∈ b, isBlank c = true) (ht : Trimmed text) (hne : text ≠ []) :
    docText (b ++ ("/// ".toList ++ text)) = text := by
  have hlast : ("/// ".toList ++ text).getLast? = text.getLast? := by
    rw [List.getLast?_append_of_ne_nil _ hne]
  have hline : trim (b ++ ("/// ".toList ++ text)) = "/// ".toList ++ text := by
    have := trim_append (b := []) hb (t := "/// ".toList ++ text) ⟨rfl, by rw [hlast]; exact ht.2⟩
      (by simp)
    simpa using this
  have htext : trim ([' '] ++ text) = text := by
    simpa using trim_append (a := [' ']) (b := []) (List.all_iff_forall_prop.1 rfl) ht (by simp)
  rw [docText, hline]
  exact htext

/-- A comment that cannot be taken for one with the deprecation marker. -/
def StatusCode.Unmarked (c : StatusCode) : Prop :=
  c.deprecated = false → ¬ "[Deprecated]".toList <+: c.comment

instance : DecidablePred StatusCode.Unmarked := fun c =>
  inferInstanceAs (Decidable (c.deprecated = false → ¬ "[Deprecated]".toList <+: c.comment))

/-- What a doc comment line of a code says is split into the comment and the deprecation of the
code. -/
theorem splitMarker_joinDoc (h : Trimmed code.comment) (hmark : code.Unmarked)
    (hb : ∀ c ∈ b, isBlank c = true) :
    splitMarker "[Deprecated]"
      (joinDoc ((Style.default.docComment? code.comment code.deprecated).map fun text =>
        b ++ ("/// ".toList ++ text)).toList) = (code.comment, code.deprecated) := by
  have hone : ∀ {text : Text}, Trimmed text → text ≠ [] →
      joinDoc [b ++ ("/// ".toList ++ text)] = text := by
    intro text ht hne
    rw [joinDoc, List.map_singleton, docText_append hb ht hne]
    simp [hne, joinWith]
  have hmarker : Style.default.marker = "[Deprecated]".toList := rfl
  unfold Style.docComment?
  rw [hmarker]
  cases hempty : code.comment.isEmpty <;> cases hdep : code.deprecated
  · have hne : code.comment ≠ [] := by simpa using hempty
    have hdrop := dropHead?_eq_none_iff.2 (hmark hdep)
    simp only [Option.map_some, Option.toList_some, hone h hne, splitMarker, hdrop]
  · have hne : code.comment ≠ [] := by simpa using hempty
    have htrim : Trimmed ("[Deprecated]".toList ++ ' ' :: code.comment) := by
      have hshape : "[Deprecated]".toList ++ ' ' :: code.comment =
          "[Deprecated] ".toList ++ code.comment := by simp
      refine ⟨rfl, ?_⟩
      rw [hshape, List.getLast?_append_of_ne_nil _ hne]
      exact h.2
    have hblank : trim ([' '] ++ code.comment) = code.comment := by
      simpa using trim_append (a := [' ']) (b := []) (List.all_iff_forall_prop.1 rfl) h
        (by simp)
    simp only [Option.map_some, Option.toList_some, hone htrim (by simp), splitMarker,
      dropHead?_append]
    exact Prod.ext hblank rfl
  · rw [List.isEmpty_iff.1 hempty]
    rfl
  · rw [List.isEmpty_iff.1 hempty]
    have hmarkerOnly : joinDoc [b ++ ("/// ".toList ++ "[Deprecated]".toList)] =
        "[Deprecated]".toList := hone (by decide) (by decide)
    simp only [Option.map_some, Option.toList_some, hmarkerOnly]
    rfl

/-! ## What lines say -/

open Piece

variable {ls ls' : List Text} {x y : Text}

/-- What the declarations on the lines say under the default settings. -/
def sayings (ls : List Text) : List Saying := (Piece.ofLines ls).filterMap (says? "[Deprecated]")

/-- Where no doc comment reaches over the seam, two parts say what each of them says. -/
theorem sayings_append (h : ls.getLast?.any isDocLine = false ∨ Loose (Piece.ofLines ls')) :
    sayings (ls ++ ls') = sayings ls ++ sayings ls' := by
  rw [sayings, Piece.ofLines_append h, List.filterMap_append]
  rfl

/-- Lines that declare nothing say nothing. -/
theorem sayings_of_not_declares (h : ∀ l ∈ ls, ¬ Declares l) : sayings ls = [] := by
  rw [sayings, ofLines_of_not_declares h, List.filterMap_map]
  exact List.filterMap_eq_nil_iff.2 fun l _ => rfl

/-- Lines that declare nothing are loose. -/
theorem loose_of_not_declares (h : ∀ l ∈ ls, ¬ Declares l) : Loose (Piece.ofLines ls) := by
  rw [ofLines_of_not_declares h]
  cases ls with
  | nil => rintro _ _ _ ⟨⟩
  | cons l ls => exact loose_line l _

/-- A line that neither declares nor documents says nothing. -/
theorem sayings_cons (hl : ¬ Declares l) (h : isDocLine l = false ∨ Loose (Piece.ofLines ls)) :
    sayings (l :: ls) = sayings ls ∧ Loose (Piece.ofLines (l :: ls)) := by
  rw [sayings, ofLines_cons hl h]
  exact ⟨rfl, loose_line l _⟩

/-! ## Text without declarations is inserted -/

/-- Behind some text, a line that starts with a blank is a doc comment line only if the text makes
it one. -/
theorem isDocLine_append (hy : y.head?.any isBlank = true) (hdoc : isDocLine y = false) :
    isDocLine (x ++ y) = isDocLine x := by
  obtain ⟨e, y, rfl⟩ : ∃ e y', y = e :: y' := by cases y <;> simp_all
  have he : '/' ≠ e := by
    rintro rfl
    rw [List.head?_cons, Option.any_some] at hy
    exact absurd hy (by decide)
  obtain ⟨b, hb, hx, hhead⟩ := exists_trimStart x
  have hxdoc : isDocLine x = startsWith (trimStart x) "///" := rfl
  have hxydoc : isDocLine (x ++ e :: y) = startsWith (trimStart (x ++ e :: y)) "///" := rfl
  generalize trimStart x = r at hx hhead hxdoc
  subst hx
  cases r with
  | nil =>
    have htrim : trimStart (b ++ [] ++ e :: y) = trimStart (e :: y) := by
      rw [List.append_nil, trimStart, List.dropWhile_append_of_pos hb]
      rfl
    rw [hxdoc, hxydoc, htrim]
    exact hdoc
  | cons d r =>
    have htrim : trimStart (b ++ d :: r ++ e :: y) = d :: r ++ e :: y := by
      rw [List.append_assoc]
      exact trimStart_append hb (by simpa using hhead)
    rw [hxdoc, hxydoc, htrim]
    -- Only where fewer than three characters stand in front could the mark reach over the seam.
    rcases r with _ | ⟨d₂, _ | ⟨d₃, r⟩⟩ <;> simp [startsWith, List.isPrefixOf, he]

/-- What the lines around an insertion point say: the line of the point says nothing and parts what
is above it from what is below. -/
theorem sayings_insert_line (hxy : ¬ Declares (x ++ y))
    (hdoc : isDocLine (x ++ y) = false ∨ Loose (Piece.ofLines ls')) :
    sayings (ls ++ (x ++ y) :: ls') = sayings ls ++ sayings ls' := by
  obtain ⟨hsay, hloose⟩ := sayings_cons hxy hdoc
  rw [sayings_append (.inr hloose), hsay]

/-- Lines without declarations put in at an insertion point change nothing that is said. -/
theorem sayings_insert_lines {new : List Text} (hnew : ∀ l ∈ new, ¬ Declares l)
    (hxy : ¬ Declares (x ++ y)) (hdoc : isDocLine (x ++ y) = false ∨ Loose (Piece.ofLines ls'))
    (hy : ¬ Declares y) (hydoc : isDocLine y = false) :
    sayings (ls ++ new ++ y :: ls') = sayings (ls ++ (x ++ y) :: ls') := by
  obtain ⟨hsay, hloose⟩ : sayings (y :: ls') = sayings ls' ∧ Loose (Piece.ofLines (y :: ls')) :=
    sayings_cons hy (.inl hydoc)
  rw [sayings_insert_line hxy hdoc, sayings_append (.inr hloose), hsay,
    sayings_append (.inr (loose_of_not_declares hnew)), sayings_of_not_declares hnew,
    List.append_nil]

/-- The section is one of the two switches, whose landmarks are single lines. -/
def Section.IsSwitch (sec : Section) : Prop := sec = .initCases ∨ sec = .rawValueCases

instance : DecidablePred Section.IsSwitch := fun sec =>
  inferInstanceAs (Decidable (sec = .initCases ∨ sec = .rawValueCases))

/-- The first line of a landmark beside that of the declarations: it has a character that no
declaration line has, it is no doc comment line, and it holds the whole landmark unless the line
below it is loose. -/
theorem landmark_first_line {sec : Section} (hsec : sec ≠ .caseDeclarations) (r : Text) :
    ∃ first others, lines (sec.landmark ++ r) = first :: others ∧ isDocLine first = false ∧
      (∃ d ∈ first, ¬ InDeclaration d) ∧
        (¬ sec.IsSwitch ∧ Loose (Piece.ofLines others) ∨
          sec.IsSwitch ∧ sec.landmark <+: first) := by
  obtain ⟨y, others, hr⟩ := exists_lines_eq_cons r
  have hone : '\n' ∉ sec.landmark → lines (sec.landmark ++ r) = (sec.landmark ++ y) :: others :=
    fun h => lines_append_of_not_mem h hr
  have hbrace : ∀ {w u : Text}, lines (w ++ '\n' :: '\x7d' :: '\n' :: u) =
      lines w ++ ['\x7d'] :: lines u := fun {w u} => by
    rw [lines_append_cons, show '\x7d' :: '\n' :: u = ['\x7d'] ++ '\n' :: u from rfl,
      lines_append_cons]
    rfl
  have hloose : ∀ ls, Loose (Piece.ofLines (['\x7d'] :: ls)) := fun ls => by
    rw [ofLines_cons (not_declares_of_mem (c := '\x7d') (by decide) (by simp)) (.inl (by decide))]
    exact loose_line _ _
  cases sec with
  | caseDeclarations => exact absurd rfl hsec
  | initCases =>
    refine ⟨_, _, hone (by decide), rfl, ⟨':', ?_, by decide⟩,
      .inr ⟨by decide, List.prefix_append ..⟩⟩
    exact List.mem_append_left _ (by decide)
  | rawValueCases =>
    refine ⟨_, _, hone (by decide), rfl, ⟨':', ?_, by decide⟩,
      .inr ⟨by decide, List.prefix_append ..⟩⟩
    exact List.mem_append_left _ (by decide)
  | allCases =>
    refine ⟨"    ]".toList, _, (hbrace (w := "    ]".toList)
      (u := "\n// minimal edit from proto-generated file:".toList ++ r)).trans rfl, rfl,
      ⟨']', by decide, by decide⟩, .inl ⟨by decide, hloose _⟩⟩
  | nameMap =>
    refine ⟨"        ]".toList, _, (hbrace (w := "        ]".toList)
      (u := "\nextension Status: Sendable".toList ++ r)).trans rfl, rfl,
      ⟨']', by decide, by decide⟩, .inl ⟨by decide, hloose _⟩⟩

/-- The lines of joined entries behind some text. -/
theorem lines_append_entries {codes : List StatusCode} {entry : StatusCode → Text} {c : StatusCode}
    (hx : '\n' ∉ x) (hentry : ∀ c' ∈ c :: codes, '\n' ∉ entry c') :
    lines (x ++ Text.ofLines ((c :: codes).map entry)) = (x ++ entry c) :: codes.map entry := by
  rw [List.map_cons, append_ofLines_cons]
  refine lines_ofLines (by simp) fun l hl => ?_
  rcases List.mem_cons.1 hl with rfl | hl
  · rw [List.mem_append, not_or]
    exact ⟨hx, hentry c (by simp)⟩
  · obtain ⟨c', hc', rfl⟩ := List.mem_map.1 hl
    exact hentry c' (by simp [hc'])

/-- What the entries of a section beside that of the declarations are: joined lines, each with a
character that no declaration line has. -/
theorem fragments_entries {codes : List StatusCode} (h : ∀ c ∈ codes, c.WellRead) {sec : Section}
    (hsec : sec ≠ .caseDeclarations) : ∃ entry : StatusCode → Text,
      (Style.default.fragments codes).get sec = Text.ofLines (codes.map entry) ∧
      ∀ c ∈ codes, '\n' ∉ entry c ∧ (∃ d ∈ entry c, ¬ InDeclaration d) ∧
        (entry c).head?.any isBlank = true ∧ isDocLine (entry c) = false := by
  have hd : ¬ IsNameChar '\n' := by decide
  cases sec with
  | caseDeclarations => exact absurd rfl hsec
  | initCases =>
    refine ⟨Style.default.initCase, rfl, fun c hc => ⟨?_, ⟨':', ?_, by decide⟩, ?_, ?_⟩⟩ <;>
      unfold Style.initCase
    · simp [(h c hc).not_mem_identifier hd, (h c hc).numbered.not_mem_number hd]
    · simp
    · rfl
    · rfl
  | rawValueCases =>
    refine ⟨Style.default.rawValueCase, rfl, fun c hc => ⟨?_, ⟨':', ?_, by decide⟩, ?_, ?_⟩⟩ <;>
      unfold Style.rawValueCase
    · simp [(h c hc).not_mem_identifier hd, (h c hc).numbered.not_mem_number hd]
    · simp
    · rfl
    · rfl
  | allCases =>
    refine ⟨Style.default.allCasesEntry, rfl, fun c hc => ⟨?_, ⟨',', ?_, by decide⟩, ?_, ?_⟩⟩ <;>
      unfold Style.allCasesEntry
    · simp [(h c hc).not_mem_identifier hd]
    · simp
    · rfl
    · rfl
  | nameMap =>
    refine ⟨Style.nameMapEntry, rfl, fun c hc => ⟨?_, ⟨':', ?_, by decide⟩, ?_, ?_⟩⟩ <;>
      unfold Style.nameMapEntry
    · simp [(h c hc).not_mem_name hd, (h c hc).numbered.not_mem_number hd]
    · simp
    · rfl
    · have hslash : '/' ∉ Text.ofInt c.number := (h c hc).numbered.not_mem_number (by decide)
      obtain ⟨k, -, -, hofInt⟩ := (h c hc).numbered.ofInt_number
      obtain ⟨d, ds, hds⟩ := List.exists_cons_of_ne_nil (ofNat_ne_nil k)
      have hdigit : isBlank d = false :=
        isBlank_of_isDigit (isDigit_of_mem_ofNat (n := k) (by rw [hds]; simp))
      rw [hofInt, hds] at hslash ⊢
      have hne : '/' ≠ d := fun h => hslash (h ▸ List.mem_cons_self)
      simp only [List.append_assoc]
      rw [isDocLine, trimStart_append (List.all_iff_forall_prop.1 rfl) (by simpa using hdigit)]
      simp [startsWith, List.isPrefixOf, hne]

/-- The text holds no landmark of a switch. -/
def SwitchFree (t : Text) : Prop := ∀ sec : Section, sec.IsSwitch → ¬ sec.landmark <:+: t

instance : DecidablePred SwitchFree := fun t =>
  decidable_of_iff
    (¬ Section.initCases.landmark <:+: t ∧ ¬ Section.rawValueCases.landmark <:+: t) <| by
      simp [SwitchFree, Section.IsSwitch]

/-- No doc comment line of the text holds the landmark of a switch. -/
def Clean (t : Text) : Prop := ∀ l ∈ t.lines, isDocLine l = true → SwitchFree l

instance : DecidablePred Clean := fun t =>
  inferInstanceAs (Decidable (∀ l ∈ t.lines, isDocLine l = true → SwitchFree l))

/-- A line of a clean text that ends in the landmark of a switch, or goes on with it, is no doc
comment. -/
theorem Clean.isDocLine_eq_false {sec : Section} (h : Clean t) (hl : x ++ y ∈ t.lines)
    (hswitch : sec.IsSwitch) (hy : sec.landmark <+: y) : isDocLine (x ++ y) = false := by
  by_contra hdoc
  rw [Bool.not_eq_false] at hdoc
  exact h (x ++ y) hl hdoc sec hswitch (hy.isInfix.trans (List.suffix_append x y).isInfix)

/-- The landmark of a switch starts with a blank. -/
theorem head?_any_of_isSwitch {sec : Section} (hswitch : sec.IsSwitch) (hy : sec.landmark <+: y) :
    y.head?.any isBlank = true := by
  obtain ⟨z, rfl⟩ := hy
  rcases hswitch with rfl | rfl <;> rfl

section Inserted

variable {codes : List StatusCode} {sec : Section} {t' : Text}

/-- The lines around an insertion in a section beside that of the declarations. -/
theorem Inserted.lines_eq (hcodes : ∀ c ∈ codes, c.WellRead) (hne : codes ≠ [])
    (hsec : sec ≠ .caseDeclarations) (hclean : sec.IsSwitch → Clean t)
    (h : Inserted sec ((Style.default.fragments codes).get sec) t t') : ∃ ls x new y ls',
      t.lines = ls ++ (x ++ y) :: ls' ∧ t'.lines = ls ++ new ++ y :: ls' ∧
      (∀ l ∈ new, ¬ Declares l) ∧ ¬ Declares (x ++ y) ∧ ¬ Declares y ∧ isDocLine y = false ∧
      (¬ sec.IsSwitch ∧ Loose (Piece.ofLines ls') ∨
        isDocLine (x ++ y) = false ∧ ∀ l ∈ new, isDocLine l = false) := by
  obtain ⟨before, rest, hcut, rfl⟩ := h
  obtain ⟨ls, x, hbefore⟩ := exists_lines_eq_append before
  obtain ⟨r, rfl⟩ := prefix_of_cutAt hcut
  obtain ⟨y, ls', hrest, hydoc, ⟨d, hd, hdecl⟩, hfirst⟩ := landmark_first_line hsec r
  have ht : t.lines = ls ++ (x ++ y) :: ls' := by
    rw [← append_of_cutAt hcut]
    exact Text.lines_append hbefore hrest
  have hx : '\n' ∉ x := newline_not_mem_of_mem_lines (t := before) (by simp [hbefore])
  obtain ⟨entry, hg, hentry⟩ := fragments_entries hcodes hsec
  obtain ⟨c, codes, rfl⟩ := List.exists_cons_of_ne_nil hne
  have hnew : lines (before ++ (Style.default.fragments (c :: codes)).get sec) =
      ls ++ (x ++ entry c) :: codes.map entry := by
    have hlines := lines_append_entries (x := []) (by simp) fun c' hc' => (hentry c' hc').1
    rw [hg]
    exact Text.lines_append hbefore hlines
  have ht' : lines (before ++ ((Style.default.fragments (c :: codes)).get sec ++
      '\n' :: (sec.landmark ++ r))) =
        ls ++ ((x ++ entry c) :: codes.map entry) ++ y :: ls' := by
    rw [← List.append_assoc before, lines_append_cons, hnew, hrest]
  obtain ⟨⟨-, ⟨d', hd', hdecl'⟩, hblank, hdoc⟩, hothers⟩ := List.forall_mem_cons.1 hentry
  have hdeclares : ∀ l ∈ (x ++ entry c) :: codes.map entry, ¬ Declares l := by
    rw [List.forall_mem_cons, List.forall_mem_map]
    refine ⟨not_declares_of_mem hdecl' (List.mem_append_right x hd'), fun c' hc' => ?_⟩
    obtain ⟨-, ⟨d, hd, hdecl⟩, -⟩ := hothers c' hc'
    exact not_declares_of_mem hdecl hd
  refine ⟨ls, x, _, y, ls', ht, ht', hdeclares,
    not_declares_of_mem hdecl (List.mem_append_right x hd), not_declares_of_mem hdecl hd, hydoc, ?_⟩
  rcases hfirst with hloose | ⟨hswitch, hstart⟩
  · exact .inl hloose
  · have hxy : isDocLine (x ++ y) = false :=
      (hclean hswitch).isDocLine_eq_false (by rw [ht]; simp) hswitch hstart
    have hxdoc : isDocLine x = false := by
      rw [← isDocLine_append (head?_any_of_isSwitch hswitch hstart) hydoc, hxy]
    refine .inr ⟨hxy, ?_⟩
    rw [List.forall_mem_cons, List.forall_mem_map]
    exact ⟨by rw [isDocLine_append hblank hdoc, hxdoc], fun c' hc' => (hothers c' hc').2.2.2⟩

/-- An insertion in a section beside that of the declarations leaves what is said. -/
theorem Inserted.sayings_eq (hcodes : ∀ c ∈ codes, c.WellRead) (hne : codes ≠ [])
    (hsec : sec ≠ .caseDeclarations) (hclean : sec.IsSwitch → Clean t)
    (h : Inserted sec ((Style.default.fragments codes).get sec) t t') :
    sayings t'.lines = sayings t.lines := by
  obtain ⟨ls, x, new, y, ls', ht, ht', hnew, hxy, hy, hydoc, hdoc⟩ :=
    h.lines_eq hcodes hne hsec hclean
  rw [ht, ht']
  exact sayings_insert_lines hnew hxy (hdoc.symm.imp And.left And.right) hy hydoc

/-- An insertion in a switch leaves the doc comments clean. -/
theorem Inserted.clean (hcodes : ∀ c ∈ codes, c.WellRead) (hne : codes ≠ []) (hsec : sec.IsSwitch)
    (hclean : Clean t) (h : Inserted sec ((Style.default.fragments codes).get sec) t t') :
    Clean t' := by
  have hdecl : sec ≠ .caseDeclarations := by
    rintro rfl
    exact absurd hsec (by decide)
  obtain ⟨ls, x, new, y, ls', ht, ht', -, -, -, hydoc, hdoc⟩ :=
    h.lines_eq hcodes hne hdecl fun _ => hclean
  rcases hdoc with ⟨hnot, -⟩ | ⟨-, hnew⟩
  · exact absurd hsec hnot
  · intro l hl hldoc
    rw [ht'] at hl
    simp only [List.mem_append, List.mem_cons] at hl
    rcases hl with (hl | hl) | rfl | hl
    · exact hclean l (by rw [ht]; simp [hl]) hldoc
    · rw [hnew l hl] at hldoc
      cases hldoc
    · rw [hydoc] at hldoc
      cases hldoc
    · exact hclean l (by rw [ht]; simp [hl]) hldoc

end Inserted

end ProtoUpkeep
