import ProtoUpkeep.Proofs.Status.NewDeclarations

/-!
# The text with its doc comments replaced

The walk over the pieces makes a text again, and the insertions of the same run are looked for in
that text. It says what the codes say whose doc comments were written (`sayings_redone`), and the
landmark of the declarations stands where it stood (`exists_cutAt_redocText`): the walk leaves the
last line of every piece (`map_last_redoc`), and the second line of the landmark is neither a doc
comment line nor a declaration, so it can only stand below such a last line (`isChain_redone_iff`).
-/

namespace ProtoUpkeep

open Text Declaration Piece

/-! ## The walk over the pieces leaves their last lines -/

namespace Piece

variable {style : Style} {marker l : Text} {p : Piece} {ps : List Piece} {n : Nat}
  {pick : Declaration → Option StatusCode} {R : Text → Text → Prop}

/-- The last line of a piece. -/
def last : Piece → Text
  | line l => l
  | declaration _ l => l

/-- The walk leaves the last lines of the pieces. -/
theorem map_last_redoc (n : Nat) (ps : List Piece) :
    (redoc style marker pick n ps).map last = ps.map last := by
  induction ps generalizing n with
  | nil => rfl
  | cons p ps ih =>
    have hp : (p.redocAt style marker pick n).last = p.last := by
      cases p with
      | line l => rfl
      | declaration doc l =>
        rw [redocAt]
        cases ((declaration doc l).declaration? marker n).bind pick <;> rfl
    rw [redoc, List.map_cons, hp, ih, List.map_cons]

/-- The lines of a piece end with its last line. -/
theorem lines_eq_append_last (p : Piece) : ∃ ls, p.lines = ls ++ [p.last] := by
  cases p with
  | line l => exact ⟨[], rfl⟩
  | declaration doc l => exact ⟨doc, rfl⟩

/-- The last line of the pieces is the last one of the last piece. -/
theorem getLast?_flatMap_lines (ps : List Piece) :
    (ps.flatMap lines).getLast? = (ps.map last).getLast? := by
  obtain rfl | ⟨before, p, rfl⟩ := List.eq_nil_or_concat' ps
  · rfl
  · obtain ⟨ls, hls⟩ := lines_eq_append_last p
    rw [List.flatMap_append, List.map_append, List.flatMap_singleton, hls]
    simp

/-- A relation between neighbouring lines that holds in front of every doc comment line and every
declaration line holds throughout the lines of pieces if it holds throughout their last lines. -/
theorem isChain_flatMap_lines_iff (hR : ∀ l l', Declares l' ∨ isDocLine l' = true → R l l')
    (h : Normal ps) : (ps.flatMap lines).IsChain R ↔ (ps.map last).IsChain R := by
  induction ps with
  | nil => simp
  | cons p ps ih =>
    have hnormal : Normal ps := by cases p <;> exact h.2.2
    have hpiece : p.lines.IsChain R := by
      cases p with
      | line l => exact .singleton l
      | declaration doc l =>
        refine (List.pairwise_of_forall_mem_list fun a _ b hb => hR a b ?_).isChain
        rcases List.mem_append.1 hb with hb | hb
        · exact .inr (h.1 b hb)
        · rw [List.mem_singleton.1 hb]
          exact .inl h.2.1
    -- The first line below is that of a single line, or nothing is asked of it.
    have hhead : (∀ l' ∈ (ps.flatMap lines).head?, R p.last l') ↔
        ∀ l' ∈ (ps.map last).head?, R p.last l' := by
      cases ps with
      | nil => simp
      | cons q ps =>
        cases q with
        | line l => simp [lines, last]
        | declaration doc l =>
          have hfirst : ∀ l' ∈ ((declaration doc l :: ps).flatMap lines).head?, R p.last l' := by
            intro l' hl'
            cases doc with
            | nil =>
              rw [List.flatMap_cons, lines, List.nil_append, List.singleton_append, List.head?_cons,
                Option.mem_some] at hl'
              exact hR _ _ (.inl (hl' ▸ hnormal.2.1))
            | cons d doc =>
              rw [List.flatMap_cons, lines, List.append_assoc, List.cons_append, List.head?_cons,
                Option.mem_some] at hl'
              exact hR _ _ (.inr (hl' ▸ hnormal.1 d (by simp)))
          have hlast : ∀ l' ∈ ((declaration doc l :: ps).map last).head?, R p.last l' := by
            intro l' hl'
            rw [List.map_cons, List.head?_cons, Option.mem_some] at hl'
            exact hR _ _ (.inl (hl' ▸ hnormal.2.1))
          exact ⟨fun _ => hlast, fun _ => hfirst⟩
    obtain ⟨ls, hls⟩ := lines_eq_append_last p
    have hgetLast : ∀ l', l' ∈ p.lines.getLast? ↔ p.last = l' := fun l' => by simp [hls]
    rw [List.flatMap_cons, List.isChain_append, List.map_cons, List.isChain_cons, ih hnormal]
    simp only [hgetLast, forall_eq', hhead, hpiece, true_and, and_comm]

/-- The lines of the walk are old lines and doc comment lines of codes. -/
theorem mem_lines_redoc (h : l ∈ (redoc style marker pick n ps).flatMap lines) :
    l ∈ ps.flatMap lines ∨
      ∃ d c, pick d = some c ∧ ∃ k ∈ ps.flatMap lines, l ∈ docLines style c k := by
  induction ps generalizing n with
  | nil => exact .inl h
  | cons p ps ih =>
    rw [redoc, List.flatMap_cons, List.mem_append] at h
    rw [List.flatMap_cons]
    rcases h with h | h
    · cases p with
      | line k => exact .inl (List.mem_append_left _ h)
      | declaration doc k =>
        rw [redocAt] at h
        split at h
        · next c hc =>
          obtain ⟨d, -, hd⟩ := Option.bind_eq_some_iff.1 hc
          rcases List.mem_append.1 h with h | h
          · exact .inr ⟨d, c, hd, k, by simp [lines], h⟩
          · exact .inl (by rw [List.mem_singleton.1 h]; simp [lines])
        · exact .inl (List.mem_append_left _ h)
    · rcases ih h with h | ⟨d, c, hd, k, hk, h⟩
      · exact .inl (List.mem_append_right _ h)
      · exact .inr ⟨d, c, hd, k, List.mem_append_right _ hk, h⟩

end Piece

variable {pick : Declaration → Option StatusCode} {t before rest x : Text} {ls : List Text}
  {n : Nat}

/-! ## What the text says behind the walk -/

/-- The pieces of lines of which the first has the number `n`, with the doc comments of the codes
that `pick` gives. -/
def redone (pick : Declaration → Option StatusCode) (n : Nat) (ls : List Text) : List Piece :=
  redoc Style.default "[Deprecated]" pick n (Piece.ofLines ls)

/-- The text with the doc comments of the codes that `pick` gives. -/
def redocText (pick : Declaration → Option StatusCode) (t : Text) : Text :=
  Text.ofLines ((redone pick 0 t.lines).flatMap Piece.lines)

section

variable (hpick : ∀ d c, pick d = some c → c.WellRead ∧ c.Unmarked)

include hpick

/-- The declarations say what the codes say whose doc comments they got. -/
theorem sayings_redone (n : Nat) (ls : List Text) :
    sayings ((redone pick n ls).flatMap Piece.lines) =
      (declarations "[Deprecated]" n (Piece.ofLines ls)).map (resaid pick) := by
  rw [sayings, redone, ((normal_ofLines ls).redoc n).ofLines_eq]
  refine filterMap_says?_redoc (fun d c hc l => ?_) n _
  obtain ⟨hread, hmark⟩ := hpick d c hc
  have hblank : ∀ d ∈ l.takeWhile isBlank, isBlank d = true := fun d hd => List.mem_takeWhile_imp hd
  have := splitMarker_joinDoc hread.trimmed hmark hblank
  simpa only [docLines, List.append_assoc] using this

/-- The lines of the walk have no line feeds in them. -/
theorem newline_not_mem_redone {l : Text} (hls : ∀ l ∈ ls, '\n' ∉ l)
    (hl : l ∈ (redone pick n ls).flatMap Piece.lines) : '\n' ∉ l := by
  rcases mem_lines_redoc hl with hl | ⟨d, c, hc, k, hk, hl⟩
  · rw [flatMap_lines_ofLines] at hl
    exact hls l hl
  · rw [flatMap_lines_ofLines] at hk
    simp only [docLines, Option.mem_toList, Option.map_eq_some_iff] at hl
    obtain ⟨doc, hdoc, rfl⟩ := hl
    obtain ⟨mark, hmark, rfl⟩ := docComment?_eq_some hdoc
    have hmarks : ∀ mark ∈ docMarks, '\n' ∉ mark := by decide
    have hblank : '\n' ∉ k.takeWhile isBlank := fun hmem =>
      hls k hk ((List.takeWhile_sublist _).subset hmem)
    simp [hblank, hmarks mark hmark, (hpick d c hc).1.newline]

/-- The lines of the text behind the walk. -/
theorem lines_redocText (t : Text) :
    (redocText pick t).lines = (redone pick 0 t.lines).flatMap Piece.lines := by
  refine lines_ofLines (fun hnil => ?_) fun l hl =>
    newline_not_mem_redone hpick (fun l hl => newline_not_mem_of_mem_lines hl) hl
  have hlast := getLast?_flatMap_lines (redone pick 0 t.lines)
  rw [hnil, redone, map_last_redoc, ← getLast?_flatMap_lines, flatMap_lines_ofLines] at hlast
  exact lines_ne_nil t (List.getLast?_eq_none_iff.1 hlast.symm)

/-- The walk leaves a clean text clean if the comments hold no landmark of a switch. -/
theorem Clean.redocText (ht : Clean t) (hfree : ∀ d c, pick d = some c → SwitchFree c.comment) :
    Clean (redocText pick t) := by
  intro l hl hldoc
  rw [lines_redocText hpick] at hl
  rcases mem_lines_redoc hl with hl | ⟨d, c, hc, k, -, hl⟩
  · rw [flatMap_lines_ofLines] at hl
    exact ht l hl hldoc
  · simp only [docLines, Option.mem_toList, Option.map_eq_some_iff, List.append_assoc] at hl
    obtain ⟨doc, hdoc, rfl⟩ := hl
    exact switchFree_docLine (hpick d c hc).1.trimmed (hfree d c hc)
      (fun d hd => List.mem_takeWhile_imp hd) hdoc

end

/-! ## The landmark of the declarations behind the walk -/

/-- The second line of the landmark of the declarations, with what follows it, is neither a
declaration nor a doc comment line. -/
theorem unrecognizedCase_append (y : Text) :
    ¬ Declares (unrecognizedCase ++ y) ∧ isDocLine (unrecognizedCase ++ y) = false :=
  ⟨not_declares_of_mem (c := '(') (by decide) (List.mem_append_left y (by decide)), rfl⟩

/-- The lines of the landmark of the declarations are pieces of their own. -/
theorem ofLines_append_landmark (ls below : List Text) (x y : Text) :
    Piece.ofLines (ls ++ (x ++ unrecognizedDoc) :: (unrecognizedCase ++ y) :: below) =
      Piece.ofLines ls ++ line (x ++ unrecognizedDoc) :: line (unrecognizedCase ++ y) ::
        Piece.ofLines below := by
  have hsecond : Piece.ofLines ((unrecognizedCase ++ y) :: below) =
      line (unrecognizedCase ++ y) :: Piece.ofLines below :=
    ofLines_cons (unrecognizedCase_append y).1 (.inl (unrecognizedCase_append y).2)
  have hfirst : Piece.ofLines ((x ++ unrecognizedDoc) :: (unrecognizedCase ++ y) :: below) =
      line (x ++ unrecognizedDoc) :: line (unrecognizedCase ++ y) :: Piece.ofLines below := by
    rw [ofLines_cons (not_declares_of_mem (c := ':') (by decide)
      (List.mem_append_right x (by decide))) (.inr (by rw [hsecond]; exact loose_line _ _)),
      hsecond]
  rw [ofLines_append (.inr (by rw [hfirst]; exact loose_line _ _)), hfirst]

/-- The walk leaves the line above an insertion point. -/
theorem getLast?_redone (n : Nat) (ls : List Text) :
    ((redone pick n ls).flatMap Piece.lines).getLast? = ls.getLast? := by
  rw [getLast?_flatMap_lines, redone, map_last_redoc, ← getLast?_flatMap_lines,
    flatMap_lines_ofLines]

/-- The lines of the walk and the start of the line below have no line feeds in them. -/
theorem newline_not_mem_redone_append (hpick : ∀ d c, pick d = some c → c.WellRead ∧ c.Unmarked)
    (hls : ∀ l ∈ ls ++ [x], '\n' ∉ l) :
    ∀ l ∈ (redone pick n ls).flatMap Piece.lines ++ [x], '\n' ∉ l := by
  intro l hl
  rcases List.mem_append.1 hl with hl | hl
  · exact newline_not_mem_redone hpick (fun l hl => hls l (List.mem_append_left _ hl)) hl
  · exact hls l (List.mem_append_right _ hl)

/-- The walk leaves the places where a line could end with the first line of the landmark of the
declarations and the next one start with the second. -/
theorem isChain_redone_iff :
    ((redone pick n ls).flatMap Piece.lines).IsChain (Parted unrecognizedDoc unrecognizedCase) ↔
      ls.IsChain (Parted unrecognizedDoc unrecognizedCase) := by
  have hparted : ∀ l l', Declares l' ∨ isDocLine l' = true →
      Parted unrecognizedDoc unrecognizedCase l l' := by
    rintro l _ hl' ⟨-, y, rfl⟩
    obtain ⟨hdecl, hdoc⟩ := unrecognizedCase_append y
    rcases hl' with hl' | hl'
    · exact hdecl hl'
    · rw [hdoc] at hl'
      cases hl'
  rw [redone, isChain_flatMap_lines_iff hparted ((normal_ofLines ls).redoc n), map_last_redoc,
    ← isChain_flatMap_lines_iff hparted (normal_ofLines ls), flatMap_lines_ofLines]

/-- The walk brings in no landmark of the declarations, also in front of the start of a line. -/
theorem not_landmark_redone (hpick : ∀ d c, pick d = some c → c.WellRead ∧ c.Unmarked)
    (hls : ∀ l ∈ ls ++ [x], '\n' ∉ l)
    (h : ¬ Section.caseDeclarations.landmark <:+: Text.ofLines (ls ++ [x])) :
    ¬ Section.caseDeclarations.landmark <:+:
      Text.ofLines ((redone pick n ls).flatMap Piece.lines ++ [x]) := by
  rw [landmark_caseDeclarations, not_infix_iff_isChain (by decide) (by decide),
    lines_ofLines (by simp) hls, List.isChain_append] at h
  rw [landmark_caseDeclarations, not_infix_iff_isChain (by decide) (by decide),
    lines_ofLines (by simp) (newline_not_mem_redone_append hpick hls), List.isChain_append,
    getLast?_redone, isChain_redone_iff]
  exact h

/-- The landmark of the declarations occurs behind the walk only where it occurred before. -/
theorem landmark_of_redocText (hpick : ∀ d c, pick d = some c → c.WellRead ∧ c.Unmarked)
    (h : Section.caseDeclarations.landmark <:+: redocText pick t) :
    Section.caseDeclarations.landmark <:+: t := by
  by_contra hnot
  rw [landmark_caseDeclarations, not_infix_iff_isChain (by decide) (by decide)] at hnot
  rw [landmark_caseDeclarations] at h
  refine absurd h ((not_infix_iff_isChain (by decide) (by decide)).2 ?_)
  rw [lines_redocText hpick]
  exact isChain_redone_iff.2 hnot

/-- The walk does what is above the landmark of the declarations and what is below one after the
other. -/
theorem redone_append_landmark (pick : Declaration → Option StatusCode) (ls below : List Text)
    (x y : Text) : ∃ n,
      redone pick 0 (ls ++ (x ++ unrecognizedDoc) :: (unrecognizedCase ++ y) :: below) =
        redone pick 0 ls ++ line (x ++ unrecognizedDoc) :: line (unrecognizedCase ++ y) ::
          redone pick n below ∧
      declarations "[Deprecated]" 0
          (Piece.ofLines (ls ++ (x ++ unrecognizedDoc) :: (unrecognizedCase ++ y) :: below)) =
        declarations "[Deprecated]" 0 (Piece.ofLines ls) ++
          declarations "[Deprecated]" n (Piece.ofLines below) := by
  rw [redone, ofLines_append_landmark, redoc_append, declarations_append]
  exact ⟨_, rfl, rfl⟩

/-- The landmark of the declarations says nothing. -/
theorem sayings_landmark_cons (y : Text) (ls : List Text) :
    sayings (unrecognizedDoc :: (unrecognizedCase ++ y) :: ls) = sayings ls := by
  have hpieces := ofLines_append_landmark [] ls [] y
  rw [List.nil_append, List.nil_append] at hpieces
  rw [sayings, sayings, hpieces]
  rfl

/-- Lines with the landmark of the declarations are cut there, if it does not occur above. -/
theorem cutAt_ofLines_landmark {ls : List Text} {x : Text}
    (hnot : ¬ Section.caseDeclarations.landmark <:+: Text.ofLines (ls ++ [x])) (y : Text)
    (below : List Text) :
    Text.cutAt Section.caseDeclarations.landmark
        (Text.ofLines (ls ++ (x ++ unrecognizedDoc) :: (unrecognizedCase ++ y) :: below)) =
      some (Text.ofLines (ls ++ [x]),
        Section.caseDeclarations.landmark ++ Text.ofLines (y :: below)) := by
  rw [← cutAt_append_needle hnot (landmark_apart _ _), ← ofLines_append_ofLines,
    Text.ofLines_cons (by simp), ← append_ofLines_cons, landmark_caseDeclarations]
  simp

/-- Behind the walk the text is cut at the landmark of the declarations where it was cut before, and
its two parts say what the declarations of the old ones say with the doc comments they got. -/
theorem exists_cutAt_redocText (hpick : ∀ d c, pick d = some c → c.WellRead ∧ c.Unmarked)
    (hcut : Text.cutAt Section.caseDeclarations.landmark t = some (before, rest))
    (hopen : OpensLine before) : ∃ before' rest',
      Text.cutAt Section.caseDeclarations.landmark (redocText pick t) = some (before', rest') ∧
      OpensLine before' ∧ ∃ above below,
        Declaration.ofSwift "[Deprecated]" t = above ++ below ∧
        below.map said = (Declaration.ofSwift "[Deprecated]" rest).map said ∧
        sayings before'.lines = above.map (resaid pick) ∧
        sayings rest'.lines = below.map (resaid pick) := by
  obtain ⟨ls, x, hbefore, hx, hdoc⟩ := hopen
  obtain ⟨y, below, hrest, hlines⟩ := lines_of_cutAt hcut hbefore
  have hnl : ∀ l ∈ ls ++ [x], '\n' ∉ l := fun l hl =>
    newline_not_mem_of_mem_lines (t := before) (by rw [hbefore]; exact hl)
  obtain ⟨n, hwalk, hdecls⟩ := redone_append_landmark pick ls below x y
  rw [← hlines] at hwalk hdecls
  have hlines' : (redocText pick t).lines = (redone pick 0 ls).flatMap Piece.lines ++
      (x ++ unrecognizedDoc) :: (unrecognizedCase ++ y) ::
        (redone pick n below).flatMap Piece.lines := by
    rw [lines_redocText hpick, hwalk]
    simp [Piece.lines]
  have hbefore' : lines (Text.ofLines ((redone pick 0 ls).flatMap Piece.lines ++ [x])) =
      (redone pick 0 ls).flatMap Piece.lines ++ [x] :=
    lines_ofLines (by simp) (newline_not_mem_redone_append hpick hnl)
  have hcut' : Text.cutAt Section.caseDeclarations.landmark (redocText pick t) =
      some (Text.ofLines ((redone pick 0 ls).flatMap Piece.lines ++ [x]),
        Section.caseDeclarations.landmark ++
          Text.ofLines (y :: (redone pick n below).flatMap Piece.lines)) := by
    have hnot := not_infix_of_cutAt (by decide) hcut
    rw [← ofLines_lines before, hbefore] at hnot
    rw [← ofLines_lines (redocText pick t), hlines']
    exact cutAt_ofLines_landmark (not_landmark_redone hpick hnl hnot) y _
  refine ⟨_, _, hcut', ⟨_, x, hbefore', hx, by rwa [getLast?_redone]⟩, _, _,
    (Piece.ofSwift_eq _ _).trans hdecls, ?_, ?_, ?_⟩
  · rw [Piece.ofSwift_eq, map_said_declarations, map_said_declarations, hrest]
    exact (sayings_landmark_cons y below).symm
  · rw [hbefore', sayings_append_blanks hx, sayings_redone hpick]
  · obtain ⟨y', below', hrest', hlines''⟩ := lines_of_cutAt hcut' hbefore'
    rw [hlines', List.append_cancel_left_eq, List.cons.injEq] at hlines''
    rw [hrest', ← hlines''.2, sayings_landmark_cons, sayings_redone hpick]

end ProtoUpkeep
