import Mathlib.Logic.Relation
import ProtoUpkeep.Proofs.Status.Generated

/-!
# Insertions

What one run does to the Swift text is a row of insertions, each in front of a landmark of the text
that the ones before it have left. `Inserted` is one insertion and `Grown` a row of them; a run of
`insertSections` is such a row (`grown_insertSections`) in which every section that is not skipped
has its insertion (`inserted_of_not_skipped`). An insertion keeps every landmark
(`Inserted.landmark`) and every raw value that is mapped (`Inserted.mem_ofSwift`), so a row of them
does. What a row adds to the mapped raw values is settled section by section in
`mem_ofSwift_insertSections`.
-/

namespace ProtoUpkeep

open Text RawValues

variable {f : PerSection Text} {points : PerSection InsertionPoint} {sec : Section}
  {secs : List Section} {g t t' u before rest : Text} {n : Int}

/-! ## One insertion -/

/-- `t'` is `t` with `g` and a line feed in front of the first landmark of a section. -/
def Inserted (sec : Section) (g t t' : Text) : Prop :=
  ∃ before rest, Text.cutAt sec.landmark t = some (before, rest) ∧
    t' = before ++ (g ++ '\n' :: rest)

/-- Text is inserted exactly where the landmark is found. -/
theorem insertAt_eq_some_iff (hp : AtLandmarks points) :
    insertAt (points.get sec) g t = some t' ↔ Inserted sec g t t' := by
  unfold insertAt Inserted
  rw [hp sec t, Option.map_eq_some_iff]
  constructor
  · rintro ⟨⟨before, rest⟩, hcut, rfl⟩
    exact ⟨before, rest, hcut, by simp⟩
  · rintro ⟨before, rest, hcut, rfl⟩
    exact ⟨(before, rest), hcut, by simp⟩

/-- Nothing is inserted exactly where the landmark does not occur. -/
theorem insertAt_eq_none_iff (hp : AtLandmarks points) :
    insertAt (points.get sec) g t = none ↔ ¬ sec.landmark <:+: t := by
  unfold insertAt
  rw [hp sec t, Option.map_eq_none_iff, cutAt_eq_none_iff]

/-- What stands behind an insertion point separates. -/
theorem separates_of_cutAt (h : Text.cutAt sec.landmark t = some (before, rest)) :
    Separates rest := by
  obtain ⟨r, rfl⟩ := prefix_of_cutAt h
  exact (landmark_separates sec).append r

/-- What is mapped before and behind an insertion point. -/
theorem mem_ofSwift_of_cutAt (h : Text.cutAt sec.landmark t = some (before, rest)) :
    n ∈ ofSwift t ↔ n ∈ ofSwift before ∨ n ∈ ofSwift rest := by
  rw [← append_of_cutAt h]
  exact mem_ofSwift_append (separates_of_cutAt h) before

/-- What is mapped where generated text has been inserted: by the text up to its end, and by the
text behind it. -/
theorem mem_ofSwift_insert (h : Text.cutAt sec.landmark t = some (before, rest)) :
    n ∈ ofSwift (before ++ (g ++ '\n' :: rest)) ↔ n ∈ ofSwift (before ++ g) ∨ n ∈ ofSwift rest := by
  rw [← mem_ofSwift_append_newline (separates_of_cutAt h) (before ++ g), List.append_assoc]

/-- An insertion of text that starts with a blank keeps what is mapped. -/
theorem Inserted.mem_ofSwift (h : Inserted sec g t t') (hg : g.head?.any isBlank = true)
    (hn : n ∈ ofSwift t) : n ∈ ofSwift t' := by
  obtain ⟨before, rest, hcut, rfl⟩ := h
  rw [mem_ofSwift_insert hcut]
  rcases (mem_ofSwift_of_cutAt hcut).1 hn with hn | hn
  · exact .inl (mem_ofSwift_append_of_blank hg hn)
  · exact .inr hn

/-- An insertion of text that separates adds what the text maps. -/
theorem Inserted.mem_ofSwift_iff (h : Inserted sec g t t') (hg : Separates g) :
    n ∈ ofSwift t' ↔ n ∈ ofSwift t ∨ n ∈ ofSwift g := by
  obtain ⟨before, rest, hcut, rfl⟩ := h
  rw [mem_ofSwift_insert hcut, mem_ofSwift_of_cutAt hcut, mem_ofSwift_append hg before,
    or_right_comm]

/-- An insertion keeps the landmarks of all sections. -/
theorem Inserted.landmark (h : Inserted sec g t t') {b : Section} (hb : b.landmark <:+: t) :
    b.landmark <:+: t' := by
  obtain ⟨before, rest, hcut, rfl⟩ := h
  rw [← append_of_cutAt hcut] at hb
  have hbefore : before <+: before ++ (g ++ '\n' :: rest) := List.prefix_append ..
  have hrest : rest <:+ before ++ (g ++ '\n' :: rest) := ⟨before ++ (g ++ ['\n']), by simp⟩
  rcases infix_append_iff.1 hb with hb | hb | hb
  · exact hb.trans hbefore.isInfix
  · exact hb.trans hrest.isInfix
  · obtain ⟨r, rfl⟩ := prefix_of_cutAt hcut
    exact absurd hb (landmark_apart b sec).not_crosses

/-! ## A row of insertions -/

/-- `t'` is `t` after some insertions of fragments. -/
def Grown (f : PerSection Text) : Text → Text → Prop :=
  Relation.ReflTransGen fun t t' => ∃ sec, Inserted sec (f.get sec) t t'

/-- A row of insertions keeps the landmarks. -/
theorem Grown.landmark (h : Grown f t t') {b : Section} (hb : b.landmark <:+: t) :
    b.landmark <:+: t' := by
  induction h with
  | refl => exact hb
  | tail _ hstep ih =>
    obtain ⟨sec, hstep⟩ := hstep
    exact hstep.landmark ih

/-- A row of insertions of fragments that start with blanks keeps what is mapped. -/
theorem Grown.mem_ofSwift (h : Grown f t t') (hf : ∀ sec, (f.get sec).head?.any isBlank = true)
    (hn : n ∈ ofSwift t) : n ∈ ofSwift t' := by
  induction h with
  | refl => exact hn
  | tail _ hstep ih =>
    obtain ⟨sec, hstep⟩ := hstep
    exact hstep.mem_ofSwift (hf sec) ih

/-- Inserting in the first section and then in the others. -/
theorem insertSections_cons_of_inserted (hp : AtLandmarks points)
    (h : Inserted sec (f.get sec) t t') : insertSections points f (sec :: secs) t =
      insertSections points f secs t' := by
  rw [insertSections, (insertAt_eq_some_iff hp).2 h]

/-- A section without its landmark is skipped. -/
theorem insertSections_cons_of_not_landmark (hp : AtLandmarks points)
    (h : ¬ sec.landmark <:+: t) : insertSections points f (sec :: secs) t =
      ((insertSections points f secs t).1, sec :: (insertSections points f secs t).2) := by
  rw [insertSections, (insertAt_eq_none_iff hp).2 h]

/-- Insertion points at the landmarks insert as the markers do. -/
theorem insertSections_eq_landmarks (hp : AtLandmarks points) (secs : List Section) (t : Text) :
    insertSections points f secs t = insertSections Section.landmarks f secs t := by
  have hat : ∀ sec t, insertAt (points.get sec) (f.get sec) t =
      insertAt (Section.landmarks.get sec) (f.get sec) t := fun sec t => by
    rw [insertAt, insertAt, hp sec t]
    cases sec <;> rfl
  induction secs generalizing t with
  | nil => rfl
  | cons sec secs ih =>
    rw [insertSections, insertSections, hat]
    cases insertAt (Section.landmarks.get sec) (f.get sec) t with
    | none => rw [ih]
    | some t' => exact ih t'

/-- Where the landmark of a section occurs, there is an insertion. -/
theorem exists_inserted (sec : Section) (g : Text) (h : sec.landmark <:+: t) :
    ∃ t', Inserted sec g t t' := by
  obtain ⟨⟨before, rest⟩, hcut⟩ := Option.isSome_iff_exists.1 (isSome_cutAt_iff.2 h)
  exact ⟨_, before, rest, hcut, rfl⟩

/-- Inserting in some sections is a row of insertions. -/
theorem grown_insertSections (hp : AtLandmarks points) (secs : List Section) (t : Text) :
    Grown f t (insertSections points f secs t).1 := by
  induction secs generalizing t with
  | nil => exact .refl
  | cons sec secs ih =>
    by_cases hocc : sec.landmark <:+: t
    · obtain ⟨t', hins⟩ := exists_inserted sec (f.get sec) hocc
      rw [insertSections_cons_of_inserted hp hins]
      exact .head ⟨sec, hins⟩ (ih t')
    · rw [insertSections_cons_of_not_landmark hp hocc]
      exact ih t

/-- Only the given sections are skipped. -/
theorem skipped_subset (points : PerSection InsertionPoint) (f : PerSection Text)
    (secs : List Section) (t : Text) : (insertSections points f secs t).2 ⊆ secs := by
  induction secs generalizing t with
  | nil => simp [insertSections]
  | cons sec secs ih =>
    rw [insertSections]
    split
    · next t' _ => exact List.subset_cons_of_subset sec (ih t')
    · exact List.cons_subset_cons sec (ih t)

/-- A section that is not skipped has its fragment inserted somewhere in the row. -/
theorem inserted_of_not_skipped (hp : AtLandmarks points) (hsec : sec ∈ secs)
    (hskip : sec ∉ (insertSections points f secs t).2) : ∃ t₁ t₂, Grown f t t₁ ∧
      Inserted sec (f.get sec) t₁ t₂ ∧ Grown f t₂ (insertSections points f secs t).1 := by
  induction secs generalizing t with
  | nil => cases hsec
  | cons a secs ih =>
    by_cases hocc : a.landmark <:+: t
    · obtain ⟨t', hins⟩ := exists_inserted a (f.get a) hocc
      rw [insertSections_cons_of_inserted hp hins] at hskip ⊢
      by_cases ha : sec = a
      · subst ha
        exact ⟨t, t', .refl, hins, grown_insertSections hp secs t'⟩
      · obtain ⟨t₁, t₂, h₁, h₂, h₃⟩ := ih ((List.mem_cons.1 hsec).resolve_left ha) hskip
        exact ⟨t₁, t₂, .head ⟨a, hins⟩ h₁, h₂, h₃⟩
    · rw [insertSections_cons_of_not_landmark hp hocc] at hskip ⊢
      rw [List.mem_cons, not_or] at hskip
      exact ih ((List.mem_cons.1 hsec).resolve_left hskip.1) hskip.2

/-- A section that is skipped had no landmark when its turn came. -/
theorem not_landmark_of_skipped (hp : AtLandmarks points)
    (hskip : sec ∈ (insertSections points f secs t).2) : ¬ sec.landmark <:+: t := by
  induction secs generalizing t with
  | nil => simp [insertSections] at hskip
  | cons a secs ih =>
    by_cases hocc : a.landmark <:+: t
    · obtain ⟨t', hins⟩ := exists_inserted a (f.get a) hocc
      rw [insertSections_cons_of_inserted hp hins] at hskip
      exact fun h => ih hskip (hins.landmark h)
    · rw [insertSections_cons_of_not_landmark hp hocc] at hskip
      rcases List.mem_cons.1 hskip with rfl | hskip
      · exact hocc
      · exact ih hskip

/-- Where every section is skipped the text stays as it is. -/
theorem insertSections_of_all_skipped (hp : AtLandmarks points) (hnodup : secs.Nodup)
    (h : ∀ sec ∈ secs, sec ∈ (insertSections points f secs t).2) :
    (insertSections points f secs t).1 = t := by
  induction secs with
  | nil => rfl
  | cons a secs ih =>
    obtain ⟨ha, hnodup⟩ := List.nodup_cons.1 hnodup
    by_cases hocc : a.landmark <:+: t
    · obtain ⟨t', hins⟩ := exists_inserted a (f.get a) hocc
      rw [insertSections_cons_of_inserted hp hins] at h
      exact absurd (skipped_subset points f secs t' (h a (by simp))) ha
    · rw [insertSections_cons_of_not_landmark hp hocc] at h ⊢
      refine ih hnodup fun sec hsec => ?_
      refine (List.mem_cons.1 (h sec (by simp [hsec]))).resolve_left ?_
      rintro rfl
      exact ha hsec

/-! ## What a row of insertions adds -/

section Gains

variable {codes : List StatusCode} (hcodes : ∀ c ∈ codes, c.WellRead) (hne : codes ≠ [])

/-- The text up to the first list landmark, a dot and an identifier map the number: the text ends
there in a mapping that lacks its identifier, or maps the number before. -/
def Completes (name t : Text) (n : Int) : Prop :=
  ∃ before rest, Text.cutAt Section.allCases.landmark t = some (before, rest) ∧
    n ∈ ofSwift (before ++ '.' :: name)

theorem not_completes_of_cutAt {name : Text}
    (h : Text.cutAt Section.allCases.landmark t = none) : ¬ Completes name t n := by
  rintro ⟨before, rest, hcut, -⟩
  cases h.symm.trans hcut

theorem completes_iff_of_cutAt {name : Text}
    (h : Text.cutAt Section.allCases.landmark t = some (before, rest)) :
    Completes name t n ↔ n ∈ ofSwift (before ++ '.' :: name) := by
  constructor
  · rintro ⟨before', rest', hcut, hn⟩
    cases h.symm.trans hcut
    exact hn
  · exact fun hn => ⟨before, rest, h, hn⟩

/-- The raw values that the fragment of a section adds to those of the text `t`. -/
def Gains (codes : List StatusCode) (t : Text) : Section → Int → Prop
  | .caseDeclarations, n => ∃ c ∈ codes, n ∈ ofSwift c.comment
  | .initCases, n => ∃ c ∈ codes, c.number = n ∧ (Style.default.name c).head?.any isWord = true
  | .rawValueCases, _ => False
  | .allCases, n => ∃ c ∈ codes.head?, Completes (Style.default.name c) t n
  | .nameMap, _ => False

/-- Only what the list entries add depends on the text. -/
theorem gains_iff (h : ∀ c ∈ codes, c.WellRead) (hsec : sec ≠ .allCases) :
    n ∈ ofSwift ((Style.default.fragments codes).get sec) ↔ Gains codes t sec n := by
  cases sec with
  | caseDeclarations => exact mem_ofSwift_caseDeclarations h
  | initCases => exact mem_ofSwift_initCases h
  | rawValueCases => exact iff_of_false (not_mem_ofSwift_rawValueCases h) id
  | allCases => exact absurd rfl hsec
  | nameMap => exact iff_of_false (not_mem_ofSwift_nameMap h) id

/-- In front of a landmark where the list landmark has not been found, the search goes on behind. -/
theorem cutAt_allCases_append (hbefore : Text.cutAt Section.allCases.landmark before = none)
    (hrest : sec.landmark <+: rest) :
    Text.cutAt Section.allCases.landmark (before ++ rest) =
      (Text.cutAt Section.allCases.landmark rest).map fun p => (before ++ p.1, p.2) := by
  obtain ⟨r, rfl⟩ := hrest
  exact cutAt_append_of_none hbefore (landmark_apart .allCases sec).not_crosses

include hcodes hne

/-- Every fragment starts with a blank. -/
theorem head?_any_fragments (sec : Section) :
    ((Style.default.fragments codes).get sec).head?.any isBlank = true := by
  by_cases hsec : sec = .allCases
  · subst hsec
    obtain ⟨c, codes, rfl⟩ := List.exists_cons_of_ne_nil hne
    obtain ⟨rest, -, hshape⟩ := allCases_cons hcodes
    rw [PerSection.get, hshape]
    rfl
  · exact (separates_fragments hcodes hne hsec).head?_any

/-- The list entries add what the text up to the landmark maps with the first identifier behind. -/
theorem Inserted.mem_ofSwift_allCases
    (h : Inserted .allCases (Style.default.fragments codes).allCases t t') :
    n ∈ ofSwift t' ↔ n ∈ ofSwift t ∨ Gains codes t .allCases n := by
  obtain ⟨c, codes, rfl⟩ := List.exists_cons_of_ne_nil hne
  obtain ⟨tail, htail, hshape⟩ := allCases_cons hcodes
  obtain ⟨before, rest, hcut, rfl⟩ := h
  have hname : ':' ∉ Style.default.name c := (hcodes c (by simp)).not_mem_identifier (by decide)
  have hentry : n ∈ ofSwift (before ++ (Style.default.fragments (c :: codes)).allCases) ↔
      n ∈ ofSwift (before ++ '.' :: Style.default.name c) := by
    rw [hshape]
    exact mem_ofSwift_append_entry (List.all_iff_forall_prop.1 rfl) hname (by decide) htail
  have hkeep : n ∈ ofSwift before → n ∈ ofSwift (before ++ '.' :: Style.default.name c) := fun hn =>
    hentry.1 (mem_ofSwift_append_of_blank (by rw [hshape]; rfl) hn)
  have hgains : Gains (c :: codes) t .allCases n ↔
      n ∈ ofSwift (before ++ '.' :: Style.default.name c) := by
    rw [← completes_iff_of_cutAt hcut]
    exact ⟨fun ⟨c', hc', hn⟩ => Option.some_inj.1 hc' ▸ hn, fun hn => ⟨c, rfl, hn⟩⟩
  rw [mem_ofSwift_insert hcut, mem_ofSwift_of_cutAt hcut, hentry, hgains]
  constructor
  · rintro (hn | hn)
    · exact .inr hn
    · exact .inl (.inr hn)
  · rintro ((hn | hn) | hn)
    · exact .inl (hkeep hn)
    · exact .inr hn
    · exact .inl hn

/-- A fragment holds no list landmark, so in front of another landmark the search for it goes on
behind the fragment. -/
theorem cutAt_allCases_fragment (hbefore : Text.cutAt Section.allCases.landmark before = none)
    (hrest : sec.landmark <+: rest) :
    Text.cutAt Section.allCases.landmark
        (before ++ ((Style.default.fragments codes).get sec ++ '\n' :: rest)) =
      (Text.cutAt Section.allCases.landmark rest).map fun p =>
        (before ++ ((Style.default.fragments codes).get sec ++ '\n' :: p.1), p.2) := by
  have hcross := not_crosses_fragments hne sec before ('\n' :: rest)
  have hg := brace_not_mem_fragments hcodes sec
  generalize (Style.default.fragments codes).get sec = g at hcross hg ⊢
  have hinside : Text.cutAt Section.allCases.landmark (g ++ ['\n']) = none := by
    rw [cutAt_eq_none_iff]
    intro hinf
    have hbrace : '\x7d' ∈ g ++ ['\n'] := hinf.subset (by decide)
    simp [hg] at hbrace
  have hbehind := cutAt_allCases_append hinside hrest
  rw [List.append_assoc, List.singleton_append] at hbehind
  rw [cutAt_append_of_none hbefore hcross, hbehind, Option.map_map]
  simp [Function.comp_def]

/-- Where the first list landmark is after an insertion in another section: in front of the inserted
text as it was, or behind it. -/
theorem Inserted.cutAt_allCases (h : Inserted sec ((Style.default.fragments codes).get sec) t t')
    (hsec : sec ≠ .allCases) :
    (Text.cutAt Section.allCases.landmark t = none ∧
        Text.cutAt Section.allCases.landmark t' = none) ∨
      (∃ x y y', Text.cutAt Section.allCases.landmark t = some (x, y) ∧
        Text.cutAt Section.allCases.landmark t' = some (x, y')) ∨
      ∃ before x y, Text.cutAt Section.allCases.landmark t = some (before ++ x, y) ∧
        Text.cutAt Section.allCases.landmark t' =
          some (before ++ ((Style.default.fragments codes).get sec ++ '\n' :: x), y) ∧
        Separates x := by
  obtain ⟨before, rest, hcut, rfl⟩ := h
  have hlandmark := prefix_of_cutAt hcut
  rw [← append_of_cutAt hcut]
  cases hbefore : Text.cutAt Section.allCases.landmark before with
  | some p =>
    obtain ⟨x, y⟩ := p
    exact .inr (.inl ⟨x, _, _, cutAt_append_of_some hbefore, cutAt_append_of_some hbefore⟩)
  | none =>
    have hold := cutAt_allCases_append hbefore hlandmark
    have hnew := cutAt_allCases_fragment hcodes hne hbefore hlandmark
    cases hrest : Text.cutAt Section.allCases.landmark rest with
    | none => exact .inl ⟨by rw [hold, hrest]; rfl, by rw [hnew, hrest]; rfl⟩
    | some p =>
      obtain ⟨x, y⟩ := p
      refine .inr (.inr ⟨before, x, y, by rw [hold, hrest]; rfl, by rw [hnew, hrest]; rfl, ?_⟩)
      -- The landmark of the insertion ends before the list landmark starts.
      obtain ⟨r, hr⟩ := hlandmark
      obtain ⟨z, hz⟩ := prefix_of_cutAt hrest
      have hx : sec.landmark <+: x := landmark_prefix_of_append hsec (r := r) (z := z) (by
        rw [hr, hz, append_of_cutAt hrest])
      obtain ⟨z, rfl⟩ := hx
      exact (landmark_separates sec).append z

/-- An insertion in another section changes what the list entries will complete by what the inserted
text maps. -/
theorem Inserted.completes_iff (h : Inserted sec ((Style.default.fragments codes).get sec) t t')
    (hsec : sec ≠ .allCases) {name : Text} :
    (Completes name t n → Completes name t' n) ∧ (Completes name t' n →
      Completes name t n ∨ n ∈ ofSwift ((Style.default.fragments codes).get sec)) := by
  have hg := separates_fragments hcodes hne hsec
  rcases h.cutAt_allCases hcodes hne hsec with
    ⟨h₁, h₂⟩ | ⟨x, y, y', h₁, h₂⟩ | ⟨before, x, y, h₁, h₂, hx⟩
  · exact ⟨fun hn => absurd hn (not_completes_of_cutAt h₁),
      fun hn => absurd hn (not_completes_of_cutAt h₂)⟩
  · rw [completes_iff_of_cutAt h₁, completes_iff_of_cutAt h₂]
    exact ⟨id, .inl⟩
  · rw [completes_iff_of_cutAt h₁, completes_iff_of_cutAt h₂]
    have hsep := hx.append ('.' :: name)
    have hold : n ∈ ofSwift (before ++ x ++ '.' :: name) ↔
        n ∈ ofSwift before ∨ n ∈ ofSwift (x ++ '.' :: name) := by
      rw [List.append_assoc]
      exact mem_ofSwift_append hsep before
    have hnew : n ∈ ofSwift (before ++ ((Style.default.fragments codes).get sec ++ '\n' :: x) ++
        '.' :: name) ↔
          (n ∈ ofSwift before ∨ n ∈ ofSwift ((Style.default.fragments codes).get sec)) ∨
          n ∈ ofSwift (x ++ '.' :: name) := by
      rw [← mem_ofSwift_append hg before, ← mem_ofSwift_append_newline hsep
        (before ++ (Style.default.fragments codes).get sec)]
      simp
    rw [hold, hnew]
    constructor
    · rintro (hn | hn)
      · exact .inl (.inl hn)
      · exact .inr hn
    · rintro ((hn | hn) | hn)
      · exact .inl (.inl hn)
      · exact .inr hn
      · exact .inl (.inr hn)

/-- An insertion in one section changes what another one gains by what the first one gains. -/
theorem Inserted.gains_iff (h : Inserted sec ((Style.default.fragments codes).get sec) t t')
    {b : Section} (hb : b ≠ sec) : (Gains codes t b n → Gains codes t' b n) ∧
      (Gains codes t' b n → Gains codes t b n ∨ Gains codes t sec n) := by
  by_cases hlist : b = .allCases
  · subst hlist
    have hcompletes : ∀ name, (Completes name t n → Completes name t' n) ∧
        (Completes name t' n → Completes name t n ∨
          n ∈ ofSwift ((Style.default.fragments codes).get sec)) := fun name =>
      h.completes_iff hcodes hne hb.symm
    constructor
    · rintro ⟨c, hc, hn⟩
      exact ⟨c, hc, (hcompletes _).1 hn⟩
    · rintro ⟨c, hc, hn⟩
      rcases (hcompletes _).2 hn with hn | hn
      · exact .inl ⟨c, hc, hn⟩
      · exact .inr ((ProtoUpkeep.gains_iff hcodes hb.symm).1 hn)
  · have hsame : Gains codes t b n ↔ Gains codes t' b n :=
      (ProtoUpkeep.gains_iff hcodes hlist).symm.trans (ProtoUpkeep.gains_iff hcodes hlist)
    exact ⟨hsame.1, fun hn => .inl (hsame.2 hn)⟩

/-- An insertion maps what the text maps and what its section gains. -/
theorem Inserted.mem_ofSwift_gains
    (h : Inserted sec ((Style.default.fragments codes).get sec) t t') :
    n ∈ ofSwift t' ↔ n ∈ ofSwift t ∨ Gains codes t sec n := by
  by_cases hsec : sec = .allCases
  · subst hsec
    exact h.mem_ofSwift_allCases hcodes hne
  · rw [h.mem_ofSwift_iff (separates_fragments hcodes hne hsec), ProtoUpkeep.gains_iff hcodes hsec]

/-- A row of insertions in different sections maps what the text maps and what each section that is
not skipped gains. -/
theorem mem_ofSwift_insertSections (hp : AtLandmarks points) (hnodup : secs.Nodup) :
    n ∈ ofSwift (insertSections points (Style.default.fragments codes) secs t).1 ↔
      n ∈ ofSwift t ∨ ∃ sec ∈ secs,
        sec ∉ (insertSections points (Style.default.fragments codes) secs t).2 ∧
          Gains codes t sec n := by
  induction secs generalizing t with
  | nil => simp [insertSections]
  | cons a secs ih =>
    obtain ⟨ha, hnodup⟩ := List.nodup_cons.1 hnodup
    have hother : ∀ sec ∈ secs, sec ≠ a := by
      rintro sec hsec rfl
      exact ha hsec
    by_cases hocc : a.landmark <:+: t
    · obtain ⟨t', hins⟩ := exists_inserted a ((Style.default.fragments codes).get a) hocc
      rw [insertSections_cons_of_inserted hp hins, ih hnodup, hins.mem_ofSwift_gains hcodes hne]
      have haskip : a ∉ (insertSections points (Style.default.fragments codes) secs t').2 :=
        fun h => ha (skipped_subset _ _ _ t' h)
      have hgains := fun {sec} (hsec : sec ∈ secs) =>
        hins.gains_iff (n := n) hcodes hne (hother sec hsec)
      constructor
      · rintro ((hn | hn) | ⟨sec, hsec, hskip, hn⟩)
        · exact .inl hn
        · exact .inr ⟨a, by simp, haskip, hn⟩
        · rcases (hgains hsec).2 hn with hn | hn
          · exact .inr ⟨sec, by simp [hsec], hskip, hn⟩
          · exact .inr ⟨a, by simp, haskip, hn⟩
      · rintro (hn | ⟨sec, hsec, hskip, hn⟩)
        · exact .inl (.inl hn)
        · rcases List.mem_cons.1 hsec with rfl | hsec
          · exact .inl (.inr hn)
          · exact .inr ⟨sec, hsec, hskip, (hgains hsec).1 hn⟩
    · rw [insertSections_cons_of_not_landmark hp hocc, ih hnodup]
      constructor
      · rintro (hn | ⟨sec, hsec, hskip, hn⟩)
        · exact .inl hn
        · exact .inr ⟨sec, by simp [hsec], by simp [hskip, hother sec hsec], hn⟩
      · rintro (hn | ⟨sec, hsec, hskip, hn⟩)
        · exact .inl hn
        · rw [List.mem_cons, not_or] at hskip
          exact .inr ⟨sec, (List.mem_cons.1 hsec).resolve_left hskip.1, hskip.2, hn⟩

end Gains

end ProtoUpkeep
