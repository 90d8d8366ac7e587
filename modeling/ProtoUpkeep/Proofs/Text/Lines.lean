import Mathlib.Data.List.Chain
import ProtoUpkeep.Text.Basic

/-!
# Pieces and lines

The pieces of a text between separators hold the characters of the text without the separators
(`mem_pieces_iff`), and cutting a text at a separator cuts the list of its pieces
(`pieces_append_cons`). Lines are the pieces between line feeds.
-/

namespace ProtoUpkeep.Text

variable {sep c : Char} {t u v : Text}

/-- The pieces of a text whose first character is known. -/
theorem pieces_cons (sep c : Char) (t : Text) : pieces sep (c :: t) =
    if c = sep then [] :: pieces sep t else (pieces sep t).modifyHead (c :: ·) := by
  unfold pieces
  rw [List.splitOn_cons_eq_if_modifyHead]
  by_cases h : c = sep <;> simp [h]

/-- The characters of the pieces are the characters of the text that are not the separator. -/
theorem mem_pieces_iff : (∃ p ∈ pieces sep t, c ∈ p) ↔ c ∈ t ∧ c ≠ sep := by
  induction t with
  | nil => simp [pieces]
  | cons d t ih =>
    rw [pieces_cons]
    split
    · next hsep =>
      subst hsep
      simp only [List.mem_cons, exists_eq_or_imp, List.not_mem_nil, false_or, ih]
      constructor
      · rintro ⟨h, hne⟩
        exact ⟨.inr h, hne⟩
      · rintro ⟨h | h, hne⟩
        · exact absurd h hne
        · exact ⟨h, hne⟩
    · next hsep =>
      obtain ⟨p, ps, hps⟩ := List.exists_cons_of_ne_nil (List.splitOn_ne_nil sep t)
      have hps : pieces sep t = p :: ps := hps
      rw [hps] at ih ⊢
      simp only [List.modifyHead_cons, List.mem_cons, exists_eq_or_imp] at ih ⊢
      rw [or_assoc, ih]
      constructor
      · rintro (rfl | ⟨h, hne⟩)
        · exact ⟨.inl rfl, hsep⟩
        · exact ⟨.inr h, hne⟩
      · rintro ⟨rfl | h, hne⟩
        · exact .inl rfl
        · exact .inr ⟨h, hne⟩

/-- A text is cut into pieces on both sides of a separator. -/
theorem pieces_append_cons (u v : Text) :
    pieces sep (u ++ sep :: v) = pieces sep u ++ pieces sep v :=
  List.splitOn_append_cons_self u v

/-! ## Joined texts -/

/-- No piece holds the separator. -/
theorem not_mem_of_mem_pieces {p : Text} (h : p ∈ pieces sep t) : sep ∉ p := fun hmem =>
  (mem_pieces_iff.1 ⟨p, h, hmem⟩).2 rfl

/-- A text without the separator is its only piece. -/
theorem pieces_of_not_mem (h : sep ∉ t) : pieces sep t = [t] := List.splitOn_eq_singleton h

/-- The pieces of a text joined again. -/
theorem joinWith_pieces (sep : Char) (t : Text) : joinWith [sep] (pieces sep t) = t :=
  List.intercalate_splitOn sep

/-- Texts without the separator are the pieces of the text that they are joined into. -/
theorem pieces_joinWith {us : List Text} (hne : us ≠ []) (h : ∀ p ∈ us, sep ∉ p) :
    pieces sep (joinWith [sep] us) = us := List.splitOn_intercalate sep h hne

/-- A single text is joined to nothing. -/
theorem joinWith_singleton (sep t : Text) : joinWith sep [t] = t := by simp [joinWith]

/-- A text in front of others. -/
theorem joinWith_cons {sep : Text} {ts : List Text} (h : ts ≠ []) :
    joinWith sep (t :: ts) = t ++ (sep ++ joinWith sep ts) := by
  obtain ⟨u, ts, rfl⟩ := List.exists_cons_of_ne_nil h
  simp [joinWith, List.intercalate_cons_cons]

/-- Texts in front of others. -/
theorem joinWith_append {sep : Text} {ts us : List Text} (ht : ts ≠ []) (hu : us ≠ []) :
    joinWith sep (ts ++ us) = joinWith sep ts ++ (sep ++ joinWith sep us) := by
  induction ts with
  | nil => exact absurd rfl ht
  | cons t ts ih =>
    by_cases hts : ts = []
    · rw [hts, List.singleton_append, joinWith_cons hu, joinWith_singleton]
    · rw [List.cons_append, joinWith_cons (by simp [hu]), joinWith_cons hts, ih hts]
      simp only [List.append_assoc]

/-- Text behind the last of several texts. -/
theorem joinWith_concat_append (sep : Text) (ts : List Text) (t u : Text) :
    joinWith sep (ts ++ [t]) ++ u = joinWith sep (ts ++ [t ++ u]) := by
  by_cases hts : ts = []
  · simp only [hts, List.nil_append, joinWith_singleton]
  · rw [joinWith_append hts (by simp), joinWith_append hts (by simp), joinWith_singleton,
      joinWith_singleton]
    simp only [List.append_assoc]

/-! ## Lines -/

/-- No line holds a line feed. -/
theorem newline_not_mem_of_mem_lines {l : Text} (h : l ∈ lines t) : '\n' ∉ l :=
  not_mem_of_mem_pieces h

/-- The lines of a text in front of a line feed and those behind it. -/
theorem lines_append_cons (u v : Text) : lines (u ++ '\n' :: v) = lines u ++ lines v :=
  pieces_append_cons u v

/-- Lines without line feeds are the lines of their text. -/
theorem lines_eq_of_not_mem (h : '\n' ∉ t) : lines t = [t] := pieces_of_not_mem h

/-- A text has a last line. -/
theorem exists_lines_eq_append (t : Text) : ∃ ls l, lines t = ls ++ [l] :=
  ⟨_, _, (List.dropLast_concat_getLast (lines_ne_nil t)).symm⟩

/-- A text has a first line. -/
theorem exists_lines_eq_cons (t : Text) : ∃ l ls, lines t = l :: ls :=
  List.exists_cons_of_ne_nil (lines_ne_nil t)

/-- A line in front of others. -/
theorem ofLines_cons {l : Text} {ls : List Text} (h : ls ≠ []) :
    ofLines (l :: ls) = l ++ '\n' :: ofLines ls :=
  joinWith_cons h

/-- Text in front of the first line. -/
theorem append_ofLines_cons (x y : Text) (ls : List Text) :
    x ++ ofLines (y :: ls) = ofLines ((x ++ y) :: ls) := by
  cases ls with
  | nil => simp [ofLines, joinWith]
  | cons k ks => simp [ofLines_cons]

/-- The last line of one text and the first line of the next become one line. -/
theorem ofLines_append_ofLines (ls ls' : List Text) (x y : Text) :
    ofLines (ls ++ [x]) ++ ofLines (y :: ls') = ofLines (ls ++ (x ++ y) :: ls') := by
  induction ls with
  | nil =>
    have hone : ofLines ([] ++ [x]) = x := by simp [ofLines, joinWith]
    rw [hone]
    exact append_ofLines_cons x y ls'
  | cons l ls ih =>
    have h₁ : ls ++ [x] ≠ [] := by simp
    have h₂ : ls ++ (x ++ y) :: ls' ≠ [] := by simp
    rw [List.cons_append, List.cons_append, ofLines_cons h₁, ofLines_cons h₂, ← ih]
    simp

/-- The lines of two texts put together, of which the last of the first and the first of the second
become one. -/
theorem lines_append {ls ls' : List Text} {x y : Text} (hu : lines u = ls ++ [x])
    (hv : lines v = y :: ls') : lines (u ++ v) = ls ++ (x ++ y) :: ls' := by
  have hul : ∀ l ∈ ls ++ [x], '\n' ∉ l := fun l hl =>
    newline_not_mem_of_mem_lines (t := u) (by rw [hu]; exact hl)
  have hvl : ∀ l ∈ y :: ls', '\n' ∉ l := fun l hl =>
    newline_not_mem_of_mem_lines (t := v) (by rw [hv]; exact hl)
  rw [← ofLines_lines u, ← ofLines_lines v, hu, hv, ofLines_append_ofLines]
  refine lines_ofLines (by simp) fun l hl => ?_
  rcases List.mem_append.1 hl with hl | hl
  · exact hul l (by simp [hl])
  · rcases List.mem_cons.1 hl with rfl | hl
    · rw [List.mem_append, not_or]
      exact ⟨hul x (by simp), hvl y (by simp)⟩
    · exact hvl l (by simp [hl])

/-! ## A needle of two lines -/

section TwoLines

variable {a₁ a₂ : Text}

/-- Two neighbouring lines of which the first does not end with `a₁` while the second starts with
`a₂`. -/
def Parted (a₁ a₂ l l' : Text) : Prop := ¬ (a₁ <:+ l ∧ a₂ <+: l')

/-- Neighbours in a list of lines are neighbours in the text. -/
theorem infix_ofLines_of_neighbours (ls ls' : List Text) {l l' : Text} (h₁ : a₁ <:+ l)
    (h₂ : a₂ <+: l') : a₁ ++ '\n' :: a₂ <:+: ofLines (ls ++ l :: l' :: ls') := by
  obtain ⟨x, rfl⟩ := h₁
  obtain ⟨y, rfl⟩ := h₂
  induction ls with
  | nil =>
    rw [List.nil_append, ofLines_cons (by simp), ← append_ofLines_cons]
    exact ⟨x, ofLines (y :: ls'), by simp⟩
  | cons k ls ih =>
    rw [List.cons_append, ofLines_cons (by simp)]
    exact ih.trans ⟨k ++ ['\n'], [], by simp⟩

/-- The lines of a text that starts with `a₂`. -/
theorem lines_append_of_not_mem (h₂ : '\n' ∉ a₂) {y : Text} {ls : List Text}
    (hv : lines v = y :: ls) : lines (a₂ ++ v) = (a₂ ++ y) :: ls := by
  have hu : lines a₂ = [] ++ [a₂] := lines_eq_of_not_mem h₂
  exact lines_append hu hv

/-- The lines of a text that ends with `a₁`. -/
theorem lines_append_of_not_mem_right (h₁ : '\n' ∉ a₁) {x : Text} {ls : List Text}
    (hu : lines u = ls ++ [x]) : lines (u ++ a₁) = ls ++ [x ++ a₁] :=
  lines_append hu (lines_eq_of_not_mem h₁)

/-- A needle of two lines occurs exactly where two neighbouring lines hold it. -/
theorem not_infix_iff_isChain (h₁ : '\n' ∉ a₁) (h₂ : '\n' ∉ a₂) :
    ¬ a₁ ++ '\n' :: a₂ <:+: t ↔ (lines t).IsChain (Parted a₁ a₂) := by
  rw [List.isChain_iff_forall_rel_of_append_cons_cons]
  constructor
  · rintro h l l' ls ls' hls ⟨hl, hl'⟩
    have := infix_ofLines_of_neighbours ls ls' hl hl'
    rw [← hls, ofLines_lines] at this
    exact h this
  · rintro hchain ⟨u, v, rfl⟩
    obtain ⟨ls, x, hu⟩ := exists_lines_eq_append u
    obtain ⟨y, ls', hv⟩ := exists_lines_eq_cons v
    have hlines : lines (u ++ (a₁ ++ '\n' :: a₂) ++ v) =
        ls ++ (x ++ a₁) :: (a₂ ++ y) :: ls' := by
      have hshape : u ++ (a₁ ++ '\n' :: a₂) ++ v = (u ++ a₁) ++ '\n' :: (a₂ ++ v) := by simp
      rw [hshape, lines_append_cons, lines_append_of_not_mem_right h₁ hu,
        lines_append_of_not_mem h₂ hv]
      simp
    exact hchain hlines ⟨List.suffix_append x a₁, List.prefix_append a₂ y⟩

end TwoLines

end ProtoUpkeep.Text
