import ProtoUpkeep.Files.RawPath
import ProtoUpkeep.Path
import ProtoUpkeep.Proofs.Text.Lines

/-!
# Joining paths

A segment that is joined to a path takes its place, leaves it as it is, or goes behind it with one
slash between them (`Path.segment_cases`). Joining is associative unless the segment in the middle is
`.` (`Path.join_join`), since a segment that goes behind a path goes on doing so when more is joined to
it (`Path.IsStep.append`). The segment in the middle is a normal path, that is, one that a text names
(`Path.isNormal_iff_exists_ofText`). Joining a name is undone by taking the parent and the last
component (`Path.parent?_join_of_isSegment`, `Path.fileName?_join_of_isSegment`).
-/

namespace ProtoUpkeep.Path

open RawPath (dot)

variable {a b p : Path} {s t : Text}

/-! ## Slashes -/

/-- The path is as texts name paths: it holds no backslash. -/
def IsNormal (p : Path) : Prop := '\\' ∉ p.text

/-- A text without backslashes is written with slashes. -/
theorem forward_of_not_mem (h : '\\' ∉ t) : forward t = t := by
  unfold forward
  conv_rhs => rw [← List.map_id t]
  refine List.map_congr_left fun c hc => if_neg ?_
  rintro rfl
  exact h hc

/-- A text that is written with slashes holds no backslash. -/
theorem backslash_not_mem_forward (t : Text) : '\\' ∉ forward t := by
  intro h
  obtain ⟨c, -, hc⟩ := List.mem_map.1 h
  split at hc
  · exact absurd hc (by decide)
  · next hne => exact hne hc

@[simp] theorem forward_forward (t : Text) : forward (forward t) = forward t :=
  forward_of_not_mem (backslash_not_mem_forward t)

/-- The normal paths are those that texts name. -/
theorem isNormal_iff_exists_ofText : p.IsNormal ↔ ∃ t, p = ofText t := by
  constructor
  · intro h
    exact ⟨p.text, by rw [ofText, forward_of_not_mem h]⟩
  · rintro ⟨t, rfl⟩
    exact backslash_not_mem_forward t

/-- Only the text `.` is written `.` with slashes. -/
theorem forward_eq_dot_iff : forward t = dot ↔ t = dot := by
  refine ⟨fun h => ?_, fun h => by rw [h]; rfl⟩
  obtain ⟨c, rfl, hc⟩ := List.map_eq_singleton_iff.1 h
  split at hc
  · exact absurd hc (by decide)
  · rw [hc, dot]

/-! ## Three ways to join -/

/-- A segment goes behind the path that it is joined to. -/
structure IsStep (s : Text) : Prop where
  /-- It is not empty. -/
  ne_nil : s ≠ []
  /-- It does not stay in the directory. -/
  ne_dot : s ≠ dot
  /-- It does not start at the root. -/
  relative : s.head? ≠ some '/'

/-- A segment starts at the root, leaves every path as it is, or goes behind it. -/
theorem segment_cases (s : Text) : s.head? = some '/' ∨ (s = [] ∨ s = dot) ∨ IsStep s := by
  by_cases hroot : s.head? = some '/'
  · exact .inl hroot
  · by_cases hstay : s = [] ∨ s = dot
    · exact .inr (.inl hstay)
    · rw [not_or] at hstay
      exact .inr (.inr ⟨hstay.1, hstay.2, hroot⟩)

/-- A segment that goes behind a path does so with more text behind it. -/
theorem IsStep.append (h : IsStep s) (ht : t ≠ []) : IsStep (s ++ t) := by
  obtain ⟨c, s, rfl⟩ := List.exists_cons_of_ne_nil h.ne_nil
  refine ⟨by simp, fun hdot => ?_, h.relative⟩
  have hnil : s ++ t = [] := (List.cons.inj hdot).2
  exact ht (List.append_eq_nil_iff.1 hnil).2

/-- The slash between a text and what is joined to it, unless the text ends with one. -/
def gap (t : Text) : Text := if t.getLast? = some '/' then [] else ['/']

/-- What stands behind a text is looked at only where it ends. -/
theorem gap_append (ht : t ≠ []) (s : Text) : gap (s ++ t) = gap t := by
  rw [gap, gap, List.getLast?_append_of_ne_nil s ht]

/-- The segment takes the place of the path. -/
theorem join_of_replaces (h : (forward s).head? = some '/' ∨ p.text = []) :
    p.join s = ⟨forward s⟩ := by
  have hreplaces : (decide ((forward s).head? = some '/') || p.text.isEmpty) = true := by
    simpa using h
  simp only [join, hreplaces, if_true]

/-- The segment leaves the path as it is. -/
theorem join_of_stays (hp : p.text ≠ []) (h : forward s = [] ∨ forward s = dot) : p.join s = p := by
  have hrelative : (forward s).head? ≠ some '/' := by
    rcases h with h | h <;> simp [h, dot]
  simp only [join, hrelative, hp, List.isEmpty_iff, decide_false, Bool.false_or, if_false]
  rw [if_pos (by simpa [dot] using h)]

/-- The segment goes behind the path. -/
theorem join_of_isStep (hp : p.text ≠ []) (h : IsStep (forward s)) :
    p.join s = ⟨p.text ++ gap p.text ++ forward s⟩ := by
  have hstays : ¬ ((forward s).isEmpty || decide (forward s = ['.'])) = true := by
    simpa using ⟨h.ne_nil, h.ne_dot⟩
  simp only [join, h.relative, hp, List.isEmpty_iff, decide_false, Bool.false_or, if_false]
  rw [if_neg (by simpa using hstays), gap]
  split <;> simp

/-- It does not matter how the slashes of a segment are written. -/
@[simp] theorem join_forward (p : Path) (s : Text) : p.join (forward s) = p.join s := by
  simp only [join, forward_forward]

/-- An empty segment leaves every path as it is. -/
@[simp] theorem join_nil (p : Path) : p.join [] = p := by
  by_cases hp : p.text = []
  · obtain ⟨text⟩ := p
    obtain rfl : text = [] := hp
    rfl
  · exact join_of_stays hp (.inl rfl)

/-- A normal path that replaces another one is the path behind it. -/
theorem join_text_of_replaces (hb : b.IsNormal) (h : b.text.head? = some '/' ∨ a.text = []) :
    a.join b.text = b := by
  have hforward : forward b.text = b.text := forward_of_not_mem hb
  rw [join_of_replaces (by rwa [hforward]), hforward]

/-- A path below a normal one is normal. -/
theorem IsNormal.join (hp : p.IsNormal) (s : Text) : (p.join s).IsNormal := by
  have hs := backslash_not_mem_forward s
  by_cases hreplaces : (forward s).head? = some '/' ∨ p.text = []
  · rw [join_of_replaces hreplaces]
    exact hs
  rw [not_or] at hreplaces
  rcases segment_cases (forward s) with hroot | hstays | hstep
  · exact absurd hroot hreplaces.1
  · rwa [join_of_stays hreplaces.2 hstays]
  · rw [join_of_isStep hreplaces.2 hstep, IsNormal]
    have hgap : '\\' ∉ gap p.text := by
      unfold gap
      split <;> decide
    simpa [hgap] using ⟨hp, hs⟩

/-- What is joined to a path that starts at the root starts there. -/
theorem head?_join (hp : p.text.head? = some '/') (s : Text) :
    (p.join s).text.head? = some '/' := by
  have hne : p.text ≠ [] := by
    rintro hnil
    rw [hnil] at hp
    cases hp
  rcases segment_cases (forward s) with hroot | hstays | hstep
  · rwa [join_of_replaces (.inl hroot)]
  · rwa [join_of_stays hne hstays]
  · rw [join_of_isStep hne hstep, List.append_assoc, List.head?_append_of_ne_nil _ hne, hp]

/-- Joining is associative. A segment `.` in the middle is left out where it is joined to a path first,
and stays where more is joined to it first. -/
theorem join_join (hb : b.IsNormal) (hdot : b.text ≠ dot) (a : Path) (c : Text) :
    (a.join b.text).join c = a.join (b.join c).text := by
  have hbc : (b.join c).IsNormal := hb.join c
  by_cases hreplaces : b.text.head? = some '/' ∨ a.text = []
  · have hreplaces' : (b.join c).text.head? = some '/' ∨ a.text = [] :=
      hreplaces.imp_left fun hroot => head?_join hroot c
    rw [join_text_of_replaces hb hreplaces, join_text_of_replaces hbc hreplaces']
  rw [not_or] at hreplaces
  obtain ⟨hrelative, ha⟩ := hreplaces
  have hforward : forward b.text = b.text := forward_of_not_mem hb
  rcases segment_cases b.text with hroot | (hnil | hdot') | hb'
  · exact absurd hroot hrelative
  · have hempty : b.join c = ⟨forward c⟩ := join_of_replaces (.inr hnil)
    rw [hnil, join_nil, hempty, join_forward]
  · exact absurd hdot' hdot
  have hjoin : a.join b.text = ⟨a.text ++ gap a.text ++ b.text⟩ := by
    rw [join_of_isStep ha (by rwa [hforward]), hforward]
  have hne : (a.join b.text).text ≠ [] := by simp [hjoin, hb'.ne_nil]
  rcases segment_cases (forward c) with hroot | hstays | hc
  · rw [join_of_replaces (.inl hroot), join_of_replaces (.inl hroot), join_forward,
      join_of_replaces (.inl hroot)]
  · rw [join_of_stays hne hstays, join_of_stays hb'.ne_nil hstays]
  · -- The slash in front of `c` is put for the end of `b`, which is the end of `a` and `b`, too.
    have hbehind : b.join c = ⟨b.text ++ (gap b.text ++ forward c)⟩ := by
      rw [join_of_isStep hb'.ne_nil hc, List.append_assoc]
    have hstep : IsStep (b.join c).text := by
      rw [hbehind]
      exact hb'.append (by simp [hc.ne_nil])
    have hforward' : forward (b.join c).text = (b.join c).text := forward_of_not_mem hbc
    have hgap : gap (a.join b.text).text = gap b.text := by
      rw [hjoin, gap_append hb'.ne_nil]
    rw [join_of_isStep hne hc, hgap, hjoin, join_of_isStep ha (by rwa [hforward']), hforward',
      hbehind, List.append_assoc, List.append_assoc]

example : ((Path.mk "a").join ".").join "c" = ⟨"a/c"⟩ ∧
    (Path.mk "a").join ((Path.mk ".").join "c").text = ⟨"a/./c"⟩ := by decide

/-- What is joined to a path does not stay in the directory, if neither the path nor the segment
does. -/
theorem join_ne_dot (hp : p.text ≠ dot) (hs : s ≠ dot) : (p.join s).text ≠ dot := by
  have hs' : forward s ≠ dot := mt forward_eq_dot_iff.1 hs
  by_cases hreplaces : (forward s).head? = some '/' ∨ p.text = []
  · rwa [join_of_replaces hreplaces]
  rw [not_or] at hreplaces
  rcases segment_cases (forward s) with hroot | hstays | hstep
  · exact absurd hroot hreplaces.1
  · rwa [join_of_stays hreplaces.2 hstays]
  · rw [join_of_isStep hreplaces.2 hstep, List.append_assoc]
    intro hdot
    rcases List.append_eq_singleton_iff.1 hdot with ⟨hnil, -⟩ | ⟨-, hnil⟩
    · exact hreplaces.2 hnil
    · exact hstep.ne_nil (List.append_eq_nil_iff.1 hnil).2

/-! ## Names below a path -/

/-- A segment that is one component and does not stay in the directory. -/
structure IsSegment (s : Text) : Prop where
  /-- It is not empty. -/
  ne_nil : s ≠ []
  /-- It does not stay in the directory. -/
  ne_dot : s ≠ dot
  /-- It has no slash. -/
  slash_not_mem : '/' ∉ s
  /-- It has no backslash. -/
  backslash_not_mem : '\\' ∉ s

theorem IsSegment.forward_eq (h : IsSegment s) : forward s = s :=
  forward_of_not_mem h.backslash_not_mem

/-- A component goes behind every path. -/
theorem IsSegment.isStep (h : IsSegment s) : IsStep s :=
  ⟨h.ne_nil, h.ne_dot, fun hroot => h.slash_not_mem (List.mem_of_mem_head? hroot)⟩

/-- A component goes behind a path with one slash between them. -/
theorem join_of_isSegment (h : IsSegment s) (hp : p.text ≠ []) (hend : p.text.getLast? ≠ some '/') :
    p.join s = ⟨p.text ++ '/' :: s⟩ := by
  rw [join_of_isStep hp (h.forward_eq.symm ▸ h.isStep), h.forward_eq, gap, if_neg hend]
  simp

/-- No slash is trimmed off a text that ends in a component. -/
theorem trimmed_append (hslash : '/' ∉ s) (hne : s ≠ []) (t : Text) :
    (Path.mk (t ++ s)).trimmed = t ++ s := by
  obtain ⟨before, c, rfl⟩ := (List.eq_nil_or_concat' s).resolve_left hne
  have hc : c ≠ '/' := by
    rintro rfl
    exact hslash (by simp)
  rw [trimmed, Text.dropEndWhile, ← List.append_assoc, List.reverse_concat,
    List.dropWhile_cons_of_neg (by simpa using hc), List.reverse_cons, List.reverse_reverse]

/-- The last piece behind a slash, or of a text without one. -/
theorem lastPiece_append (hslash : '/' ∉ s) (ht : t.getLast?.all (· = '/') = true) :
    lastPiece (t ++ s) = s := by
  have hs : ∀ c ∈ s.reverse, (decide (c ≠ '/')) = true := fun c hc => by
    rw [decide_eq_true_eq]
    exact ne_of_mem_of_not_mem (List.mem_reverse.1 hc) hslash
  rw [lastPiece, List.reverse_append, List.takeWhile_append_of_pos hs]
  have hrest : t.reverse.takeWhile (fun c => decide (c ≠ '/')) = [] := by
    rw [← List.head?_reverse] at ht
    cases h : t.reverse with
    | nil => rfl
    | cons c rest =>
      rw [h] at ht
      exact List.takeWhile_cons_of_neg (by simpa using ht)
  rw [hrest, List.append_nil, List.reverse_reverse]

/-- The last component behind a slash, or of a text without one. -/
theorem fileName?_append (hslash : '/' ∉ s) (hne : s ≠ []) (ht : t.getLast?.all (· = '/') = true) :
    (Path.mk (t ++ s)).fileName? = some s := by
  rw [fileName?, trimmed_append hslash hne, lastPiece_append hslash ht]
  simp [hne]

/-- The directory of a component behind a slash is what stands in front of the slash. -/
theorem parent?_append (hslash : '/' ∉ s) (hne : s ≠ []) (ht : t ≠ []) :
    (Path.mk (t ++ '/' :: s)).parent? = some ⟨t⟩ := by
  have hsplit : t ++ '/' :: s = (t ++ ['/']) ++ s := by simp
  have hbefore : (t ++ ['/'] ++ s).take ((t ++ ['/'] ++ s).length - s.length) = t ++ ['/'] := by
    rw [List.length_append, Nat.add_sub_cancel, List.take_left' rfl]
  have hlong : ∃ c d rest, t ++ ['/'] = c :: d :: rest := by
    obtain ⟨c, t, rfl⟩ := List.exists_cons_of_ne_nil ht
    cases t with
    | nil => exact ⟨c, '/', [], rfl⟩
    | cons d t => exact ⟨c, d, t ++ ['/'], rfl⟩
  have hdrop : (t ++ ['/']).dropLast = t := List.dropLast_concat
  rw [parent?, hsplit, trimmed_append hslash hne, lastPiece_append hslash (by simp), hbefore]
  obtain ⟨c, d, rest, hrest⟩ := hlong
  rw [hrest] at hdrop ⊢
  simp only [hdrop]

/-- The last component of a path below another one is the name that has been joined to it. -/
theorem fileName?_join_of_isSegment (h : IsSegment s) (hp : p.text ≠ [])
    (hend : p.text.getLast? ≠ some '/') : (p.join s).fileName? = some s := by
  have hsplit : p.text ++ '/' :: s = (p.text ++ ['/']) ++ s := by simp
  rw [join_of_isSegment h hp hend, hsplit, fileName?_append h.slash_not_mem h.ne_nil (by simp)]

/-- The directory of a path below another one is that one. -/
theorem parent?_join_of_isSegment (h : IsSegment s) (hp : p.text ≠ [])
    (hend : p.text.getLast? ≠ some '/') : (p.join s).parent? = some p := by
  rw [join_of_isSegment h hp hend, parent?_append h.slash_not_mem h.ne_nil hp]

end ProtoUpkeep.Path
