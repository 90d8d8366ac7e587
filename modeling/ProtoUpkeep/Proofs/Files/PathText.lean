import ProtoUpkeep.Files.AtomicWrite
import ProtoUpkeep.Proofs.Text.Lines

/-!
# The texts of paths

A program changes paths as texts: it adds a suffix, takes the parent, puts another name in the place
of the last one. The file system cuts the text at its slashes. For a path whose last component is a
name (`RawPath.EndsIn`) this module says what the changed text is cut into. The parent is taken
without the components `.` that stand in front of the last slash, so a new name stands behind the
components of the old path up to such dots (`RawPath.IsParent`,
`RawPath.EndsIn.beside_withFileName`).
-/

namespace ProtoUpkeep.RawPath

open Text

variable {t base name suffix : Text} {before us vs zs : List Text} {start : Nat} {c : Char}

/-! ## Components -/

/-- The components of two texts with a slash between them. -/
theorem components_append_slash (t u : Text) :
    (ofText (t ++ '/' :: u)).components = (ofText t).components ++ (ofText u).components := by
  simp only [ofText, pieces_append_cons, List.filter_append]

/-- A name is its own component. -/
theorem components_of_not_mem (hslash : '/' ∉ name) (hne : name ≠ []) :
    (ofText name).components = [name] := by
  simp [ofText, pieces_of_not_mem hslash, hne]

/-- No character behind the last slash of a text that ends in a name. -/
theorem slash_ofText_append (hslash : '/' ∉ name) (hne : name ≠ []) (t : Text) :
    (ofText (t ++ name)).slash = false := by
  have hlast : name.getLast? ≠ some '/' := fun h => hslash (List.mem_of_getLast? h)
  simpa [ofText, List.getLast?_append_of_ne_nil _ hne] using hlast

/-- A text in front of which nothing or more text stands starts as that text does. -/
theorem absolute_append (h : t ≠ []) (u : Text) :
    (ofText (t ++ u)).absolute = (ofText t).absolute := by
  obtain ⟨c, t, rfl⟩ := List.exists_cons_of_ne_nil h
  rfl

/-! ## Paths that end in a name -/

/-- The path ends in a name, without a slash behind it. -/
structure EndsIn (t : Text) (before : List Text) (name : Text) : Prop where
  /-- The name is the last component. -/
  components : (ofText t).components = before ++ [name]
  /-- No slash stands behind it. -/
  slash : (ofText t).slash = false

/-- The components among pieces. -/
def named (us : List Text) : List Text := us.filter fun c => !c.isEmpty

/-- The last piece of a path that ends in a name is the name. -/
theorem EndsIn.exists_pieces (h : EndsIn t before name) :
    ∃ us, pieces '/' t = us ++ [name] ∧ named us = before ∧ name ≠ [] := by
  obtain ⟨us, last, hpieces⟩ : ∃ us last, pieces '/' t = us ++ [last] :=
    ⟨_, _, (List.dropLast_concat_getLast (List.splitOn_ne_nil '/' t)).symm⟩
  have hcomponents := h.components
  simp only [ofText, hpieces, List.filter_append] at hcomponents
  have hlast : last ≠ [] := by
    rintro rfl
    have ht := joinWith_pieces '/' t
    rw [hpieces] at ht
    have hus : us ≠ [] := by
      rintro rfl
      simp at hcomponents
    rw [joinWith_append hus (by simp), joinWith_singleton, List.append_nil] at ht
    have hslash := h.slash
    rw [← ht] at hslash
    simp [ofText] at hslash
  have hone : [last].filter (fun c => !c.isEmpty) = [last] := by simp [hlast]
  rw [hone] at hcomponents
  obtain ⟨hbefore, hname⟩ := List.append_inj' hcomponents rfl
  obtain rfl := (List.cons.inj hname).1
  exact ⟨us, hpieces, hbefore, hlast⟩

/-- A suffix goes to the last piece of a path. -/
theorem exists_pieces_append (hslash : '/' ∉ suffix) (t : Text) : ∃ us last,
    pieces '/' t = us ++ [last] ∧ pieces '/' (t ++ suffix) = us ++ [last ++ suffix] := by
  obtain ⟨us, last, hpieces⟩ : ∃ us last, pieces '/' t = us ++ [last] :=
    ⟨_, _, (List.dropLast_concat_getLast (List.splitOn_ne_nil '/' t)).symm⟩
  refine ⟨us, last, hpieces, ?_⟩
  have hmem : ∀ p ∈ us ++ [last], '/' ∉ p := fun p hp =>
    not_mem_of_mem_pieces (hpieces ▸ hp)
  rw [← joinWith_pieces '/' t, hpieces, joinWith_concat_append]
  refine pieces_joinWith (by simp) fun p hp => ?_
  rcases List.mem_append.1 hp with hp | hp
  · exact hmem p (by simp [hp])
  · rw [List.mem_singleton.1 hp, List.mem_append, not_or]
    exact ⟨hmem last (by simp), hslash⟩

/-- A suffix goes to the name that a path ends in. -/
theorem EndsIn.append (h : EndsIn t before name) (hslash : '/' ∉ suffix) (hne : suffix ≠ []) :
    EndsIn (t ++ suffix) before (name ++ suffix) := by
  obtain ⟨us, hpieces, hbefore, -⟩ := h.exists_pieces
  obtain ⟨us', last, hpieces', happend⟩ := exists_pieces_append hslash t
  obtain ⟨rfl, hlast⟩ := List.append_inj' (hpieces.symm.trans hpieces') rfl
  obtain rfl := (List.cons.inj hlast).1
  refine ⟨?_, slash_ofText_append hslash hne t⟩
  simp [ofText, happend, ← hbefore, named, hne]

/-- A name below a path is a further component. -/
theorem endsIn_below (hslash : '/' ∉ name) (hne : name ≠ []) (base : Text) :
    EndsIn (match base.getLast? with
      | none | some '/' => base ++ name
      | some _ => base ++ '/' :: name) (ofText base).components name := by
  have hname := components_of_not_mem hslash hne
  split
  · next hbase =>
    rw [List.getLast?_eq_none_iff.1 hbase]
    exact ⟨hname, slash_ofText_append hslash hne []⟩
  · next hbase =>
    obtain ⟨u, rfl⟩ := List.getLast?_eq_some_iff.1 hbase
    refine ⟨?_, slash_ofText_append hslash hne _⟩
    rw [List.append_assoc, List.singleton_append, components_append_slash, hname,
      components_append_slash u []]
    simp [ofText, pieces]
  · refine ⟨?_, ?_⟩
    · rw [components_append_slash, hname]
    · rw [← List.singleton_append, ← List.append_assoc]
      exact slash_ofText_append hslash hne _

/-! ## Parents -/

/-- The number of characters that pieces take up, each with the slash behind it. -/
def width : List Text → Nat
  | [] => 0
  | u :: us => u.length + 1 + width us

/-- The number of characters of joined pieces. -/
theorem length_joinWith_concat (us : List Text) (p : Text) :
    (joinWith ['/'] (us ++ [p])).length = width us + p.length := by
  induction us with
  | nil => simp [width, joinWith_singleton]
  | cons u us ih =>
    rw [List.cons_append, joinWith_cons (by simp), List.length_append, List.length_append, ih]
    simp [width]
    omega

/-- The components of pieces, some behind the others. -/
theorem spans_go_append (start : Nat) (us vs : List Text) :
    spans.go start (us ++ vs) = spans.go start us ++ spans.go (start + width us) vs := by
  induction us generalizing start with
  | nil => rfl
  | cons u us ih =>
    have hwidth : start + width (u :: us) = start + u.length + 1 + width us := by
      simp [width]
      omega
    rw [List.cons_append, spans.go, spans.go, ih, hwidth]
    split <;> rfl

/-- A piece that is passed over behind the start of a path. -/
def IsPassed (c : Text) : Prop := c = [] ∨ c = dot

/-- The last component of pieces, if one is not passed over. -/
theorem spans_go_cases (us : List Text) :
    (spans.go 0 us = [] ∧ (∀ z ∈ us, IsPassed z) ∧ ∀ z ∈ us.head?, z = []) ∨
    ∃ ws p zs, us = ws ++ p :: zs ∧ p ≠ [] ∧ (∀ z ∈ zs, IsPassed z) ∧
      (spans.go 0 us).getLast? = some (p, width ws + p.length) := by
  induction us using List.reverseRecOn with
  | nil => exact .inl ⟨rfl, by simp, by simp⟩
  | append_singleton us z ih =>
    have hsplit := spans_go_append 0 us [z]
    rw [Nat.zero_add] at hsplit
    by_cases hz : z = [] ∨ z = dot ∧ width us ≠ 0
    · have hgo : spans.go 0 (us ++ [z]) = spans.go 0 us := by
        rw [hsplit, spans.go, if_pos (by simpa [List.isEmpty_iff] using hz)]
        simp [spans.go]
      have hpassed : IsPassed z := hz.imp id And.left
      rw [hgo]
      rcases ih with ⟨hnil, hall, hhead⟩ | ⟨ws, p, zs, rfl, hp, hzs, hlast⟩
      · refine .inl ⟨hnil, ?_, ?_⟩
        · simpa [or_imp, forall_and] using ⟨hall, hpassed⟩
        · cases us with
          | nil =>
            have : z = [] := hz.elim id fun hdot => absurd rfl hdot.2
            simp [this]
          | cons u us => exact hhead
      · refine .inr ⟨ws, p, zs ++ [z], by simp, hp, ?_, hlast⟩
        simpa [or_imp, forall_and] using ⟨hzs, hpassed⟩
    · have hgo : spans.go 0 (us ++ [z]) = spans.go 0 us ++ [(z, width us + z.length)] := by
        rw [hsplit, spans.go, if_neg (by simpa [List.isEmpty_iff] using hz)]
        simp [spans.go]
      refine .inr ⟨us, z, [], rfl, fun hnil => hz (.inl hnil), by simp, ?_⟩
      rw [hgo, List.getLast?_concat]

/-- The components of pieces that are passed over are dots. -/
theorem eq_dot_of_mem_named {zs : List Text} (h : ∀ z ∈ zs, IsPassed z) :
    ∀ c ∈ named zs, c = dot := by
  intro c hc
  obtain ⟨hmem, hne⟩ := List.mem_filter.1 hc
  exact (h c hmem).resolve_left (by simpa using hne)

/-- The parent of a path that ends in a name. -/
structure IsParent (t parent : Text) (before : List Text) : Prop where
  /-- It is what the parent is taken to be. -/
  parent? : parent? t = some parent
  /-- Its components are those in front of the name, without the dots that stand last. -/
  components : ∃ dots, (ofText parent).components ++ dots = before ∧ ∀ c ∈ dots, c = dot
  /-- The path starts with it. -/
  isPrefix : parent <+: t
  /-- It starts at the root if the path does, and is empty only if the path does not. -/
  absolute : (ofText parent).absolute = (ofText t).absolute

/-- The components of joined pieces, of which the last one names an entry. -/
theorem spans_joinWith (hslash : ∀ p ∈ us ++ [name], '/' ∉ p) (hne : name ≠ []) (hdot : name ≠ dot) :
    spans (joinWith ['/'] (us ++ [name])) =
      spans.go 0 us ++ [(name, (joinWith ['/'] (us ++ [name])).length)] := by
  have hgo : spans.go (width us) [name] = [(name, width us + name.length)] := by
    rw [spans.go, if_neg (by simp [hne, hdot])]
    rfl
  rw [spans, pieces_joinWith (by simp) hslash, spans_go_append, Nat.zero_add, hgo,
    length_joinWith_concat]

/-- The parent of a name that only passed pieces stand in front of is the root or empty. -/
theorem exists_isParent_of_passed (hslash : ∀ p ∈ us ++ [name], '/' ∉ p) (hne : name ≠ [])
    (hdot : name ≠ dot) (hnil : spans.go 0 us = []) (hall : ∀ z ∈ us, IsPassed z)
    (hhead : ∀ z ∈ us.head?, z = []) :
    ∃ parent, IsParent (joinWith ['/'] (us ++ [name])) parent (named us) := by
  have hspans := spans_joinWith hslash hne hdot
  generalize ht : joinWith ['/'] (us ++ [name]) = t at hspans
  have hparent : parent? t = some (if t.head? == some '/' then ['/'] else []) := by
    rw [parent?, hspans, hnil]
    rfl
  cases us with
  | nil =>
    have hrelative : (t.head? == some '/') = false := by
      rw [← ht, List.nil_append, joinWith_singleton, beq_eq_false_iff_ne]
      exact fun hh => hslash name (by simp) (List.mem_of_mem_head? hh)
    rw [hrelative] at hparent
    exact ⟨[], hparent, ⟨[], rfl, by simp⟩, List.nil_prefix, hrelative.symm⟩
  | cons u us =>
    obtain rfl : u = [] := hhead u rfl
    have htext : t = '/' :: joinWith ['/'] (us ++ [name]) := by
      rw [← ht, List.cons_append, joinWith_cons (by simp)]
      rfl
    rw [htext] at hparent ⊢
    have hroot : (ofText ['/']).components = [] := by
      rw [← List.nil_append ['/'], components_append_slash]
      simp [ofText, pieces]
    exact ⟨['/'], hparent, ⟨named us, by simp [hroot, named],
      eq_dot_of_mem_named fun z hz => hall z (by simp [hz])⟩, ⟨_, rfl⟩, rfl⟩

/-- The parent of a name behind a component that is not passed over ends with that component. -/
theorem exists_isParent_of_component {ws : List Text} {p : Text}
    (hslash : ∀ q ∈ ws ++ p :: zs ++ [name], '/' ∉ q) (hne : name ≠ []) (hdot : name ≠ dot)
    (hp : p ≠ []) (hzs : ∀ z ∈ zs, IsPassed z)
    (hlast : (spans.go 0 (ws ++ p :: zs)).getLast? = some (p, width ws + p.length)) :
    ∃ parent, IsParent (joinWith ['/'] (ws ++ p :: zs ++ [name])) parent
      (named (ws ++ p :: zs)) := by
  obtain ⟨parent, hparent⟩ : ∃ parent, joinWith ['/'] (ws ++ [p]) = parent := ⟨_, rfl⟩
  have hspans := spans_joinWith hslash hne hdot
  have htext : joinWith ['/'] (ws ++ p :: zs ++ [name]) =
      parent ++ ('/' :: joinWith ['/'] (zs ++ [name])) := by
    have hshape : ws ++ p :: zs ++ [name] = (ws ++ [p]) ++ (zs ++ [name]) := by simp
    rw [hshape, joinWith_append (by simp) (by simp), hparent]
    rfl
  have hpieces : pieces '/' parent = ws ++ [p] := by
    rw [← hparent]
    refine pieces_joinWith (by simp) fun q hq => hslash q ?_
    simp only [List.mem_append, List.mem_singleton] at hq
    rcases hq with hq | rfl <;> simp [*]
  have hnonempty : parent ≠ [] := by
    rw [← hparent]
    by_cases hws : ws = []
    · rwa [hws, List.nil_append, joinWith_singleton]
    · rw [joinWith_append hws (by simp)]
      simp
  rw [htext] at hspans ⊢
  refine ⟨parent, ?_, ⟨named zs, ?_, eq_dot_of_mem_named hzs⟩, ⟨_, rfl⟩, ?_⟩
  · obtain ⟨before, hbefore⟩ := List.getLast?_eq_some_iff.1 hlast
    have hlen : parent.length = width ws + p.length := by
      rw [← hparent, length_joinWith_concat]
    rw [parent?, hspans, hbefore]
    simp [← hlen]
  · simp [named, ofText, hpieces, hp]
  · exact (absolute_append hnonempty _).symm

/-- A path that ends in a name has a parent. -/
theorem EndsIn.exists_isParent (h : EndsIn t before name) (hdot : name ≠ dot) :
    (∃ parent, IsParent t parent before) ∧ (spans t).getLast? = some (name, t.length) := by
  obtain ⟨us, hpieces, rfl, hne⟩ := h.exists_pieces
  have hslash : ∀ p ∈ us ++ [name], '/' ∉ p := fun p hp =>
    not_mem_of_mem_pieces (hpieces ▸ hp)
  rw [← joinWith_pieces '/' t, hpieces]
  refine ⟨?_, by rw [spans_joinWith hslash hne hdot, List.getLast?_concat]⟩
  rcases spans_go_cases us with ⟨hnil, hall, hhead⟩ | ⟨ws, p, zs, rfl, hp, hzs, hlast⟩
  · exact exists_isParent_of_passed hslash hne hdot hnil hall hhead
  · exact exists_isParent_of_component hslash hne hdot hp hzs hlast

/-- A path that is cut off behind a component that is not passed over, or that has none. -/
def IsCut (t : Text) : Prop :=
  t = [] ∨ t = ['/'] ∨ t = dot ∨ ∃ before name, EndsIn t before name ∧ name ≠ dot

/-- A component is one of the pieces, and `.` only at the start of a path. -/
theorem exists_of_mem_spans_go {p : Text} {stop : Nat} (h : (p, stop) ∈ spans.go start us) :
    ∃ ws zs, us = ws ++ p :: zs ∧ p ≠ [] ∧ (p = dot → start + width ws = 0) ∧
      stop = start + width ws + p.length := by
  induction us generalizing start with
  | nil => cases h
  | cons u us ih =>
    have hbehind : (p, stop) ∈ spans.go (start + u.length + 1) us → ∃ ws zs,
        u :: us = ws ++ p :: zs ∧ p ≠ [] ∧ (p = dot → start + width ws = 0) ∧
          stop = start + width ws + p.length := by
      intro hmem
      obtain ⟨ws, zs, rfl, hp, hdot, rfl⟩ := ih hmem
      refine ⟨u :: ws, zs, rfl, hp, fun heq => ?_, ?_⟩
      · have := hdot heq
        omega
      · simp only [width]
        omega
    rw [spans.go] at h
    split at h
    · exact hbehind h
    · next hkept =>
      rcases List.mem_cons.1 h with heq | hmem
      · cases heq
        rw [Bool.or_eq_true, not_or] at hkept
        refine ⟨[], us, rfl, by simpa using hkept.1, fun hdot => ?_, rfl⟩
        simpa [hdot, width] using hkept.2
      · exact hbehind hmem

/-- The text up to the end of a component is cut off behind it. -/
theorem isCut_joinWith {ws : List Text} {p : Text} (hslash : ∀ q ∈ ws ++ [p], '/' ∉ q) (hp : p ≠ [])
    (hdot : p = dot → ws = []) : IsCut (joinWith ['/'] (ws ++ [p])) := by
  by_cases hpdot : p = dot
  · rw [hdot hpdot, hpdot]
    exact .inr (.inr (.inl (joinWith_singleton _ _)))
  · refine .inr (.inr (.inr ⟨named ws, p, ⟨?_, ?_⟩, hpdot⟩))
    · simp [named, ofText, pieces_joinWith (by simp) hslash, hp]
    · have hpslash : '/' ∉ p := hslash p (by simp)
      by_cases hws : ws = []
      · rw [hws, List.nil_append, joinWith_singleton]
        exact slash_ofText_append hpslash hp []
      · rw [joinWith_append hws (by simp), joinWith_singleton, ← List.append_assoc]
        exact slash_ofText_append hpslash hp _

/-- A parent is empty or the root, or the text up to the end of a component. -/
theorem exists_of_parent? {parent : Text} (h : parent? t = some parent) :
    parent = [] ∨ (parent = ['/'] ∧ ∃ rest, t = '/' :: rest) ∨
    ∃ ws p zs, pieces '/' t = ws ++ p :: zs ∧ p ≠ [] ∧ (p = dot → ws = []) ∧
      parent = joinWith ['/'] (ws ++ [p]) ∧ parent <+: t := by
  unfold parent? at h
  split at h
  · cases h
  · cases h
    split
    · next hhead => exact .inr (.inl ⟨rfl, List.head?_eq_some_iff.1 (beq_iff_eq.1 hhead)⟩)
    · exact .inl rfl
  · next _ p stop _ hspans =>
    cases h
    have hmem : (p, stop) ∈ spans t := by
      rw [← List.mem_reverse, hspans]
      simp
    obtain ⟨ws, zs, hpieces, hp, hdot, rfl⟩ := exists_of_mem_spans_go hmem
    refine .inr (.inr ⟨ws, p, zs, hpieces, hp, fun heq => ?_, ?_, List.take_prefix _ _⟩)
    · cases ws with
      | nil => rfl
      | cons w ws =>
        have := hdot heq
        simp only [width] at this
        omega
    · have hshape : ws ++ p :: zs = (ws ++ [p]) ++ zs := by simp
      rw [← joinWith_pieces '/' t, hpieces, hshape, Nat.zero_add, ← length_joinWith_concat]
      by_cases hzs : zs = []
      · rw [hzs, List.append_nil, List.take_length]
      · rw [joinWith_append (by simp) hzs, List.take_left']
        rfl

/-- The pieces up to one of a text are pieces of it. -/
theorem slash_not_mem_of_pieces {ws : List Text} {p : Text} (hpieces : pieces '/' t = ws ++ p :: zs) :
    ∀ q ∈ ws ++ [p], '/' ∉ q := by
  intro q hq
  refine not_mem_of_mem_pieces (t := t) ?_
  rw [hpieces]
  simp only [List.mem_append, List.mem_cons, List.not_mem_nil, or_false] at hq ⊢
  exact hq.imp id .inl

/-- A parent is cut off behind a component, and the path starts with it. -/
theorem isCut_of_parent? {parent : Text} (h : parent? t = some parent) :
    IsCut parent ∧ parent <+: t := by
  rcases exists_of_parent? h with rfl | ⟨rfl, rest, rfl⟩ | ⟨ws, p, zs, hpieces, hp, hdot, rfl, hhead⟩
  · exact ⟨.inl rfl, List.nil_prefix⟩
  · exact ⟨.inr (.inl rfl), ⟨rest, rfl⟩⟩
  · exact ⟨isCut_joinWith (slash_not_mem_of_pieces hpieces) hp hdot, hhead⟩

/-- The components of a path start with those of its parent. -/
theorem components_of_parent? {parent : Text} (h : parent? t = some parent) :
    (ofText parent).components <+: (ofText t).components := by
  rcases exists_of_parent? h with rfl | ⟨rfl, rest, rfl⟩ | ⟨ws, p, zs, hpieces, -, -, rfl, -⟩
  · exact List.nil_prefix
  · rw [← List.nil_append ['/'], components_append_slash]
    exact List.nil_prefix
  · have hshape : ws ++ p :: zs = (ws ++ [p]) ++ zs := by simp
    simp only [ofText, pieces_joinWith (by simp) (slash_not_mem_of_pieces hpieces), hpieces, hshape]
    rw [List.filter_append (ws ++ [p])]
    exact List.prefix_append _ _

/-! ## Paths beside a path -/

/-- The path `t'` ends in `name'`, behind the components of `t` before its last one, of which dots at
the end may be left out. -/
structure Beside (t : Text) (before : List Text) (t' name' : Text) : Prop where
  /-- What it ends in. -/
  ends : ∃ dots mid, mid ++ dots = before ∧ (∀ c ∈ dots, c = dot) ∧ EndsIn t' mid name'
  /-- It starts where `t` does. -/
  absolute : (ofText t').absolute = (ofText t).absolute
  /-- The name names an entry. -/
  ne_dot : name' ≠ dot
  /-- The name does not go up. -/
  ne_dotDot : name' ≠ dotDot

/-- A name of more than two characters names an entry. -/
theorem ne_dots_of_lt_length (h : 2 < name.length) : name ≠ dot ∧ name ≠ dotDot := by
  constructor
  all_goals
    rintro rfl
    simp [dot, dotDot] at h

/-- A path with a suffix stands beside it. -/
theorem EndsIn.beside_append (h : EndsIn t before name) (hslash : '/' ∉ suffix)
    (hlen : 2 < suffix.length) : Beside t before (t ++ suffix) (name ++ suffix) := by
  have hne : suffix ≠ [] := List.ne_nil_of_length_pos (by omega)
  have hnil : t ≠ [] := by
    rintro rfl
    have := h.components
    simp [ofText, pieces] at this
  have hlong : 2 < (name ++ suffix).length := by
    rw [List.length_append]
    omega
  obtain ⟨hdot, hdotDot⟩ := ne_dots_of_lt_length hlong
  exact ⟨⟨[], before, List.append_nil _, by simp, h.append hslash hne⟩,
    absolute_append hnil _, hdot, hdotDot⟩

/-- A path with another name in the place of the last one stands beside it. -/
theorem EndsIn.beside_withFileName (h : EndsIn t before name) (hdot : name ≠ dot)
    (hdotDot : name ≠ dotDot) {new : Text} (hslash : '/' ∉ new) (hlen : 2 < new.length) :
    Beside t before (withFileName t new) new := by
  have hne : new ≠ [] := List.ne_nil_of_length_pos (by omega)
  obtain ⟨⟨parent, hparent⟩, hlast⟩ := h.exists_isParent hdot
  obtain ⟨dots, hbefore, hdots⟩ := hparent.components
  have hhas : hasFileName t = true := by
    rw [hasFileName, hlast]
    simp [hdot, hdotDot]
  have hbelow := endsIn_below hslash hne parent
  have hnew : withFileName t new = match parent.getLast? with
      | none | some '/' => parent ++ new
      | some _ => parent ++ '/' :: new := by
    rw [withFileName, hhas, hparent.parent?]
    rfl
  rw [hnew]
  obtain ⟨hnewDot, hnewDotDot⟩ := ne_dots_of_lt_length hlen
  refine ⟨⟨dots, _, hbefore, hdots, hbelow⟩, ?_, hnewDot, hnewDotDot⟩
  rw [← hparent.absolute]
  by_cases hnil : parent = []
  · subst hnil
    have hhead : new.head? ≠ some '/' := fun hh => hslash (List.mem_of_mem_head? hh)
    simpa [ofText] using hhead
  · split <;> exact absolute_append hnil _

end ProtoUpkeep.RawPath
