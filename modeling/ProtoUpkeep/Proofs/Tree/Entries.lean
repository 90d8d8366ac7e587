import ProtoUpkeep.Proofs.Files.Shapes
import ProtoUpkeep.Proofs.Tree.Copies

/-!
# Listed files below their bases

A listed file is written relative to the source and to the tree (`IsRelative`). Joined to a base it
leads through the base and then through its names (`namesOf`), so where there are no links its place
is that of the base with the names behind it (`Disk.lookup_join`, `Disk.home_join`). Copying listed
files keeps a disk sound and a tree plain (`CopyRun.sound_and_plainBelow`).
-/

namespace ProtoUpkeep

open Disk
open RawPath (ofText EndsIn)

variable {o : Outside} {d d' d₁ : Disk} {base p q dir : Place} {xs : List Text} {f g name path : Text} {e : Entry}
  {source target dest root : Path} {outcome : CopyOutcome}
  {outcomes : List (Text × CopyOutcome)} {links left : Nat} {follow slash : Bool}

/-! ## Relative paths -/

/-- A path that leads down from wherever it starts. -/
structure IsRelative (f : Text) : Prop where
  /-- It does not start at the root. -/
  head : (Path.forward f).head? ≠ some '/'
  /-- It does not go up. -/
  dotDot : RawPath.dotDot ∉ (ofText (Path.forward f)).components

instance : DecidablePred IsRelative := fun f =>
  decidable_of_iff ((Path.forward f).head? ≠ some '/' ∧
      RawPath.dotDot ∉ (ofText (Path.forward f)).components)
    ⟨fun h => ⟨h.1, h.2⟩, fun h => ⟨h.head, h.dotDot⟩⟩

/-- The names that a path leads through. -/
def namesOf (f : Text) : Place :=
  (ofText (Path.forward f)).components.filter fun c => c ≠ RawPath.dot

/-- The components that a relative path adds to those of a base. -/
structure Extends (base extended f : Text) (rel : List Text) : Prop where
  /-- They stand behind those of the base. -/
  components : (ofText extended).components = (ofText base).components ++ rel
  /-- Both paths start in the same directory. -/
  absolute : (ofText extended).absolute = (ofText base).absolute
  /-- They are the names of the relative path. -/
  names : rel.filter (fun c => c ≠ RawPath.dot) = namesOf f
  /-- None goes up. -/
  dotDot : RawPath.dotDot ∉ rel

/-- The components of a text that goes behind a base. -/
theorem components_append_gap (base f : Text) :
    (ofText (base ++ (Path.gap base ++ f))).components =
      (ofText base).components ++ (ofText f).components := by
  unfold Path.gap
  split
  · next hlast =>
    obtain ⟨u, rfl⟩ := List.getLast?_eq_some_iff.1 hlast
    rw [List.nil_append, List.append_assoc, List.singleton_append, RawPath.components_append_slash,
      RawPath.components_append_slash u [], List.append_assoc]
    rfl
  · exact RawPath.components_append_slash base f

/-- A relative path is joined to a base. -/
theorem exists_extends (hf : IsRelative f) (root : Path) :
    ∃ rel, Extends root.text (root.join f).text f rel := by
  by_cases hempty : root.text = []
  · rw [Path.join_of_replaces (.inr hempty), hempty]
    exact ⟨_, rfl, by simpa [ofText] using hf.head, rfl, hf.dotDot⟩
  rcases Path.segment_cases (Path.forward f) with hroot | hstays | hstep
  · exact absurd hroot hf.head
  · rw [Path.join_of_stays hempty hstays]
    refine ⟨[], (List.append_nil _).symm, rfl, ?_, by simp⟩
    rcases hstays with heq | heq <;> rw [namesOf, heq] <;> decide
  · rw [Path.join_of_isStep hempty hstep, List.append_assoc]
    exact ⟨_, components_append_gap _ _, RawPath.absolute_append hempty _, rfl, hf.dotDot⟩

/-- What stands behind a text says whether a slash stands at the end. -/
theorem slash_append (hf : f ≠ []) (base : Text) : (ofText (base ++ f)).slash = (ofText f).slash := by
  simp [ofText, List.getLast?_append_of_ne_nil _ hf]

/-- A path that a relative path is joined to ends as the relative path does. -/
theorem IsRelative.endsIn_join {before : List Text} (hf : IsRelative f) (hdot : name ≠ RawPath.dot)
    (h : EndsIn (Path.forward f) before name) (root : Path) :
    EndsIn (root.join f).text ((ofText root.text).components ++ before) name := by
  by_cases hempty : root.text = []
  · rw [Path.join_of_replaces (.inr hempty), hempty]
    exact h
  rcases Path.segment_cases (Path.forward f) with hroot | hstays | hstep
  · exact absurd hroot hf.head
  · have hcomponents := h.components
    rcases hstays with heq | heq
    · rw [heq] at hcomponents
      simp [ofText, Text.pieces] at hcomponents
    · rw [heq, RawPath.components_of_not_mem (by decide) (by decide)] at hcomponents
      have hlast := congrArg List.getLast? hcomponents
      rw [List.getLast?_concat] at hlast
      exact absurd (Option.some_inj.1 hlast).symm hdot
  · rw [Path.join_of_isStep hempty hstep]
    constructor
    · rw [List.append_assoc, components_append_gap, h.components, List.append_assoc]
    · rw [slash_append hstep.ne_nil, h.slash]

namespace Disk

/-! ## Places -/

/-- The place that a component leads to where there are no links. -/
def enter (dir : Place) (c : Text) : Place :=
  if c = RawPath.dot then dir else if c = RawPath.dotDot then dir.dropLast else dir ++ [c]

/-- The place that a path leads to where there are no links, whether anything is there or not. -/
def home (d : Disk) (path : Text) : Place :=
  (ofText path).components.foldl enter (d.start (ofText path))

/-- A path leads home to the same place on a disk that grows. -/
theorem Grows.home (h : Grows d d') (path : Text) : d'.home path = d.home path := by
  rw [Disk.home, Disk.home, h.start]

/-- Components that do not go up lead through their names. -/
theorem foldl_enter (h : RawPath.dotDot ∉ xs) (dir : Place) :
    xs.foldl enter dir = dir ++ xs.filter (fun c => c ≠ RawPath.dot) := by
  induction xs generalizing dir with
  | nil => simp
  | cons c xs ih =>
    rw [List.mem_cons, not_or] at h
    rw [List.foldl_cons, ih h.2, List.filter_cons, enter, if_neg (Ne.symm h.1)]
    by_cases hdot : c = RawPath.dot <;> simp [hdot]

/-- The place of a relative path below a base. -/
theorem home_join (hf : IsRelative f) (d : Disk) (root : Path) :
    d.home (root.join f).text = d.home root.text ++ namesOf f := by
  obtain ⟨rel, hext⟩ := exists_extends hf root
  rw [home, hext.components, List.foldl_append, foldl_enter hext.dotDot, hext.names,
    start_congr hext.absolute]
  rfl

/-- A walk below a place without links ends where its components lead. -/
theorem eq_foldl_enter_of_walk (hlinks : NoLinksBelow d base) (hdir : base <+: dir)
    (hup : base = [] ∨ RawPath.dotDot ∉ xs)
    (h : walk d follow links slash dir xs = .ok (.found q e)) : q = xs.foldl enter dir := by
  induction xs generalizing dir with
  | nil =>
    rw [walk] at h
    cases h
    rfl
  | cons c rest ih =>
    have hup' : base = [] ∨ RawPath.dotDot ∉ rest := hup.imp id fun hno hmem => hno (by simp [hmem])
    rw [List.foldl_cons]
    by_cases hdot : c = RawPath.dot
    · rw [walk, if_pos hdot] at h
      rw [enter, if_pos hdot]
      exact ih hdir hup' h
    · by_cases hdotDot : c = RawPath.dotDot
      · rw [walk, if_neg hdot, if_pos hdotDot] at h
        rw [enter, if_neg hdot, if_pos hdotDot]
        have hbase : base = [] := hup.resolve_right fun hno => hno (by simp [hdotDot])
        exact ih (hbase ▸ List.nil_prefix) hup' h
      · rw [walk_cons (isName_of_walk hdot hdotDot h)] at h
        rw [enter, if_neg hdot, if_neg hdotDot]
        split at h
        · split at h <;> cases h
        · exact ih (hdir.trans (List.prefix_append _ _)) hup' h
        · split at h
          · next hend =>
            cases h
            rw [Bool.and_eq_true, List.isEmpty_iff] at hend
            rw [hend.1]
            rfl
          · cases h
        · next target hget =>
          obtain ⟨rel, rfl⟩ := hdir
          rw [List.append_assoc] at hget
          exact absurd hget (hlinks _ _)

/-- Where there are no links a path leads home. -/
theorem eq_home_of_lookup (hlinks : NoLinksBelow d [])
    (h : d.lookup follow path = .ok (.found q e)) : q = d.home path := by
  rw [lookup, checkPath_of_lookup h] at h
  exact eq_foldl_enter_of_walk hlinks List.nil_prefix (.inl rfl) h

/-- The components of a path lead to a directory. -/
def Leads (d : Disk) (path : Text) (q : Place) : Prop :=
  ∃ left, Descends d maxLinks (d.start (ofText path)) (ofText path).components q left

theorem leads_of_lookup (h : d.lookup true path = .ok (.found q .directory)) : Leads d path q :=
  exists_descends_of_lookup h

theorem Leads.grows (h : Leads d path q) (hgrows : Grows d d') : Leads d' path q := by
  obtain ⟨left, hdesc⟩ := h
  exact ⟨left, hgrows.start _ ▸ hdesc.grows hgrows⟩

/-- A path leads to one directory. -/
theorem Leads.unique (h : Leads d path q) (h' : Leads d path p) : q = p := by
  obtain ⟨left, hdesc⟩ := h
  obtain ⟨left', hdesc'⟩ := h'
  cases (walk_of_descends hdesc false).symm.trans (walk_of_descends hdesc' false)
  rfl

theorem Leads.eq_home (h : Leads d path q) (hlinks : NoLinksBelow d []) : q = d.home path := by
  obtain ⟨left, hdesc⟩ := h
  exact eq_foldl_enter_of_walk hlinks List.nil_prefix (.inl rfl) (walk_of_descends hdesc false)

/-- A path that leads to a directory leads to no file. -/
theorem Leads.lookup_ne_file {content : ByteArray} {executable : Bool} (h : Leads d path q) :
    d.lookup true path ≠ .ok (.found p (.file content executable)) := by
  intro hlookup
  obtain ⟨left, hdesc⟩ := h
  rw [lookup, checkPath_of_lookup hlookup] at hlookup
  exact hdesc.walk_ne_file hlookup

/-- A path without names leads where the base does. -/
theorem Leads.join_of_names_eq_nil (h : Leads d root.text q) (hf : IsRelative f)
    (hnames : namesOf f = []) : Leads d (root.join f).text q := by
  obtain ⟨rel, hext⟩ := exists_extends hf root
  obtain ⟨left, hdesc⟩ := h
  have hdots : ∀ c ∈ rel, c = RawPath.dot := by
    have := hext.names.trans hnames
    rw [List.filter_eq_nil_iff] at this
    exact fun c hc => by simpa using this c hc
  refine ⟨left, ?_⟩
  rw [hext.components, start_congr hext.absolute]
  exact hdesc.append (descends_of_dots hdots)

/-- A relative path that leads from a directory to a file ends in a name. -/
theorem exists_endsIn_of_lookup_join {content : ByteArray} {executable : Bool} (hf : IsRelative f)
    (hroot : Leads d root.text p)
    (h : d.lookup true (root.join f).text = .ok (.found q (.file content executable))) :
    ∃ before name, EndsIn (Path.forward f) before name ∧ name ≠ RawPath.dot := by
  have hnames : namesOf f ≠ [] := fun hnil => (hroot.join_of_names_eq_nil hf hnil).lookup_ne_file h
  obtain ⟨dir, name, left, hentry⟩ := exists_entryAt h
  obtain ⟨before, hends, -⟩ := hentry.descends
  by_cases hempty : root.text = []
  · rw [Path.join_of_replaces (.inr hempty)] at hends
    exact ⟨before, name, hends, hentry.isName.ne_dot⟩
  rcases Path.segment_cases (Path.forward f) with hhead | hstays | hstep
  · exact absurd hhead hf.head
  · refine absurd ?_ hnames
    rcases hstays with heq | heq <;> rw [namesOf, heq] <;> decide
  · have hne : (ofText (Path.forward f)).components ≠ [] := fun hnil =>
      hnames (by rw [namesOf, hnil]; rfl)
    obtain ⟨own, last, hown⟩ := (List.eq_nil_or_concat' _).resolve_left hne
    have hcomponents := hends.components
    have hslash := hends.slash
    rw [Path.join_of_isStep hempty hstep] at hcomponents hslash
    rw [List.append_assoc, components_append_gap, hown, ← List.append_assoc] at hcomponents
    rw [slash_append hstep.ne_nil] at hslash
    obtain ⟨-, hlast⟩ := List.append_inj' hcomponents rfl
    rw [List.cons.injEq] at hlast
    exact ⟨own, last, ⟨hown, hslash⟩, hlast.1 ▸ hentry.isName.ne_dot⟩

/-- The base of a path to something leads to a directory, if the path has more components. -/
theorem exists_leads_of_extends {rel : List Text} {base' extended : Text}
    (hext : Extends base' extended f rel) (hrel : rel ≠ [])
    (h : d.lookup true extended = .ok (.found q e)) : ∃ p, Leads d base' p := by
  rw [lookup, checkPath_of_lookup h] at h
  simp only [bind, Except.bind, hext.components, start_congr hext.absolute] at h
  obtain ⟨last, left, hdesc, -⟩ := exists_descends hrel h
  exact ⟨last, left, hdesc⟩

/-- The base of a path to something leads to a directory. -/
theorem exists_leads_of_lookup_join (hf : IsRelative f) (hnames : namesOf f ≠ [])
    (h : d.lookup true (root.join f).text = .ok (.found q e)) : ∃ p, Leads d root.text p := by
  obtain ⟨rel, hext⟩ := exists_extends hf root
  refine exists_leads_of_extends hext ?_ h
  rintro rfl
  exact hnames hext.names.symm

/-- A path below a directory is followed from there. -/
theorem lookup_extended {rel : List Text} {base' extended : Text} (hext : Extends base' extended f rel)
    (hroot : Leads d base' base) (hchecked : checkPath extended = .ok ()) :
    ∃ left, d.lookup true extended = walk d true left (ofText extended).slash base rel := by
  obtain ⟨left, hdesc⟩ := hroot
  rw [← start_congr hext.absolute] at hdesc
  refine ⟨left, ?_⟩
  rw [lookup, hchecked]
  simp only [bind, Except.bind, hext.components]
  by_cases hrel : rel = []
  · rw [hrel, List.append_nil, walk_of_descends hdesc, walk]
  · exact walk_append hdesc hrel

/-- What stands at a path below a directory without links has the names of the path. -/
theorem eq_of_lookup_join (hlinks : NoLinksBelow d base) (hf : IsRelative f)
    (hroot : Leads d root.text base) (h : d.lookup true (root.join f).text = .ok (.found q e)) :
    q = base ++ namesOf f := by
  obtain ⟨rel, hext⟩ := exists_extends hf root
  obtain ⟨left, hwalk⟩ := lookup_extended hext hroot (checkPath_of_lookup h)
  rw [hwalk] at h
  rw [eq_foldl_enter_of_walk hlinks List.prefix_rfl (.inr hext.dotDot) h, foldl_enter hext.dotDot,
    hext.names]

/-- A file below a directory without links is found on every sound disk that has it. -/
theorem walk_file_of_get? {content content' : ByteArray} {executable executable' : Bool}
    {links' : Nat} (hd' : Sound d')
    (hlinks : NoLinksBelow d base) (hdir : base <+: dir) (hup : RawPath.dotDot ∉ xs)
    (hwalk : walk d true links slash dir xs = .ok (.found q (.file content executable)))
    (hget : d'.get? q = some (.file content' executable')) :
    walk d' true links' slash dir xs = .ok (.found q (.file content' executable')) := by
  induction xs generalizing dir with
  | nil =>
    rw [walk] at hwalk
    cases hwalk
  | cons c rest ih =>
    rw [List.mem_cons, not_or] at hup
    by_cases hdot : c = RawPath.dot
    · rw [walk, if_pos hdot] at hwalk ⊢
      exact ih hdir hup.2 hwalk
    · have hc := isName_of_walk hdot (Ne.symm hup.1) hwalk
      rw [walk_cons hc] at hwalk ⊢
      split at hwalk
      · split at hwalk <;> cases hwalk
      · next hdirectory =>
        have hdir' := hdir.trans (List.prefix_append dir [c])
        have hplace := eq_foldl_enter_of_walk hlinks hdir' (.inr hup.2) hwalk
        rw [foldl_enter hup.2] at hplace
        have hbehind : rest.filter (fun c => c ≠ RawPath.dot) ≠ [] := by
          intro hnil
          rw [hnil, List.append_nil] at hplace
          rcases get?_of_walk hwalk with h | h
          · cases h
          · rw [hplace, hdirectory] at h
            cases h
        rw [hd'.directory hbehind (hplace ▸ hget)]
        exact ih hdir' hup.2 hwalk
      · split at hwalk
        · next hend =>
          cases hwalk
          rw [hget]
          exact if_pos hend
        · cases hwalk
      · next target hlink =>
        obtain ⟨rel, rfl⟩ := hdir
        rw [List.append_assoc] at hlink
        exact absurd hlink (hlinks _ _)

/-- Paths with the same names below a base lead to the same file. -/
theorem eq_of_lookup_join_of_namesOf {content content' : ByteArray} {executable executable' : Bool}
    (hf : IsRelative f) (hg : IsRelative g) (hnames : namesOf f = namesOf g)
    (h : d.lookup true (root.join f).text = .ok (.found q (.file content executable)))
    (h' : d.lookup true (root.join g).text = .ok (.found p (.file content' executable'))) :
    q = p := by
  have hwalk : ∀ {f q content executable}, IsRelative f →
      d.lookup true (root.join f).text = .ok (.found q (.file content executable)) →
      walk d true maxLinks false (d.start (ofText root.text))
          ((ofText root.text).components.filter (fun c => c ≠ RawPath.dot) ++ namesOf f) =
        .ok (.found q (.file content executable)) := by
    intro f q content executable hf h
    obtain ⟨rel, hext⟩ := exists_extends hf root
    rw [lookup, checkPath_of_lookup h] at h
    have hfiltered := walk_filter_dot h
    rw [hext.components, List.filter_append, hext.names, start_congr hext.absolute] at hfiltered
    cases hslash : (ofText (root.join f).text).slash with
    | false => rwa [hslash] at hfiltered
    | true =>
      rw [hslash] at hfiltered
      exact absurd hfiltered walk_slash_ne_file
  have heq := (hwalk hf h).symm.trans (hnames ▸ hwalk hg h')
  cases heq
  rfl

/-- What is written at a path stands at the entry that the path names, unless that is a link. -/
theorem WrittenAt.eq_of_entryAt {content : ByteArray} {executable : Bool}
    (h : WrittenAt d path p content executable) (hentry : EntryAt d path dir name left)
    (hlink : ∀ target, d.get? (dir ++ [name]) ≠ some (.link target)) : p = dir ++ [name] := by
  have hleads := h.leads
  rw [hentry.lookup, walk_cons hentry.isName] at hleads
  split at hleads
  · rcases hleads with hvacant | ⟨e, hfound⟩
    · cases hvacant
      rfl
    · cases hfound
  · rw [walk] at hleads
    rcases hleads with hvacant | ⟨e, hfound⟩
    · cases hvacant
    · cases hfound
      rfl
  · rcases hleads with hvacant | ⟨e, hfound⟩
    · cases hvacant
    · cases hfound
      rfl
  · next target hget => exact absurd hget (hlink target)

end Disk

/-! ## Two trees -/

/-- The trees of the source and the destination have nothing in common. -/
structure TreesApart (d : Disk) (source dest : Path) : Prop where
  /-- The destination is not below the source. -/
  not_below : ¬ d.home source.text <+: d.home dest.text
  /-- The source is not below the destination. -/
  not_above : ¬ d.home dest.text <+: d.home source.text

theorem TreesApart.of_grows (h : TreesApart d source dest) (hgrows : Grows d d') :
    TreesApart d' source dest := by
  constructor
  · rw [hgrows.home, hgrows.home]
    exact h.not_below
  · rw [hgrows.home, hgrows.home]
    exact h.not_above

/-- Nothing below the destination is below the source. -/
theorem TreesApart.not_isPrefix (h : TreesApart d source dest) (rel : Place) :
    ¬ d.home source.text <+: d.home dest.text ++ rel := fun hpre =>
  (List.prefix_or_prefix_of_prefix hpre (List.prefix_append _ rel)).elim h.not_below h.not_above

/-- A copy goes below the destination. -/
theorem eq_of_place?_join (hlinks : NoLinksBelow d []) (hname : IsRelative name)
    (hplace : d.place? (dest.join name).text = some p) : p = d.home dest.text ++ namesOf name := by
  unfold place? at hplace
  split at hplace
  · next hlookup =>
    cases hplace
    rw [eq_home_of_lookup hlinks hlookup, home_join hname]
  · cases hplace

/-- A copy does not go below the source. -/
theorem TreesApart.not_isPrefix_place (h : TreesApart d source dest) (hlinks : NoLinksBelow d [])
    (hname : IsRelative name) (hplace : d.place? (dest.join name).text = some p) :
    ¬ d.home source.text <+: p := by
  rw [eq_of_place?_join hlinks hname hplace]
  exact h.not_isPrefix _

/-! ## Copying below a plain directory -/

/-- The directory that a copy goes to lies below a place, once it has been made. -/
def GoesBelow (d' : Disk) (target : Path) (base : Place) : Prop :=
  ∀ (d₁ : Disk) (dir : Place) (name : Text) (left : Nat), PlainBelow d₁ base → Grows d₁ d' →
    EntryAt d₁ target.text dir name left → base <+: dir

/-- Below the root everything lies. -/
theorem goesBelow_root (d' : Disk) (target : Path) : GoesBelow d' target [] :=
  fun _ _ _ _ _ _ _ => List.nil_prefix

/-- A relative path with names goes below the base. -/
theorem goesBelow_join (hbase : Leads d' root.text base) (hf : IsRelative f)
    (hnames : namesOf f ≠ []) : GoesBelow d' (root.join f) base := by
  intro d₁ dir name left hplain hgrows hentry
  obtain ⟨rel, hext⟩ := exists_extends hf root
  have hrel : rel ≠ [] := by
    rintro rfl
    exact hnames hext.names.symm
  obtain ⟨between, c, rfl⟩ := (List.eq_nil_or_concat' rel).resolve_left hrel
  obtain ⟨before, hends, hdesc⟩ := hentry.descends
  have hcomponents := hends.components
  rw [hext.components, ← List.append_assoc] at hcomponents
  obtain ⟨rfl, -⟩ := List.append_inj' hcomponents rfl
  obtain ⟨mid, left', hmid, hlast⟩ := hdesc.split
  have hleads : Leads d₁ root.text mid := ⟨left', start_congr hext.absolute ▸ hmid⟩
  obtain rfl := (hleads.grows hgrows).unique hbase
  have hdotDot : RawPath.dotDot ∉ between := fun hmem => hext.dotDot (by simp [hmem])
  rw [eq_foldl_enter_of_walk hplain.noLinksBelow List.prefix_rfl (.inr hdotDot) (walk_of_descends hlast false),
    foldl_enter hdotDot]
  exact List.prefix_append _ _

/-- A disk stays sound and a tree plain when a file is written below it. -/
theorem Disk.WrittenAt.sound_and_plainBelow {content : ByteArray} {executable : Bool}
    (h : WrittenAt d target.text p content executable) (hd : Sound d) (hplain : PlainBelow d base)
    (htarget : '\\' ∉ target.text)
    (hbelow : GoesBelow (d.store p content executable) target base) :
    Sound (d.store p content executable) ∧ PlainBelow (d.store p content executable) base := by
  obtain ⟨dir, name, left, hentry⟩ := h.entryAt
  obtain ⟨rel, rfl⟩ := hbelow _ _ _ _ hplain h.grows hentry
  obtain rfl := h.eq_of_entryAt hentry fun target => by
    rw [List.append_assoc]
    exact hplain.ne_link
  obtain ⟨before, hends, hdesc⟩ := hentry.descends
  have hmem : name ∈ (ofText target.text).components :=
    hends.components ▸ List.mem_append_right before (by simp)
  obtain ⟨hne, hslash, hchars⟩ := of_mem_components hmem
  exact ⟨hd.store (hdesc.get?_last hd (hd.start _)) ⟨hentry.isName, hne, hslash⟩ h.like,
    hplain.store (fun hback => htarget (hchars _ hback)) h.like⟩

/-- A disk stays sound and a tree plain when a file is copied. -/
theorem CopyStep.sound_and_plainBelow (h : CopyStep o d source target outcome d') (hd : Sound d)
    (hplain : PlainBelow d base) (htarget : '\\' ∉ target.text) (hbelow : GoesBelow d' target base) :
    Sound d' ∧ PlainBelow d' base := by
  have hsound := Files.sound_makeParent hd target o
  have hplain' := Files.plainBelow_makeParent hplain htarget o
  cases h with
  | notFound => exact ⟨hd, hplain⟩
  | failed => exact ⟨hsound, hplain'⟩
  | broken _ hmake _ _ hwritten | copied _ hmake _ hwritten =>
    rw [hmake] at hsound hplain'
    exact hwritten.sound_and_plainBelow hsound hplain' htarget hbelow
  | absorbed _ hmake =>
    rw [hmake] at hsound hplain'
    exact ⟨hsound, hplain'⟩

/-- Where a copy goes on a disk that has grown is where it went before. -/
theorem GoesBelow.of_grows (h : GoesBelow d' target base) (hgrows : Grows d₁ d') :
    GoesBelow d₁ target base := fun _ _ _ _ hplain hgrows' hentry =>
  h _ _ _ _ hplain (hgrows'.trans hgrows) hentry

/-- A disk stays sound and a tree plain along a run. -/
theorem CopyRun.sound_and_plainBelow (h : CopyRun o source dest d outcomes d') (hd : Sound d)
    (hplain : PlainBelow d base) (hdest : '\\' ∉ dest.text)
    (hbelow : ∀ x ∈ outcomes, GoesBelow d' (dest.join x.1) base) : Sound d' ∧ PlainBelow d' base := by
  induction h with
  | nil => exact ⟨hd, hplain⟩
  | cons hstep hrun ih =>
    obtain ⟨hd₁, hplain₁⟩ := hstep.sound_and_plainBelow hd hplain (Path.IsNormal.join hdest _)
      ((hbelow _ List.mem_cons_self).of_grows hrun.grows)
    exact ih hd₁ hplain₁ fun x hx => hbelow x (List.mem_cons_of_mem _ hx)

end ProtoUpkeep
