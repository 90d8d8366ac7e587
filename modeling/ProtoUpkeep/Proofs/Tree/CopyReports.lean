import ProtoUpkeep.Proofs.Tree.Entries

/-!
# What a copy report says

A request is copied file by file, and each file is reported once: as copied, as missing, or with the
error that stopped it (`CopyReport.Accounts`). Where there are no links, and the trees of the source and
the destination have nothing in common, no copy goes below the source, so what is not seen there was not
seen before the first copy (`CopyRun.notFound_iff`). The source may be reached through directories that a
copy makes, but then nothing can have been copied before, for that takes a file below the source.

All that changes are the files at the places of the copies, under all their names, and directories on the
way to them (`CopyRun.placeOutcome`). This is so whatever stands around the disk: a copy that breaks off
has written there too.
-/

namespace ProtoUpkeep

open Disk
open RawPath (ofText)

variable {ε : Type} {o : Outside} {d d' e e' : Disk} {source dest target : Path} {outcome : CopyOutcome}
  {outcomes : List (Text × CopyOutcome)} {f g name path path' : Text} {q : Place}
  {names : List Text} {content : ByteArray} {executable : Bool}

/-! ## The lists of a report -/

/-- Names that are listed in the order in which they are requested first. -/
def InOrder (names listed : List Text) : Prop :=
  listed.Pairwise fun f g => names.idxOf f < names.idxOf g

/-- The lists of a report account for every requested name once, and each keeps the order of the
request. -/
structure CopyReport.Accounts (report : CopyReport) (names : List Text) : Prop where
  /-- No name stands in two lists, or twice in one. -/
  nodup : (report.copied ++ report.notFound ++ report.failed.map Prod.fst).Nodup
  /-- The requested names stand in one. -/
  mem_iff : ∀ name, name ∈ report.copied ++ report.notFound ++ report.failed.map Prod.fst ↔
    name ∈ names
  /-- The files that were copied. -/
  copied : InOrder names report.copied
  /-- The files that are not there. -/
  notFound : InOrder names report.notFound
  /-- The files that could not be copied. -/
  failed : InOrder names (report.failed.map Prod.fst)

/-- Without repeats the names stand in the order in which they are requested first. -/
theorem inOrder_eraseDups (names : List Text) : InOrder names names.eraseDups := by
  induction names using List.reverseRecOn with
  | nil => simp [InOrder]
  | append_singleton names name ih =>
    have hbefore : InOrder (names ++ [name]) names.eraseDups := by
      refine List.Pairwise.imp_of_mem (fun hf hg hlt => ?_) ih
      rw [List.mem_eraseDups] at hf hg
      rwa [List.idxOf_append_of_mem hf, List.idxOf_append_of_mem hg]
    rw [List.eraseDups_append]
    by_cases hmem : name ∈ names
    · have hnone : [name].removeAll names = [] := by simp [List.removeAll, hmem]
      rw [hnone, List.eraseDups_nil, List.append_nil]
      exact hbefore
    · have hone : [name].removeAll names = [name] := by simp [List.removeAll, hmem]
      rw [hone]
      refine List.pairwise_append.2 ⟨hbefore, by simp [List.eraseDups_cons], fun f hf g hg => ?_⟩
      rw [List.mem_eraseDups] at hf hg
      obtain rfl := List.mem_singleton.1 hg
      rw [List.idxOf_append_of_mem hf, List.idxOf_append_of_notMem hmem]
      exact Nat.lt_of_lt_of_le (List.idxOf_lt_length_of_mem hf) (Nat.le_add_right _ _)

/-- Names that are listed in order have no repeats. -/
theorem InOrder.nodup {listed : List Text} (h : InOrder names listed) : listed.Nodup :=
  h.imp fun hlt heq => by
    rw [heq] at hlt
    exact Nat.lt_irrefl _ hlt

namespace CopyReport

/-- The lists together are the names of the outcomes. -/
theorem perm_outcomes (outcomes : List (Text × CopyOutcome)) :
    (copied ⟨outcomes⟩ ++ notFound ⟨outcomes⟩ ++ (failed ⟨outcomes⟩).map Prod.fst).Perm
      (outcomes.map Prod.fst) := by
  induction outcomes with
  | nil => exact .refl _
  | cons x outcomes ih =>
    obtain ⟨name, outcome⟩ := x
    cases outcome with
    | copied => exact ih.cons name
    | notFound =>
      refine .trans ?_ (ih.cons name)
      exact List.perm_middle.append_right _
    | failed error => exact List.perm_middle.trans (ih.cons name)

/-- Names that are picked from outcomes stand in their order. -/
theorem sublist_of_pick {pick : Text × CopyOutcome → Option Text}
    (hpick : ∀ x name, pick x = some name → name = x.1) (outcomes : List (Text × CopyOutcome)) :
    (outcomes.filterMap pick).Sublist (outcomes.map Prod.fst) := by
  induction outcomes with
  | nil => exact .slnil
  | cons x outcomes ih =>
    rw [List.filterMap_cons, List.map_cons]
    split
    · exact ih.cons x.1
    · next name hname =>
      rw [hpick x name hname]
      exact ih.cons_cons x.1

/-- A report on the names without repeats accounts for every name. -/
theorem accounts_of_outcomes {report : CopyReport}
    (h : report.outcomes.map Prod.fst = names.eraseDups) : report.Accounts names := by
  have horder := inOrder_eraseDups names
  rw [← h] at horder
  have hperm := perm_outcomes report.outcomes
  refine ⟨hperm.nodup_iff.2 horder.nodup, fun name => ?_, horder.sublist (sublist_of_pick ?_ _),
    horder.sublist (sublist_of_pick ?_ _), horder.sublist ?_⟩
  · rw [hperm.mem_iff, h, List.mem_eraseDups]
  · rintro ⟨file, outcome⟩ name hname
    cases outcome <;> simp_all
  · rintro ⟨file, outcome⟩ name hname
    cases outcome <;> simp_all
  · rw [failed, List.map_filterMap]
    refine sublist_of_pick ?_ _
    rintro ⟨file, outcome⟩ name hname
    cases outcome <;> simp_all

/-- A file is reported as missing if that is its outcome. -/
theorem mem_notFound_iff : name ∈ notFound ⟨outcomes⟩ ↔ (name, .notFound) ∈ outcomes := by
  unfold notFound
  rw [List.mem_filterMap]
  constructor
  · rintro ⟨⟨file, outcome⟩, hmem, h⟩
    cases outcome <;> simp_all
  · exact fun hmem => ⟨_, hmem, rfl⟩

end CopyReport

/-! ## Missing files -/

namespace Disk

/-- Directories are no links. -/
theorem AddsDirectories.noLinksBelow (h : AddsDirectories d d') (hlinks : NoLinksBelow d []) :
    NoLinksBelow d' [] := h.ne_link hlinks

/-- Paths with the same components lead to the same place. -/
theorem lookup_congr {follow : Bool} (hchecked : checkPath path = .ok ())
    (hchecked' : checkPath path' = .ok ())
    (habsolute : (ofText path).absolute = (ofText path').absolute)
    (hcomponents : (ofText path).components = (ofText path').components)
    (hslash : (ofText path).slash = (ofText path').slash) :
    d.lookup follow path = d.lookup follow path' := by
  rw [lookup, lookup, hchecked, hchecked']
  simp only [bind, Except.bind, hcomponents, hslash, start_congr habsolute]

/-- No slash is at the end of a path that leads to a file. -/
theorem slash_of_lookup (h : d.lookup true path = .ok (.found q (.file content executable))) :
    (ofText path).slash = false := by
  obtain ⟨dir, name, left, hentry⟩ := exists_entryAt h
  obtain ⟨before, hends, -⟩ := hentry.descends
  exact hends.slash

end Disk

/-- A disk on the way of a run: it has grown, it has no links and no new files below the source, and
it is the first one still unless a file of the source has been there to copy. -/
structure Reached (source : Path) (d e : Disk) : Prop where
  /-- It has grown. -/
  grows : Grows d e
  /-- There are no links. -/
  noLinks : NoLinksBelow e []
  /-- What is a file below the source was one before. -/
  file : ∀ {q content executable}, d.home source.text <+: q →
    e.get? q = some (.file content executable) →
    ∃ content' executable', d.get? q = some (.file content' executable')
  /-- The disk is the first one, or a file was there at the source. -/
  started : e = d ∨ ∃ g, IsRelative g ∧ d.isFile (source.join g).text = true

/-- A file of the source is found on the way of a run only where it was found at the start. -/
theorem Reached.isFile_of_isFile (h : Reached source d e) (hd : Sound d) (hlinks : NoLinksBelow d [])
    (hf : IsRelative f) (hfile : e.isFile (source.join f).text = true) :
    d.isFile (source.join f).text = true := by
  rcases h.started with rfl | ⟨g, hg, hthere⟩
  · exact hfile
  obtain ⟨q, content, executable, hlookup⟩ := Disk.isFile_eq_true_iff.1 hfile
  obtain ⟨q', content', executable', hlookup'⟩ := Disk.isFile_eq_true_iff.1 hthere
  obtain ⟨relf, hextf⟩ := exists_extends hf source
  obtain ⟨relg, hextg⟩ := exists_extends hg source
  by_cases hrelg : relg = []
  · -- The source itself is a file, and only paths without more components lead there.
    subst hrelg
    have hrelf : relf = [] := by
      by_contra hrelf
      obtain ⟨p, hleads⟩ := exists_leads_of_extends hextf hrelf hlookup
      obtain ⟨content'', executable'', -, hkept⟩ := lookup_file_grows h.grows hlookup'
      exact (hleads.join_of_names_eq_nil hg hextg.names.symm).lookup_ne_file hkept
    subst hrelf
    rw [Disk.isFile_eq_true_iff]
    refine ⟨q', content', executable', .trans (lookup_congr (checkPath_of_lookup hlookup)
      (checkPath_of_lookup hlookup') (hextf.absolute.trans hextg.absolute.symm)
      (hextf.components.trans hextg.components.symm) ?_) hlookup'⟩
    rw [slash_of_lookup hlookup, slash_of_lookup hlookup']
  · obtain ⟨p, hleads⟩ := exists_leads_of_extends hextg hrelg hlookup'
    obtain rfl := hleads.eq_home hlinks
    have hbelow : NoLinksBelow e (d.home source.text) := fun _ _ => h.noLinks _ _
    have hchecked := checkPath_of_lookup hlookup
    obtain rfl := eq_of_lookup_join hbelow hf (hleads.grows h.grows) hlookup
    obtain ⟨content₀, executable₀, hget⟩ := h.file (List.prefix_append _ _) (get?_of_lookup hlookup).2
    -- The walk below the source passes directories only, which are there on the first disk.
    obtain ⟨left, hwalk⟩ := lookup_extended hextf (hleads.grows h.grows) hchecked
    obtain ⟨left', hwalk'⟩ := lookup_extended hextf hleads hchecked
    rw [hwalk] at hlookup
    exact Disk.isFile_eq_true_iff.2 ⟨_, _, _, hwalk'.trans
      (walk_file_of_get? hd hbelow List.prefix_rfl hextf.dotDot hlookup hget)⟩

/-- What is a file of the source stays what it is along a run. -/
theorem Reached.isFile_eq (h : Reached source d e) (hd : Sound d) (hlinks : NoLinksBelow d [])
    (hf : IsRelative f) : o.isFile e (source.join f).text = o.isFile d (source.join f).text := by
  refine congrArg (!o.hides (source.join f).text && ·) ?_
  rw [Bool.eq_iff_iff]
  refine ⟨h.isFile_of_isFile hd hlinks hf, fun hfile => ?_⟩
  obtain ⟨q, content, executable, hlookup⟩ := Disk.isFile_eq_true_iff.1 hfile
  obtain ⟨content', executable', -, hkept⟩ := lookup_file_grows h.grows hlookup
  exact Disk.isFile_eq_true_iff.2 ⟨q, content', executable', hkept⟩

/-- Writing a file puts no link anywhere. -/
theorem Disk.WrittenAt.noLinksBelow (h : d.WrittenAt path q content executable)
    (hlinks : NoLinksBelow d []) : NoLinksBelow (d.store q content executable) [] := by
  intro r link
  rw [get?_store h.ne_nil]
  split
  · simp
  · exact hlinks r link

/-- Copying a file puts no link anywhere. -/
theorem CopyStep.noLinksBelow (h : CopyStep o d source target outcome d')
    (hlinks : NoLinksBelow d []) : NoLinksBelow d' [] := by
  cases h with
  | notFound => exact hlinks
  | failed => exact (Files.addsDirectories_makeParent target d o).noLinksBelow hlinks
  | broken _ hmake _ _ hwritten | copied _ hmake _ hwritten =>
    exact hwritten.noLinksBelow ((addsDirectories_of_makeParent hmake).noLinksBelow hlinks)
  | absorbed _ hmake => exact (addsDirectories_of_makeParent hmake).noLinksBelow hlinks

/-- A file is missing exactly if its path is not seen to lead to one. -/
theorem CopyStep.notFound_iff (h : CopyStep o d source target outcome d') :
    outcome = .notFound ↔ o.isFile d source.text = false := by
  cases h with
  | notFound hno => simp [hno]
  | failed hseen | broken hseen | copied hseen | absorbed hseen => simp [hseen]

/-! ## What changes -/

namespace Disk

/-- The place is on the way of a path, or at its end, where there are no links. -/
def OnWay (d : Disk) (path : Text) (q : Place) : Prop :=
  ∃ above, above <+: (ofText path).components ∧ q = above.foldl enter (d.start (ofText path))

/-- Directories are added on the way of a path. -/
structure AddsOnWay (d : Disk) (path : Text) (d' : Disk) : Prop where
  /-- Directories are added. -/
  adds : AddsDirectories d d'
  /-- They are on the way. -/
  onWay : ∀ q, d.get? q = none → d'.get? q = some .directory → OnWay d path q

theorem AddsOnWay.refl (d : Disk) (path : Text) : AddsOnWay d path d :=
  ⟨.refl d, fun q hnone hget => absurd (hnone.symm.trans hget) (by simp)⟩

/-- A directory that is made at a path is at its end. -/
theorem onWay_of_makeDirectory (hlinks : NoLinksBelow d []) (h : d.makeDirectory path = .ok d') :
    ∃ q, q ≠ [] ∧ d.get? q = none ∧ d' = d.put q .directory ∧ path ≠ [] ∧
      q = (ofText path).components.foldl enter (d.start (ofText path)) := by
  obtain ⟨before, name, dir, left, hchecked, hcomponents, hdesc, hname, hfree, rfl⟩ :=
    exists_of_makeDirectory h
  have hdir := eq_foldl_enter_of_walk hlinks List.nil_prefix (.inl rfl) (walk_of_descends hdesc false)
  refine ⟨dir ++ [name], by simp, hfree, rfl, (checkPath_eq_ok_iff.1 hchecked).2.1, ?_⟩
  rw [hcomponents, List.foldl_append, ← hdir, List.foldl_cons, List.foldl_nil, enter,
    if_neg hname.ne_dot, if_neg hname.ne_dotDot]

/-- Making a directory with those above it makes those on the way. -/
theorem addsOnWay_makeDirectories (hlinks : NoLinksBelow d []) (bound : Nat) (hhead : path <+: path')
    (hcomponents : (ofText path).components <+: (ofText path').components) (o : Outside) :
    AddsOnWay d path' (d.makeDirectories bound path o).2 := by
  refine makeDirectories_induction (motive := AddsOnWay d path')
    (fun {d₁ d₂ above} hhead' hcomponents' hadds hmake => ?_) d bound (.refl d path')
  obtain ⟨made, hne, hfree, rfl, hnonempty, hplace⟩ :=
    onWay_of_makeDirectory (hadds.adds.noLinksBelow hlinks) hmake
  refine ⟨hadds.adds.trans (addsDirectories_put hne hfree), fun q hnone hget => ?_⟩
  rw [get?_put hne] at hget
  split at hget
  · next heq =>
    obtain ⟨rest, hrest⟩ := hhead'.trans hhead
    refine ⟨_, hcomponents'.trans hcomponents, ?_⟩
    have habsolute := RawPath.absolute_append hnonempty rest
    rw [hrest] at habsolute
    rw [heq, hplace, hadds.adds.grows.start, start_congr habsolute]
  · exact hadds.onWay q hnone hget

end Disk

/-- Making the directory that a path is in makes those on the way. -/
theorem Files.addsOnWay_makeParent (target : Path) (hlinks : NoLinksBelow d []) (o : Outside) :
    AddsOnWay d target.text ((Files.makeParent target).runOn d o).2 := by
  rcases Files.makeParent_cases target d o with heq | ⟨parent, hparent, heq⟩
  · rw [heq]
    exact .refl d target.text
  · rw [heq]
    exact addsOnWay_makeDirectories hlinks _ (RawPath.isCut_of_parent? hparent).2
      (RawPath.components_of_parent? hparent) o

/-- What an operation on the way to a target does to a place: nothing, or a file that has the target
among its names is written, or a directory is made that is on the way. -/
inductive TargetOutcome (d d' : Disk) (target : Text) (q : Place) : Prop
  | unchanged : d'.get? q = d.get? q → TargetOutcome d d' target q
  | file {content : ByteArray} {executable : Bool} : d.SameFile (d.home target) q →
    d'.get? q = some (.file content executable) → TargetOutcome d d' target q
  | directory : d.get? q = none → d'.get? q = some .directory → OnWay d target q →
    TargetOutcome d d' target q

/-- Making directories on the way makes directories. -/
theorem Disk.AddsOnWay.targetOutcome (h : AddsOnWay d path d') (q : Place) :
    TargetOutcome d d' path q := by
  rcases h.adds.get? q with heq | ⟨hnone, hdirectory⟩
  · exact .unchanged heq
  · exact .directory hnone hdirectory (h.onWay q hnone hdirectory)

/-- Writing behind that writes one file. -/
theorem Disk.AddsOnWay.targetOutcome_store {d₁ : Disk} {p : Place} (h : AddsOnWay d path d₁)
    (hlinks : NoLinksBelow d []) (hwritten : d₁.WrittenAt path p content executable) (q : Place) :
    TargetOutcome d (d₁.store p content executable) path q := by
  have hplace : p = d.home path := by
    rw [eq_home_of_lookup (hwritten.noLinksBelow (h.adds.noLinksBelow hlinks)) hwritten.lookup,
      (h.adds.grows.trans hwritten.grows).home]
  have hget : (d₁.store p content executable).get? q =
      if d₁.SameFile p q then some (.file content executable) else d₁.get? q :=
    get?_store hwritten.ne_nil content executable q
  by_cases hsame : d₁.SameFile p q
  · rw [if_pos hsame] at hget
    exact .file (hplace ▸ (sameFile_congr h.adds.number?).1 hsame) hget
  · rw [if_neg hsame] at hget
    cases h.targetOutcome q with
    | unchanged heq => exact .unchanged (hget.trans heq)
    | file hname hfile => exact .file hname (hget.trans hfile)
    | directory hnone hdirectory hway => exact .directory hnone (hget.trans hdirectory) hway

/-- What copying a file does to a place. A missing file changes nothing. -/
theorem CopyStep.targetOutcome (h : CopyStep o d source target outcome d')
    (hlinks : NoLinksBelow d []) (q : Place) :
    d'.get? q = d.get? q ∨ outcome ≠ .notFound ∧ TargetOutcome d d' target.text q := by
  have hadds := Files.addsOnWay_makeParent target hlinks o
  cases h with
  | notFound => exact .inl rfl
  | failed => exact .inr ⟨by simp, hadds.targetOutcome q⟩
  | broken _ hmake _ _ hwritten | copied _ hmake _ hwritten =>
    rw [hmake] at hadds
    exact .inr ⟨by simp, hadds.targetOutcome_store hlinks hwritten q⟩
  | absorbed _ hmake =>
    rw [hmake] at hadds
    exact .inr ⟨by simp, hadds.targetOutcome q⟩

/-- One more file is copied on the way of a run. -/
theorem Reached.step (h : Reached source d e) (hapart : TreesApart d source dest)
    (hname : IsRelative name)
    (hstep : CopyStep o e (source.join name) (dest.join name) outcome e') :
    Reached source d e' := by
  refine ⟨h.grows.trans hstep.grows, hstep.noLinksBelow h.noLinks,
    fun {q content executable} hq hget => ?_, ?_⟩
  · -- A copy does not go below the source, and its other names show a file already.
    have hnot : q ≠ e.home (dest.join name).text := by
      rintro rfl
      rw [h.grows.home, home_join hname] at hq
      exact hapart.not_isPrefix _ hq
    rcases hstep.targetOutcome h.noLinks q with heq | ⟨-, houtcome⟩
    · exact h.file hq (heq.symm.trans hget)
    · cases houtcome with
      | unchanged heq => exact h.file hq (heq.symm.trans hget)
      | file hsame =>
        obtain ⟨hnumber, hsome⟩ := hsame.resolve_left hnot
        obtain ⟨content', executable', hget'⟩ := exists_file_of_isSome_number? (hnumber ▸ hsome)
        exact h.file hq hget'
      | directory _ hdirectory => cases hget.symm.trans hdirectory
  · rcases h.started with rfl | hthere
    · by_cases hnot : outcome = .notFound
      · subst hnot
        cases hstep
        exact .inl rfl
      · refine .inr ⟨name, hname, isFile_of_outside (o := o) ?_⟩
        rwa [hstep.notFound_iff, Bool.not_eq_false] at hnot
    · exact .inr hthere

/-- A file of a run is missing exactly if it was not seen at the start. -/
theorem CopyRun.notFound_iff (h : CopyRun o source dest e outcomes e') (hd : Sound d)
    (hlinks : NoLinksBelow d []) (hapart : TreesApart d source dest) (hreached : Reached source d e)
    (hrel : ∀ x ∈ outcomes, IsRelative x.1) :
    ∀ x ∈ outcomes, x.2 = .notFound ↔ o.isFile d (source.join x.1).text = false := by
  induction h with
  | nil => simp
  | cons hstep _ ih =>
    have hname := hrel _ List.mem_cons_self
    intro x hx
    rcases List.mem_cons.1 hx with rfl | hx
    · rw [hstep.notFound_iff, hreached.isFile_eq hd hlinks hname]
    · exact ih (hreached.step hapart hname hstep) (fun x hx => hrel x (List.mem_cons_of_mem _ hx)) x hx

/-- Where a run starts it has been reached. -/
theorem Reached.refl (source : Path) (hlinks : NoLinksBelow d []) : Reached source d d :=
  ⟨.refl d, hlinks, fun _ hget => ⟨_, _, hget⟩, .inl rfl⟩

/-- What a request does to a place: nothing, or a file is written there that has the place of a copy
among its names, or a directory is made that is on the way of a file that was copied or could not be
copied. -/
inductive PlaceOutcome (d d' : Disk) (dest : Path) (report : CopyReport) (q : Place) : Prop
  /-- The place is as it was. -/
  | unchanged : d'.get? q = d.get? q → PlaceOutcome d d' dest report q
  /-- A copy goes there, in part perhaps. -/
  | copy {name : Text} {content : ByteArray} {executable : Bool} :
    name ∈ report.copied ++ report.failed.map Prod.fst →
    d.SameFile (d.home (dest.join name).text) q → d'.get? q = some (.file content executable) →
    PlaceOutcome d d' dest report q
  /-- A directory is made there. -/
  | directory {name : Text} : name ∈ report.copied ++ report.failed.map Prod.fst →
    OnWay d (dest.join name).text q → d.get? q = none → d'.get? q = some .directory →
    PlaceOutcome d d' dest report q

/-- Places on the way of a path are the same on a disk that grows. -/
theorem Disk.OnWay.of_grows (h : OnWay d' path q) (hgrows : Grows d d') : OnWay d path q := by
  obtain ⟨above, habove, rfl⟩ := h
  exact ⟨above, habove, by rw [hgrows.start]⟩

/-- A file that is not missing was copied or could not be copied. -/
theorem CopyReport.mem_of_ne_notFound (hmem : (name, outcome) ∈ outcomes)
    (hne : outcome ≠ .notFound) : name ∈ copied ⟨outcomes⟩ ++ (failed ⟨outcomes⟩).map Prod.fst := by
  rw [List.mem_append, mem_copied_iff, mem_failed_iff]
  cases outcome with
  | copied => exact .inl hmem
  | notFound => exact absurd rfl hne
  | failed error => exact .inr ⟨error, hmem⟩

/-- What has been reported stays reported. -/
theorem CopyReport.mem_tried_cons {x : Text × CopyOutcome}
    (h : name ∈ copied ⟨outcomes⟩ ++ (failed ⟨outcomes⟩).map Prod.fst) :
    name ∈ copied ⟨x :: outcomes⟩ ++ (failed ⟨x :: outcomes⟩).map Prod.fst := by
  rw [List.mem_append, mem_copied_iff, mem_failed_iff] at h ⊢
  exact h.imp (List.mem_cons_of_mem _) fun ⟨error, hmem⟩ => ⟨error, List.mem_cons_of_mem _ hmem⟩

/-- What a run does to a place. -/
theorem CopyRun.placeOutcome (h : CopyRun o source dest d outcomes d') (hlinks : NoLinksBelow d [])
    (q : Place) : PlaceOutcome d d' dest ⟨outcomes⟩ q := by
  induction h with
  | nil => exact .unchanged rfl
  | @cons d d₁ d' name outcome outcomes hstep hrun ih =>
    have hgrows := hstep.grows
    cases ih (hstep.noLinksBelow hlinks) with
    | unchanged heq =>
      rcases hstep.targetOutcome hlinks q with heq' | ⟨hne, houtcome⟩
      · exact .unchanged (heq.trans heq')
      · have hfirst : (name, outcome) ∈ (name, outcome) :: outcomes := List.mem_cons_self
        have hname := CopyReport.mem_of_ne_notFound hfirst hne
        cases houtcome with
        | unchanged heq' => exact .unchanged (heq.trans heq')
        | file hsame hget => exact .copy hname hsame (heq.trans hget)
        | directory hnone hget hway => exact .directory hname hway hnone (heq.trans hget)
    | copy hname hsame hget =>
      rw [hgrows.home, sameFile_congr hstep.number?] at hsame
      exact .copy (CopyReport.mem_tried_cons hname) hsame hget
    | directory hname hway hnone hget =>
      refine .directory (CopyReport.mem_tried_cons hname) (hway.of_grows hgrows) ?_ hget
      cases hbefore : d.get? q with
      | none => rfl
      | some entry =>
        obtain ⟨entry', hkept, -⟩ := hgrows.get? q entry hbefore
        cases hnone.symm.trans hkept

/-! ## Requests -/

/-- A proto file, another one in a directory, and a file in the tree where that directory would go. -/
def blockedTree : List (Place × Entry) := [
  (["up"], .directory),
  (["up", "a.proto"], .file (Text.toBytes "a") false),
  (["up", "b"], .directory),
  (["up", "b", "c.proto"], .file (Text.toBytes "c") false),
  (["p"], .directory),
  (["p", "b"], .file (Text.toBytes "b") false)]

/-- A file that is not seen is missing. -/
theorem runOn_copyProto_of_isFile_eq_false (dest : Path)
    (h : o.isFile d (source.join name).text = false) :
    (copyProto source dest name : DiskAction ε CopyOutcome).runOn d o = (.ok .notFound, d) := by
  have hisFile : (Files.isFile (source.join name) : DiskAction ε Bool).runOn d o =
      (.ok (o.isFile d (source.join name).text), d) := DiskAction.runOn_ofQuery _ _
  rw [copyProto, DiskAction.runOn_bind_ok hisFile, h]
  rfl

/-- A proto file in a directory. -/
def upstreamFile : List (Place × Entry) := [
  (["up"], .directory),
  (["up", "a.proto"], .file (Text.toBytes "new") false)]

/-- A path to the directory, with steps in front. -/
def longSource (n : Nat) : Path := ⟨staying n "up"⟩

/-- The path leads to the directory unless there are too many steps. -/
theorem lookup_longSource {n : Nat} (hn : 2 * n + 2 < maxPath) :
    (ofEntries upstreamFile).lookup true (longSource n).text = .ok (.found ["up"] .directory) := by
  have hup : (ofEntries upstreamFile).lookup true "up" = .ok (.found ["up"] .directory) :=
    lookup_of_descends (by decide)
      (.directory (c := "up") ⟨by decide, by decide, by decide⟩ rfl .nil)
  exact lookup_staying hup (by decide) hn

/-- The path of the file is too long if there are too many steps. -/
theorem isFile_longSource {n : Nat} (hn : maxPath ≤ 2 * n + 10) (d : Disk) :
    d.isFile ((longSource n).join "a.proto").text = false := by
  rw [Bool.eq_false_iff]
  intro hfile
  obtain ⟨q, content, executable, hlookup⟩ := Disk.isFile_eq_true_iff.1 hfile
  have hlt := (checkPath_eq_ok_iff.1 (checkPath_of_lookup hlookup)).2.2
  have hfileName : IsPlainName "a.proto" := by decide
  have hlast : (longSource n).text.getLast? = some 'p' := getLast?_staying (by decide) n
  have hbytes : byteCount (longSource n).text = 2 * n + 2 := byteCount_staying n "up"
  have height : byteCount ('/' :: "a.proto".toList) = 8 := by decide
  have hsplit : byteCount ((longSource n).text ++ '/' :: "a.proto".toList) =
      byteCount (longSource n).text + byteCount ('/' :: "a.proto".toList) := byteCount_append _ _
  rw [Path.text_join hfileName, hlast] at hlt
  change byteCount ((longSource n).text ++ '/' :: "a.proto".toList) < maxPath at hlt
  omega

/-- The file is missing then. -/
theorem runOn_copyProtos_longSource {n : Nat} (hn : maxPath ≤ 2 * n + 10) (d : Disk) :
    (copyProtos (longSource n) ⟨"p"⟩ ["a.proto"] : DiskAction ε CopyReport).runOn d =
      (.ok ⟨[("a.proto", .notFound)]⟩, d) :=
  runOn_copyProtos (runOn_copyEach_cons
    (runOn_copyProto_of_isFile_eq_false _ (isFile_longSource hn d)) rfl)

/-- The entries of a tree in which a copy goes to a file that has another name outside. -/
def linkedEntries : List (Place × Entry) :=
  (["x"], .file (Text.toBytes "old") false) :: (["p", "a.proto"], .file (Text.toBytes "old") false) ::
    (["p"], .directory) :: upstreamFile

/-- The two places are names of one file. -/
def linkedTree : Disk := ofEntriesSharing linkedEntries ["p", "a.proto"] ["x"] rfl rfl

end ProtoUpkeep
