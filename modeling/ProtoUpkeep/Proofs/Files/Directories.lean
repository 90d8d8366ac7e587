import ProtoUpkeep.Proofs.Files.Growth
import ProtoUpkeep.Proofs.Files.Trees

/-!
# Directories that are made again

A directory that has been made is there, so the path leads to it (`Disk.lookup_of_makeDirectories`).
Made again, also on a disk that has grown since, it is left alone, and where it could not be made it
cannot be made now (`Disk.makeDirectories_error_again`): a file that stands in the way stays a file,
and a name that is too long stays too long. Only a link could lead to a directory later, so there must
be none. It cannot be made for the same reason (`Disk.makeDirectories_same_error`) if every `..` of
the path is reached through directories that are there (`Disk.ReachesUps`).

The directories that are made keep a disk sound, and a tree plain.
-/

namespace ProtoUpkeep.Disk

open RawPath (ofText EndsIn IsCut IsParent)

variable {d d' f : Disk} {links left bound : Nat} {dir base p q : Place} {xs before : List Text}
  {path name : Text} {fault : FileFault} {r : Except FileFault Unit}

/-! ## Ways to directories -/

/-- A path that asks for a directory leads to one, or fails. -/
theorem walk_slash_cases (d : Disk) (links : Nat) (dir : Place) (xs : List Text) :
    (∃ last left, Descends d links dir xs last left) ∨
      ∃ fault, walk d true links true dir xs = .error fault := by
  rcases hwalk : walk d true links true dir xs with fault | spot
  · exact .inr ⟨fault, rfl⟩
  · cases spot with
    | vacant p => exact absurd ((walk_put_of_vacant hwalk).2.2 ByteArray.empty false) walk_slash_ne_file
    | found q e =>
      cases e with
      | file content executable => exact absurd hwalk walk_slash_ne_file
      | link target => exact absurd hwalk walk_ne_link
      | directory => exact .inl ⟨q, exists_descends_of_walk hwalk⟩

/-- A path leads to a directory exactly if it can be looked up as one. -/
theorem isDirectory_eq_true_iff :
    d.isDirectory path = true ↔ ∃ q, d.lookup true path = .ok (.found q .directory) := by
  unfold isDirectory stat?
  split
  · next q e hlookup =>
    rw [beq_iff_eq, Option.some_inj]
    constructor
    · rintro rfl
      exact ⟨q, hlookup⟩
    · rintro ⟨q', hlookup'⟩
      cases hlookup.symm.trans hlookup'
      rfl
  · next hnot =>
    simp only [beq_iff_eq, reduceCtorEq, false_iff, not_exists]
    exact fun q => hnot q .directory

/-- A path leads to no directory where the way to its last component fails. -/
theorem isDirectory_of_walk_error (hends : EndsIn path before name)
    (hwalk : walk d true maxLinks true (d.start (ofText path)) before = .error fault) :
    d.isDirectory path = false := by
  rw [← Bool.not_eq_true, isDirectory_eq_true_iff]
  rintro ⟨q, hlookup⟩
  obtain ⟨left, hdesc⟩ := exists_descends_of_lookup hlookup
  rw [hends.components] at hdesc
  obtain ⟨mid, between, hbefore, -⟩ := hdesc.split
  rw [walk_of_descends hbefore] at hwalk
  cases hwalk

/-- A path that is cut off behind a component is empty, or leads to the directory that it starts in,
or ends in a name. -/
theorem descends_or_endsIn (d : Disk) (h : IsCut path) :
    path = [] ∨ (checkPath path = .ok () ∧ ∃ last left,
      Descends d maxLinks (d.start (ofText path)) (ofText path).components last left) ∨
      ∃ before name, EndsIn path before name ∧ name ≠ RawPath.dot := by
  rcases h with rfl | rfl | rfl | hends
  · exact .inl rfl
  · exact .inr (.inl ⟨by decide, _, _, .nil⟩)
  · exact .inr (.inl ⟨by decide, _, _, .dot .nil⟩)
  · exact .inr (.inr hends)

/-! ## Making one directory -/

/-- The directory that a path ends with is made if its name is free. -/
theorem makeDirectory_of_descends_before (hchecked : checkPath path = .ok ())
    (hends : EndsIn path before name)
    (hdesc : Descends d maxLinks (d.start (ofText path)) before dir left) :
    d.makeDirectory path =
      if name = RawPath.dot ∨ name = RawPath.dotDot then .error .exists
      else if maxName < byteCount name then .error .nameTooLong
      else if d.get? (dir ++ [name]) = none then .ok (d.put (dir ++ [name]) .directory)
      else .error .exists := by
  have hreverse : (ofText path).components.reverse = name :: before.reverse := by
    rw [hends.components, List.reverse_append]
    rfl
  simp only [makeDirectory, lastName?, bind, Except.bind, hchecked, hreverse, List.reverse_reverse,
    walk_of_descends hdesc true]
  by_cases hdots : name = RawPath.dot ∨ name = RawPath.dotDot
  · rw [if_pos hdots, if_pos hdots]
    rfl
  · rw [if_neg hdots, if_neg hdots]
    simp only [pure, Except.pure]
    by_cases hlong : maxName < byteCount name
    · rw [if_pos hlong, if_pos hlong]
    · rw [if_neg hlong, if_neg hlong]
      cases d.get? (dir ++ [name]) <;> rfl

/-- No directory is made where the way to it fails. -/
theorem makeDirectory_of_walk_error (hchecked : checkPath path = .ok ())
    (hends : EndsIn path before name)
    (hwalk : walk d true maxLinks true (d.start (ofText path)) before = .error fault) :
    d.makeDirectory path = .error fault := by
  have hreverse : (ofText path).components.reverse = name :: before.reverse := by
    rw [hends.components, List.reverse_append]
    rfl
  simp only [makeDirectory, lastName?, bind, Except.bind, hchecked, hreverse, List.reverse_reverse,
    hwalk]

/-- A directory is made at a free place, and the path leads to it. -/
theorem lookup_of_makeDirectory (h : d.makeDirectory path = .ok d') : ∃ q, q ≠ [] ∧
    d.get? q = none ∧ d' = d.put q .directory ∧ d'.lookup true path = .ok (.found q .directory) := by
  obtain ⟨before, name, dir, left, hchecked, hcomponents, hdesc, hname, hfree, rfl⟩ :=
    exists_of_makeDirectory h
  have hgrows : Grows d (d.put (dir ++ [name]) .directory) := grows_put (by simp) (by simp [hfree])
  have hlast : Descends (d.put (dir ++ [name]) .directory) left dir [name] (dir ++ [name]) left := by
    refine .directory hname ?_ .nil
    rw [get?_put (by simp), if_pos rfl]
  have hway := (hdesc.grows hgrows).append hlast
  rw [← hcomponents, ← hgrows.start] at hway
  exact ⟨dir ++ [name], by simp, hfree, rfl, lookup_of_descends hchecked hway⟩

/-- A way that fails for another reason than a missing entry fails on a disk that grows. -/
theorem walk_error_grows (hlinks : ∀ q target, d.get? q ≠ some (.link target)) (hgrows : Grows d d')
    (hwalk : walk d true links true dir xs = .error fault) (hfault : fault ≠ .notFound) :
    walk d' true links true dir xs = .error fault := by
  induction xs generalizing dir with
  | nil =>
    rw [walk] at hwalk
    cases hwalk
  | cons c rest ih =>
    rw [walk] at hwalk ⊢
    split
    · next hdot =>
      rw [if_pos hdot] at hwalk
      exact ih hwalk
    · next hdot =>
      rw [if_neg hdot] at hwalk
      split
      · next hdotDot =>
        rw [if_pos hdotDot] at hwalk
        exact ih hwalk
      · next hdotDot =>
        rw [if_neg hdotDot] at hwalk
        split
        · next hlong => rwa [if_pos hlong] at hwalk
        · next hlong =>
          rw [if_neg hlong] at hwalk
          simp only [Bool.not_true, Bool.and_false, Bool.false_eq_true, if_false] at hwalk ⊢
          split at hwalk
          · cases hwalk
            exact absurd rfl hfault
          · next hget =>
            rw [hgrows.directory hget]
            exact ih hwalk
          · next hget =>
            obtain ⟨content', executable', hget'⟩ := hgrows.file hget
            rw [hget']
            exact hwalk
          · next target hget => exact absurd hget (hlinks _ target)

/-- Why no directory has a name and none is made there: the name is too long, or a file has it. -/
inductive Refuses (d : Disk) (dir : Place) (name : Text) : FileFault → Prop
  | long : maxName < byteCount name → Refuses d dir name .nameTooLong
  | file {content : ByteArray} {executable : Bool} : IsName name →
      d.get? (dir ++ [name]) = some (.file content executable) → Refuses d dir name .exists

/-- What refuses a directory does so on a disk that grows. -/
theorem Refuses.grows (h : Refuses d dir name fault) (hgrows : Grows d d') :
    Refuses d' dir name fault := by
  cases h with
  | long hlong => exact .long hlong
  | file hname hget =>
    obtain ⟨content', executable', hget'⟩ := hgrows.file hget
    exact .file hname hget'

section Descends

variable (hchecked : checkPath path = .ok ()) (hends : EndsIn path before name)
  (hdesc : Descends d maxLinks (d.start (ofText path)) before dir left)

include hchecked hends hdesc

/-- No directory is made and none is there where the name is refused. -/
theorem Refuses.makeDirectory (h : Refuses d dir name fault) :
    d.makeDirectory path = .error fault ∧ d.isDirectory path = false := by
  rw [makeDirectory_of_descends_before hchecked hends hdesc]
  cases h with
  | long hlong =>
    have hdots : ¬ (name = RawPath.dot ∨ name = RawPath.dotDot) := by
      rintro (rfl | rfl) <;> exact absurd hlong (by decide)
    rw [if_neg hdots, if_pos hlong]
    refine ⟨rfl, ?_⟩
    rw [← Bool.not_eq_true, isDirectory_eq_true_iff]
    rintro ⟨q, hlookup⟩
    obtain ⟨left', hdescends⟩ := exists_descends_of_lookup hlookup
    rw [hends.components] at hdescends
    obtain ⟨mid, between, -, hname⟩ := hdescends.split
    exact absurd (hname.exists_get?.resolve_left hdots).1.byteCount_le (Nat.not_le.2 hlong)
  | file hname hget =>
    have hentry : EntryAt d path dir name left := ⟨hchecked, ⟨before, hends, hdesc⟩, hname⟩
    rw [if_neg (not_or.2 ⟨hname.ne_dot, hname.ne_dotDot⟩), if_neg (Nat.not_lt.2 hname.byteCount_le),
      if_neg (by simp [hget])]
    exact ⟨rfl, by simp [isDirectory, stat?, hentry.lookup_of_file hget]⟩

/-- Where no directory is made and none is there the name is refused. -/
theorem refuses_of_makeDirectory (hlinks : ∀ q target, d.get? q ≠ some (.link target))
    (herror : d.makeDirectory path = .error fault) (hnot : d.isDirectory path = false) :
    Refuses d dir name fault := by
  rw [makeDirectory_of_descends_before hchecked hends hdesc] at herror
  have hleads : ∀ last left', ¬ Descends d left dir [name] last left' := by
    intro last left' hname
    have hdescends := hdesc.append hname
    rw [← hends.components] at hdescends
    have := isDirectory_eq_true_iff.2 ⟨last, lookup_of_descends hchecked hdescends⟩
    rw [hnot] at this
    cases this
  have hdots : ¬ (name = RawPath.dot ∨ name = RawPath.dotDot) := by
    rintro (rfl | rfl)
    · exact hleads _ _ (.dot .nil)
    · exact hleads _ _ (.dotDot .nil)
  rw [if_neg hdots] at herror
  by_cases hlong : maxName < byteCount name
  · rw [if_pos hlong] at herror
    cases herror
    exact .long hlong
  have hname : IsName name :=
    ⟨fun heq => hdots (.inl heq), fun heq => hdots (.inr heq), Nat.not_lt.1 hlong⟩
  rw [if_neg hlong] at herror
  split at herror
  · cases herror
  · next hthere =>
    cases herror
    obtain ⟨e, hget⟩ := Option.ne_none_iff_exists'.1 hthere
    cases e with
    | directory => exact absurd (.directory hname hget .nil) (hleads _ _)
    | link target => exact absurd hget (hlinks _ target)
    | file content executable => exact .file hname hget

end Descends

/-- A directory that is not made, although those above it are there, is not made on a disk that
grows. -/
theorem makeDirectory_error_grows (hlinks : ∀ q target, d.get? q ≠ some (.link target))
    (hgrows : Grows d d') (hends : EndsIn path before name)
    (herror : d.makeDirectory path = .error fault) (hfault : fault ≠ .notFound)
    (hnot : d.isDirectory path = false) :
    d'.makeDirectory path = .error fault ∧ d'.isDirectory path = false := by
  have hstart := hgrows.start (ofText path)
  cases hchecked : checkPath path with
  | error fault' =>
    have hsame : ∀ d : Disk, d.makeDirectory path = .error fault' ∧ d.isDirectory path = false := by
      intro d
      simp [makeDirectory, lastName?, isDirectory, stat?, lookup, bind, Except.bind, hchecked]
    obtain rfl : fault' = fault := Except.error.inj ((hsame d).1.symm.trans herror)
    exact hsame d'
  | ok u =>
    rcases walk_slash_cases d maxLinks (d.start (ofText path)) before with
      ⟨dir, left, hdesc⟩ | ⟨fault', hwalk⟩
    · have hdesc' := hdesc.grows hgrows
      rw [← hstart] at hdesc'
      have hrefuses := refuses_of_makeDirectory hchecked hends hdesc hlinks herror hnot
      exact (hrefuses.grows hgrows).makeDirectory hchecked hends hdesc'
    · have hmake := makeDirectory_of_walk_error hchecked hends hwalk
      obtain rfl : fault' = fault := Except.error.inj (hmake.symm.trans herror)
      have hwalk' := walk_error_grows hlinks hgrows hwalk hfault
      rw [← hstart] at hwalk'
      exact ⟨makeDirectory_of_walk_error hchecked hends hwalk',
        isDirectory_of_walk_error hends hwalk'⟩

/-! ## Making a directory with those above it -/

/-- A directory that has been made with those above it is there. -/
theorem lookup_of_makeDirectories {o : Outside}
    (h : d.makeDirectories bound path o = (.ok (), d')) :
    path = [] ∨ ∃ q, d'.lookup true path = .ok (.found q .directory) := by
  cases bound with
  | zero => cases h
  | succ bound =>
    rw [makeDirectories] at h
    split at h
    · next hempty => exact .inl (List.isEmpty_iff.1 hempty)
    · refine .inr ?_
      split at h
      · next hmake =>
        cases h
        obtain ⟨q, -, -, -, hlookup⟩ := lookup_of_makeDirectory (makeDirectory_of_outside hmake)
        exact ⟨q, hlookup⟩
      · split at h
        · cases h
        · split at h
          · cases h
          · split at h
            · next hmake =>
              cases h
              obtain ⟨q, -, -, -, hlookup⟩ := lookup_of_makeDirectory (makeDirectory_of_outside hmake)
              exact ⟨q, hlookup⟩
            · split at h
              · next hdirectory =>
                cases h
                exact isDirectory_eq_true_iff.1 (isDirectory_of_outside hdirectory)
              · cases h
      · split at h
        · next hdirectory =>
          cases h
          exact isDirectory_eq_true_iff.1 (isDirectory_of_outside hdirectory)
        · cases h

/-- There is no link if there was none before directories were added. -/
theorem AddsDirectories.ne_link (h : AddsDirectories d d')
    (hlinks : ∀ q target, d.get? q ≠ some (.link target)) (q : Place) (target : Text) :
    d'.get? q ≠ some (.link target) := by
  rcases h.get? q with heq | ⟨-, hdirectory⟩
  · rw [heq]
    exact hlinks q target
  · simp [hdirectory]

/-- Components that stay where they are descend. -/
theorem descends_of_dots (hdots : ∀ c ∈ xs, c = RawPath.dot) : Descends d links dir xs dir links := by
  induction xs with
  | nil => exact .nil
  | cons c xs ih =>
    obtain rfl := hdots c (by simp)
    exact .dot (ih fun c hc => hdots c (by simp [hc]))

/-- What stands before the name that a path ends in descends where the parent has been made. -/
theorem descends_of_makeDirectories_parent {parent : Text} {o : Outside}
    (hparent : IsParent path parent before)
    (h : d.makeDirectories bound parent o = (.ok (), d')) :
    ∃ dir left, Descends d' maxLinks (d'.start (ofText path)) before dir left := by
  obtain ⟨dots, rfl, hdots⟩ := hparent.components
  rcases lookup_of_makeDirectories h with rfl | ⟨q, hlookup⟩
  · exact ⟨_, _, descends_of_dots hdots⟩
  · obtain ⟨left, hdesc⟩ := exists_descends_of_lookup hlookup
    exact ⟨q, left, (start_congr hparent.absolute ▸ hdesc).append (descends_of_dots hdots)⟩

/-- Where what stands before the name that a path ends in descends the parent is there. -/
theorem makeDirectories_parent_of_descends {parent : Text} (hchecked : checkPath path = .ok ())
    (hparent : IsParent path parent before)
    (hdesc : Descends d maxLinks (d.start (ofText path)) before dir left) (bound : Nat) :
    d.makeDirectories (bound + 1) parent = (.ok (), d) := by
  by_cases hne : parent = []
  · rw [hne]
    rfl
  · obtain ⟨dots, rfl, -⟩ := hparent.components
    obtain ⟨last, between, hmid, -⟩ := hdesc.split
    exact makeDirectories_of_descends (checkPath_of_head hchecked hparent.isPrefix hne)
      (start_congr hparent.absolute ▸ hmid) bound Outside.calm_grants

/-- A parent is shorter than the path. -/
theorem length_parent_lt {parent : Text} (hends : EndsIn path before name)
    (hparent : IsParent path parent before) : parent.length < path.length := by
  refine Nat.lt_of_le_of_ne hparent.isPrefix.length_le fun hlength => ?_
  have heq := hparent.isPrefix.eq_of_length hlength
  obtain ⟨dots, hdots, -⟩ := hparent.components
  rw [heq, hends.components] at hdots
  have := congrArg List.length hdots
  simp only [List.length_append, List.length_singleton] at this
  omega

/-- A path that ends in a name is not empty. -/
theorem ne_nil_of_endsIn (hends : EndsIn path before name) : path ≠ [] := by
  rintro rfl
  have := hends.components
  simp [ofText, Text.pieces] at this

/-- Only an empty path is one where nothing can be. -/
theorem checkPath_of_makeDirectory (hne : path ≠ [])
    (h : d.makeDirectory path = .error .notFound) : checkPath path = .ok () := by
  cases hchecked : checkPath path with
  | ok u => rfl
  | error fault =>
    simp only [makeDirectory, lastName?, bind, Except.bind, hchecked] at h
    cases h
    unfold checkPath at hchecked
    split at hchecked
    · cases hchecked
    · split at hchecked
      · next hempty => exact absurd (List.isEmpty_iff.1 hempty) hne
      · split at hchecked <;> cases hchecked

/-- A directory that could not be made with those above it: those above it could not be made, or it
could not be made where they are there. -/
theorem makeDirectories_eq_error {parent : Text} (hends : EndsIn path before name)
    (hparent : IsParent path parent before)
    (h : d.makeDirectories (bound + 1) path = (.error fault, d')) :
    (d.makeDirectory path = .error .notFound ∧
        d.makeDirectories bound parent = (.error fault, d')) ∨
      AddsDirectories d d' ∧ d'.makeDirectory path = .error fault ∧ fault ≠ .notFound ∧
        d'.isDirectory path = false := by
  have hne := ne_nil_of_endsIn hends
  rw [makeDirectories, if_neg (by simpa using hne)] at h
  simp only [Outside.calm_makeDirectory] at h
  split at h
  · cases h
  · next hmake =>
    have hchecked := checkPath_of_makeDirectory hne hmake
    rw [hparent.parent?] at h
    simp only at h
    split at h
    · next heq =>
      cases h
      exact .inl ⟨hmake, heq⟩
    · next d₁ heq =>
      split at h
      · cases h
      · next hmake' =>
        split at h
        · cases h
        · next hnot =>
          cases h
          have hadds := addsDirectories_makeDirectories d bound parent
          rw [heq] at hadds
          obtain ⟨dir, left, hdesc⟩ := descends_of_makeDirectories_parent hparent heq
          refine .inr ⟨hadds, hmake', ?_, by simpa using hnot⟩
          rintro rfl
          rw [makeDirectory_of_descends_before hchecked hends hdesc] at hmake'
          split at hmake'
          · cases hmake'
          · split at hmake'
            · cases hmake'
            · split at hmake' <;> cases hmake'
  · next hnotFound hmake =>
    split at h
    · cases h
    · next hnot =>
      cases h
      exact .inr ⟨.refl d, hmake, fun heq => hnotFound (heq ▸ rfl), by simpa using hnot⟩

/-- A directory that could not be made with those above it cannot be made on a disk that has grown
since. -/
theorem makeDirectories_error_again (hlinks : ∀ q target, d.get? q ≠ some (.link target))
    (hcut : IsCut path) (hbound : path.length < bound)
    (h : d.makeDirectories bound path = (.error fault, d')) (hgrows : Grows d' f) :
    ∃ fault', f.makeDirectories bound path = (.error fault', f) := by
  induction bound generalizing path with
  | zero => omega
  | succ bound ih =>
    rcases descends_or_endsIn d hcut with rfl | ⟨hchecked, last, left, hdesc⟩ | ⟨before, name, hends, hdot⟩
    · cases h
    · rw [makeDirectories_of_descends hchecked hdesc _ Outside.calm_grants] at h
      cases h
    · have hne := ne_nil_of_endsIn hends
      obtain ⟨⟨parent, hparent⟩, -⟩ := hends.exists_isParent hdot
      rcases makeDirectories_eq_error hends hparent h with
        ⟨hmissing, hmade⟩ | ⟨hadds, herror, hfault, hnot⟩
      · have hchecked := checkPath_of_makeDirectory hne hmissing
        have hlength := length_parent_lt hends hparent
        obtain ⟨fault', hagain⟩ := ih (RawPath.isCut_of_parent? hparent.parent?).1 (by omega) hmade
        rcases walk_slash_cases f maxLinks (f.start (ofText path)) before with
          ⟨dir, left, hdesc⟩ | ⟨fault'', hwalk⟩
        · obtain ⟨bound, rfl⟩ : ∃ n, bound = n + 1 := ⟨bound - 1, by omega⟩
          rw [makeDirectories_parent_of_descends hchecked hparent hdesc] at hagain
          cases hagain
        · rw [makeDirectories, if_neg (by simpa using hne)]
          simp only [Outside.calm_makeDirectory, Outside.calm_isDirectory,
            makeDirectory_of_walk_error hchecked hends hwalk, isDirectory_of_walk_error hends hwalk,
            hparent.parent?, hagain]
          split
          · next heq => cases heq
          · exact ⟨_, rfl⟩
          · exact ⟨_, rfl⟩
      · obtain ⟨herror', hnot'⟩ := makeDirectory_error_grows (hadds.ne_link hlinks) hgrows hends herror
          hfault hnot
        refine ⟨fault, ?_⟩
        rw [makeDirectories, if_neg (by simpa using hne)]
        simp only [Outside.calm_makeDirectory, Outside.calm_isDirectory, herror', hnot']
        cases fault <;> rfl

/-! ## The same fault

A file may stand in the way behind a `..` whose directory is missing. Making that directory leads to
the file, so the first failure is that the file is there; the second one is that the way leads through
it. Where every `..` is reached through directories that are there, both failures are the same. -/

/-- Without links no link is followed. -/
theorem Descends.eq_left (hlinks : ∀ q target, d.get? q ≠ some (.link target))
    (h : Descends d links dir xs p left) : left = links := by
  induction h with
  | nil => rfl
  | dot _ ih => exact ih
  | dotDot _ ih => exact ih
  | directory _ _ _ ih => exact ih
  | link _ hget => exact absurd hget (hlinks _ _)

/-- The directory that a way without links ends in lies below the one that it starts in, if it goes
up nowhere. -/
theorem Descends.isPrefix (hlinks : ∀ q target, d.get? q ≠ some (.link target))
    (hup : RawPath.dotDot ∉ xs) (h : Descends d links dir xs p left) : dir <+: p := by
  induction h with
  | nil => exact List.prefix_rfl
  | dot _ ih => exact ih (List.not_mem_of_not_mem_cons hup)
  | dotDot => exact absurd List.mem_cons_self hup
  | directory _ _ _ ih =>
    exact (List.prefix_append _ _).trans (ih (List.not_mem_of_not_mem_cons hup))
  | link _ hget => exact absurd hget (hlinks _ _)

/-- A way that goes up nowhere is there on every sound disk with an entry in its last directory. -/
theorem Descends.of_get? {e : Entry} (hlinks : ∀ q target, d'.get? q ≠ some (.link target))
    (hd : Sound d) (hup : RawPath.dotDot ∉ xs) (h : Descends d' links dir xs p left)
    (hget : d.get? (p ++ [name]) = some e) : Descends d links dir xs p left := by
  induction h with
  | nil => exact .nil
  | dot _ ih => exact .dot (ih (List.not_mem_of_not_mem_cons hup) hget)
  | dotDot => exact absurd List.mem_cons_self hup
  | @directory links left dir last c rest hc _ hrest ih =>
    have hup' := List.not_mem_of_not_mem_cons hup
    obtain ⟨rel, rfl⟩ := hrest.isPrefix hlinks hup'
    rw [List.append_assoc] at hget
    refine .directory hc (hd.directory (by simp) hget) (ih hup' ?_)
    rwa [List.append_assoc]
  | link _ hget' => exact absurd hget' (hlinks _ _)

/-- Every `..` among the components is reached through directories that are there. -/
def UpsReached (d : Disk) (dir : Place) (xs : List Text) : Prop :=
  ∃ reached rest mid left, xs = reached ++ rest ∧ Descends d maxLinks dir reached mid left ∧
    RawPath.dotDot ∉ rest

/-- Every `..` of a path is reached through directories that are there. -/
def ReachesUps (d : Disk) (path : Text) : Prop :=
  UpsReached d (d.start (ofText path)) (ofText path).components

theorem upsReached_of_not_mem (hup : RawPath.dotDot ∉ xs) : UpsReached d dir xs :=
  ⟨[], xs, dir, maxLinks, rfl, .nil, hup⟩

theorem UpsReached.append {ys : List Text} (h : UpsReached d dir xs) (hup : RawPath.dotDot ∉ ys) :
    UpsReached d dir (xs ++ ys) := by
  obtain ⟨reached, rest, mid, left, rfl, hdesc, hrest⟩ := h
  exact ⟨reached, rest ++ ys, mid, left, List.append_assoc .., hdesc, by simp [hrest, hup]⟩

theorem UpsReached.of_isPrefix {ys : List Text} (h : UpsReached d dir xs) (hpre : ys <+: xs) :
    UpsReached d dir ys := by
  obtain ⟨reached, rest, mid, left, rfl, hdesc, hrest⟩ := h
  rcases List.prefix_or_prefix_of_prefix hpre (List.prefix_append reached rest) with
    ⟨zs, rfl⟩ | ⟨zs, rfl⟩
  · obtain ⟨mid', left', hys, -⟩ := hdesc.split
    exact ⟨ys, [], mid', left', (List.append_nil ys).symm, hys, by simp⟩
  · rw [List.prefix_append_right_inj] at hpre
    exact ⟨reached, zs, mid, left, rfl, hdesc, fun hmem => hrest (hpre.subset hmem)⟩

theorem UpsReached.grows (h : UpsReached d dir xs) (hgrows : Grows d d') : UpsReached d' dir xs := by
  obtain ⟨reached, rest, mid, left, rfl, hdesc, hrest⟩ := h
  exact ⟨reached, rest, mid, left, rfl, hdesc.grows hgrows, hrest⟩

theorem ReachesUps.grows (h : ReachesUps d path) (hgrows : Grows d d') : ReachesUps d' path := by
  unfold ReachesUps
  rw [hgrows.start]
  exact UpsReached.grows h hgrows

/-- A way to a directory with an entry was there before directories were added, if every `..` was
reached. -/
theorem UpsReached.exists_descends {e : Entry} (h : UpsReached d dir xs) (hd : Sound d)
    (hlinks : ∀ q target, d'.get? q ≠ some (.link target)) (hgrows : Grows d d')
    (hdesc : Descends d' maxLinks dir xs p left) (hget : d.get? (p ++ [name]) = some e) :
    ∃ left', Descends d maxLinks dir xs p left' := by
  obtain ⟨reached, rest, mid, between, rfl, hreached, hup⟩ := h
  obtain ⟨mid', between', hreached', hrest⟩ := hdesc.split
  have hthere := hreached.grows hgrows
  obtain rfl : between' = between := (hreached'.eq_left hlinks).trans (hthere.eq_left hlinks).symm
  cases (walk_of_descends hreached' false).symm.trans (walk_of_descends hthere false)
  exact ⟨left, hreached.append (hrest.of_get? hlinks hd hup hget)⟩

/-- A way that fails fails with more components behind it. -/
theorem walk_error_append (h : walk d true links true dir xs = .error fault) (ys : List Text) :
    walk d true links true dir (xs ++ ys) = .error fault := by
  induction links, dir, xs using walk_induction d with
  | nil => rw [walk] at h; cases h
  | dot links dir rest ih =>
    rw [walk, if_pos rfl] at h
    rw [List.cons_append, walk, if_pos rfl]
    exact ih h
  | dotDot links dir rest ih =>
    rw [walk, if_neg (by decide), if_pos rfl] at h
    rw [List.cons_append, walk, if_neg (by decide), if_pos rfl]
    exact ih h
  | name links dir c rest hdot hdotDot ihDirectory ihLink =>
    rw [walk, if_neg hdot, if_neg hdotDot] at h
    rw [List.cons_append, walk, if_neg hdot, if_neg hdotDot]
    by_cases hlong : maxName < byteCount c
    · rwa [if_pos hlong] at h ⊢
    · rw [if_neg hlong] at h ⊢
      simp only [Bool.not_true, Bool.and_false, Bool.false_eq_true, if_false, Bool.true_or] at h ⊢
      cases hget : d.get? (dir ++ [c]) with
      | none => rwa [hget] at h
      | some e =>
        rw [hget] at h
        cases e with
        | directory => exact ihDirectory hget h
        | file => exact h
        | link target =>
          cases links with
          | zero => exact h
          | succ links =>
            have := ihLink links target rfl hget h
            rwa [List.append_assoc] at this

/-- Where a directory is missing because the way to it is, the way fails for want of an entry. -/
theorem walk_of_makeDirectory_notFound (hchecked : checkPath path = .ok ())
    (hends : EndsIn path before name) (h : d.makeDirectory path = .error .notFound) :
    walk d true maxLinks true (d.start (ofText path)) before = .error .notFound := by
  rcases walk_slash_cases d maxLinks (d.start (ofText path)) before with
    ⟨dir, left, hdesc⟩ | ⟨fault, hwalk⟩
  · rw [makeDirectory_of_descends_before hchecked hends hdesc] at h
    split at h
    · cases h
    · split at h
      · cases h
      · split at h <;> cases h
  · rw [makeDirectory_of_walk_error hchecked hends hwalk] at h
    rwa [Except.error.inj h] at hwalk

/-- Where a way through directories was missing and they could not be made it fails in the same way,
if every `..` is reached. -/
theorem walk_error_of_makeDirectories {parent : Text} (hd : Sound d)
    (hlinks : ∀ q target, d.get? q ≠ some (.link target)) (hchecked : checkPath path = .ok ())
    (hparent : IsParent path parent before) (hups : UpsReached d (d.start (ofText path)) before)
    (hmissing : walk d true maxLinks true (d.start (ofText path)) before = .error .notFound)
    (hbound : parent.length < bound) (h : d.makeDirectories bound parent = (.error fault, d')) :
    fault ≠ .notFound ∧
      walk d' true maxLinks true (d.start (ofText path)) before = .error fault := by
  induction bound generalizing path parent before with
  | zero => omega
  | succ bound ih =>
    rcases descends_or_endsIn d (RawPath.isCut_of_parent? hparent.parent?).1 with
      rfl | ⟨hchecked', last, left, hdesc⟩ | ⟨above, last, hends, hdot⟩
    · cases h
    · rw [makeDirectories_of_descends hchecked' hdesc _ Outside.calm_grants] at h
      cases h
    obtain ⟨dots, rfl, -⟩ := hparent.components
    rw [hends.components, List.append_assoc, ← start_congr hparent.absolute] at hmissing hups ⊢
    have hups' := hups.of_isPrefix (List.prefix_append above _)
    have hchecked' := checkPath_of_head hchecked hparent.isPrefix (ne_nil_of_endsIn hends)
    obtain ⟨⟨parent', hparent'⟩, -⟩ := hends.exists_isParent hdot
    rcases makeDirectories_eq_error hends hparent' h with
      ⟨hmissing', hmade⟩ | ⟨hadds, herror, hfault, hnot⟩
    · have hlength := length_parent_lt hends hparent'
      obtain ⟨hfault, hwalk⟩ := ih hchecked' hparent' hups'
        (walk_of_makeDirectory_notFound hchecked' hends hmissing') (by omega) hmade
      exact ⟨hfault, walk_error_append hwalk _⟩
    · refine ⟨hfault, ?_⟩
      have hlinks' := fun q target => hadds.ne_link hlinks q target
      rcases walk_slash_cases d' maxLinks (d'.start (ofText parent)) above with
        ⟨dir, left, hdesc⟩ | ⟨fault', hwalk⟩
      · have hrefuses := refuses_of_makeDirectory hchecked' hends hdesc hlinks' herror hnot
        rw [hadds.grows.start] at hdesc
        cases hrefuses with
        | long hlong =>
          have hdotDot : last ≠ RawPath.dotDot := by
            rintro rfl
            exact absurd hlong (by decide)
          rw [walk_append hdesc (by simp), List.singleton_append, walk, if_neg hdot, if_neg hdotDot,
            if_pos hlong]
        | file hname hget =>
          -- The file stood there before, and so did its directory: then the way was not missing.
          have hget₀ := hadds.file_iff.1 hget
          obtain ⟨left', hdesc₀⟩ := hups'.exists_descends hd hlinks' hadds.grows hdesc hget₀
          rw [walk_append hdesc₀ (by simp), List.singleton_append, walk_cons hname, hget₀] at hmissing
          simp at hmissing
      · rw [makeDirectory_of_walk_error hchecked' hends hwalk] at herror
        rw [Except.error.inj herror, hadds.grows.start] at hwalk
        exact walk_error_append hwalk _

/-- A directory that could not be made with those above it cannot be made for the same reason on a
disk that has grown since, if every `..` of the path was reached. -/
theorem makeDirectories_same_error (hd : Sound d)
    (hlinks : ∀ q target, d.get? q ≠ some (.link target)) (hcut : IsCut path)
    (hups : ReachesUps d path) (hbound : path.length < bound)
    (h : d.makeDirectories bound path = (.error fault, d')) (hgrows : Grows d' f) :
    f.makeDirectories bound path = (.error fault, f) := by
  obtain ⟨bound, rfl⟩ : ∃ n, bound = n + 1 := ⟨bound - 1, by omega⟩
  rcases descends_or_endsIn d hcut with rfl | ⟨hchecked, last, left, hdesc⟩ | ⟨before, name, hends, hdot⟩
  · cases h
  · rw [makeDirectories_of_descends hchecked hdesc _ Outside.calm_grants] at h
    cases h
  have hne := ne_nil_of_endsIn hends
  obtain ⟨⟨parent, hparent⟩, -⟩ := hends.exists_isParent hdot
  have hadds := addsDirectories_makeDirectories d (bound + 1) path
  rw [h] at hadds
  have hagain : fault ≠ .notFound ∧ f.makeDirectory path = .error fault ∧
      f.isDirectory path = false := by
    rcases makeDirectories_eq_error hends hparent h with
      ⟨hmissing, hmade⟩ | ⟨-, herror, hfault, hnot⟩
    · have hchecked := checkPath_of_makeDirectory hne hmissing
      have hlength := length_parent_lt hends hparent
      have hpre : before <+: (ofText path).components := hends.components ▸ List.prefix_append ..
      obtain ⟨hfault, hwalk⟩ := walk_error_of_makeDirectories hd hlinks hchecked hparent
        (UpsReached.of_isPrefix hups hpre)
        (walk_of_makeDirectory_notFound hchecked hends hmissing) (by omega) hmade
      have hwalk' := walk_error_grows (hadds.ne_link hlinks) hgrows hwalk hfault
      rw [← hadds.grows.start, ← hgrows.start] at hwalk'
      exact ⟨hfault, makeDirectory_of_walk_error hchecked hends hwalk',
        isDirectory_of_walk_error hends hwalk'⟩
    · exact ⟨hfault, makeDirectory_error_grows (hadds.ne_link hlinks) hgrows hends herror hfault hnot⟩
  obtain ⟨hfault, herror, hnot⟩ := hagain
  rw [makeDirectories, if_neg (by simpa using hne)]
  simp only [Outside.calm_makeDirectory, Outside.calm_isDirectory, herror, hnot]
  cases fault <;> rfl

/-! ## Sound disks and plain trees -/

/-- A component is a name without slashes, made of characters of the path. -/
theorem of_mem_components (h : name ∈ (ofText path).components) :
    name ≠ [] ∧ '/' ∉ name ∧ ∀ c ∈ name, c ∈ path := by
  obtain ⟨hmem, hne⟩ := List.mem_filter.1 h
  exact ⟨by simpa using hne, Text.not_mem_of_mem_pieces hmem,
    fun c hc => (Text.mem_pieces_iff.1 ⟨name, hmem, hc⟩).1⟩

/-- Paths start in a directory. -/
theorem Sound.start (hd : Sound d) (path : RawPath) : d.get? (d.start path) = some .directory := by
  unfold Disk.start
  split
  · rfl
  · exact hd.workingDirectory

/-- A disk stays sound when directories are made. -/
theorem Sound.makeDirectories (hd : Sound d) (bound : Nat) (path : Text) (o : Outside := .calm) :
    Sound (d.makeDirectories bound path o).2 := by
  refine makeDirectories_induction (fun _ _ hd hmake => ?_) d bound hd
  obtain ⟨before, name, dir, left, -, hcomponents, hdesc, hname, hfree, rfl⟩ :=
    exists_of_makeDirectory hmake
  have hmem : name ∈ (ofText _).components := hcomponents ▸ List.mem_append_right before (by simp)
  obtain ⟨hne, hslash, -⟩ := of_mem_components hmem
  exact hd.put (hdesc.get?_last hd (hd.start _)) ⟨hname, hne, hslash⟩ (by simp [hfree])

/-- A tree stays plain when directories are made at a path without backslashes. -/
theorem PlainBelow.makeDirectories (hplain : PlainBelow d base) (bound : Nat) (hpath : '\\' ∉ path)
    (o : Outside := .calm) : PlainBelow (d.makeDirectories bound path o).2 base := by
  refine makeDirectories_induction (motive := (PlainBelow · base)) (fun hhead _ hplain hmake => ?_) d
    bound hplain
  obtain ⟨before, name, dir, left, -, hcomponents, -, -, -, rfl⟩ := exists_of_makeDirectory hmake
  have hmem : name ∈ (ofText _).components := hcomponents ▸ List.mem_append_right before (by simp)
  obtain ⟨-, -, hchars⟩ := of_mem_components hmem
  exact hplain.put (by simp) fun hmem => hpath (hhead.subset (hchars _ hmem))

end ProtoUpkeep.Disk

/-! ## The directory that a path is in -/

namespace ProtoUpkeep.Files

open Disk
open RawPath (ofText EndsIn IsParent)

variable {d d' f : Disk} {base : Place} {before : List Text} {name : Text} {path : Path}
  {error : FileError}

/-- The directory that a path is in is made with those above it. -/
theorem runOn_makeParent_of_parent? {parent : Text} (hparent : RawPath.parent? path.text = some parent)
    (d : Disk) (o : Outside := .calm) : (makeParent path).runOn d o =
      ((d.makeDirectories (parent.length + 1) parent o).1.mapError (.io parent),
        (d.makeDirectories (parent.length + 1) parent o).2) := by
  cases parent with
  | nil =>
    rw [makeParent, hparent]
    rfl
  | cons c rest =>
    rw [makeParent, hparent]
    exact DiskAction.runOn_mapError _ _ _

/-- Nothing is made for a path without a parent. -/
theorem runOn_makeParent_of_none (hparent : RawPath.parent? path.text = none) (d : Disk)
    (o : Outside := .calm) : (makeParent path).runOn d o = (.ok (), d) := by
  rw [makeParent, hparent]
  rfl

/-- The disk behind making the directory that a path is in. -/
theorem makeParent_cases (path : Path) (d : Disk) (o : Outside := .calm) :
    ((makeParent path).runOn d o).2 = d ∨
    ∃ parent, RawPath.parent? path.text = some parent ∧
      ((makeParent path).runOn d o).2 = (d.makeDirectories (parent.length + 1) parent o).2 := by
  cases hparent : RawPath.parent? path.text with
  | none => exact .inl (by rw [runOn_makeParent_of_none hparent d o])
  | some parent =>
    exact .inr ⟨parent, rfl,
      by rw [runOn_makeParent_of_parent? hparent d o]⟩

/-- The directory of a path is made. -/
theorem addsDirectories_makeParent (path : Path) (d : Disk) (o : Outside := .calm) :
    AddsDirectories d ((makeParent path).runOn d o).2 := by
  rcases makeParent_cases path d o with heq | ⟨parent, -, heq⟩
  · rw [heq]
    exact .refl d
  · rw [heq]
    exact addsDirectories_makeDirectories d _ parent o

theorem sound_makeParent (hd : Sound d) (path : Path) (o : Outside := .calm) :
    Sound ((makeParent path).runOn d o).2 := by
  rcases makeParent_cases path d o with heq | ⟨parent, -, heq⟩
  · rwa [heq]
  · rw [heq]
    exact hd.makeDirectories _ parent o

theorem plainBelow_makeParent (hplain : PlainBelow d base) (hpath : '\\' ∉ path.text)
    (o : Outside := .calm) : PlainBelow ((makeParent path).runOn d o).2 base := by
  rcases makeParent_cases path d o with heq | ⟨parent, hparent, heq⟩
  · rwa [heq]
  · rw [heq]
    exact hplain.makeDirectories _ (fun hmem =>
      hpath ((RawPath.isCut_of_parent? hparent).2.subset hmem)) o

/-- The directory that a path is in is there when it has been made. -/
theorem descends_of_runOn_makeParent {o : Outside} (hends : EndsIn path.text before name)
    (hdot : name ≠ RawPath.dot) (h : (makeParent path).runOn d o = (.ok (), d')) :
    ∃ dir left, Descends d' maxLinks (d'.start (ofText path.text)) before dir left := by
  obtain ⟨⟨parent, hparent⟩, -⟩ := hends.exists_isParent hdot
  rw [runOn_makeParent_of_parent? hparent.parent? d o] at h
  rcases hmake : d.makeDirectories (parent.length + 1) parent o with ⟨r, d₁⟩
  rw [hmake] at h
  cases r with
  | error fault => cases h
  | ok u =>
    cases h
    exact descends_of_makeDirectories_parent hparent hmake

/-- The directory that a path is in is left alone when it has been made, also on a disk that has grown
since. -/
theorem runOn_makeParent_again (h : (makeParent path).runOn d = (.ok (), d')) (hgrows : Grows d' f) :
    (makeParent path).runOn f = (.ok (), f) := by
  cases hparent : RawPath.parent? path.text with
  | none => exact runOn_makeParent_of_none hparent f
  | some parent =>
    rw [runOn_makeParent_of_parent? hparent] at h ⊢
    rcases hmake : d.makeDirectories (parent.length + 1) parent with ⟨r, d₁⟩
    rw [hmake] at h
    cases r with
    | error fault => cases h
    | ok u =>
      cases h
      have hagain : f.makeDirectories (parent.length + 1) parent = (.ok (), f) := by
        rcases lookup_of_makeDirectories hmake with rfl | ⟨q, hlookup⟩
        · rfl
        · obtain ⟨left, hdesc⟩ := exists_descends_of_lookup hlookup
          rw [← hgrows.start] at hdesc
          exact makeDirectories_of_descends (checkPath_of_lookup hlookup) (hdesc.grows hgrows) _
            Outside.calm_grants
      rw [hagain]
      rfl

/-- A directory that could not be made for a path cannot be made on a disk that has grown since. -/
theorem runOn_makeParent_error_again (hlinks : ∀ q target, d.get? q ≠ some (.link target))
    (h : (makeParent path).runOn d = (.error error, d')) (hgrows : Grows d' f) :
    ∃ error', (makeParent path).runOn f = (.error error', f) := by
  cases hparent : RawPath.parent? path.text with
  | none =>
    rw [runOn_makeParent_of_none hparent] at h
    cases h
  | some parent =>
    rw [runOn_makeParent_of_parent? hparent] at h ⊢
    rcases hmake : d.makeDirectories (parent.length + 1) parent with ⟨r, d₁⟩
    rw [hmake] at h
    cases r with
    | ok u => cases h
    | error fault =>
      cases h
      obtain ⟨fault', hagain⟩ := makeDirectories_error_again hlinks
        (RawPath.isCut_of_parent? hparent).1 (Nat.lt_succ_self _) hmake hgrows
      exact ⟨.io parent fault', by rw [hagain]; rfl⟩

/-- A directory that could not be made for a path cannot be made for the same reason on a disk that
has grown since, if every `..` of the path was reached. -/
theorem runOn_makeParent_same_error (hd : Sound d)
    (hlinks : ∀ q target, d.get? q ≠ some (.link target)) (hups : ReachesUps d path.text)
    (h : (makeParent path).runOn d = (.error error, d')) (hgrows : Grows d' f) :
    (makeParent path).runOn f = (.error error, f) := by
  cases hparent : RawPath.parent? path.text with
  | none =>
    rw [runOn_makeParent_of_none hparent] at h
    cases h
  | some parent =>
    rw [runOn_makeParent_of_parent? hparent] at h ⊢
    rcases hmake : d.makeDirectories (parent.length + 1) parent with ⟨r, d₁⟩
    rw [hmake] at h
    cases r with
    | ok u => cases h
    | error fault =>
      cases h
      obtain ⟨hcut, hpre⟩ := RawPath.isCut_of_parent? hparent
      have hne : parent ≠ [] := by
        rintro rfl
        cases hmake
      have hups' : ReachesUps d parent := by
        obtain ⟨rest, hrest⟩ := hpre
        have habsolute : (ofText path.text).absolute = (ofText parent).absolute := by
          rw [← hrest, RawPath.absolute_append hne]
        unfold ReachesUps
        rw [← start_congr habsolute]
        exact UpsReached.of_isPrefix hups (RawPath.components_of_parent? hparent)
      rw [makeDirectories_same_error hd hlinks hcut hups' (Nat.lt_succ_self _) hmake hgrows]
      rfl

end ProtoUpkeep.Files
