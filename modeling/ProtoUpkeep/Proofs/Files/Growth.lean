import ProtoUpkeep.Proofs.Files.Actions
import ProtoUpkeep.Proofs.Files.EntryAt

/-!
# Disks that grow

Copying makes directories and writes files; it takes nothing away. Behind it every directory and every
link is still there, and every file is still a file, with other bytes perhaps (`Disk.Grows`). On such
a disk every path that led somewhere leads to the same place (`Disk.walk_grows`).

Making directories puts directories at free places and leaves the files alone
(`Disk.AddsDirectories`). A file is copied to one place, and the path it is copied to leads there
(`Disk.exists_of_copyFile`).
-/

namespace ProtoUpkeep.Disk

open RawPath (ofText EndsIn)

variable {d d' d'' : Disk} {links left : Nat} {follow slash executable : Bool} {dir last p q : Place}
  {xs : List Text} {path source target name : Text} {content : ByteArray} {e e' : Entry}
  {spot : Spot}

/-! ## Growing -/

/-- The second disk has all entries of the first, files with other bytes perhaps, and the same process
works on it in the same directory. -/
structure Grows (d d' : Disk) : Prop where
  /-- The entries. -/
  get? : ∀ q e, d.get? q = some e → ∃ e', d'.get? q = some e' ∧ Like e e'
  /-- The directory. -/
  workingDirectory : d'.workingDirectory = d.workingDirectory
  /-- The process. -/
  process : d'.process = d.process

theorem Grows.refl (d : Disk) : Grows d d := ⟨fun _ e h => ⟨e, h, .refl e⟩, rfl, rfl⟩

theorem Grows.trans (h : Grows d d') (h' : Grows d' d'') : Grows d d'' where
  get? q e hget := by
    obtain ⟨e', hget', hlike⟩ := h.get? q e hget
    obtain ⟨e'', hget'', hlike'⟩ := h'.get? q e' hget'
    exact ⟨e'', hget'', hlike.trans hlike'⟩
  workingDirectory := h'.workingDirectory.trans h.workingDirectory
  process := h'.process.trans h.process

/-- A directory stays. -/
theorem Grows.directory (h : Grows d d') (hget : d.get? q = some .directory) :
    d'.get? q = some .directory := by
  obtain ⟨e', hget', hlike⟩ := h.get? q _ hget
  rw [hget', hlike.eq_directory]

/-- A link stays. -/
theorem Grows.link (h : Grows d d') (hget : d.get? q = some (.link target)) :
    d'.get? q = some (.link target) := by
  obtain ⟨e', hget', hlike⟩ := h.get? q _ hget
  cases hlike
  exact hget'

/-- A file stays a file. -/
theorem Grows.file (h : Grows d d') (hget : d.get? q = some (.file content executable)) :
    ∃ content' executable', d'.get? q = some (.file content' executable') := by
  obtain ⟨e', hget', hlike⟩ := h.get? q _ hget
  obtain ⟨content', executable', rfl⟩ := hlike.exists_file
  exact ⟨content', executable', hget'⟩

/-- Paths start in the same directory. -/
theorem Grows.start (h : Grows d d') (path : RawPath) : d'.start path = d.start path := by
  rw [Disk.start, Disk.start, h.workingDirectory]

/-- What is put at a free place, or like what stands there, makes the disk grow. -/
theorem grows_put (hp : p ≠ []) (h : ∀ e', d.get? p = some e' → Like e' e) :
    Grows d (d.put p e) where
  get? q e' hget := by
    rw [get?_put hp]
    split
    · next hq => exact ⟨e, rfl, h e' (hq ▸ hget)⟩
    · exact ⟨e', hget, .refl e'⟩
  workingDirectory := rfl
  process := rfl

/-- A file that is stored at a free place, or over a file, makes the disk grow. -/
theorem grows_store (hp : p ≠ [])
    (h : ∀ e, d.get? p = some e → Like e (.file content executable)) :
    Grows d (d.store p content executable) where
  get? q e' hget := by
    rw [get?_store hp]
    split
    · next hsame => exact ⟨_, rfl, h e' (hsame.get? ▸ hget)⟩
    · exact ⟨e', hget, .refl e'⟩
  workingDirectory := store_workingDirectory ..
  process := store_process ..

/-! ## Paths on disks that grow -/

/-- A walk finds the same place on a disk that grows. -/
theorem walk_grows (h : Grows d d')
    (hwalk : walk d follow links slash dir xs = .ok (.found q e)) :
    ∃ e', walk d' follow links slash dir xs = .ok (.found q e') ∧ Like e e' := by
  have hways : SameWays d d' := fun q e hget hnone => by
    cases e with
    | file content executable => exact absurd rfl (hnone content executable)
    | directory => exact h.directory hget
    | link target => exact h.link hget
  rcases walk_of_sameWays hways hwalk with ⟨-, hwalk'⟩ | ⟨⟨content, executable, rfl⟩, hfile⟩
  · exact ⟨e, hwalk', .refl e⟩
  · obtain ⟨content', executable', hget⟩ := h.file ((get?_of_walk hwalk).resolve_left (by simp))
    exact ⟨_, hfile _ _ hget, .file ..⟩

/-- A path leads to the same place on a disk that grows. -/
theorem lookup_grows (h : Grows d d') (hlookup : d.lookup follow path = .ok (.found q e)) :
    ∃ e', d'.lookup follow path = .ok (.found q e') ∧ Like e e' := by
  have hchecked := checkPath_of_lookup hlookup
  rw [Disk.lookup, hchecked] at hlookup ⊢
  simp only [bind, Except.bind, h.start] at hlookup ⊢
  exact walk_grows h hlookup

/-- A path that leads to a file leads to the file at that place on a disk that grows. -/
theorem lookup_file_grows (h : Grows d d')
    (hlookup : d.lookup true path = .ok (.found q (.file content executable))) :
    ∃ content' executable', d'.get? q = some (.file content' executable') ∧
      d'.lookup true path = .ok (.found q (.file content' executable')) := by
  obtain ⟨e', hlookup', hlike⟩ := lookup_grows h hlookup
  obtain ⟨content', executable', rfl⟩ := hlike.exists_file
  exact ⟨content', executable', (get?_of_lookup hlookup').2, hlookup'⟩

/-- A descent is the same on a disk that grows. -/
theorem Descends.grows (h : Descends d links dir xs last left) (hgrows : Grows d d') :
    Descends d' links dir xs last left := by
  induction h with
  | nil => exact .nil
  | dot _ ih => exact .dot ih
  | dotDot _ ih => exact .dotDot ih
  | directory hc hget _ ih => exact .directory hc (hgrows.directory hget) ih
  | link hc hget _ ih => exact .link hc (hgrows.link hget) ih

/-- A path names the same entry on a disk that grows. -/
theorem EntryAt.grows (h : EntryAt d path dir name left) (hgrows : Grows d d') :
    EntryAt d' path dir name left := by
  obtain ⟨before, hends, hdesc⟩ := h.descends
  exact ⟨h.checked, ⟨before, hends, hgrows.start _ ▸ hdesc.grows hgrows⟩, h.isName⟩

/-- The place that a path leads to, links followed. -/
def place? (d : Disk) (path : Text) : Option Place :=
  match d.lookup true path with
  | .ok (.found q _) => some q
  | _ => none

theorem place?_of_lookup (h : d.lookup true path = .ok (.found q e)) : d.place? path = some q := by
  rw [place?, h]

/-- A path leads to the same place on a disk that grows. -/
theorem place?_grows (h : Grows d d') (hplace : d.place? path = some q) :
    d'.place? path = some q := by
  unfold place? at hplace
  split at hplace
  · next hlookup =>
    cases hplace
    obtain ⟨e', hlookup', -⟩ := lookup_grows h hlookup
    exact place?_of_lookup hlookup'
  · cases hplace

/-- Where links are followed none is found. -/
theorem walk_ne_link : walk d true links slash dir xs ≠ .ok (.found q (.link target)) := by
  induction links, dir, xs using walk_induction d generalizing slash with
  | nil links dir => rw [walk]; simp
  | dot links dir rest ih => rw [walk, if_pos rfl]; exact ih
  | dotDot links dir rest ih => rw [walk, if_neg (by decide), if_pos rfl]; exact ih
  | name links dir c rest hdot hdotDot ihDirectory ihLink =>
    intro hwalk
    rw [walk_cons (isName_of_walk hdot hdotDot hwalk)] at hwalk
    simp only [Bool.not_true, Bool.and_false, Bool.false_and, Bool.false_eq_true,
      if_false] at hwalk
    split at hwalk
    · split at hwalk <;> cases hwalk
    · next hget => exact ihDirectory hget hwalk
    · split at hwalk <;> cases hwalk
    · next target' hget =>
      split at hwalk
      · cases hwalk
      · next links => exact ihLink links target' rfl hget hwalk

/-- A walk that ends at a vacant place finds a file once one is put there. -/
theorem walk_put_of_vacant (h : walk d true links slash dir xs = .ok (.vacant p)) :
    p ≠ [] ∧ d.get? p = none ∧ ∀ content executable,
      walk (d.put p (.file content executable)) true links slash dir xs =
        .ok (.found p (.file content executable)) := by
  induction links, dir, xs using walk_induction d generalizing slash with
  | nil links dir =>
    rw [walk] at h
    cases h
  | dot links dir rest ih =>
    simp only [walk, if_pos] at h ⊢
    exact ih h
  | dotDot links dir rest ih =>
    have hdots : RawPath.dotDot ≠ RawPath.dot := by decide
    simp only [walk, if_neg hdots, if_pos] at h ⊢
    exact ih h
  | name links dir c rest hdot hdotDot ihDirectory ihLink =>
    have hc := isName_of_walk hdot hdotDot h
    rw [walk_cons hc] at h
    simp only [walk_cons hc]
    split at h
    · next hget =>
      split at h
      · next hend =>
        cases h
        refine ⟨by simp, hget, fun content executable => ?_⟩
        rw [get?_put (by simp), if_pos rfl]
        exact if_pos hend
      · cases h
    · next hget =>
      obtain ⟨hp, hnone, hwalk⟩ := ihDirectory hget h
      refine ⟨hp, hnone, fun content executable => ?_⟩
      rw [get?_put hp, if_neg (ne_of_get? hget hnone), hget]
      exact hwalk content executable
    · split at h <;> cases h
    · next target hget =>
      simp only [Bool.not_true, Bool.and_false, Bool.false_and, Bool.false_eq_true,
        if_false] at h ⊢
      split at h
      · cases h
      · next links =>
        obtain ⟨hp, hnone, hwalk⟩ := ihLink links target rfl hget h
        refine ⟨hp, hnone, fun content executable => ?_⟩
        rw [get?_put hp, if_neg (ne_of_get? hget hnone), hget]
        exact hwalk content executable

/-! ## Making directories -/

/-- The second disk has directories at some places that are free on the first, and is the same
elsewhere. -/
structure AddsDirectories (d d' : Disk) : Prop where
  /-- The entries. -/
  get? : ∀ q, d'.get? q = d.get? q ∨ d.get? q = none ∧ d'.get? q = some .directory
  /-- The numbers of files. -/
  number? : ∀ q, d'.number? q = d.number? q
  /-- The directory that the process works in. -/
  workingDirectory : d'.workingDirectory = d.workingDirectory
  /-- The process. -/
  process : d'.process = d.process

theorem AddsDirectories.refl (d : Disk) : AddsDirectories d d :=
  ⟨fun _ => .inl rfl, fun _ => rfl, rfl, rfl⟩

theorem AddsDirectories.trans (h : AddsDirectories d d') (h' : AddsDirectories d' d'') :
    AddsDirectories d d'' where
  get? q := by
    rcases h'.get? q with heq | ⟨hnone, hdirectory⟩
    · rw [heq]
      exact h.get? q
    · rcases h.get? q with heq | ⟨-, hget⟩
      · exact .inr ⟨heq ▸ hnone, hdirectory⟩
      · rw [hnone] at hget
        cases hget
  number? q := (h'.number? q).trans (h.number? q)
  workingDirectory := h'.workingDirectory.trans h.workingDirectory
  process := h'.process.trans h.process

/-- With more directories the disk has grown. -/
theorem AddsDirectories.grows (h : AddsDirectories d d') : Grows d d' where
  get? q e hget := by
    rcases h.get? q with heq | ⟨hnone, -⟩
    · exact ⟨e, heq.trans hget, .refl e⟩
    · rw [hnone] at hget
      cases hget
  workingDirectory := h.workingDirectory
  process := h.process

/-- The files are the same. -/
theorem AddsDirectories.file_iff (h : AddsDirectories d d') :
    d'.get? q = some (.file content executable) ↔ d.get? q = some (.file content executable) := by
  rcases h.get? q with heq | ⟨hnone, hdirectory⟩
  · rw [heq]
  · simp [hnone, hdirectory]

/-- A directory is made at a free place of a directory, under the name that the path ends with. -/
theorem exists_of_makeDirectory (h : d.makeDirectory path = .ok d') : ∃ before name dir left,
    checkPath path = .ok () ∧ (ofText path).components = before ++ [name] ∧
      Descends d maxLinks (d.start (ofText path)) before dir left ∧ IsName name ∧
      d.get? (dir ++ [name]) = none ∧ d' = d.put (dir ++ [name]) .directory := by
  simp only [makeDirectory, bind, Except.bind] at h
  split at h
  · cases h
  · next last? hlast =>
    split at h
    · cases h
    · next last =>
      obtain ⟨hchecked, -, hdot, hdotDot, before, left, hcomponents, hdesc⟩ :=
        exists_of_lastName? hlast
      split at h
      · cases h
      · next hlong =>
        split at h
        · cases h
        · next hfree =>
          cases h
          exact ⟨before, last.name, last.dir, left, hchecked, hcomponents, hdesc,
            ⟨hdot, hdotDot, Nat.not_lt.1 hlong⟩, hfree, rfl⟩

/-- A directory that is seen is there. -/
theorem isDirectory_of_outside {o : Outside} (h : o.isDirectory d path = true) :
    d.isDirectory path = true := by
  rw [Outside.isDirectory, Bool.and_eq_true] at h
  exact h.2

/-- A directory that is made is made as the entries say, whatever stands around the disk. -/
theorem makeDirectory_of_outside {o : Outside} (h : o.makeDirectory d path = .ok d') :
    d.makeDirectory path = .ok d' := (Outside.answer_eq_ok_iff.1 h).2

/-- Making a directory with those above it makes directories one after the other, at paths that the
path starts with, as a text and by its components. -/
theorem makeDirectories_induction {motive : Disk → Prop} {o : Outside}
    (step : ∀ {d d' : Disk} {path' : Text}, path' <+: path →
      (ofText path').components <+: (ofText path).components → motive d →
      d.makeDirectory path' = .ok d' → motive d') (d : Disk) (bound : Nat) (h : motive d) :
    motive (d.makeDirectories bound path o).2 := by
  induction bound generalizing path with
  | zero => exact h
  | succ bound ih =>
    rw [makeDirectories]
    split
    · exact h
    · split
      · next hmake => exact step List.prefix_rfl List.prefix_rfl h (makeDirectory_of_outside hmake)
      · split
        · exact h
        · next parent hparent =>
          have hhead := (RawPath.isCut_of_parent? hparent).2
          have hcomponents := RawPath.components_of_parent? hparent
          have hmade : motive (d.makeDirectories bound parent o).2 :=
            ih fun hhead' hcomponents' => step (hhead'.trans hhead) (hcomponents'.trans hcomponents)
          split
          · next heq => rwa [heq] at hmade
          · next d₁ heq =>
            rw [heq] at hmade
            split
            · next hmake =>
              exact step List.prefix_rfl List.prefix_rfl hmade (makeDirectory_of_outside hmake)
            · split <;> exact hmade
      · split <;> exact h

/-- A directory that is put at a free place is added. -/
theorem addsDirectories_put (hp : p ≠ []) (hfree : d.get? p = none) :
    AddsDirectories d (d.put p .directory) := by
  refine ⟨fun q => ?_, fun q => ?_, rfl, rfl⟩
  · rw [get?_put hp]
    split
    · next hq => exact .inr ⟨hq ▸ hfree, rfl⟩
    · exact .inl rfl
  · rw [number?_put]
    split
    · next hq => rw [hq, number?_of_get?_eq_none hfree]
    · rfl

/-- Making a directory with those above it adds directories, also where it fails. -/
theorem addsDirectories_makeDirectories (d : Disk) (bound : Nat) (path : Text)
    (o : Outside := .calm) : AddsDirectories d (d.makeDirectories bound path o).2 := by
  refine makeDirectories_induction (fun _ _ hadds hmake => hadds.trans ?_) d bound (.refl d)
  obtain ⟨before, name, dir, left, -, -, -, -, hfree, rfl⟩ := exists_of_makeDirectory hmake
  exact addsDirectories_put (by simp) hfree

/-! ## Copying -/

/-- A path that can be written to names an entry. -/
theorem exists_entryAt_of_writable (h : d.writable path = .ok spot) :
    ∃ dir name left, EntryAt d path dir name left := by
  have hlookup := lookup_of_writable h
  simp only [writable, bind, Except.bind] at h
  split at h
  · cases h
  · next last? hlast =>
    split at h
    · cases h
    · next last =>
      obtain ⟨hchecked, hslash, hdot, hdotDot, before, left, hcomponents, hdesc⟩ :=
        exists_of_lastName? hlast
      split at h
      · cases h
      · next hnoSlash =>
        rw [Bool.not_eq_true] at hnoSlash
        rw [Disk.lookup, hchecked] at hlookup
        simp only [bind, Except.bind] at hlookup
        rw [hcomponents, walk_append hdesc (by simp)] at hlookup
        exact ⟨last.dir, last.name, left, hchecked,
          ⟨before, ⟨hcomponents, hslash.trans hnoSlash⟩, hdesc⟩, isName_of_walk hdot hdotDot hlookup⟩

/-- Where a file is stored: at a free place or over a file, and the path leads there. -/
structure WrittenAt (d : Disk) (path : Text) (p : Place) (content : ByteArray) (executable : Bool) :
    Prop where
  /-- The path names an entry. -/
  entryAt : ∃ dir name left, EntryAt d path dir name left
  /-- It is not the root. -/
  ne_nil : p ≠ []
  /-- What stands there is a file. -/
  like : ∀ e, d.get? p = some e → Like e (.file content executable)
  /-- The path leads there. -/
  leads : d.lookup true path = .ok (.vacant p) ∨ ∃ e, d.lookup true path = .ok (.found p e)
  /-- The path leads to what is stored. -/
  lookup : (d.store p content executable).lookup true path =
    .ok (.found p (.file content executable))

/-- The disk has grown by what is stored. -/
theorem WrittenAt.grows (h : WrittenAt d path p content executable) :
    Grows d (d.store p content executable) := grows_store h.ne_nil h.like

/-- A file is stored at a free place. -/
theorem writtenAt_of_vacant (h : d.writable path = .ok (.vacant p)) (content : ByteArray)
    (executable : Bool) :
    WrittenAt d path p content executable ∧ d.get? p = none := by
  have hleads := lookup_of_writable h
  have hlookup := hleads
  have hchecked := checkPath_of_lookup hlookup
  rw [Disk.lookup, hchecked] at hlookup
  obtain ⟨hp, hnone, hwalk⟩ := walk_put_of_vacant hlookup
  refine ⟨⟨exists_entryAt_of_writable h, hp, by simp [hnone], .inl hleads, ?_⟩, hnone⟩
  rw [store_of_get?_eq_none hnone, Disk.lookup, hchecked]
  exact hwalk content executable

/-- What can be written over is a file. -/
theorem exists_file_of_writable (h : d.writable path = .ok (.found p e)) :
    ∃ content executable, e = .file content executable := by
  have hlookup := lookup_of_writable h
  cases e with
  | file content executable => exact ⟨content, executable, rfl⟩
  | directory =>
    simp only [writable, hlookup, bind, Except.bind] at h
    split at h
    · cases h
    · split at h
      · cases h
      · split at h <;> cases h
  | link target =>
    rw [Disk.lookup, checkPath_of_lookup hlookup] at hlookup
    exact absurd hlookup walk_ne_link

/-- A file is stored over another one. -/
theorem writtenAt_of_found (h : d.writable path = .ok (.found p e)) (content : ByteArray)
    (executable : Bool) : WrittenAt d path p content executable := by
  have hlookup := lookup_of_writable h
  obtain ⟨content', executable', rfl⟩ := exists_file_of_writable h
  obtain ⟨hp, hget⟩ := get?_of_lookup hlookup
  have hlike : ∀ e', d.get? p = some e' → Like e' (.file content executable) := by
    intro e' hget'
    obtain rfl : _ = e' := Option.some.inj (hget.symm.trans hget')
    exact .file ..
  obtain ⟨content₁, executable₁, hget₁, hlookup₁⟩ := lookup_file_grows (grows_store hp hlike) hlookup
  rw [get?_store hp, if_pos (.refl d p)] at hget₁
  cases hget₁
  exact ⟨exists_entryAt_of_writable h, hp, hlike, .inr ⟨_, hlookup⟩, hlookup₁⟩

/-- A file is copied from one place to another, in part perhaps. If they are names of one file the
bytes are lost. -/
theorem exists_of_copyFile_part {size : Nat} {part : Option Part}
    (h : d.copyFile source target part = .ok (size, d')) :
    ∃ q content executable p bytes mode,
      d.lookup true source = .ok (.found q (.file content executable)) ∧
      WrittenAt d target p bytes mode ∧ d' = d.store p bytes mode ∧
      (part = none → bytes = (if d.SameFile p q then ByteArray.empty else content) ∧
        mode = executable) := by
  simp only [copyFile, bind, Except.bind] at h
  split at h
  · cases h
  · next hsource =>
    split at h
    · cases h
    · next q content executable =>
      split at h
      · cases h
      · split at h
        · next dest hwritable =>
          cases h
          obtain ⟨hwritten, hnone⟩ := writtenAt_of_vacant hwritable
            (Part.copied part content executable executable).1
            (Part.copied part content executable executable).2
          have hne : ¬ d.SameFile dest q := fun hsame =>
            ne_of_get? (get?_of_lookup hsource).2 hnone
              ((sameFile_iff_of_get?_eq_none hnone).1 hsame)
          refine ⟨q, content, executable, dest, _, _, hsource, hwritten, rfl, ?_⟩
          rintro rfl
          exact ⟨(if_neg hne).symm, rfl⟩
        · next dest content' before hwritable =>
          cases h
          refine ⟨q, content, executable, dest, _, _, hsource, writtenAt_of_found hwritable _ _,
            rfl, ?_⟩
          rintro rfl
          exact ⟨rfl, rfl⟩
        · cases h
    · cases h

/-- A file is copied from one place to another. If they are names of one file the bytes are lost. -/
theorem exists_of_copyFile {size : Nat} (h : d.copyFile source target = .ok (size, d')) :
    ∃ q content executable p, d.lookup true source = .ok (.found q (.file content executable)) ∧
      WrittenAt d target p (if d.SameFile p q then ByteArray.empty else content) executable ∧
      d' = d.store p (if d.SameFile p q then ByteArray.empty else content) executable := by
  obtain ⟨q, content, executable, p, bytes, mode, hsource, hwritten, hd', hwhole⟩ :=
    exists_of_copyFile_part h
  obtain ⟨rfl, rfl⟩ := hwhole rfl
  exact ⟨q, content, mode, p, hsource, hwritten, hd'⟩

/-- No file has a name that is too long or goes up or stays. -/
theorem writable_of_not_isName {before : List Text} (hchecked : checkPath path = .ok ())
    (hends : EndsIn path before name)
    (hdesc : Descends d maxLinks (d.start (ofText path)) before dir left) (hname : ¬ IsName name) :
    d.writable path = .error (if name = RawPath.dot ∨ name = RawPath.dotDot then .isDirectory
      else .nameTooLong) := by
  have hreverse : (ofText path).components.reverse = name :: before.reverse := by
    rw [hends.components, List.reverse_append]
    rfl
  simp only [writable, lastName?, bind, Except.bind, hchecked, hreverse, List.reverse_reverse,
    walk_of_descends hdesc true, hends.slash]
  by_cases hdots : name = RawPath.dot ∨ name = RawPath.dotDot
  · simp only [if_pos hdots, pure, Except.pure]
  · have hlong : maxName < byteCount name := by
      by_contra hshort
      rw [not_or] at hdots
      exact hname ⟨hdots.1, hdots.2, Nat.not_lt.1 hshort⟩
    have hlookup : d.lookup true path = .error .nameTooLong := by
      rw [lookup, hchecked]
      simp only [bind, Except.bind, hends.components, hends.slash]
      rw [walk_append hdesc (by simp), walk, if_neg (not_or.1 hdots).1, if_neg (not_or.1 hdots).2,
        if_pos hlong]
    simp only [if_neg hdots, pure, Except.pure, hlookup]
    rfl

/-- A path in a directory that cannot be written to cannot be for the same reason on a disk that has
grown. -/
theorem writable_error_grows {before : List Text} {fault : FileFault}
    (hlinks : ∀ q target, d.get? q ≠ some (.link target)) (hgrows : Grows d d')
    (hends : EndsIn path before name)
    (hdesc : Descends d maxLinks (d.start (ofText path)) before dir left)
    (h : d.writable path = .error fault) : d'.writable path = .error fault := by
  have hdesc' := hdesc.grows hgrows
  rw [← hgrows.start] at hdesc'
  cases hchecked : checkPath path with
  | error fault' =>
    have hsame : ∀ d : Disk, d.writable path = .error fault' := fun d => by
      simp only [writable, lastName?, bind, Except.bind, hchecked]
    rw [hsame] at h ⊢
    exact h
  | ok u =>
    by_cases hname : IsName name
    · have hentry : EntryAt d path dir name left := ⟨hchecked, ⟨before, hends, hdesc⟩, hname⟩
      cases hget : d.get? (dir ++ [name]) with
      | none => rw [hentry.writable_of_none hget] at h; cases h
      | some e =>
        cases e with
        | file => rw [hentry.writable_of_file (hentry.lookup_of_file hget)] at h; cases h
        | link target => exact absurd hget (hlinks _ target)
        | directory =>
          rw [hentry.writable_of_directory hget] at h
          rw [(hentry.grows hgrows).writable_of_directory (hgrows.directory hget)]
          exact h
    · rw [writable_of_not_isName hchecked hends hdesc hname] at h
      rw [writable_of_not_isName hchecked hends hdesc' hname]
      exact h

/-- A file is not copied where nothing can be written. -/
theorem copyFile_of_not_writable {fault : FileFault} {part : Option Part}
    (hsource : d.lookup true source = .ok (.found q (.file content executable)))
    (h : d.writable target = .error fault) : d.copyFile source target part = .error fault := by
  simp only [copyFile, bind, Except.bind, hsource, h]

end ProtoUpkeep.Disk
