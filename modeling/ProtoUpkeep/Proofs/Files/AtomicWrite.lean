import Mathlib
import ProtoUpkeep.Proofs.Files.Directories
import ProtoUpkeep.Proofs.Files.Overwrite

/-!
# Writing is all or nothing

A file is written to a temporary place and moved to its own. Before that the directory of its path is
made, so what the paths lead to is read off the disk behind that step (`Files.MadeFor`). From there on
either nothing changes, or one entry does: the one that the path names is a file with the new bytes
(`Files.AtomicOutcome`). This holds whatever stands around the disk. Where a call breaks off or is
refused, the temporary file is removed again, and it stays only if its lock or its removal is refused
as well.

The entry that is replaced may be a link that the path passes on the way to its directory. The path
then leads nowhere, because the way to the file goes through the file
(`Files.writeAtomic_loses_way`).
-/

namespace ProtoUpkeep

open Disk
open RawPath (ofText EndsIn)

variable {d d₁ d' : Disk} {path source target : Path} {t : Text} {dir own p q : Place}
  {name : Text} {left bound : Nat} {bytes content : ByteArray} {executable : Bool} {e : Entry}
  {spot : Spot} {fault : FileFault}

namespace Disk

/-! ## Renaming -/

/-- A file that has been moved was there, and no directory was where it went. -/
theorem exists_of_renameFile {source target : Text} (h : d.renameFile source target = .ok d') :
    ∃ dir name left dir' name' left' e, EntryAt d source dir name left ∧
      EntryAt d target dir' name' left' ∧ d.get? (dir ++ [name]) = some e ∧
      d.get? (dir' ++ [name']) ≠ some .directory := by
  simp only [renameFile, bind, Except.bind] at h
  split at h
  · cases h
  · next from? hfrom =>
    split at h
    · cases h
    · next to? hto =>
      split at h
      · next a b =>
        split at h
        · cases h
        · next hlong =>
          obtain ⟨hlongA, hlongB⟩ := not_or.1 hlong
          split at h
          · cases h
          · next e hget =>
            split at h
            · cases h
            · next hslash =>
              obtain ⟨hslashA, hslashB⟩ := not_or.1 hslash
              obtain ⟨dir, name, slash⟩ := a
              obtain ⟨dir', name', slash'⟩ := b
              rw [Bool.not_eq_true] at hslashA hslashB
              obtain rfl := hslashA
              obtain rfl := hslashB
              obtain ⟨left, hsource⟩ := exists_entryAt_of_lastName? hfrom (Nat.not_lt.1 hlongA)
              obtain ⟨left', htarget⟩ := exists_entryAt_of_lastName? hto (Nat.not_lt.1 hlongB)
              refine ⟨dir, name, left, dir', name', left', e, hsource, htarget, hget, ?_⟩
              split at h
              · cases h
              · next hnot => exact hnot
      · cases h

/-! ## The same entry on two disks -/

/-- A path names one entry. -/
theorem EntryAt.unique {dir' : Place} {name' : Text} {left' : Nat} (h : EntryAt d t dir name left)
    (h' : EntryAt d t dir' name' left') : dir' = dir ∧ name' = name := by
  have hlast := h.lastName?.symm.trans h'.lastName?
  simp only [Except.ok.injEq, Option.some.injEq, LastName.mk.injEq] at hlast
  exact ⟨hlast.1.symm, hlast.2.1.symm⟩

/-- Disks that differ in one entry both grow from the disk without it. -/
theorem SameExcept.grows_erase (h : SameExcept [own] d d') (hown : own ≠ []) :
    Grows (d.erase own) d' where
  get? q e hget := by
    rw [get?_erase hown] at hget
    split at hget
    · cases hget
    · next hne => exact ⟨e, (h.get? q (by simpa using hne)).trans hget, .refl e⟩
  workingDirectory := h.workingDirectory
  process := h.process

/-- A disk grows from itself without an entry. -/
theorem grows_erase (d : Disk) (hown : own ≠ []) : Grows (d.erase own) d :=
  (SameExcept.refl [own] d).grows_erase hown

/-- A file that is new at its entry is no way to any other entry: a path names the same entry without
it. -/
theorem SameExcept.entryAt_erase (h : SameExcept [own ++ [name]] d d')
    (hfile : d'.get? (own ++ [name]) = some (.file content executable)) {name' : Text}
    (hentry : EntryAt d' t dir name' left) :
    EntryAt (d.erase (own ++ [name])) t dir name' left := by
  have hblocks : Blocks d' own name := by
    constructor
    · simp [hfile]
    · intro target hlink
      rw [hfile] at hlink
      cases hlink
  refine hentry.of_keeps hblocks ⟨fun q e hq hget => ?_, h.workingDirectory.symm⟩
  rw [get?_erase (by simp), if_neg hq, ← h.get? q (by simpa using hq), hget]

end Disk

namespace Files

/-! ## The directories of a path -/

/-- The second disk has the entries of the first, and beside them directories that the path starts
with. -/
structure MadeFor (path : Text) (d d' : Disk) : Prop where
  /-- Directories are added. -/
  adds : AddsDirectories d d'
  /-- A new one is where a text leads that the path starts with. -/
  leads : ∀ q, d.get? q = none → d'.get? q = some .directory →
    ∃ above, above <+: path ∧ d'.lookup true above = .ok (.found q .directory)

/-- Making a directory with those above it makes those that the path starts with. -/
theorem madeFor_makeDirectories (d : Disk) (bound : Nat) {above : Text} (habove : above <+: t)
    (o : Outside) : MadeFor t d (d.makeDirectories bound above o).2 := by
  have hadds := addsDirectories_makeDirectories d bound above o
  refine ⟨hadds, ?_⟩
  refine makeDirectories_induction (motive := fun d' => ∀ q, d.get? q = none →
    d'.get? q = some .directory → ∃ above, above <+: t ∧
      d'.lookup true above = .ok (.found q .directory)) (fun hhead _ hleads hmake q hnone hget => ?_) d
    bound fun q hnone hget => absurd (hnone.symm.trans hget) (by simp)
  obtain ⟨made, hne, hfree, rfl, hlookup⟩ := lookup_of_makeDirectory hmake
  rw [get?_put hne] at hget
  split at hget
  · next heq => exact ⟨_, hhead.trans habove, heq ▸ hlookup⟩
  · obtain ⟨above', habove', hlookup'⟩ := hleads q hnone hget
    obtain ⟨e', hfound, hlike⟩ := lookup_grows (grows_put hne (by simp [hfree])) hlookup'
    obtain rfl := hlike.eq_directory
    exact ⟨above', habove', hfound⟩

/-- Making the directory that a path is in makes those that the path starts with. -/
theorem madeFor_makeParent (path : Path) (d : Disk) (o : Outside) :
    MadeFor path.text d ((makeParent path).runOn d o).2 := by
  rcases makeParent_cases path d o with heq | ⟨parent, hparent, heq⟩
  · rw [heq]
    exact ⟨.refl d, fun q hnone hget => absurd (hnone.symm.trans hget) (by simp)⟩
  · rw [heq]
    exact madeFor_makeDirectories d _ (RawPath.isCut_of_parent? hparent).2 o

/-! ## The temporary place -/

/-- Nothing of the first disk stands where a path leads on the second one. -/
def NotYet (d : Disk) (t : Text) (d' : Disk) : Prop :=
  ∀ q e, d'.lookup false t = .ok (.found q e) → d.get? q = none

/-- Where only directories have been added, an entry at which nothing stood is free or a directory. -/
theorem NotYet.get?_eq_none (h : NotYet d t d₁) (hadds : AddsDirectories d d₁)
    (hentry : EntryAt d₁ t dir name left) (hnot : d₁.get? (dir ++ [name]) ≠ some .directory) :
    d₁.get? (dir ++ [name]) = none := by
  cases hget : d₁.get? (dir ++ [name]) with
  | none => rfl
  | some e =>
    have hnone := h _ _ (hentry.lookup_of_some hget)
    rcases hadds.get? (dir ++ [name]) with heq | ⟨-, hdirectory⟩
    · rw [heq, hnone] at hget
      cases hget
    · exact absurd hdirectory hnot

/-- No file is where nothing stood, if only directories have been added. -/
theorem NotYet.isFile_eq_false (h : NotYet d t d₁) (hadds : AddsDirectories d d₁)
    (hsame : SameExcept [] d₁ d') : d'.isFile t = false := by
  rw [← Bool.not_eq_true, isFile_eq_true_iff]
  rintro ⟨q, content, executable, hlookup⟩
  have hbefore := lookup_mono (fun q e hget => (hsame.get? q (by simp)).symm.trans hget)
    hsame.workingDirectory.symm hlookup
  obtain ⟨dir, name, left, hentry⟩ := exists_entryAt hbefore
  obtain ⟨e, hget⟩ := hentry.exists_get? hbefore
  have hnone := h.get?_eq_none hadds hentry (hentry.blocks hbefore).ne_directory
  cases hnone.symm.trans hget

/-- A temporary file is opened at the free place that its path names. -/
theorem NotYet.exists_of_writeFile (h : NotYet d t d₁) (hadds : AddsDirectories d d₁)
    (hwrite : d₁.writeFile t bytes = .ok d') : ∃ dir name left, EntryAt d₁ t dir name left ∧
      d₁.get? (dir ++ [name]) = none := by
  have hwritable : ∃ spot, d₁.writable t = .ok spot := by
    cases hspot : d₁.writable t with
    | ok spot => exact ⟨spot, rfl⟩
    | error fault =>
      simp only [writeFile, bind, Except.bind, hspot] at hwrite
      cases hwrite
  obtain ⟨spot, hspot⟩ := hwritable
  obtain ⟨dir, name, left, hentry⟩ := exists_entryAt_of_writable hspot
  have hnot : d₁.get? (dir ++ [name]) ≠ some .directory := by
    intro hget
    rw [hentry.writable_of_directory hget] at hspot
    cases hspot
  exact ⟨dir, name, left, hentry, h.get?_eq_none hadds hentry hnot⟩

/-! ## Writing -/

/-- A file can be written: its path names an entry that is no directory, and the temporary file can
be beside it and is not there. -/
def CanWrite (d : Disk) (path : Path) : Prop := ∃ dir name left, EntryAt d path.text dir name left ∧
  d.get? (dir ++ [name]) ≠ some .directory ∧
  EntryAt d (temporaryPath d.process path).text dir (temporaryName d.process path) left ∧
  d.get? (dir ++ [temporaryName d.process path]) = none

/-- The entry of a path is replaced by a file with the bytes, and nothing else is changed. The path
leads to the file exactly if it names the same entry on the disk without it. -/
structure Replaced (path : Path) (bytes : ByteArray) (place : Place) (d d' : Disk) : Prop where
  /-- The path names the entry. -/
  names : ∃ dir name left, EntryAt d path.text dir name left ∧ place = dir ++ [name]
  /-- It is no directory. -/
  ne_directory : d.get? place ≠ some .directory
  /-- The file. -/
  file : d'.get? place = some (.file bytes false)
  /-- All else. -/
  same : SameExcept [place] d d'
  /-- The file can be read at the path. -/
  reads_iff : d'.readFile path.text = .ok (place, bytes, false) ↔
    (d.erase place).lastName? path.text = d.lastName? path.text

/-- How writing in one step ends, from the disk on which the directory of the path has been made. The
temporary file is left behind only if its lock or its removal is refused. -/
inductive AtomicOutcome (o : Outside) (path : Path) (bytes : ByteArray) (d : Disk) :
    Except FileError Unit × Disk → Prop
  /-- The write is refused, and all entries are what they were. -/
  | refused {d' : Disk} {error : FileError} : SameExcept [] d d' →
    d'.isFile (temporaryPath d.process path).text = false →
    AtomicOutcome o path bytes d (.error error, d')
  /-- The write is refused, and a temporary file is left where nothing stood. -/
  | stays {d' : Disk} {error : FileError} {dir : Place} {name : Text} {left : Nat} :
    EntryAt d (temporaryPath d.process path).text dir name left → d.get? (dir ++ [name]) = none →
    SameExcept [dir ++ [name]] d d' → Stays o (temporaryPath d.process path) d' →
    AtomicOutcome o path bytes d (.error error, d')
  /-- The file is written. -/
  | written {d' : Disk} {place : Place} : Replaced path bytes place d d' → CanWrite d path →
    d'.isFile (temporaryPath d.process path).text = false →
    AtomicOutcome o path bytes d (.ok (), d')

/-- A file that has replaced an entry is read at its path exactly if the path names the entry on the
disk without it. -/
theorem readFile_replaced_iff (hentry : EntryAt d path.text dir name left)
    (hsame : SameExcept [dir ++ [name]] d d')
    (hfile : d'.get? (dir ++ [name]) = some (.file bytes false)) :
    d'.readFile path.text = .ok (dir ++ [name], bytes, false) ↔
      (d.erase (dir ++ [name])).lastName? path.text = d.lastName? path.text := by
  rw [readFile_eq_ok_iff]
  constructor
  · intro hlookup
    obtain ⟨dir', name', left', hentry'⟩ := exists_entryAt hlookup
    have herased := hsame.entryAt_erase hfile hentry'
    have hbefore := herased.grows (grows_erase d (by simp))
    rw [herased.lastName?, hbefore.lastName?]
  · intro hlast
    have hname := hentry.isName.byteCount_le
    obtain ⟨left', herased⟩ := exists_entryAt_of_lastName? (hlast.trans hentry.lastName?) hname
    exact (herased.grows (hsame.grows_erase (by simp))).lookup_of_file hfile

/-- No temporary file is left when it has replaced the entry of the path. -/
theorem Replaced.isFile_eq_false {place : Place} (h : Replaced path bytes place d d')
    (hentry : EntryAt d t dir name left) (hnone : d.get? (dir ++ [name]) = none)
    (hne : dir ++ [name] ≠ place) : d'.isFile t = false := by
  rw [← Bool.not_eq_true, isFile_eq_true_iff]
  rintro ⟨q, content, executable, hlookup⟩
  obtain ⟨dir', name', left', hentry'⟩ := exists_entryAt hlookup
  obtain ⟨own, last, -, -, rfl⟩ := h.names
  have hbefore := (h.same.entryAt_erase h.file hentry').grows (grows_erase d (by simp))
  obtain ⟨rfl, rfl⟩ := hentry.unique hbefore
  rw [hentry'.lookup_of_none ((h.same.get? _ (by simpa using hne)).trans hnone)] at hlookup
  cases hlookup

/-- A temporary file that has been renamed has replaced the entry of the path. -/
theorem atomicOutcome_of_renamed (htemporary : EntryAt d (temporaryPath d.process path).text dir name left)
    (hnone : d.get? (dir ++ [name]) = none)
    (hbeside : ∀ dir' name' left', EntryAt d path.text dir' name' left' →
      EntryAt d (temporaryPath d.process path).text dir' (temporaryName d.process path) left')
    (hfile : OwnFile (dir ++ [name]) bytes false d d₁)
    (hrename : d₁.renameFile (temporaryPath d.process path).text path.text = .ok d') (o : Outside) :
    AtomicOutcome o path bytes d (.ok (), d') := by
  obtain ⟨-, -, -, own, last, left', -, -, hpath, -, hnot⟩ := exists_of_renameFile hrename
  -- The path names the entry without the temporary file too, so their directories are the same.
  have hentry : EntryAt d path.text own last left' :=
    (hfile.same.entryAt_erase hfile.file hpath).grows (grows_erase d (by simp))
  obtain ⟨before, hends, -⟩ := hentry.descends
  have htemporary' := hbeside own last left' hentry
  obtain ⟨rfl, rfl⟩ := htemporary'.unique htemporary
  have hne : dir ++ [temporaryName d.process path] ≠ dir ++ [last] := by
    simpa using temporaryName_ne hends d.process
  rw [hfile.same.get? _ (by simpa using hne.symm)] at hnot
  obtain ⟨d₂, hrename', hsame, hgone, hget, -⟩ :=
    (temporaryAt_of_none htemporary' hnone).written hentry hnot hfile
  obtain rfl : d₂ = d' := Except.ok.inj (hrename'.symm.trans hrename)
  have hown := hsame.remove_free hnone hgone
  have hreplaced : Replaced path bytes (dir ++ [last]) d d₂ :=
    ⟨⟨_, _, _, hentry, rfl⟩, hnot, hget, hown, readFile_replaced_iff hentry hown hget⟩
  exact .written hreplaced ⟨_, _, _, hentry, hnot, htemporary', hnone⟩
    (hreplaced.isFile_eq_false htemporary hnone hne)

/-- The temporary file and its move: nothing changes, or the entry of the path is replaced. Either way
no temporary file is left, unless its lock or its removal is refused. -/
theorem atomicOutcome_of_made (h : NotYet d (temporaryPath d₁.process path).text d₁)
    (hadds : AddsDirectories d d₁) {o : Outside} (hmade : (makeParent path).runOn d o = (.ok (), d₁))
    (bytes : ByteArray) : AtomicOutcome o path bytes d₁ ((writeAtomic path bytes).runOn d o) := by
  rw [runOn_writeAtomic_of_makeParent hmade]
  have hsame := SameExcept.refl [] d₁
  rcases runOn_create_cases (temporaryPath d₁.process path) d₁ o with
    ⟨d₂, -, hwrite⟩ | ⟨fault, hcreate⟩
  case inr =>
    rw [writeBy, DiskAction.runOn_bind_error (runOn_reportedAt_error hcreate _)]
    exact .refused hsame (h.isFile_eq_false hadds hsame)
  obtain ⟨dir, name, left, htemporary, hnone⟩ := h.exists_of_writeFile hadds hwrite
  have hend := (temporaryAt_of_none htemporary hnone).writeBy_ends o path bytes
  generalize (writeBy (temporaryPath d₁.process path) path bytes).runOn d₁ o = outcome at hend
  cases hend with
  | refused hleft =>
    rcases hleft with rfl | ⟨hsame, hgone⟩
    · exact .refused hsame (h.isFile_eq_false hadds hsame)
    · have hsame := hsame.remove_free hnone hgone
      exact .refused hsame (h.isFile_eq_false hadds hsame)
  | stays hfile hstays => exact .stays htemporary hnone hfile.same hstays
  | renamed hfile hmode hrename =>
    rw [hmode hnone] at hfile
    exact atomicOutcome_of_renamed htemporary hnone
      (fun _ _ _ hentry => entryAt_temporaryPath hentry hwrite) hfile hrename o

/-- A file that can be written is, if nothing stands in the way. -/
theorem runOn_writeAtomic_of_canWrite {o : Outside} (hmade : (makeParent path).runOn d o = (.ok (), d₁))
    (hcan : CanWrite d₁ path) (hgrants : o.Grants) :
    ((writeAtomic path bytes).runOn d o).1 = .ok () := by
  obtain ⟨dir, name, left, hentry, hnot, htemporary, hnone⟩ := hcan
  have htemporaryAt := temporaryAt_of_none htemporary hnone
  obtain ⟨d₂, mode, hfile, -, hrun⟩ := htemporaryAt.exists_runOn_writeBy path bytes
  obtain ⟨d', hrename, -⟩ := htemporaryAt.written hentry hnot hfile
  rw [runOn_writeAtomic_of_makeParent hmade, hrun o hgrants d' hrename]

/-- Writing is all or nothing, whatever stands around the disk, if nothing that was there before stands
where the temporary file goes. Apart from directories that the path starts with the write changes
nothing, or it replaces the entry that the path names by a file with the bytes, and it succeeds in
that case alone: where the directory of the path is made and the path names an entry of it that is no
directory. It does succeed there if no call is refused or broken off. No temporary file is left, unless
its lock or its removal is refused. -/
theorem writeAtomic_all_or_nothing (path : Path) (bytes : ByteArray) {d d₁ : Disk} {o : Outside}
    {made : Except FileError Unit} (hmade : (makeParent path).runOn d o = (made, d₁))
    (hfree : NotYet d (temporaryPath d.process path).text d₁) :
    MadeFor path.text d d₁ ∧ AtomicOutcome o path bytes d₁ ((writeAtomic path bytes).runOn d o) ∧
      (((writeAtomic path bytes).runOn d o).1 = .ok () → made = .ok () ∧ CanWrite d₁ path) ∧
      (o.Grants → made = .ok () → CanWrite d₁ path →
        ((writeAtomic path bytes).runOn d o).1 = .ok ()) := by
  have hmadeFor := madeFor_makeParent path d o
  rw [hmade] at hmadeFor
  rw [← hmadeFor.adds.process] at hfree
  refine ⟨hmadeFor, ?_⟩
  cases made with
  | error error =>
    have hsame := SameExcept.refl [] d₁
    rw [writeAtomic, DiskAction.runOn_bind_error hmade]
    refine ⟨.refused hsame (hfree.isFile_eq_false hmadeFor.adds hsame), fun hok => ?_,
      fun _ hok => ?_⟩ <;> cases hok
  | ok _ =>
    have houtcome := atomicOutcome_of_made hfree hmadeFor.adds hmade bytes
    refine ⟨houtcome, fun hok => ⟨rfl, ?_⟩, fun hgrants _ hcan =>
      runOn_writeAtomic_of_canWrite hmade hcan hgrants⟩
    generalize (writeAtomic path bytes).runOn d o = outcome at houtcome hok
    cases houtcome with
    | refused => cases hok
    | stays => cases hok
    | written _ hcan => exact hcan

/-- A disk with a directory in the one that the process works in. -/
def oneDirectory : Disk := Disk.empty.put ["d"] .directory

/-- A file is written to a new directory. -/
theorem writeAtomic_all_or_nothing_new_directory : ∃ d₁ d',
    (makeParent ⟨"d/e/f"⟩).runOn oneDirectory = (.ok (), d₁) ∧
    NotYet oneDirectory (temporaryPath oneDirectory.process ⟨"d/e/f"⟩).text d₁ ∧
    MadeFor (Path.mk "d/e/f").text oneDirectory d₁ ∧ d₁.get? ["d", "e"] = some .directory ∧
    (writeAtomic ⟨"d/e/f"⟩ (Text.toBytes "x")).runOn oneDirectory = (.ok (), d') ∧
    d'.readFile "d/e/f" = .ok (["d".toList, "e".toList, "f".toList], Text.toBytes "x", false) ∧
    d'.isFile (temporaryPath oneDirectory.process ⟨"d/e/f"⟩).text = false := by
  have hmade : ((makeParent ⟨"d/e/f"⟩).runOn oneDirectory).1 = .ok () := by cbv
  have hvacant : ((makeParent ⟨"d/e/f"⟩).runOn oneDirectory).2.lookup false
      (temporaryPath oneDirectory.process ⟨"d/e/f"⟩).text =
        .ok (.vacant ["d".toList, "e".toList, ".f.1.tmp".toList]) := by cbv
  have hdirectory : ((makeParent ⟨"d/e/f"⟩).runOn oneDirectory).2.get? ["d", "e"] =
      some .directory := by cbv
  have hread : ((writeAtomic ⟨"d/e/f"⟩ (Text.toBytes "x")).runOn oneDirectory).2.readFile "d/e/f" =
      .ok (["d".toList, "e".toList, "f".toList], Text.toBytes "x", false) := by cbv
  have hresult : ((writeAtomic ⟨"d/e/f"⟩ (Text.toBytes "x")).runOn oneDirectory).1 = .ok () := by cbv
  rcases hrun : (makeParent ⟨"d/e/f"⟩).runOn oneDirectory with ⟨made, d₁⟩
  rw [hrun] at hmade hvacant hdirectory
  obtain rfl : made = .ok () := hmade
  have hnotYet : NotYet oneDirectory (temporaryPath oneDirectory.process ⟨"d/e/f"⟩).text d₁ :=
    fun q e hfound => by cases hvacant.symm.trans hfound
  obtain ⟨hmadeFor, houtcome, -⟩ :=
    writeAtomic_all_or_nothing ⟨"d/e/f"⟩ (Text.toBytes "x") hrun hnotYet
  generalize (writeAtomic ⟨"d/e/f"⟩ (Text.toBytes "x")).runOn oneDirectory = outcome at *
  cases houtcome with
  | refused => cases hresult
  | stays => cases hresult
  | written hreplaced hcan hgone =>
    rw [hmadeFor.adds.process] at hgone
    exact ⟨d₁, _, rfl, hnotYet, hmadeFor, hdirectory, rfl, hread, hgone⟩

/-- A disk with a link to the directory that it is in. -/
def oneLink : Disk := Disk.empty.put ["f"] (.link ".")

/-- A disk with a file under a temporary name. -/
def oneTemporary : Disk := Disk.empty.put [".f.1.tmp"] (.file (Text.toBytes "y") false)

/-- The way to a file may pass the link that the file replaces: the write succeeds, and the path
leads nowhere. A temporary file may stand where its path leads only when the directory of the path has
been made: the write succeeds, and that file is gone. -/
theorem writeAtomic_loses_way :
    (∃ d', oneLink.Free (temporaryPath oneLink.process ⟨"f/f"⟩).text ∧
      (writeAtomic ⟨"f/f"⟩ (Text.toBytes "x")).runOn oneLink = (.ok (), d') ∧
      d'.readFile "f/f" = .error .notDirectory) ∧
    ∃ d', oneTemporary.Free (temporaryPath oneTemporary.process ⟨"a/../f"⟩).text ∧
      (writeAtomic ⟨"a/../f"⟩ (Text.toBytes "x")).runOn oneTemporary = (.ok (), d') ∧
      oneTemporary.get? [".f.1.tmp"] ≠ none ∧ d'.get? [".f.1.tmp"] = none := by
  have hvacant : oneLink.lookup false (temporaryPath oneLink.process ⟨"f/f"⟩).text =
      .ok (.vacant [".f.1.tmp".toList]) := by cbv
  have hlink : ((writeAtomic ⟨"f/f"⟩ (Text.toBytes "x")).runOn oneLink).1 = .ok () := by cbv
  have hlost : ((writeAtomic ⟨"f/f"⟩ (Text.toBytes "x")).runOn oneLink).2.readFile "f/f" =
      .error .notDirectory := by cbv
  have hmissing : oneTemporary.lookup false
      (temporaryPath oneTemporary.process ⟨"a/../f"⟩).text = .error .notFound := by cbv
  have hover : ((writeAtomic ⟨"a/../f"⟩ (Text.toBytes "x")).runOn oneTemporary).1 = .ok () := by cbv
  have hthere : oneTemporary.get? [".f.1.tmp"] ≠ none := by
    rw [oneTemporary, get?_put (by simp), if_pos rfl]
    simp
  have hgone : ((writeAtomic ⟨"a/../f"⟩ (Text.toBytes "x")).runOn oneTemporary).2.get?
      [".f.1.tmp"] = none := by cbv
  refine ⟨⟨_, free_of_lookup hvacant, Prod.ext hlink rfl, hlost⟩,
    _, fun q e hfound => ?_, Prod.ext hover rfl, hthere, hgone⟩
  cases hmissing.symm.trans hfound

end Files

end ProtoUpkeep
