import ProtoUpkeep.Files.AtomicWrite
import ProtoUpkeep.Files.BackedUpWrite
import ProtoUpkeep.Proofs.Files.Calls
import ProtoUpkeep.Proofs.Files.Trees
import ProtoUpkeep.Proofs.Text.Runs

/-!
# What writing in one step changes

A file is written to a temporary file, which is then renamed. The temporary file is one of its own, so
it can be followed through the steps whatever stands around the disk: either nothing is left of it, or
it stays because its lock or its removal is refused, or it has been renamed (`Files.WriteEnd`). Where the
path names an entry that is no directory, the write ends with that entry replaced or with nothing
changed, the temporary file apart (`Files.OverEnd`). Where nothing interferes it fails only if the
temporary file cannot be (`Files.runOn_writeAtomic`).
-/

namespace ProtoUpkeep

open Disk RawPath

variable {d d₁ d₂ d' : Disk} {o : Outside} {path source target temporary : Path} {dir own p q : Place}
  {name last : Text} {left process : Nat} {content bytes : ByteArray} {executable mode : Bool}
  {e : Entry}

namespace Files

/-! ## The places beside a file -/

/-- The name of the backup of a file. -/
def backupName (name : Text) : Text := name ++ ".bak"

/-- The backup stands beside the file. -/
theorem beside_backupPath {before : List Text} (h : EndsIn path.text before name) :
    Beside path.text before (backupPath path).text (backupName name) :=
  h.beside_append (by decide) (by decide)

/-- The temporary name is one name. -/
theorem slash_not_mem_temporaryName (process : Nat) (path : Path) :
    '/' ∉ temporaryName process path := by
  have hfile : '/' ∉ path.fileName?.getD [] := by
    rw [Path.fileName?]
    split
    · simp
    · intro hmem
      have := List.mem_takeWhile_imp (List.mem_reverse.1 hmem)
      simp at this
  have hnumber : '/' ∉ Text.ofNat process := fun hmem =>
    absurd (Text.isDigit_of_mem_ofNat hmem) (by decide)
  simp [temporaryName, hfile, hnumber]

/-- The temporary file stands beside the file. -/
theorem beside_temporaryPath {before : List Text} (h : EndsIn path.text before name)
    (hname : IsName name) (process : Nat) :
    Beside path.text before (temporaryPath process path).text (temporaryName process path) := by
  refine h.beside_withFileName hname.ne_dot hname.ne_dotDot
    (slash_not_mem_temporaryName process path) ?_
  simp [temporaryName]
  omega

/-- The temporary name ends with its extension. -/
theorem getLast?_temporaryName (process : Nat) (path : Path) :
    (temporaryName process path).getLast? = some 'p' := by
  rw [temporaryName, ← List.cons_append, List.getLast?_append_of_ne_nil _ (by decide)]
  rfl

/-- The backup and the temporary file have different names. -/
theorem backupName_ne_temporaryName : backupName name ≠ temporaryName process path := by
  intro h
  have hbackup : (backupName name).getLast? = some 'k' := by
    rw [backupName, List.getLast?_append_of_ne_nil _ (by decide)]
    rfl
  rw [h, getLast?_temporaryName] at hbackup
  exact absurd hbackup (by decide)

/-- The backup does not have the name of the file. -/
theorem backupName_ne : backupName name ≠ name := fun h => by
  have hlen := congrArg List.length h
  simp [backupName] at hlen

/-! ## The temporary file -/

/-- The temporary file stays: its lock is refused or kept, or its removal is refused. -/
def Stays (o : Outside) (temporary : Path) (d : Disk) : Prop :=
  (o.refuses d (.lock temporary.text)).isSome ∨ (o.refuses d (.unlock temporary.text)).isSome ∨
    (o.refuses d (.remove temporary.text)).isSome

/-- A temporary file can be at an entry: the entry is free, or a file with one name is there. -/
structure TemporaryAt (d : Disk) (temporary : Path) (dir : Place) (last : Text) (left : Nat) : Prop where
  /-- The entry. -/
  entry : EntryAt d temporary.text dir last left
  /-- What stands there. -/
  like : ∀ e, d.get? (dir ++ [last]) = some e → Like e (.file ByteArray.empty false)
  /-- It has one name. -/
  number? : d.number? (dir ++ [last]) = none

/-- How writing to a temporary file and renaming it ends. -/
inductive WriteEnd (o : Outside) (temporary path : Path) (bytes : ByteArray) (p : Place) (d : Disk) :
    Except FileError Unit × Disk → Prop
  /-- Nothing is left of the temporary file. -/
  | refused {error : FileError} {d' : Disk} : d' = d ∨ SameExcept [p] d d' ∧ d'.get? p = none →
    WriteEnd o temporary path bytes p d (.error error, d')
  /-- The temporary file is left. -/
  | stays {error : FileError} {d' : Disk} {content : ByteArray} {mode : Bool} :
    OwnFile p content mode d d' → Stays o temporary d' →
    WriteEnd o temporary path bytes p d (.error error, d')
  /-- The temporary file is renamed. -/
  | renamed {d₂ d' : Disk} {mode : Bool} : OwnFile p bytes mode d d₂ →
    (d.get? p = none → mode = false) → d₂.renameFile temporary.text path.text = .ok d' →
    WriteEnd o temporary path bytes p d (.ok (), d')

/-- A file of its own is like what was there. -/
theorem TemporaryAt.like_file (h : TemporaryAt d temporary dir last left) (content : ByteArray)
    (mode : Bool) {e : Entry} (hget : d.get? (dir ++ [last]) = some e) : Like e (.file content mode) :=
  (h.like e hget).trans (.file ..)

/-- The path of a temporary file leads to it. -/
theorem TemporaryAt.entry_own (h : TemporaryAt d temporary dir last left)
    (hfile : OwnFile (dir ++ [last]) content mode d d') : EntryAt d' temporary.text dir last left :=
  h.entry.grows (hfile.grows fun _ => h.like_file content mode)

/-- A temporary file that is given up is removed, or stays because that is refused. -/
theorem TemporaryAt.given_up (h : TemporaryAt d temporary dir last left)
    (hfile : OwnFile (dir ++ [last]) content mode d d') (path : Path) (bytes : ByteArray)
    (error : FileError) : WriteEnd o temporary path bytes (dir ++ [last]) d
      (.error error, ((remove temporary).runOn d' o).2) := by
  cases hrefuses : o.refuses d' (.remove temporary.text) with
  | some fault =>
    rw [runOn_remove_refused hrefuses]
    exact .stays hfile (.inr (.inr (by rw [hrefuses]; rfl)))
  | none =>
    rw [runOn_remove (h.entry_own hfile) hfile.file (by simp) hrefuses]
    exact .refused (.inr hfile.erase)

/-- Bytes are written to a temporary file again and again. -/
theorem TemporaryAt.exists_writeFile (h : TemporaryAt d temporary dir last left)
    (hfile : OwnFile (dir ++ [last]) content mode d d') (bytes : ByteArray) :
    ∃ d₂, d'.writeFile temporary.text bytes = .ok d₂ ∧ OwnFile (dir ++ [last]) bytes mode d' d₂ := by
  have hentry := h.entry_own hfile
  exact ⟨_, hentry.writeFile_of_file (hentry.lookup_of_file hfile.file) bytes,
    ownFile_store (by simp) hfile.number? bytes mode⟩

/-- Writing to a temporary file and renaming it ends in one of these ways. -/
theorem TemporaryAt.writeBy_ends (h : TemporaryAt d temporary dir last left) (o : Outside) (path : Path)
    (bytes : ByteArray) :
    WriteEnd o temporary path bytes (dir ++ [last]) d ((writeBy temporary path bytes).runOn d o) := by
  obtain ⟨mode, hmode, hwrites⟩ := h.entry.exists_writeFile h.like h.number?
  unfold writeBy
  rcases runOn_create_cases temporary d o with ⟨d₁, hcreate, hwrite⟩ | ⟨fault, hcreate⟩
  case inr =>
    rw [DiskAction.runOn_bind_error (runOn_reportedAt_error hcreate _)]
    exact .refused (.inl rfl)
  rw [DiskAction.runOn_bind_ok (runOn_reportedAt_ok hcreate _)]
  obtain ⟨_, hwrite', hempty⟩ := hwrites ByteArray.empty
  obtain rfl := Except.ok.inj (hwrite.symm.trans hwrite')
  cases hlock : o.refuses d₁ (.lock temporary.text) with
  | some fault =>
    have hsome : (o.refuses d₁ (.lock temporary.text)).isSome := by rw [hlock]; rfl
    rw [DiskAction.runOn_bind_error (runOn_reportedAt_error (runOn_lock_refused hsome) _)]
    exact .stays hempty (.inl hsome)
  | none =>
  rw [DiskAction.runOn_bind_ok (runOn_reportedAt_ok (runOn_lock hlock) _)]
  rcases runOn_writeThrough_cases bytes (fun bytes => h.exists_writeFile hempty bytes) with
    ⟨d₂, hthrough, hfull⟩ | ⟨fault, d₂, hthrough, hpart⟩
  case inr =>
    have hleft : ∃ content, OwnFile (dir ++ [last]) content mode d d₂ := by
      rcases hpart with rfl | ⟨content, hpart⟩
      · exact ⟨_, hempty⟩
      · exact ⟨content, hempty.trans hpart⟩
    obtain ⟨content, hleft⟩ := hleft
    rw [DiskAction.runOn_bind_error
      (runOn_reportedAt_error (DiskAction.runOn_withCleanup_error hthrough _) _)]
    exact h.given_up hleft path bytes _
  have hfile := hempty.trans hfull
  rw [DiskAction.runOn_bind_ok
    (runOn_reportedAt_ok (DiskAction.runOn_withCleanup_ok hthrough _) _)]
  cases hunlock : o.refuses d₂ (.unlock temporary.text) with
  | some fault =>
    have hsome : (o.refuses d₂ (.unlock temporary.text)).isSome := by rw [hunlock]; rfl
    rw [DiskAction.runOn_bind_error (runOn_reportedAt_error (runOn_unlock_refused hsome) _)]
    exact .stays hfile (.inr (.inl hsome))
  | none =>
  rw [DiskAction.runOn_bind_ok (runOn_reportedAt_ok (runOn_unlock hunlock) _)]
  rcases runOn_rename_cases temporary path d₂ o with ⟨d₃, hrename, hmove⟩ | ⟨fault, hrename⟩
  · rw [runOn_reportedAt_ok (DiskAction.runOn_withCleanup_ok hrename _) _]
    exact .renamed hfile hmode hmove
  · rw [runOn_reportedAt_error (DiskAction.runOn_withCleanup_error hrename _) _]
    exact h.given_up hfile path bytes _

/-- A temporary file is written and renamed where nothing interferes. -/
theorem TemporaryAt.exists_runOn_writeBy (h : TemporaryAt d temporary dir last left) (path : Path)
    (bytes : ByteArray) : ∃ d₂ mode, OwnFile (dir ++ [last]) bytes mode d d₂ ∧
      (d.get? (dir ++ [last]) = none → mode = false) ∧
      ∀ o : Outside, o.Grants → ∀ d', d₂.renameFile temporary.text path.text = .ok d' →
        (writeBy temporary path bytes).runOn d o = (.ok (), d') := by
  obtain ⟨mode, hmode, hwrites⟩ := h.entry.exists_writeFile h.like h.number?
  obtain ⟨d₁, hwrite, hempty⟩ := hwrites ByteArray.empty
  obtain ⟨d₂, hwrite', hfull⟩ := h.exists_writeFile hempty bytes
  refine ⟨d₂, mode, hempty.trans hfull, hmode, fun o hgrants d' hrename => ?_⟩
  unfold writeBy
  rw [DiskAction.runOn_bind_ok (runOn_reportedAt_ok (runOn_create hwrite (hgrants.refuses _ _)) _),
    DiskAction.runOn_bind_ok (runOn_reportedAt_ok (runOn_lock (hgrants.refuses _ _)) _),
    DiskAction.runOn_bind_ok (runOn_reportedAt_ok
      (DiskAction.runOn_withCleanup_ok (runOn_writeThrough hwrite' hgrants) _) _),
    DiskAction.runOn_bind_ok (runOn_reportedAt_ok (runOn_unlock (hgrants.refuses _ _)) _)]
  exact runOn_reportedAt_ok
    (DiskAction.runOn_withCleanup_ok (runOn_rename hrename (hgrants.refuses _ _)) _) _

/-! ## Writing in one step -/

/-- Nothing has to be made where the directory is there. -/
theorem runOn_makeParent (h : EntryAt d path.text dir name left) (hgrants : o.Grants) :
    (makeParent path).runOn d o = (.ok (), d) := by
  unfold makeParent
  split
  · rfl
  · rfl
  · next parent hempty hparent =>
    have hne : parent ≠ [] := by
      rintro rfl
      exact hempty rfl
    have hrun : (makeDirectories parent).runOn d o =
        ((d.makeDirectories (parent.length + 1) parent o).1.mapError (.io parent),
          (d.makeDirectories (parent.length + 1) parent o).2) := DiskAction.runOn_mapError _ _ _
    rw [hrun, h.makeDirectories_parent hparent hne _ hgrants]
    rfl

/-- Behind the making of the directory a file is written by way of its temporary file. -/
theorem runOn_writeAtomic_of_makeParent (hmade : (makeParent path).runOn d o = (.ok (), d₁)) :
    (writeAtomic path bytes).runOn d o =
      (writeBy (temporaryPath d₁.process path) path bytes).runOn d₁ o := by
  rw [writeAtomic, DiskAction.runOn_bind_ok hmade, DiskAction.runOn_bind_ok (DiskAction.runOn_get d₁)]

/-- The temporary file does not have the name of the file. -/
theorem temporaryName_ne {before : List Text} (h : EndsIn path.text before name) (process : Nat) :
    temporaryName process path ≠ name := fun heq => by
  have hlength := congrArg List.length heq
  simp only [temporaryName, Path.fileName?_of_endsIn h, Option.getD_some, List.length_cons,
    List.length_append] at hlength
  omega

/-- Where the temporary file can be opened its path names an entry beside that of the path. -/
theorem entryAt_temporaryPath (h : EntryAt d path.text dir name left)
    (hwrite : d.writeFile (temporaryPath d.process path).text bytes = .ok d') :
    EntryAt d (temporaryPath d.process path).text dir (temporaryName d.process path) left := by
  obtain ⟨spot, hlookup⟩ := exists_lookup_of_writeFile hwrite
  exact h.beside_of_lookup (fun before hends => beside_temporaryPath hends h.isName d.process) hlookup

/-- How writing in one step over an entry ends. -/
inductive OverEnd (o : Outside) (path : Path) (bytes : ByteArray) (dir : Place) (name : Text)
    (left : Nat) (d : Disk) : Except FileError Unit × Disk → Prop
  /-- Nothing has changed. -/
  | refused {error : FileError} : OverEnd o path bytes dir name left d (.error error, d)
  /-- The temporary file is removed. -/
  | removed {error : FileError} {d' : Disk} :
    EntryAt d (temporaryPath d.process path).text dir (temporaryName d.process path) left →
    SameExcept [dir ++ [temporaryName d.process path]] d d' →
    d'.get? (dir ++ [temporaryName d.process path]) = none →
    OverEnd o path bytes dir name left d (.error error, d')
  /-- The temporary file is left. -/
  | stays {error : FileError} {d' : Disk} {content : ByteArray} {mode : Bool} :
    EntryAt d (temporaryPath d.process path).text dir (temporaryName d.process path) left →
    OwnFile (dir ++ [temporaryName d.process path]) content mode d d' →
    Stays o (temporaryPath d.process path) d' →
    OverEnd o path bytes dir name left d (.error error, d')
  /-- The entry is replaced by a file with the bytes. -/
  | written {d' : Disk} {mode : Bool} :
    EntryAt d (temporaryPath d.process path).text dir (temporaryName d.process path) left →
    SameExcept [dir ++ [temporaryName d.process path], dir ++ [name]] d d' →
    d'.get? (dir ++ [temporaryName d.process path]) = none →
    d'.get? (dir ++ [name]) = some (.file bytes mode) →
    (d.get? (dir ++ [temporaryName d.process path]) = none → mode = false) →
    d'.number? (dir ++ [name]) = none → OverEnd o path bytes dir name left d (.ok (), d')

/-- A temporary file that has been renamed has replaced the entry, and nothing is left of it. -/
theorem TemporaryAt.written (h : EntryAt d path.text dir name left)
    (hnot : d.get? (dir ++ [name]) ≠ some .directory)
    (htemporary : TemporaryAt d (temporaryPath d.process path) dir (temporaryName d.process path) left)
    (hfile : OwnFile (dir ++ [temporaryName d.process path]) bytes mode d d₂) :
    ∃ d', d₂.renameFile (temporaryPath d.process path).text path.text = .ok d' ∧
      SameExcept [dir ++ [temporaryName d.process path], dir ++ [name]] d d' ∧
      d'.get? (dir ++ [temporaryName d.process path]) = none ∧
      d'.get? (dir ++ [name]) = some (.file bytes mode) ∧ d'.number? (dir ++ [name]) = none := by
  obtain ⟨before, hends, -⟩ := h.descends
  have hne : dir ++ [temporaryName d.process path] ≠ dir ++ [name] := by
    simpa using temporaryName_ne hends d.process
  have hgrows := hfile.grows fun _ => htemporary.like_file bytes mode
  have hnot₂ : d₂.get? (dir ++ [name]) ≠ some .directory := by
    rwa [hfile.same.get? _ (by simpa using hne.symm)]
  have hrename := (htemporary.entry.grows hgrows).renameFile (h.grows hgrows) hfile.file hnot₂
  have hother : ¬ d₂.SameFile (dir ++ [temporaryName d.process path]) (dir ++ [name]) := by
    rw [sameFile_iff_of_number?_eq_none hfile.number?]
    exact hne.symm
  rw [if_neg hother] at hrename
  exact ⟨_, hrename, hfile.move (by simp) hne⟩

/-- Writing in one step over an entry that is no directory ends in one of these ways, if a temporary
file can be beside it or is one of its own. -/
theorem writeAtomic_ends (h : EntryAt d path.text dir name left)
    (hnot : d.get? (dir ++ [name]) ≠ some .directory)
    (htemporary : EntryAt d (temporaryPath d.process path).text dir (temporaryName d.process path)
      left → TemporaryAt d (temporaryPath d.process path) dir (temporaryName d.process path) left)
    (o : Outside) (bytes : ByteArray) :
    OverEnd o path bytes dir name left d ((writeAtomic path bytes).runOn d o) := by
  have hsnd := runOn_makeParent_snd h o
  rcases hmade : (makeParent path).runOn d o with ⟨r, d₁⟩
  rw [hmade] at hsnd
  obtain rfl : d₁ = d := hsnd
  cases r with
  | error error =>
    rw [writeAtomic, DiskAction.runOn_bind_error hmade]
    exact .refused
  | ok u =>
    rw [runOn_writeAtomic_of_makeParent hmade]
    by_cases hentry : EntryAt d₁ (temporaryPath d₁.process path).text dir
        (temporaryName d₁.process path) left
    · have hend := (htemporary hentry).writeBy_ends o path bytes
      generalize (writeBy (temporaryPath d₁.process path) path bytes).runOn d₁ o = outcome at hend
      cases hend with
      | refused hsame =>
        rcases hsame with rfl | ⟨hsame, hgone⟩
        · exact .refused
        · exact .removed hentry hsame hgone
      | stays hfile hstays => exact .stays hentry hfile hstays
      | renamed hfile hmode hrename =>
        obtain ⟨d₃, hrename', hsame, hgone, hget, hnumber⟩ :=
          (htemporary hentry).written h hnot hfile
        obtain rfl := Except.ok.inj (hrename.symm.trans hrename')
        exact .written hentry hsame hgone hget hmode hnumber
    · rcases runOn_create_cases (temporaryPath d₁.process path) d₁ o with
        ⟨d₂, -, hwrite⟩ | ⟨fault, hcreate⟩
      · exact absurd (entryAt_temporaryPath h hwrite) hentry
      · rw [writeBy, DiskAction.runOn_bind_error (runOn_reportedAt_error hcreate _)]
        exact .refused

/-- A temporary file can be at a free entry. -/
theorem temporaryAt_of_none (h : EntryAt d temporary.text dir last left)
    (hnone : d.get? (dir ++ [last]) = none) : TemporaryAt d temporary dir last left :=
  ⟨h, by simp [hnone], number?_of_get?_eq_none hnone⟩

/-- A file is written in one step where nothing interferes and the temporary file can be. -/
theorem exists_runOn_writeAtomic (h : EntryAt d path.text dir name left)
    (hnot : d.get? (dir ++ [name]) ≠ some .directory)
    (htemporary : TemporaryAt d (temporaryPath d.process path) dir (temporaryName d.process path) left)
    (hgrants : o.Grants) (bytes : ByteArray) :
    ∃ d', (writeAtomic path bytes).runOn d o = (.ok (), d') := by
  obtain ⟨d₂, mode, hfile, -, hrun⟩ := htemporary.exists_runOn_writeBy path bytes
  obtain ⟨d', hrename, -⟩ := htemporary.written h hnot hfile
  exact ⟨d', (runOn_writeAtomic_of_makeParent (runOn_makeParent h hgrants)).trans
    (hrun o hgrants d' hrename)⟩

/-- An entry that is no directory is written in one step, beside which no temporary file is: the write
is refused, or a file with the bytes stands there and nothing else has changed. Where nothing
interferes it is refused only if there can be no temporary file, and changes nothing. -/
theorem runOn_writeAtomic (h : EntryAt d path.text dir name left)
    (hnot : d.get? (dir ++ [name]) ≠ some .directory)
    (hfree : EntryAt d (temporaryPath d.process path).text dir (temporaryName d.process path) left →
      d.get? (dir ++ [temporaryName d.process path]) = none) (o : Outside) (bytes : ByteArray) :
    (∃ error d', (writeAtomic path bytes).runOn d o = (.error error, d') ∧ (o.Grants → d' = d ∧
      ¬ EntryAt d (temporaryPath d.process path).text dir (temporaryName d.process path) left)) ∨
    (EntryAt d (temporaryPath d.process path).text dir (temporaryName d.process path) left ∧
      ∃ d', (writeAtomic path bytes).runOn d o = (.ok (), d') ∧ SameExcept [dir ++ [name]] d d' ∧
        d'.get? (dir ++ [name]) = some (.file bytes false) ∧ d'.number? (dir ++ [name]) = none) := by
  have hat := fun hentry => temporaryAt_of_none hentry (hfree hentry)
  have hend := writeAtomic_ends h hnot hat o bytes
  rcases hrun : (writeAtomic path bytes).runOn d o with ⟨r, d'⟩
  rw [hrun] at hend
  have hrefused : r ≠ .ok () → o.Grants →
      ¬ EntryAt d (temporaryPath d.process path).text dir (temporaryName d.process path) left := by
    intro hne hgrants hentry
    obtain ⟨d₁, hok⟩ := exists_runOn_writeAtomic h hnot (hat hentry) hgrants bytes
    exact hne (Prod.mk.inj (hrun.symm.trans hok)).1
  cases hend with
  | refused => exact .inl ⟨_, d, rfl, fun hgrants => ⟨rfl, hrefused (by simp) hgrants⟩⟩
  | removed hentry | stays hentry =>
    exact .inl ⟨_, d', rfl, fun hgrants => absurd hentry (hrefused (by simp) hgrants)⟩
  | written hentry hsame hgone hget hmode hnumber =>
    rw [hmode (hfree hentry)] at hget
    exact .inr ⟨hentry, d', rfl, hsame.remove_free (hfree hentry) hgone, hget, hnumber⟩

/-- Nothing is written beside a directory with the temporary name. -/
theorem runOn_writeAtomic_of_directory (h : EntryAt d path.text dir name left)
    (hdirectory : d.get? (dir ++ [temporaryName d.process path]) = some .directory) (o : Outside)
    (bytes : ByteArray) : ∃ error, (writeAtomic path bytes).runOn d o = (.error error, d) := by
  have hsnd := runOn_makeParent_snd h o
  rcases hmade : (makeParent path).runOn d o with ⟨r, d₁⟩
  rw [hmade] at hsnd
  obtain rfl : d₁ = d := hsnd
  cases r with
  | error error => exact ⟨error, DiskAction.runOn_bind_error hmade⟩
  | ok u =>
    rw [runOn_writeAtomic_of_makeParent hmade]
    rcases runOn_create_cases (temporaryPath d₁.process path) d₁ o with
      ⟨d₂, -, hwrite⟩ | ⟨fault, hcreate⟩
    · have hentry := entryAt_temporaryPath h hwrite
      simp only [Disk.writeFile, bind, Except.bind, hentry.writable_of_directory hdirectory] at hwrite
      cases hwrite
    · exact ⟨_, DiskAction.runOn_bind_error (runOn_reportedAt_error hcreate _)⟩

end Files

end ProtoUpkeep
