import ProtoUpkeep.Files.BackedUpWrite
import ProtoUpkeep.Proofs.Files.AtomicWrite

/-!
# What overwriting a file leaves of the backup

A file is copied to its backup before it is overwritten, whatever stands there already. The copy
follows a link, and the backup is removed behind it. So the entry of the path may change, that of the
backup, and the file that the backup's path leads to, under all of its names.

Whatever stands around the disk, nothing else changes but the temporary file and the file at the path,
which a restore that breaks off may leave in parts (`Files.Backed.touches`). If the write succeeds the
temporary file is gone and so is the backup (`Files.Backed.of_ok`). If it fails the file is as it was
and so is the backup's entry, or gone, where the outside lets the write be undone (`Files.CleansUp`).
Where nothing stands at the backup only the entry of the path changes, and where a directory does
nothing changes at all.

The temporary file may be the one that a link at the backup leads to: it is free before the call.
-/

namespace ProtoUpkeep

open Disk
open RawPath (EndsIn)

variable {d d₁ d₂ d' : Disk} {o : Outside} {path : Path} {dir own own' p q copy : Place} {name : Text}
  {left : Nat} {content bytes : ByteArray} {executable : Bool} {e : Entry}
  {outcome : Except FileError Unit × Disk}

namespace Disk

/-! ## Entries that no way passes -/

/-- No descent passes a place where nothing or a file stands. -/
theorem blocks_of_like
    (h : ∀ e, d.get? (dir ++ [name]) = some e → Like e (.file content executable)) :
    Blocks d dir name where
  ne_directory hget := by cases h _ hget
  not_descends hget := by cases h _ hget

/-- What no descent passes on a disk none passed before the disk grew. -/
theorem Blocks.of_grows (h : Blocks d' dir name) (hgrows : Grows d d') : Blocks d dir name where
  ne_directory hget := h.ne_directory (hgrows.directory hget)
  not_descends hget _ _ _ hdesc := h.not_descends (hgrows.link hget) (hdesc.grows hgrows)

/-- A path names the same entry on a disk that differs at two places that no descent passes. -/
theorem EntryAt.of_sameExcept {t : Text} (h : EntryAt d t dir name left)
    {last last' : Text} (hblocks : Blocks d own last) (hblocks' : Blocks d own' last')
    (hsame : SameExcept [own ++ [last], own' ++ [last']] d d') : EntryAt d' t dir name left := by
  -- The entries are taken away one after the other.
  have herased : EntryAt (d.erase (own' ++ [last'])) t dir name left := by
    refine h.of_keeps hblocks' ⟨fun q e hq hget => ?_, rfl⟩
    rw [get?_erase (by simp), if_neg hq, hget]
  refine herased.of_keeps (hblocks.of_grows (grows_erase d (by simp)))
    ⟨fun q e hq hget => ?_, hsame.workingDirectory⟩
  rw [get?_erase (by simp)] at hget
  split at hget
  · cases hget
  · next hq' => rw [hsame.get? q (by simp [hq, hq']), hget]

/-- At the entry of a path that leads to a file stands no directory. -/
theorem exists_get?_of_lookup {t : Text} (h : EntryAt d t dir name left)
    (hfile : d.lookup true t = .ok (.found q (.file content executable))) :
    ∃ e, d.get? (dir ++ [name]) = some e ∧ e ≠ .directory := by
  obtain ⟨e, hget⟩ := h.exists_get? hfile
  refine ⟨e, hget, ?_⟩
  rintro rfl
  exact (h.blocks hfile).ne_directory hget

/-- No directory is at a path where a file is written. -/
theorem WrittenAt.isDirectory_eq_false {t : Text} (h : WrittenAt d t p content executable) :
    d.isDirectory t = false := by
  rw [← Bool.not_eq_true]
  intro hdirectory
  obtain ⟨q, hlookup⟩ := isDirectory_eq_true_iff.1 hdirectory
  obtain ⟨e, hfound, hlike⟩ := lookup_grows h.grows hlookup
  rw [hlike.eq_directory, h.lookup] at hfound
  cases hfound

/-- Where no link stands at its entry, a file is written to that entry. -/
theorem WrittenAt.eq_entry {t : Text} (h : WrittenAt d t p content executable)
    (hentry : EntryAt d t dir name left) (hnot : ∀ target, d.get? (dir ++ [name]) ≠ some (.link target)) :
    p = dir ++ [name] := by
  cases hget : d.get? (dir ++ [name]) with
  | none =>
    have hlookup : d.lookup true t = _ := hentry.lookup_of_none hget
    rcases h.leads with hleads | ⟨e, hleads⟩
    · cases hlookup.symm.trans hleads
      rfl
    · cases hlookup.symm.trans hleads
  | some e =>
    cases e with
    | file content' executable' =>
      have hlookup : d.lookup true t = _ := hentry.lookup_of_file hget
      rcases h.leads with hleads | ⟨e, hleads⟩
      · cases hlookup.symm.trans hleads
      · cases hlookup.symm.trans hleads
        rfl
    | directory =>
      obtain ⟨_, hthere, hne⟩ := exists_get?_of_lookup (hentry.grows h.grows) h.lookup
      exact absurd (Option.some.inj (hthere.symm.trans (h.grows.directory hget))) hne
    | link target => exact absurd hget (hnot target)

/-- A disk has grown if it differs from one that has at a place that was free. -/
theorem Grows.of_sameExcept (h : Grows d d₁) (hsame : SameExcept [p] d₁ d₂) (hfree : d.get? p = none) :
    Grows d d₂ where
  get? q e hget := by
    rw [hsame.get? q (by simpa using ne_of_get? hget hfree)]
    exact h.get? q e hget
  workingDirectory := hsame.workingDirectory.trans h.workingDirectory
  process := hsame.process.trans h.process

end Disk

namespace Files

/-! ## Removing the backup -/

/-- Removing changes the entry of the path, if any. -/
theorem runOn_remove_same (h : EntryAt d path.text dir name left) (o : Outside) :
    SameExcept [dir ++ [name]] d ((remove path).runOn d o).2 := by
  rcases runOn_remove_cases h o with hrun | ⟨fault, hrun⟩
  · rw [hrun]
    exact (SameExcept.refl _ d).erase (by simp) (by simp)
  · rw [hrun]
    exact .refl _ d

/-! ## The copy -/

/-- A file that has been copied to its backup, over whatever stood there: the two paths name entries
of one directory, and the backup's path leads to the copy. A device keeps no copy. -/
structure CopiedTo (o : Outside) (d : Disk) (path : Path) (dir : Place) (name : Text) (left : Nat)
    (p copy : Place) (content : ByteArray) (executable : Bool) (d' : Disk) : Prop where
  /-- The file that the path leads to. -/
  file : d.lookup true path.text = .ok (.found p (.file content executable))
  /-- The entry of the path. -/
  entry : EntryAt d path.text dir name left
  /-- The entry of the backup. -/
  backup : EntryAt d (backupPath path).text dir (backupName name) left
  /-- The copy, which is empty where it is the file itself. -/
  written : WrittenAt d (backupPath path).text copy
    (if d.SameFile copy p then ByteArray.empty else content) executable
  /-- The disk behind the copying. -/
  disk : d' = d.store copy (if d.SameFile copy p then ByteArray.empty else content) executable ∨
    d' = d ∧ d.isTaken (backupPath path).text = true ∧ o.absorbs d (backupPath path).text = true

/-- The path of the backup names an entry beside that of the path, if a file is written there. -/
theorem entryAt_backupPath (h : EntryAt d path.text dir name left)
    (hwritten : WrittenAt d (backupPath path).text copy bytes executable) :
    EntryAt d (backupPath path).text dir (backupName name) left := by
  rcases hwritten.leads with hleads | ⟨e, hleads⟩
  · exact h.beside_of_lookup (fun _ hends => beside_backupPath hends) hleads
  · exact h.beside_of_lookup (fun _ hends => beside_backupPath hends) hleads

/-- The disk has grown by the copy. -/
theorem CopiedTo.grows (h : CopiedTo o d path dir name left p copy content executable d') :
    Grows d d' := by
  rcases h.disk with heq | ⟨rfl, -⟩
  · exact heq ▸ h.written.grows
  · exact .refl d'

/-- The names of the file at the backup may have changed. -/
theorem CopiedTo.same (h : CopiedTo o d path dir name left p copy content executable d') :
    SameExcept (d.namesAt (backupPath path).text) d d' := by
  rcases h.disk with heq | ⟨rfl, -⟩
  · exact heq ▸ h.written.same
  · exact .refl _ d'

/-- Copying gives no file a name and takes none away. -/
theorem CopiedTo.number? (h : CopiedTo o d path dir name left p copy content executable d')
    (q : Place) : d'.number? q = d.number? q := by
  rcases h.disk with heq | ⟨heq, -⟩
  · rw [heq, number?_store]
  · rw [heq]

/-- Something stands at the entry of the backup, and no directory. -/
theorem CopiedTo.exists_get? (h : CopiedTo o d path dir name left p copy content executable d') :
    ∃ e, d'.get? (dir ++ [backupName name]) = some e ∧ e ≠ .directory := by
  have hthere := exists_get?_of_lookup (h.backup.grows h.written.grows) h.written.lookup
  rcases h.disk with rfl | ⟨rfl, htaken, -⟩
  · exact hthere
  · unfold isTaken at htaken
    split at htaken
    · next q e hlookup =>
      cases hget : d'.get? (dir ++ [backupName name]) with
      | none => cases (h.backup.lookup_of_none hget).symm.trans hlookup
      | some e' =>
        refine ⟨e', rfl, ?_⟩
        rintro rfl
        obtain ⟨_, hafter, hne⟩ := hthere
        exact hne (Option.some.inj (hafter.symm.trans (h.written.grows.directory hget)))
    · cases htaken

/-- At an entry that is free before a file is copied stands nothing or the copy. -/
theorem CopiedTo.temporaryAt {temporary : Path} {last : Text}
    (h : CopiedTo o d path dir name left p copy content executable d')
    (hentry : EntryAt d' temporary.text dir last left) (hnone : d.get? (dir ++ [last]) = none) :
    TemporaryAt d' temporary dir last left := by
  refine ⟨hentry, fun e hget => ?_, (h.number? _).trans (number?_of_get?_eq_none hnone)⟩
  rcases h.disk with rfl | ⟨rfl, -⟩
  · rw [get?_store h.written.ne_nil] at hget
    split at hget
    · cases hget
      exact .file ..
    · cases hnone.symm.trans hget
  · cases hnone.symm.trans hget

/-- Copying a file to its backup ends with the copy, or fails and leaves all but the backup alone. -/
theorem runOn_copyBytes_cases (h : EntryAt d path.text dir name left)
    (hfile : d.lookup true path.text = .ok (.found p (.file content executable))) (o : Outside) :
    (∃ fault, (copyBytes path (backupPath path)).runOn d o = (.error fault, d)) ∨
    (∃ fault d', (copyBytes path (backupPath path)).runOn d o = (.error fault, d') ∧
      SameExcept (d.namesAt (backupPath path).text) d d' ∧
      d.isDirectory (backupPath path).text = false ∧
      (o.breaksOff d (.copy path.text (backupPath path).text)).isSome) ∨
    ∃ size d₁ copy, (copyBytes path (backupPath path)).runOn d o = (.ok size, d₁) ∧
      CopiedTo o d path dir name left p copy content executable d₁ := by
  have hend := copyBytes_ends o path (backupPath path) d
  generalize (copyBytes path (backupPath path)).runOn d o = outcome at hend
  cases hend with
  | refused => exact .inl ⟨_, rfl⟩
  | broken hbroken _ hwritten =>
    exact .inr (.inl ⟨_, _, rfl, hwritten.same, hwritten.isDirectory_eq_false, hbroken⟩)
  | copied hsource hwritten =>
    cases hfile.symm.trans hsource
    exact .inr (.inr ⟨_, _, _, rfl, hfile, h, entryAt_backupPath h hwritten, hwritten, .inl rfl⟩)
  | absorbed habsorbs htaken hsource hwritten =>
    cases hfile.symm.trans hsource
    exact .inr (.inr ⟨_, _, _, rfl, hfile, h, entryAt_backupPath h hwritten, hwritten,
      .inr ⟨rfl, htaken, habsorbs⟩⟩)

/-! ## What may change -/

/-- The places that overwriting a file may change: the entries of the path, of its backup and of the
temporary file, and the files that the first two lead to, under all of their names. -/
def touched (path : Path) (dir : Place) (name : Text) (d : Disk) : List Place :=
  (dir ++ [name]) :: (dir ++ [backupName name]) :: (dir ++ [temporaryName d.process path]) ::
    (d.namesAt path.text ++ d.namesAt (backupPath path).text)

/-- What a write leaves of the backup when it has ended: nothing has changed, or nothing is left at the
backup, and of what stood there before only the file has changed that it led to. -/
structure LeavesOthers (path : Path) (dir : Place) (name : Text) (changed : List Place) (d d' : Disk) :
    Prop where
  /-- The disk is left alone, or the backup is gone. -/
  others : SameExcept [] d d' ∨ d'.get? (dir ++ [backupName name]) = none ∧
    SameExcept (changed ++ (dir ++ [backupName name]) :: d.namesAt (backupPath path).text) d d'
  /-- Only a link at the backup leads to another file. -/
  of_ne_link : (∀ target, d.get? (dir ++ [backupName name]) ≠ some (.link target)) →
    SameExcept (changed ++ d.names (dir ++ [backupName name])) d d'
  /-- Where nothing stands at the backup, nothing but the entry of the path may change. -/
  of_free : d.Free (backupPath path).text → SameExcept changed d d'

/-- A disk that is left alone leaves all. -/
theorem leavesOthers_of_same (h : SameExcept [] d d') (path : Path) (dir : Place) (name : Text)
    (changed : List Place) : LeavesOthers path dir name changed d d' :=
  ⟨.inl h, fun _ => h.mono (by simp), fun _ => h.mono (by simp)⟩

/-- The backup's entry is taken away when the copy has been used. -/
theorem CopiedTo.leavesOthers {changed : List Place}
    (h : CopiedTo o d path dir name left p copy content executable d₁)
    (hsame : SameExcept (changed ++ (dir ++ [backupName name]) :: d.namesAt (backupPath path).text) d d')
    (hgone : d'.get? (dir ++ [backupName name]) = none) :
    LeavesOthers path dir name changed d d' where
  others := .inr ⟨hgone, hsame⟩
  of_ne_link hnot := by
    rw [h.written.namesAt, h.written.eq_entry h.backup hnot] at hsame
    exact hsame.mono (by simp [mem_names_iff, SameFile.refl])
  of_free hfree := by
    have hnone := h.backup.free_iff.1 hfree
    rw [h.written.namesAt, h.written.eq_entry h.backup (by simp [hnone])] at hsame
    refine SameExcept.remove_free (p := dir ++ [backupName name]) (hsame.mono fun q hq => ?_)
      hnone hgone
    simp only [List.mem_append, List.mem_cons, mem_names_iff, sameFile_iff_of_get?_eq_none hnone,
      or_self] at hq
    exact List.mem_cons.2 hq.symm

/-- The outside lets a write be undone: it grants and returns locks and removes files, it breaks off
no copies, and the copy back to the path is neither refused nor swallowed. -/
structure CleansUp (o : Outside) (path : Path) : Prop where
  /-- Locks are granted. -/
  lock : ∀ d path, o.refuses d (.lock path) = none
  /-- Locks are returned. -/
  unlock : ∀ d path, o.refuses d (.unlock path) = none
  /-- Files are removed. -/
  remove : ∀ d path, o.refuses d (.remove path) = none
  /-- Copies are made as a whole. -/
  breaksOff : ∀ d source target, o.breaksOff d (.copy source target) = none
  /-- The copy back is made. -/
  restore : ∀ d, o.refuses d (.copy (backupPath path).text path.text) = none
  /-- The path and the backup lead to no devices. -/
  absorbs : ∀ d, o.absorbs d path.text = false ∧ o.absorbs d (backupPath path).text = false

/-- The calm outside lets a write be undone. -/
theorem cleansUp_calm (path : Path) : CleansUp .calm path :=
  ⟨fun _ _ => rfl, fun _ _ => rfl, fun _ _ => rfl, fun _ _ _ => rfl, fun _ => rfl, fun _ => ⟨rfl, rfl⟩⟩

/-- A temporary file goes where the outside lets a write be undone. -/
theorem CleansUp.not_stays (h : CleansUp o path) (temporary : Path) (d : Disk) :
    ¬ Stays o temporary d := by
  simp [Stays, h.lock, h.unlock, h.remove]

/-- What overwriting a file by way of a backup leaves, whatever stands around the disk. -/
structure Backed (o : Outside) (path : Path) (bytes : ByteArray) (dir : Place) (name : Text) (d : Disk)
    (outcome : Except FileError Unit × Disk) : Prop where
  /-- All else stays as it is. -/
  touches : SameExcept (touched path dir name d) d outcome.2
  /-- A directory at the backup keeps everything as it is. -/
  of_isDirectory : d.isDirectory (backupPath path).text = true → outcome.2 = d
  /-- When it has succeeded the entry of the path has changed, and the backup is gone. -/
  of_ok : outcome.1 = .ok () →
    (∃ mode, outcome.2.get? (dir ++ [name]) = some (.file bytes mode)) ∧
      LeavesOthers path dir name [dir ++ [name]] d outcome.2
  /-- When it has failed the entry of the path is as it was, if the write can be undone. -/
  of_error : CleansUp o path → outcome.1 ≠ .ok () → LeavesOthers path dir name [] d outcome.2

/-! ## Behind the write -/

/-- The disk behind a write that has failed: only the temporary file may have changed, and it was not
there before the copying. -/
def FailedAt (temporary : Place) (d d₁ d₂ : Disk) : Prop :=
  d₂ = d₁ ∨ d.get? temporary = none ∧ SameExcept [temporary] d₁ d₂ ∧ d₂.number? temporary = none

/-- The disk has grown by the copy, and perhaps by the temporary file. -/
theorem CopiedTo.grows_of_failedAt {temporary : Place}
    (h : CopiedTo o d path dir name left p copy content executable d₁)
    (hfailed : FailedAt temporary d d₁ d₂) : Grows d d₂ := by
  rcases hfailed with rfl | ⟨hfree, hsame, -⟩
  · exact h.grows
  · exact h.grows.of_sameExcept hsame hfree

/-- Writing gives no file a name and takes none away. -/
theorem CopiedTo.sameFile_of_failedAt {temporary : Place}
    (h : CopiedTo o d path dir name left p copy content executable d₁)
    (hfailed : FailedAt temporary d d₁ d₂) : d₂.SameFile p q ↔ d.SameFile p q := by
  refine sameFile_congr fun r => ?_
  rcases hfailed with rfl | ⟨hfree, hsame, hnumber⟩
  · exact h.number? r
  · by_cases hr : r = temporary
    · rw [hr, hnumber, number?_of_get?_eq_none hfree]
    · rw [hsame.number? r (by simpa using hr), h.number?]

/-- Behind a write that has failed the copy may have changed, and the temporary file. -/
theorem CopiedTo.same_of_failedAt {temporary : Place}
    (h : CopiedTo o d path dir name left p copy content executable d₁)
    (hfailed : FailedAt temporary d d₁ d₂) :
    SameExcept (temporary :: d.namesAt (backupPath path).text) d d₂ := by
  rcases hfailed with rfl | ⟨-, hsame, -⟩
  · exact h.same.mono (by simp)
  · exact (h.same.mono (by simp)).trans (hsame.mono (by simp))

/-- A write that has failed without leaving a temporary file leaves no more than the copy. -/
theorem CopiedTo.same_of_gone {temporary : Place}
    (h : CopiedTo o d path dir name left p copy content executable d₁)
    (hfailed : FailedAt temporary d d₁ d₂) (hgone : d₂ ≠ d₁ → d₂.get? temporary = none) :
    SameExcept (d.namesAt (backupPath path).text) d d₂ := by
  by_cases heq : d₂ = d₁
  · exact heq ▸ h.same
  · exact (h.same_of_failedAt hfailed).remove_free (hfailed.resolve_left heq).1 (hgone heq)

/-! ## Restoring -/

/-- A file that has been copied back is restored, and the removal of the backup is not asked after. -/
theorem runOn_restore_ok {size : Nat}
    (h : (copyBytes (backupPath path) path).runOn d o = (.ok size, d')) :
    (restore path).runOn d o = (.ok true, ((remove (backupPath path)).runOn d' o).2) := by
  rw [restore, DiskAction.runOn_bind_ok (DiskAction.runOn_attempt _ _), h]
  simp only
  rw [DiskAction.runOn_bind_ok (DiskAction.runOn_attempt _ _)]
  rfl

/-- A file that cannot be copied back is not restored, and the backup stays. -/
theorem runOn_restore_error {fault : FileFault}
    (h : (copyBytes (backupPath path) path).runOn d o = (.error fault, d')) :
    (restore path).runOn d o = (.ok false, d') := by
  rw [restore, DiskAction.runOn_bind_ok (DiskAction.runOn_attempt _ _), h]
  rfl

/-- Restoring tells whether it has worked and does not fail itself. -/
theorem exists_runOn_restore (path : Path) (d : Disk) (o : Outside) :
    ∃ restored, (restore path).runOn d o = (.ok restored, ((restore path).runOn d o).2) := by
  rcases hcopy : (copyBytes (backupPath path) path).runOn d o with ⟨result, d'⟩
  cases result with
  | ok size =>
    rw [runOn_restore_ok hcopy]
    exact ⟨true, rfl⟩
  | error fault =>
    rw [runOn_restore_error hcopy]
    exact ⟨false, rfl⟩

/-- The names of the file at the path are those that it had. -/
theorem CopiedTo.namesAt_subset {temporary : Place}
    (h : CopiedTo o d path dir name left p copy content executable d₁)
    (hfailed : FailedAt temporary d d₁ d₂) : d₂.namesAt path.text ⊆ d.namesAt path.text := by
  obtain ⟨_, _, -, hfile⟩ := lookup_file_grows (h.grows_of_failedAt hfailed) h.file
  intro q hq
  rw [Disk.namesAt, hfile, mem_names_iff, h.sameFile_of_failedAt hfailed] at hq
  rwa [Disk.namesAt, h.file, mem_names_iff]

/-- Restoring a file changes no more than the file and the backup, also if it fails. -/
theorem CopiedTo.restore_same {temporary : Place}
    (h : CopiedTo o d path dir name left p copy content executable d₁)
    (hfailed : FailedAt temporary d d₁ d₂) :
    SameExcept ((dir ++ [backupName name]) :: temporary ::
      (d.namesAt path.text ++ d.namesAt (backupPath path).text)) d ((restore path).runOn d₂ o).2 := by
  have hnames := h.namesAt_subset hfailed
  have hbackup := h.backup.grows (h.grows_of_failedAt hfailed)
  have hsame : SameExcept ((dir ++ [backupName name]) :: temporary ::
      (d.namesAt path.text ++ d.namesAt (backupPath path).text)) d d₂ :=
    (h.same_of_failedAt hfailed).mono (by intro q; simp only [List.mem_cons, List.mem_append]; tauto)
  have hstored : ∀ {own bytes mode}, d₂.WrittenAt path.text own bytes mode →
      SameExcept ((dir ++ [backupName name]) :: temporary ::
        (d.namesAt path.text ++ d.namesAt (backupPath path).text)) d (d₂.store own bytes mode) :=
    fun hwritten => hsame.trans (hwritten.same.mono fun q hq =>
      List.mem_cons_of_mem _ (List.mem_cons_of_mem _ (List.mem_append_left _ (hnames hq))))
  have hremove : ∀ {d₃}, SameExcept [dir ++ [backupName name]] d₃
      ((remove (backupPath path)).runOn d₃ o).2 → SameExcept _ d d₃ →
      SameExcept ((dir ++ [backupName name]) :: temporary ::
        (d.namesAt path.text ++ d.namesAt (backupPath path).text)) d
        ((remove (backupPath path)).runOn d₃ o).2 :=
    fun hremoved hsame => hsame.trans (hremoved.mono (by simp))
  have hend := copyBytes_ends o (backupPath path) path d₂
  rcases hrun : (copyBytes (backupPath path) path).runOn d₂ o with ⟨result, d₃⟩
  rw [hrun] at hend
  cases hend with
  | refused =>
    rw [runOn_restore_error hrun]
    exact hsame
  | broken _ _ hwritten =>
    rw [runOn_restore_error hrun]
    exact hstored hwritten
  | copied _ hwritten =>
    rw [runOn_restore_ok hrun]
    exact hremove (runOn_remove_same (hbackup.grows hwritten.grows) o) (hstored hwritten)
  | absorbed =>
    rw [runOn_restore_ok hrun]
    exact hremove (runOn_remove_same hbackup o) hsame

/-- The copy is what the backup's path leads to behind a write that has failed, or a link there led to
the temporary file and leads nowhere again. -/
theorem CopiedTo.lookup_copy {temporary : Place}
    (h : CopiedTo o d path dir name left p copy content executable d₁)
    (hdisk : d₁ = d.store copy (if d.SameFile copy p then ByteArray.empty else content) executable)
    (hfailed : FailedAt temporary d d₁ d₂) (hgone : d₂ ≠ d₁ → d₂.get? temporary = none) :
    d₂.lookup true (backupPath path).text = .ok (.found copy
      (.file (if d.SameFile copy p then ByteArray.empty else content) executable)) ∨
    SameExcept [] d d₂ ∧ d.get? copy = none := by
  by_cases heq : d₂ = d₁
  · rw [heq, hdisk]
    exact .inl h.written.lookup
  obtain ⟨hfree, hsame, -⟩ := hfailed.resolve_left heq
  by_cases hcopy : copy = temporary
  · have hnone : d.get? copy = none := hcopy ▸ hfree
    have hsame := h.same_of_gone hfailed hgone
    rw [h.written.namesAt] at hsame
    refine .inr ⟨SameExcept.remove_free (p := temporary) (hsame.mono fun q hq => ?_) hfree (hgone heq),
      hnone⟩
    rw [mem_names_iff, sameFile_iff_of_get?_eq_none hnone] at hq
    simp [hq, hcopy]
  · have hnone : d₁.get? temporary = none := by
      rw [hdisk, get?_store h.written.ne_nil, if_neg, hfree]
      intro hnames
      exact hcopy ((sameFile_iff_of_get?_eq_none hfree).1 hnames.symm)
    obtain ⟨_, _, hget, hlookup⟩ := lookup_file_grows ((Grows.refl d₁).of_sameExcept hsame hnone)
      (hdisk ▸ h.written.lookup)
    rw [hsame.get? copy (by simpa using hcopy), hdisk, get?_store h.written.ne_nil,
      if_pos (.refl d copy)] at hget
    cases hget
    exact .inl hlookup

/-- The file at the path is restored from the copy, which changes nothing but the copy. -/
theorem CopiedTo.same_of_copyBack {temporary own : Place} {bytes : ByteArray}
    (h : CopiedTo o d path dir name left p copy content executable d₁)
    (hfailed : FailedAt temporary d d₁ d₂)
    (hsame : SameExcept (d.namesAt (backupPath path).text) d d₂)
    (hbytes : bytes = if d.SameFile copy p then ByteArray.empty else content)
    (hwritten : d₂.WrittenAt path.text own
      (if d₂.SameFile own copy then ByteArray.empty else bytes) executable) :
    SameExcept (d.namesAt (backupPath path).text) d
      (d₂.store own (if d₂.SameFile own copy then ByteArray.empty else bytes) executable) := by
  obtain ⟨_, _, -, hfile⟩ := lookup_file_grows (h.grows_of_failedAt hfailed) h.file
  obtain rfl : own = p := by
    rcases hwritten.leads with hleads | ⟨e, hleads⟩
    · cases hfile.symm.trans hleads
    · cases hfile.symm.trans hleads
      rfl
  by_cases hcopy : d.SameFile copy own
  · refine hsame.trans (hwritten.same.mono fun q hq => ?_)
    have hq := h.namesAt_subset hfailed hq
    rw [Disk.namesAt, h.file, mem_names_iff] at hq
    rw [h.written.namesAt, mem_names_iff]
    exact hcopy.trans hq
  · have hcopy' : ¬ d₂.SameFile own copy := fun hnames =>
      hcopy ((h.sameFile_of_failedAt hfailed).1 hnames).symm
    rw [if_neg hcopy] at hbytes
    rw [if_neg hcopy', hbytes]
    refine hsame.store_same hwritten.ne_nil ?_
    rw [hsame.get? own, (get?_of_lookup h.file).2]
    rwa [h.written.namesAt, mem_names_iff]

/-- Behind a write that has failed and left no temporary file the file is restored, and the backup's
entry is gone, where the outside lets the write be undone. -/
theorem CopiedTo.leavesOthers_of_restore {temporary : Place}
    (h : CopiedTo o d path dir name left p copy content executable d₁) (hclean : CleansUp o path)
    (hfailed : FailedAt temporary d d₁ d₂) (hgone : d₂ ≠ d₁ → d₂.get? temporary = none) :
    LeavesOthers path dir name [] d ((restore path).runOn d₂ o).2 := by
  have hdisk := h.disk.resolve_right fun habsorbed => by
    cases (hclean.absorbs d).2.symm.trans habsorbed.2.2
  have hgrows := h.grows_of_failedAt hfailed
  have hsame := h.same_of_gone hfailed hgone
  have hend := copyBytes_ends o (backupPath path) path d₂
  rcases hrun : (copyBytes (backupPath path) path).runOn d₂ o with ⟨result, d₃⟩
  rw [hrun] at hend
  rcases h.lookup_copy hdisk hfailed hgone with hlookup | ⟨hsame, hnone⟩
  · cases hend with
    | refused hrefused =>
      -- Nothing stands in the way of the copy back.
      obtain ⟨_, _, -, hfile⟩ := lookup_file_grows hgrows h.file
      have hwritable := (h.entry.grows hgrows).writable_of_file hfile
      rcases hrefused with hrefused | hrefused
      · rw [hclean.restore] at hrefused
        cases hrefused
      · simp only [Disk.copyFile, bind, Except.bind, hlookup, hwritable] at hrefused
        cases hrefused
    | broken hbroken =>
      rw [hclean.breaksOff] at hbroken
      cases hbroken
    | absorbed habsorbs =>
      rw [(hclean.absorbs d₂).1] at habsorbs
      cases habsorbs
    | copied hsource hwritten =>
      cases hlookup.symm.trans hsource
      have hbackup := (h.backup.grows hgrows).grows hwritten.grows
      obtain ⟨_, _, -, hthere⟩ := lookup_file_grows hwritten.grows hsource
      obtain ⟨e, hget, hne⟩ := exists_get?_of_lookup hbackup hthere
      rw [runOn_restore_ok hrun, runOn_remove hbackup hget hne (hclean.remove _ _)]
      refine h.leavesOthers ?_ (by rw [get?_erase (by simp), if_pos rfl])
      exact ((h.same_of_copyBack hfailed hsame rfl hwritten).mono (by simp)).erase (by simp) (by simp)
  · have hrefused : ∀ {q content executable},
        d₂.lookup true (backupPath path).text ≠ .ok (.found q (.file content executable)) := by
      intro q content executable hsource
      have hbefore := lookup_mono (fun q e hget => (hsame.get? q (by simp)).symm.trans hget)
        hsame.workingDirectory.symm hsource
      rcases h.written.leads with hleads | ⟨e, hleads⟩
      · cases hbefore.symm.trans hleads
      · cases hbefore.symm.trans hleads
        cases hnone.symm.trans (get?_of_lookup hbefore).2
    cases hend with
    | refused =>
      rw [runOn_restore_error hrun]
      exact leavesOthers_of_same hsame ..
    | broken _ hsource => exact absurd hsource hrefused
    | copied hsource => exact absurd hsource hrefused
    | absorbed _ _ hsource => exact absurd hsource hrefused

/-! ## The write -/

/-- A write that has failed is undone as far as possible. -/
theorem CopiedTo.backed_of_failed {error : FileError}
    (h : CopiedTo o d path dir name left p copy content executable d₁)
    (hfailed : FailedAt (dir ++ [temporaryName d.process path]) d d₁ d₂)
    (hgone : CleansUp o path → d₂ ≠ d₁ → d₂.get? (dir ++ [temporaryName d.process path]) = none)
    (bytes : ByteArray) :
    Backed o path bytes dir name d (.error error, ((restore path).runOn d₂ o).2) where
  touches := (h.restore_same hfailed).mono (by simp [touched])
  of_isDirectory hdirectory := by
    rw [h.written.isDirectory_eq_false] at hdirectory
    cases hdirectory
  of_ok := nofun
  of_error hclean _ := h.leavesOthers_of_restore hclean hfailed (hgone hclean)

/-- Behind a write that has replaced the file the entry of the backup is removed. -/
theorem CopiedTo.runOn_removeBackup {last : Text} {temporary : Path}
    (h : CopiedTo o d path dir name left p copy content executable d₁)
    (htemporary : TemporaryAt d₁ temporary dir last left) (hlast : backupName name ≠ last)
    (hsame : SameExcept [dir ++ [last], dir ++ [name]] d₁ d₂)
    (hgranted : o.refuses d₂ (.remove (backupPath path).text) = none) :
    (remove (backupPath path)).runOn d₂ o = (.ok (), d₂.erase (dir ++ [backupName name])) := by
  obtain ⟨_, _, -, hfile⟩ := lookup_file_grows h.grows h.file
  have hbackup : EntryAt d₂ (backupPath path).text dir (backupName name) left :=
    (h.backup.grows h.grows).of_sameExcept (blocks_of_like htemporary.like)
      ((h.entry.grows h.grows).blocks hfile) hsame
  obtain ⟨e, hthere, hne⟩ := h.exists_get?
  have hkept : d₂.get? (dir ++ [backupName name]) = some e := by
    rw [hsame.get? _ (by simp [backupName_ne, hlast]), hthere]
  exact runOn_remove hbackup hkept hne hgranted

/-- Behind a write that has replaced the file the backup is removed, if that is not refused. -/
theorem CopiedTo.backed_of_written {last : Text} {mode : Bool}
    (h : CopiedTo o d path dir name left p copy content executable d₁) {temporary : Path}
    (htemporary : TemporaryAt d₁ temporary dir last left) (hfree : d.get? (dir ++ [last]) = none)
    (hlast : backupName name ≠ last) (hsame : SameExcept [dir ++ [last], dir ++ [name]] d₁ d₂)
    (hgone : d₂.get? (dir ++ [last]) = none)
    (hget : d₂.get? (dir ++ [name]) = some (.file bytes mode)) :
    Backed o path bytes dir name d
      ((reportedAt (backupPath path).text (remove (backupPath path))).runOn d₂ o) := by
  have hbefore : SameExcept ((dir ++ [name]) :: d.namesAt (backupPath path).text) d d₂ := by
    refine SameExcept.remove_free (p := dir ++ [last]) ?_ hfree hgone
    exact (h.same.mono (by simp)).trans (hsame.mono (by simp))
  have hother : d.isDirectory (backupPath path).text = true → False := by
    simp [h.written.isDirectory_eq_false]
  cases hrefuses : o.refuses d₂ (.remove (backupPath path).text) with
  | some fault =>
    rw [runOn_reportedAt_error (runOn_remove_refused hrefuses)]
    refine ⟨hbefore.mono ?_, fun hdirectory => (hother hdirectory).elim, nofun, fun hclean => ?_⟩
    · intro q
      simp only [touched, List.mem_cons, List.mem_append]
      tauto
    · cases (hclean.remove _ _).symm.trans hrefuses
  | none =>
    have hafter : SameExcept ((dir ++ [name]) :: (dir ++ [backupName name]) ::
        d.namesAt (backupPath path).text) d (d₂.erase (dir ++ [backupName name])) :=
      (hbefore.mono (by intro q; simp only [List.mem_cons]; tauto)).erase (by simp) (by simp)
    rw [runOn_reportedAt_ok (h.runOn_removeBackup htemporary hlast hsame hrefuses)]
    refine ⟨hafter.mono ?_, fun hdirectory => (hother hdirectory).elim, fun _ => ⟨⟨mode, ?_⟩, ?_⟩,
      fun _ hne => absurd rfl hne⟩
    · intro q
      simp only [touched, List.mem_cons, List.mem_append]
      tauto
    · rw [get?_erase (by simp), if_neg (by simp [backupName_ne.symm]), hget]
    · exact h.leavesOthers hafter (by rw [get?_erase (by simp), if_pos rfl])

/-- A file is overwritten where nothing stands at its backup and at the temporary file, both can be
there, and nothing stands in the way. -/
theorem exists_runOn_overwrite (h : EntryAt d path.text dir name left)
    (hfile : d.lookup true path.text = .ok (.found p (.file content executable)))
    (hbackup : d.lookup false (backupPath path).text = .ok (.vacant q))
    (htemporary : d.lookup false (temporaryPath d.process path).text = .ok (.vacant own))
    (hgrants : o.Grants) (t : Text) : ∃ d', (overwrite path t).runOn d o = (.ok (), d') := by
  have hbeside := h.beside_of_lookup (fun _ hends => beside_backupPath hends) hbackup
  have hnone := hbeside.free_iff.1 (free_of_lookup hbackup)
  have htaken : d.isTaken (backupPath path).text = false := by rw [isTaken, hbackup]
  have hcopyFile := hbeside.copyFile_of_none hnone hfile
  have hcopy : (copyBytes path (backupPath path)).runOn d o = _ :=
    runOn_copyBytes hcopyFile hgrants (.inl htaken)
  rcases runOn_copyBytes_cases h hfile o with
    ⟨fault, hrun⟩ | ⟨fault, d₁, hrun, -⟩ | ⟨size, d₁, copy, hrun, hcopied⟩
  · cases hrun.symm.trans hcopy
  · cases hrun.symm.trans hcopy
  have hprocess := hcopied.grows.process
  obtain ⟨_, _, -, hfile₁⟩ := lookup_file_grows hcopied.grows hfile
  have hentry₁ := h.grows hcopied.grows
  have hbeside' := h.beside_of_lookup
    (fun _ hends => beside_temporaryPath hends h.isName d.process) htemporary
  have hfree := hbeside'.free_iff.1 (free_of_lookup htemporary)
  have htemporaryAt := hcopied.temporaryAt (hbeside'.grows hcopied.grows) hfree
  rw [← hprocess] at htemporaryAt
  have hnot := (hentry₁.blocks hfile₁).ne_directory
  obtain ⟨d₂, hwrite⟩ := exists_runOn_writeAtomic hentry₁ hnot htemporaryAt hgrants t.toBytes
  have hend := writeAtomic_ends hentry₁ hnot (fun _ => htemporaryAt) o t.toBytes
  rw [hwrite] at hend
  cases hend with
  | written _ hsame _ _ _ =>
    have hremove := hcopied.runOn_removeBackup htemporaryAt backupName_ne_temporaryName hsame
      (hgrants.refuses _ _)
    refine ⟨d₂.erase (dir ++ [backupName name]), ?_⟩
    unfold overwrite overwriteWith
    simp only
    rw [DiskAction.runOn_bind_ok (runOn_reportedAt_ok hrun _),
      DiskAction.runOn_bind_ok (DiskAction.runOn_attempt _ _), hwrite]
    exact runOn_reportedAt_ok hremove _

/-- A disk with a file, a link at the backup of the file, and the file that the link leads to. -/
def linkedBackup : Disk :=
  ((Disk.empty.put ["a"] (.file (Text.toBytes "old") false)).put ["a.bak"] (.link "b")).put ["b"]
    (.file (Text.toBytes "keep") false)

/-- A disk with a file and another one at the backup of it. -/
def withBackup : Disk :=
  (Disk.empty.put ["a"] (.file (Text.toBytes "old") false)).put ["a.bak"]
    (.file (Text.toBytes "keep") false)

end Files

end ProtoUpkeep
