import ProtoUpkeep.Proofs.Files.Actions
import ProtoUpkeep.Proofs.Files.Changes

/-!
# How calls end

What an action does depends on the entries of the disk and on what stands around it. There is one lemma
for each way in which a call ends: it is refused, or it does what the entries say. Copying has more of
them (`Files.CopyEnd`), since it may break off when some bytes are written, and a device swallows them.
Making directories changes nothing where the directory is there, also if it fails
(`Files.runOn_makeParent_snd`).
-/

namespace ProtoUpkeep

open Disk
open RawPath (ofText EndsIn)

variable {d d' : Disk} {o : Outside} {path source target temporary : Path} {dir p q : Place}
  {name : Text} {left : Nat} {content bytes : ByteArray} {executable mode : Bool} {e : Entry}
  {fault : FileFault}

namespace Files

/-! ## Calls that are refused or answered -/

/-- The action of a call that changes the disk as the entries say, unless it is refused. -/
def answered (call : Call) (change : Disk → Except FileFault Disk) : DiskAction FileFault Unit :=
  .ofUpdate fun o d => (o.answer d call (change d)).map fun d => ((), d)

section Answered

variable {call : Call} {change : Disk → Except FileFault Disk}

/-- What is not refused is done. -/
theorem runOn_answered (h : change d = .ok d') (hgranted : o.refuses d call = none) :
    (answered call change).runOn d o = (.ok (), d') :=
  DiskAction.runOn_ofUpdate_ok (by
    rw [Outside.answer, hgranted, h]
    rfl)

/-- What is refused changes nothing. -/
theorem runOn_answered_refused (h : o.refuses d call = some fault) :
    (answered call change).runOn d o = (.error fault, d) :=
  DiskAction.runOn_ofUpdate_error (by
    rw [Outside.answer, h]
    rfl)

/-- What is done is done as the entries say, and otherwise nothing changes. -/
theorem runOn_answered_cases (call : Call) (change : Disk → Except FileFault Disk) (d : Disk)
    (o : Outside) :
    (∃ d', (answered call change).runOn d o = (.ok (), d') ∧ change d = .ok d') ∨
    ∃ fault, (answered call change).runOn d o = (.error fault, d) := by
  cases hchange : o.answer d call (change d) with
  | ok d' =>
    refine .inl ⟨d', DiskAction.runOn_ofUpdate_ok ?_, (Outside.answer_eq_ok_iff.1 hchange).2⟩
    rw [hchange]
    rfl
  | error fault =>
    refine .inr ⟨fault, DiskAction.runOn_ofUpdate_error ?_⟩
    rw [hchange]
    rfl

end Answered

/-! ## Removing and renaming -/

/-- The entry of a path is removed, if it is no directory and that is not refused. -/
theorem runOn_remove (h : EntryAt d path.text dir name left) (hget : d.get? (dir ++ [name]) = some e)
    (hne : e ≠ .directory) (hgranted : o.refuses d (.remove path.text) = none) :
    (remove path).runOn d o = (.ok (), d.erase (dir ++ [name])) :=
  runOn_answered (h.removeFile hget hne) hgranted

/-- What is not removed stays. -/
theorem runOn_remove_refused (h : o.refuses d (.remove path.text) = some fault) :
    (remove path).runOn d o = (.error fault, d) :=
  runOn_answered_refused h

/-- What is removed is the entry of the path, and otherwise nothing changes. -/
theorem runOn_remove_cases (h : EntryAt d path.text dir name left) (o : Outside) :
    (remove path).runOn d o = (.ok (), d.erase (dir ++ [name])) ∨
      ∃ fault, (remove path).runOn d o = (.error fault, d) := by
  rcases runOn_answered_cases (.remove path.text) (·.removeFile path.text) d o with
    ⟨d', hrun, hremove⟩ | hrefused
  · obtain ⟨e, hget, hne⟩ := h.exists_of_removeFile hremove
    obtain rfl := Except.ok.inj (hremove.symm.trans (h.removeFile hget hne))
    exact .inl hrun
  · exact .inr hrefused

/-- A file is renamed, if that is not refused. -/
theorem runOn_rename (h : d.renameFile source.text target.text = .ok d')
    (hgranted : o.refuses d (.rename source.text target.text) = none) :
    (rename source target).runOn d o = (.ok (), d') :=
  runOn_answered h hgranted

/-- What is renamed is renamed as the entries say, and otherwise nothing changes. -/
theorem runOn_rename_cases (source target : Path) (d : Disk) (o : Outside) :
    (∃ d', (rename source target).runOn d o = (.ok (), d') ∧
      d.renameFile source.text target.text = .ok d') ∨
    ∃ fault, (rename source target).runOn d o = (.error fault, d) :=
  runOn_answered_cases (.rename source.text target.text) (·.renameFile source.text target.text) d o

/-! ## Opening and writing -/

/-- A file is opened as the entries say, and otherwise nothing changes. -/
theorem runOn_create_cases (path : Path) (d : Disk) (o : Outside) :
    (∃ d', (create path).runOn d o = (.ok (), d') ∧
      d.writeFile path.text ByteArray.empty = .ok d') ∨
    ∃ fault, (create path).runOn d o = (.error fault, d) :=
  runOn_answered_cases (.create path.text) (·.writeFile path.text ByteArray.empty) d o

/-- A file is opened, if that is not refused. -/
theorem runOn_create (h : d.writeFile path.text ByteArray.empty = .ok d')
    (hgranted : o.refuses d (.create path.text) = none) :
    (create path).runOn d o = (.ok (), d') :=
  runOn_answered h hgranted

/-- A lock is granted unless it is refused. -/
theorem runOn_lock (h : o.refuses d (.lock path.text) = none) :
    (lock path).runOn d o = (.ok (), d) := by
  rw [lock, DiskAction.runOn_ofQuery, h]
  rfl

/-- A lock that is refused changes nothing. -/
theorem runOn_lock_refused (h : (o.refuses d (.lock path.text)).isSome) :
    (lock path).runOn d o = (.error .lockRefused, d) := by
  rw [lock, DiskAction.runOn_ofQuery, if_pos h]

/-- A lock is given back unless that is refused. -/
theorem runOn_unlock (h : o.refuses d (.unlock path.text) = none) :
    (unlock path).runOn d o = (.ok (), d) := by
  rw [unlock, DiskAction.runOn_ofQuery, h]
  rfl

/-- A lock that is not given back changes nothing. -/
theorem runOn_unlock_refused (h : (o.refuses d (.unlock path.text)).isSome) :
    (unlock path).runOn d o = (.error .lockRefused, d) := by
  rw [unlock, DiskAction.runOn_ofQuery, if_pos h]

/-- Locking changes nothing. -/
theorem disk_of_runOn_lock (h : (lock path).runOn d o = (.ok (), d')) : d' = d := by
  rw [lock, DiskAction.runOn_ofQuery] at h
  exact (Prod.mk.inj h).2.symm

/-- Unlocking changes nothing. -/
theorem disk_of_runOn_unlock (h : (unlock path).runOn d o = (.ok (), d')) : d' = d := by
  rw [unlock, DiskAction.runOn_ofQuery] at h
  exact (Prod.mk.inj h).2.symm

/-- What is written as a whole is written as the entries say. -/
theorem writeFile_of_runOn_writeThrough (h : (writeThrough path bytes).runOn d o = (.ok (), d')) :
    d.writeFile path.text bytes = .ok d' := by
  rw [writeThrough, DiskAction.runOn_ofStep, Outside.writeFile] at h
  split at h
  · cases h
  · split at h <;> cases h
  · split at h
    · next hwrite =>
      cases h
      exact hwrite
    · cases h

/-- All bytes are written, unless that is refused or breaks off. -/
theorem runOn_writeThrough (hwrite : d.writeFile path.text bytes = .ok d') (hgrants : o.Grants) :
    (writeThrough path bytes).runOn d o = (.ok (), d') := by
  rw [writeThrough, DiskAction.runOn_ofStep, Outside.writeFile, hgrants.refuses, hgrants.breaksOff]
  simp only [hwrite]

/-- Bytes are written to a file of its own, all of them or some. -/
theorem runOn_writeThrough_cases (bytes : ByteArray)
    (h : ∀ bytes, ∃ d', d.writeFile path.text bytes = .ok d' ∧ OwnFile p bytes mode d d') :
    (∃ d', (writeThrough path bytes).runOn d o = (.ok (), d') ∧ OwnFile p bytes mode d d') ∨
    ∃ fault d', (writeThrough path bytes).runOn d o = (.error fault, d') ∧
      (d' = d ∨ ∃ content, OwnFile p content mode d d') := by
  rw [writeThrough, DiskAction.runOn_ofStep, Outside.writeFile]
  split
  · exact .inr ⟨_, d, rfl, .inl rfl⟩
  · next fault part _ _ =>
    obtain ⟨d', hwrite, hfile⟩ := h (bytes.extract 0 part.written)
    simp only [hwrite]
    exact .inr ⟨fault, d', rfl, .inr ⟨_, hfile⟩⟩
  · obtain ⟨d', hwrite, hfile⟩ := h bytes
    simp only [hwrite]
    exact .inl ⟨d', rfl, hfile⟩

/-! ## Copying -/

/-- How copying bytes ends, whatever stands around the disk. -/
inductive CopyEnd (o : Outside) (source target : Path) (d : Disk) :
    Except FileFault Nat × Disk → Prop
  /-- Nothing is copied. -/
  | refused {fault : FileFault} : (o.refuses d (.copy source.text target.text)).isSome ∨
      d.copyFile source.text target.text = .error fault → CopyEnd o source target d (.error fault, d)
  /-- Some bytes are copied. -/
  | broken {fault : FileFault} {q p : Place} {content bytes : ByteArray} {executable mode : Bool} :
    (o.breaksOff d (.copy source.text target.text)).isSome →
    d.lookup true source.text = .ok (.found q (.file content executable)) →
    d.WrittenAt target.text p bytes mode →
    CopyEnd o source target d (.error fault, d.store p bytes mode)
  /-- All bytes are copied; there are none if the file is its own copy. -/
  | copied {size : Nat} {q p : Place} {content : ByteArray} {executable : Bool} :
    d.lookup true source.text = .ok (.found q (.file content executable)) →
    d.WrittenAt target.text p (if d.SameFile p q then ByteArray.empty else content) executable →
    CopyEnd o source target d
      (.ok size, d.store p (if d.SameFile p q then ByteArray.empty else content) executable)
  /-- A device takes all bytes. -/
  | absorbed {size : Nat} {q p : Place} {content : ByteArray} {executable : Bool} :
    o.absorbs d target.text = true → d.isTaken target.text = true →
    d.lookup true source.text = .ok (.found q (.file content executable)) →
    d.WrittenAt target.text p (if d.SameFile p q then ByteArray.empty else content) executable →
    CopyEnd o source target d (.ok size, d)

/-- What cannot be copied cannot be copied in part. -/
theorem copyFile_eq_error_iff {source target : Text} {part : Option Part} :
    d.copyFile source target part = .error fault ↔ d.copyFile source target = .error fault := by
  simp only [Disk.copyFile, bind, Except.bind]
  cases d.lookup true source with
  | error => rfl
  | ok spot =>
    cases spot with
    | vacant => rfl
    | found place entry =>
      cases entry with
      | directory | link => rfl
      | file =>
        cases d.writable target with
        | error => rfl
        | ok spot =>
          cases spot with
          | vacant => simp [pure, Except.pure]
          | found place entry => cases entry <;> simp [pure, Except.pure]

/-- Copying bytes ends in one of these ways. -/
theorem copyBytes_ends (o : Outside) (source target : Path) (d : Disk) :
    CopyEnd o source target d ((copyBytes source target).runOn d o) := by
  rw [copyBytes, DiskAction.runOn_ofStep, Outside.copyFile]
  split
  · next hrefused => exact .refused (.inl (by rw [hrefused]; rfl))
  · next hbroken =>
    split
    · next hcopy =>
      obtain ⟨q, content, executable, p, bytes, mode, hsource, hwritten, rfl, -⟩ :=
        exists_of_copyFile_part hcopy
      exact .broken (by rw [hbroken]; rfl) hsource hwritten
    · next hcopy => exact .refused (.inr (copyFile_eq_error_iff.1 hcopy))
  · split
    · next hcopy =>
      obtain ⟨q, content, executable, p, hsource, hwritten, rfl⟩ := exists_of_copyFile hcopy
      split
      · next habsorbed =>
        rw [Bool.and_eq_true] at habsorbed
        exact .absorbed habsorbed.1 habsorbed.2 hsource hwritten
      · exact .copied hsource hwritten
    · next hcopy => exact .refused (.inr hcopy)

/-- Bytes that can be copied are copied, if nothing stands in the way. -/
theorem runOn_copyBytes {size : Nat} (h : d.copyFile source.text target.text = .ok (size, d'))
    (hgrants : o.Grants) (htarget : d.isTaken target.text = false ∨ ∀ d, o.absorbs d target.text = false) :
    (copyBytes source target).runOn d o = (.ok size, d') := by
  have hreaches : (o.absorbs d target.text && d.isTaken target.text) = false := by
    rcases htarget with hfree | hno
    · rw [hfree, Bool.and_false]
    · rw [hno, Bool.false_and]
  rw [copyBytes, DiskAction.runOn_ofStep, Outside.copyFile, hgrants.refuses, hgrants.breaksOff]
  simp only [h, hreaches, Bool.false_eq_true, if_false]

/-! ## The directory of a path -/

/-- No directory is made on the way to an entry, which is there. -/
theorem makeDirectories_snd (h : EntryAt d path.text dir name left) {parent : Text}
    (hparent : RawPath.parent? path.text = some parent) (hne : parent ≠ []) (bound : Nat)
    (o : Outside) : (d.makeDirectories bound parent o).2 = d := by
  obtain ⟨before, hends, hdesc⟩ := h.descends
  obtain ⟨⟨parent', hisParent⟩, -⟩ := hends.exists_isParent h.isName.ne_dot
  obtain rfl : parent' = parent := Option.some.inj (hisParent.parent?.symm.trans hparent)
  obtain ⟨dots, hbefore, -⟩ := hisParent.components
  refine makeDirectories_induction (motive := (· = d)) (fun {d₁ d₂ above} hhead hcomponents heq hmake =>
    ?_) d bound rfl
  subst heq
  -- The way to the entry passes what would be made, so that is there.
  obtain ⟨_, _, _, _, hchecked, -⟩ := exists_of_makeDirectory hmake
  obtain ⟨rest, hrest⟩ := hcomponents
  obtain ⟨text, htext⟩ := hhead
  have habsolute : (ofText above).absolute = (ofText path.text).absolute := by
    rw [← hisParent.absolute, ← htext, RawPath.absolute_append (checkPath_eq_ok_iff.1 hchecked).2.1]
  rw [← hbefore, ← hrest, List.append_assoc] at hdesc
  obtain ⟨last, between, hmid, -⟩ := hdesc.split
  cases hmake.symm.trans (makeDirectory_of_descends hchecked (start_congr habsolute ▸ hmid))

/-- No directory is made for an entry that is there, also if that fails. -/
theorem runOn_makeParent_snd (h : EntryAt d path.text dir name left) (o : Outside) :
    ((makeParent path).runOn d o).2 = d := by
  unfold makeParent
  split
  · rfl
  · rfl
  · next parent hempty hparent =>
    have hne : parent ≠ [] := by
      rintro rfl
      exact hempty rfl
    rw [makeDirectories, reportedAt, DiskAction.runOn_mapError, DiskAction.runOn_ofStep]
    exact makeDirectories_snd h hparent hne _ o

end Files

end ProtoUpkeep
