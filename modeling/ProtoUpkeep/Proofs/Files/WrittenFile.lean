import ProtoUpkeep.Proofs.Files.Backups

/-!
# Files that are read where they were written

A write that succeeds moves the temporary file over the entry of the path. If the path still leads to
a file afterwards, that file has the bytes (`Files.content_of_runOn_writeAtomic`). The temporary name
may have been a link: then the link is moved, and on the disk behind the move its target is followed as
before, until the way comes back to the link and goes round (`Disk.walk_cases_of_leadsTo`). The path does
lead to the file if no link has its name or that of the temporary file
(`Files.isFile_of_runOn_writeAtomic`).
-/

namespace ProtoUpkeep

open Disk
open RawPath (EndsIn)

variable {d d₁ d₂ d' : Disk} {path : Path} {temporary t : Text} {dir own p q w : Place}
  {name last target : Text} {left links links' : Nat} {slash slash' executable : Bool}
  {content bytes : ByteArray} {e f moved : Entry} {xs : List Text} {o : Outside}

namespace Disk

/-! ## Entries that lead to one file -/

/-- What is found does not depend on the links that are left, and not on a slash at the end. -/
theorem walk_unique (h : walk d true links slash dir xs = .ok (.found q e))
    (h' : walk d true links' slash' dir xs = .ok (.found p f)) : q = p ∧ e = f := by
  induction links, dir, xs using walk_induction d generalizing links' slash slash' with
  | nil links dir =>
    rw [walk] at h h'
    cases h
    cases h'
    exact ⟨rfl, rfl⟩
  | dot links dir rest ih =>
    rw [walk, if_pos rfl] at h h'
    exact ih h h'
  | dotDot links dir rest ih =>
    rw [walk, if_neg (by decide), if_pos rfl] at h h'
    exact ih h h'
  | name links dir c rest hdot hdotDot ihDirectory ihLink =>
    have hc := isName_of_walk hdot hdotDot h
    rw [walk_cons hc] at h h'
    simp only [Bool.not_true, Bool.and_false, Bool.false_and, Bool.false_eq_true, if_false] at h h'
    split at h
    · split at h <;> cases h
    · next hget =>
      rw [hget] at h'
      exact ihDirectory hget h h'
    · next hget =>
      rw [hget] at h'
      simp only at h'
      split at h
      · split at h'
        · cases h
          cases h'
          exact ⟨rfl, rfl⟩
        · cases h'
      · cases h
    · next target hget =>
      rw [hget] at h'
      simp only at h'
      split at h
      · cases h
      · next links =>
        split at h'
        · cases h'
        · exact ihLink links target rfl hget h h'

/-- The entry leads to something at one place, or nowhere, if so many links may be followed. -/
def LeadsTo (d : Disk) (links : Nat) (own : Place) (name : Text) (w : Place) (f : Entry) : Prop :=
  ∀ j ≤ links, ∀ slash q e, walk d true j slash own [name] = .ok (.found q e) → q = w ∧ e = f

/-- A walk that finds something passes an entry that leads to a file only at its end, and otherwise
finds it without that entry. -/
theorem walk_cases_of_leadsTo (hf : f ≠ .directory) (hleads : LeadsTo d' links own name w f)
    (hkeep : ∀ q e, q ≠ own ++ [name] → d'.get? q = some e → d.get? q = some e)
    (h : walk d' true links slash dir xs = .ok (.found q e)) :
    (q = w ∧ e = f) ∨ walk d true links slash dir xs = .ok (.found q e) := by
  induction links, dir, xs using walk_induction d' generalizing slash with
  | nil links dir =>
    rw [walk] at h ⊢
    exact .inr h
  | dot links dir rest ih =>
    rw [walk, if_pos rfl] at h ⊢
    exact ih hleads h
  | dotDot links dir rest ih =>
    rw [walk, if_neg (by decide), if_pos rfl] at h ⊢
    exact ih hleads h
  | name links dir c rest hdot hdotDot ihDirectory ihLink =>
    have hc := isName_of_walk hdot hdotDot h
    by_cases hplace : dir ++ [c] = own ++ [name]
    · obtain ⟨rfl, hname⟩ := List.append_inj' hplace rfl
      obtain rfl := (List.cons.inj hname).1
      by_cases hrest : rest = []
      · subst hrest
        exact .inl (hleads links le_rfl slash q e h)
      · -- More components can only stand behind a directory.
        have hsplit : walk d' true links slash dir ([c] ++ rest) = .ok (.found q e) := h
        obtain ⟨mid, left, hdesc, -⟩ := exists_descends hrest hsplit
        exact absurd (hleads links le_rfl false _ _ (walk_of_descends hdesc false)).2.symm hf
    · rw [walk_cons hc] at h ⊢
      simp only [Bool.not_true, Bool.and_false, Bool.false_and, Bool.false_eq_true,
        if_false] at h ⊢
      split at h
      · split at h <;> cases h
      · next hget =>
        rw [hkeep _ _ hplace hget]
        exact ihDirectory hget hleads h
      · next hget =>
        rw [hkeep _ _ hplace hget]
        exact .inr h
      · next target hget =>
        rw [hkeep _ _ hplace hget]
        simp only
        split at h
        · cases h
        · next links =>
          exact ihLink links target rfl hget
            (fun j hj => hleads j (Nat.le_succ_of_le hj)) h

/-- A file leads to itself. -/
theorem leadsTo_of_file (hname : IsName name)
    (hget : d.get? (own ++ [name]) = some (.file content executable)) (links : Nat) :
    LeadsTo d links own name (own ++ [name]) (.file content executable) := by
  intro j _ slash q e h
  rw [walk_cons hname, hget] at h
  simp only at h
  split at h
  · cases h
    exact ⟨rfl, rfl⟩
  · cases h

/-- A link leads where its target leads without the link. -/
theorem leadsTo_of_link (hname : IsName name) (hget : d'.get? (own ++ [name]) = some (.link target))
    (hf : f ≠ .directory)
    (hkeep : ∀ q e, q ≠ own ++ [name] → d'.get? q = some e → d.get? q = some e)
    (htarget : walk d true links' slash' (linkStart own target)
      (RawPath.ofText target).components = .ok (.found w f)) (links : Nat) :
    LeadsTo d' links own name w f := by
  induction links with
  | zero =>
    intro j hj slash q e h
    obtain rfl := Nat.le_zero.1 hj
    rw [walk_cons hname, hget] at h
    simp only [Bool.not_true, Bool.and_false, Bool.false_and, Bool.false_eq_true, if_false] at h
    cases h
  | succ links ih =>
    intro j hj slash q e h
    rcases Nat.le_succ_iff.1 hj with hj | rfl
    · exact ih j hj slash q e h
    · rw [walk_cons hname, hget] at h
      simp only [Bool.not_true, Bool.and_false, Bool.false_and, Bool.false_eq_true, if_false,
        List.append_nil] at h
      rcases walk_cases_of_leadsTo hf ih hkeep h with hfound | hfound
      · exact hfound
      · exact walk_unique hfound htarget

/-- No descent passes an entry that leads to a file. -/
theorem blocks_of_leadsTo (hname : IsName name) (hf : f ≠ .directory)
    (h : ∀ links, LeadsTo d links own name w f) : Blocks d own name where
  ne_directory hget := by
    have hwalk : walk d true 0 false own [name] = .ok (.found (own ++ [name]) .directory) := by
      rw [walk_cons hname, hget]
      simp only [walk]
    exact hf (h 0 0 le_rfl _ _ _ hwalk).2.symm
  not_descends hget links left last hdesc := by
    have hdesc' : Descends d (links + 1) own [name] last left :=
      .link hname hget (by rwa [List.append_nil])
    exact hf (h (links + 1) (links + 1) le_rfl _ _ _ (walk_of_descends hdesc' false)).2.symm

/-! ## Moving a file -/

/-- What is found elsewhere behind a move was there before. -/
theorem get?_of_move (hsource : d.get? (own ++ [last]) = some moved) (hother : last ≠ name)
    (hne : q ≠ own ++ [name])
    (hget : (d.move (own ++ [last]) (own ++ [name])).get? q = some e) : d.get? q = some e := by
  rw [get?_move (by simp) (by simp) (by simpa using hother) hsource, if_neg hne] at hget
  split at hget
  · cases hget
  · exact hget

/-- What has been moved leads to the file that it led to before. -/
theorem EntryAt.leadsTo_of_move (h : EntryAt d t own last left) (hname : IsName name)
    (hother : last ≠ name) (hget : d.get? (own ++ [last]) = some moved)
    (hlookup : d.lookup true t = .ok (.found w (.file content executable))) :
    ∃ w, ∀ links, LeadsTo (d.move (own ++ [last]) (own ++ [name])) links own name w
      (.file content executable) := by
  have hmoved : (d.move (own ++ [last]) (own ++ [name])).get? (own ++ [name]) = some moved := by
    rw [get?_move (by simp) (by simp) (by simpa using hother) hget, if_pos rfl]
  rw [h.lookup, walk_cons h.isName, hget] at hlookup
  cases moved with
  | file content' executable' =>
    cases hlookup
    exact ⟨_, leadsTo_of_file hname hmoved⟩
  | directory =>
    simp only [walk] at hlookup
    cases hlookup
  | link target =>
    simp only [Bool.not_true, Bool.and_false, Bool.false_and, Bool.false_eq_true, if_false,
      List.append_nil] at hlookup
    split at hlookup
    · cases hlookup
    · exact ⟨w, leadsTo_of_link hname hmoved (by simp)
        (fun _ _ => get?_of_move hget hother) hlookup⟩

/-- A path that leads to a file when one has been moved to it leads to the one that has been moved. -/
theorem EntryAt.content_of_move {content' : ByteArray} {executable' : Bool}
    (h : EntryAt d t own last left) {left' : Nat} (h' : EntryAt d target own name left')
    (hother : last ≠ name) (hget : d.get? (own ++ [last]) = some moved)
    (hlookup : d.lookup true t = .ok (.found w (.file content executable)))
    (hread : (d.move (own ++ [last]) (own ++ [name])).lookup true target =
      .ok (.found q (.file content' executable'))) : content' = content := by
  obtain ⟨w', hleads⟩ := h.leadsTo_of_move h'.isName hother hget hlookup
  obtain ⟨dir, name', left'', hentry⟩ := exists_entryAt hread
  have hblocks := blocks_of_leadsTo h'.isName (by simp) hleads
  -- The path names the same entry as before, since no way leads through what has been moved.
  have hbefore : EntryAt d target dir name' left'' :=
    hentry.of_keeps hblocks ⟨fun _ _ => get?_of_move hget hother,
      (move_workingDirectory (by simp) hget).1.symm⟩
  obtain ⟨rfl, rfl⟩ := h'.unique hbefore
  rw [hentry.lookup] at hread
  cases (hleads left'' left'' le_rfl _ _ _ hread).2
  rfl

/-- Names of one file lead to it. -/
theorem EntryAt.lookup_of_sameFile {left' : Nat} (h : EntryAt d t own last left)
    (h' : EntryAt d target own name left') (hother : last ≠ name)
    (hsame : d.SameFile (own ++ [last]) (own ++ [name]))
    (hlookup : d.lookup true t = .ok (.found w (.file content executable))) :
    d.lookup true target = .ok (.found (own ++ [name]) (.file content executable)) := by
  have hnumber : (d.number? (own ++ [last])).isSome :=
    (hsame.resolve_left (by simpa using hother.symm)).2
  obtain ⟨content', executable', hget⟩ := exists_file_of_isSome_number? hnumber
  cases (h.lookup_of_file hget).symm.trans hlookup
  exact h'.lookup_of_file (hsame.get?.trans hget)

/-- A file is written where nothing or a file stands, and the path leads there. -/
theorem exists_of_writeFile (h : d.writeFile t bytes = .ok d') : ∃ w executable,
    WrittenAt d t w bytes executable ∧ d' = d.store w bytes executable := by
  simp only [writeFile, bind, Except.bind] at h
  split at h
  · cases h
  · next spot hwritable =>
    split at h
    · next place content executable =>
      cases h
      exact ⟨place, executable, writtenAt_of_found hwritable bytes executable, rfl⟩
    · cases h
    · next place =>
      cases h
      exact ⟨place, false, (writtenAt_of_vacant hwritable bytes false).1, rfl⟩

/-- No link is made where a file is stored. -/
theorem get?_link_of_store (hp : p ≠ []) {target : Text}
    (h : (d.store p content executable).get? q = some (.link target)) :
    d.get? q = some (.link target) := by
  rw [get?_store hp] at h
  split at h
  · cases h
  · exact h

end Disk

namespace Files

/-- A write that succeeds: the directory is made, the temporary file is written, through a link
perhaps, and what stands at its entry is renamed to the entry of the path. -/
structure Moved (path : Path) (bytes : ByteArray) (dir : Place) (name : Text) (d₁ d₂ d' : Disk) :
    Prop where
  /-- The path of the temporary file leads to the bytes. -/
  written : ∃ w executable, d₂.lookup true (temporaryPath d₁.process path).text =
    .ok (.found w (.file bytes executable))
  /-- No link is made. -/
  links : ∀ q target, d₂.get? q = some (.link target) → d₁.get? q = some (.link target)
  /-- The entry of the temporary file. -/
  temporary : ∃ left, EntryAt d₂ (temporaryPath d₁.process path).text dir
    (temporaryName d₁.process path) left
  /-- The entry of the path. -/
  entry : ∃ left, EntryAt d₂ path.text dir name left
  /-- They are two. -/
  ne : temporaryName d₁.process path ≠ name
  /-- What stands at the temporary entry. -/
  there : ∃ moved, d₂.get? (dir ++ [temporaryName d₁.process path]) = some moved
  /-- No directory stands at the entry of the path. -/
  ne_directory : d₂.get? (dir ++ [name]) ≠ some .directory
  /-- The disk behind the move. -/
  disk : d' = if d₂.SameFile (dir ++ [temporaryName d₁.process path]) (dir ++ [name]) then d₂
    else d₂.move (dir ++ [temporaryName d₁.process path]) (dir ++ [name])

/-- The steps of a write that succeeds. -/
theorem exists_of_runOn_writeBy {temporary : Path}
    (h : (writeBy temporary path bytes).runOn d₁ o = (.ok (), d')) :
    ∃ d₂ d₃, d₁.writeFile temporary.text ByteArray.empty = .ok d₂ ∧
      d₂.writeFile temporary.text bytes = .ok d₃ ∧
      d₃.renameFile temporary.text path.text = .ok d' := by
  obtain ⟨_, d₂, hcreate, h⟩ := DiskAction.exists_of_runOn_bind h
  obtain ⟨_, d₃, hlock, h⟩ := DiskAction.exists_of_runOn_bind h
  obtain ⟨_, d₄, hthrough, h⟩ := DiskAction.exists_of_runOn_bind h
  obtain ⟨_, d₅, hunlock, hrename⟩ := DiskAction.exists_of_runOn_bind h
  replace hcreate := DiskAction.runOn_of_mapError hcreate
  replace hthrough := DiskAction.runOn_of_withCleanup (DiskAction.runOn_of_mapError hthrough)
  replace hrename := DiskAction.runOn_of_withCleanup (DiskAction.runOn_of_mapError hrename)
  obtain rfl := disk_of_runOn_lock (DiskAction.runOn_of_mapError hlock)
  obtain rfl := disk_of_runOn_unlock (DiskAction.runOn_of_mapError hunlock)
  refine ⟨d₃, d₅, ?_, writeFile_of_runOn_writeThrough hthrough, ?_⟩
  · rcases runOn_create_cases temporary d₁ o with ⟨d, hrun, hwrite⟩ | ⟨fault, hrun⟩
    · cases hrun.symm.trans hcreate
      exact hwrite
    · cases hrun.symm.trans hcreate
  · rcases runOn_rename_cases temporary path d₅ o with ⟨d, hrun, hmove⟩ | ⟨fault, hrun⟩
    · cases hrun.symm.trans hrename
      exact hmove
    · cases hrun.symm.trans hrename

/-- A write that succeeds is one of this kind. -/
theorem exists_of_runOn_writeAtomic (h : (writeAtomic path bytes).runOn d o = (.ok (), d')) :
    ∃ d₁ d₂ dir name, (makeParent path).runOn d o = (.ok (), d₁) ∧
      Moved path bytes dir name d₁ d₂ d' := by
  obtain ⟨_, d₁, hmake, h⟩ := DiskAction.exists_of_runOn_bind h
  obtain ⟨_, _, hstate, h⟩ := DiskAction.exists_of_runOn_bind h
  cases hstate
  obtain ⟨d₂, d₃, hcreate, hwrite, hrename⟩ := exists_of_runOn_writeBy h
  obtain ⟨_, _, hempty, rfl⟩ := exists_of_writeFile hcreate
  obtain ⟨w, executable, hwritten, rfl⟩ := exists_of_writeFile hwrite
  obtain ⟨dir', last, left', dir, name, left, moved, htemporary, hentry, hget, hnot⟩ :=
    exists_of_renameFile hrename
  have hbeside := hentry.beside_of_lookup
    (fun _ hends => beside_temporaryPath hends hentry.isName d₁.process) hwritten.lookup
  obtain ⟨rfl, rfl⟩ := hbeside.unique htemporary
  obtain ⟨before, hends, -⟩ := hentry.descends
  exact ⟨d₁, _, dir', name, hmake, ⟨w, executable, hwritten.lookup⟩,
    fun q target hlink =>
      get?_link_of_store hempty.ne_nil (get?_link_of_store hwritten.ne_nil hlink),
    ⟨_, htemporary⟩, ⟨_, hentry⟩, temporaryName_ne hends d₁.process, ⟨moved, hget⟩, hnot,
    Except.ok.inj (hrename.symm.trans (htemporary.renameFile hentry hget hnot))⟩

/-- A file that has been written has the bytes, if the path still leads to a file. -/
theorem content_of_runOn_writeAtomic (h : (writeAtomic path bytes).runOn d o = (.ok (), d'))
    (hread : d'.lookup true path.text = .ok (.found q (.file content executable))) :
    content = bytes := by
  obtain ⟨d₁, d₂, dir, name, -, hmoved⟩ := exists_of_runOn_writeAtomic h
  obtain ⟨left, htemporary⟩ := hmoved.temporary
  obtain ⟨left', hentry⟩ := hmoved.entry
  obtain ⟨w, executable', hwritten⟩ := hmoved.written
  obtain ⟨moved, hthere⟩ := hmoved.there
  rw [hmoved.disk] at hread
  split at hread
  · next hsame =>
    cases (htemporary.lookup_of_sameFile hentry hmoved.ne hsame hwritten).symm.trans hread
    rfl
  · exact htemporary.content_of_move hentry hmoved.ne hthere hwritten hread

/-- A path leads to the file that has been written to it, if no link has the name of that file or of
the temporary one. -/
theorem isFile_of_runOn_writeAtomic
    (hlinks : ∀ dir name target, path.fileName? = some name ∨ name = temporaryName d.process path →
      d.get? (dir ++ [name]) ≠ some (.link target))
    (h : (writeAtomic path bytes).runOn d o = (.ok (), d')) : d'.isFile path.text = true := by
  obtain ⟨d₁, d₂, dir, name, hmake, hmoved⟩ := exists_of_runOn_writeAtomic h
  have hadds := addsDirectories_makeParent path d o
  rw [hmake] at hadds
  obtain ⟨left, htemporary⟩ := hmoved.temporary
  obtain ⟨left', hentry⟩ := hmoved.entry
  obtain ⟨w, executable, hwritten⟩ := hmoved.written
  obtain ⟨moved, hthere⟩ := hmoved.there
  obtain ⟨before, hends, -⟩ := hentry.descends
  have hlink : ∀ {q target}, d₂.get? q = some (.link target) → d.get? q = some (.link target) := by
    intro q target hget
    have hget := hmoved.links q target hget
    rcases hadds.get? q with heq | ⟨-, hdirectory⟩
    · rwa [heq] at hget
    · cases hdirectory.symm.trans hget
  have hblocks : Blocks d₂ dir name := ⟨hmoved.ne_directory, fun hget => absurd (hlink hget)
    (hlinks dir name _ (.inl (Path.fileName?_of_endsIn hends)))⟩
  have hblocks' := htemporary.blocks hwritten
  obtain ⟨content, executable', rfl⟩ : ∃ content executable, moved = .file content executable := by
    cases moved with
    | file content executable => exact ⟨content, executable, rfl⟩
    | directory => exact absurd hthere hblocks'.ne_directory
    | link target => exact absurd (hlink hthere) (hlinks dir _ target (.inr (by rw [hadds.process])))
  rw [hmoved.disk, isFile_eq_true_iff]
  split
  · next hsame => exact ⟨_, _, _, htemporary.lookup_of_sameFile hentry hmoved.ne hsame hwritten⟩
  · have hne : dir ++ [temporaryName d₁.process path] ≠ dir ++ [name] := by
      simpa using hmoved.ne
    have hsame := (SameExcept.refl [dir ++ [temporaryName d₁.process path], dir ++ [name]] d₂).move
      (by simp) (by simp) hne hthere (by simp) (by simp)
    have hfile : (d₂.move (dir ++ [temporaryName d₁.process path]) (dir ++ [name])).get?
        (dir ++ [name]) = some (.file content executable') := by
      rw [get?_move (by simp) (by simp) hne hthere, if_pos rfl]
    exact ⟨_, _, _, (hentry.of_sameExcept hblocks' hblocks hsame).lookup_of_file hfile⟩

end Files

end ProtoUpkeep
