import ProtoUpkeep.Proofs.Files.Growth
import ProtoUpkeep.Proofs.Files.Trees

/-!
# Disks of one shape

Where only the bytes of files change a disk keeps its shape (`Disk.SameShape`): entries stand at the
same places, and directories and links are what they were. A disk of the shape of a sound one is sound,
and a tree stays plain. So storing a file keeps a disk sound, wherever the other names of the file are
(`Disk.Sound.store`, `Disk.PlainBelow.store`).
-/

namespace ProtoUpkeep.Disk

variable {d d' d'' : Disk} {base dir p q : Place} {name path : Text} {e e' : Entry}
  {content : ByteArray} {executable : Bool}

/-- Like entries are like the other way round. -/
theorem Like.symm (h : Like e e') : Like e' e := by
  cases h with
  | refl => exact .refl _
  | file => exact .file ..

/-- The disks have entries at the same places, files with other bytes perhaps. -/
structure SameShape (d d' : Disk) : Prop where
  /-- The second has all entries of the first. -/
  grows : Grows d d'
  /-- The first has all entries of the second. -/
  shrinks : Grows d' d

theorem SameShape.refl (d : Disk) : SameShape d d := ⟨.refl d, .refl d⟩

theorem SameShape.symm (h : SameShape d d') : SameShape d' d := ⟨h.shrinks, h.grows⟩

theorem SameShape.trans (h : SameShape d d') (h' : SameShape d' d'') : SameShape d d'' :=
  ⟨h.grows.trans h'.grows, h'.shrinks.trans h.shrinks⟩

theorem Sound.sameShape (h : SameShape d d') (hd : Sound d) : Sound d' where
  parent hget := by
    obtain ⟨e, hget', -⟩ := h.shrinks.get? _ _ hget
    exact h.grows.directory (hd.parent hget')
  isEntryName hget := by
    obtain ⟨e, hget', -⟩ := h.shrinks.get? _ _ hget
    exact hd.isEntryName hget'
  workingDirectory := by
    rw [h.grows.workingDirectory]
    exact h.grows.directory hd.workingDirectory

theorem PlainBelow.sameShape (h : SameShape d d') (hplain : PlainBelow d base) :
    PlainBelow d' base where
  ne_link hget := hplain.ne_link (h.shrinks.link hget)
  backslash_not_mem hget := by
    obtain ⟨e, hget', -⟩ := h.shrinks.get? _ _ hget
    exact hplain.backslash_not_mem hget'

/-- A path that leads to a directory leads to it on a disk that grows. -/
theorem lookup_directory_grows (h : Grows d d')
    (hlookup : d.lookup true path = .ok (.found q .directory)) :
    d'.lookup true path = .ok (.found q .directory) := by
  obtain ⟨e', hlookup', hlike⟩ := lookup_grows h hlookup
  rw [hlookup', hlike.eq_directory]

/-! ## Two names of one file -/

/-- The disk with given entries, of which two are names of one file. -/
def ofEntriesSharing (entries : List (Place × Entry)) (p q : Place)
    (hp : (ofEntries entries).entries[p]?.any Entry.isFile = true)
    (hq : (ofEntries entries).entries[q]? = (ofEntries entries).entries[p]?) : Disk where
  entries := (ofEntries entries).entries
  numbers := ((∅ : Std.TreeMap Place Nat).insert p 1).insert q 1
  numbered := by
    have hname : ∀ (r : Place) n, (((∅ : Std.TreeMap Place Nat).insert p 1).insert q 1)[r]? = some n →
        (ofEntries entries).entries[r]? = (ofEntries entries).entries[p]? := by
      intro r n hr
      rw [getElem?_insert_place, getElem?_insert_place] at hr
      split at hr
      · next heq => rw [heq, hq]
      · split at hr
        · next heq => rw [heq]
        · simp at hr
    intro r n hr
    exact ⟨by rw [hname r n hr, hp], fun r' hr' => by rw [hname r' n hr', hname r n hr]⟩
  workingDirectory := (ofEntries entries).workingDirectory
  process := (ofEntries entries).process

/-- Names do not matter to the shape of a disk. -/
theorem sameShape_ofEntriesSharing (entries : List (Place × Entry)) (p q : Place)
    (hp : (ofEntries entries).entries[p]?.any Entry.isFile = true)
    (hq : (ofEntries entries).entries[q]? = (ofEntries entries).entries[p]?) :
    SameShape (ofEntries entries) (ofEntriesSharing entries p q hp hq) :=
  ⟨⟨fun _ e hget => ⟨e, hget, .refl e⟩, rfl, rfl⟩, ⟨fun _ e hget => ⟨e, hget, .refl e⟩, rfl, rfl⟩⟩

/-! ## Storing files -/

/-- A file that is stored over a file changes no shape. -/
theorem sameShape_store {content' : ByteArray} {executable' : Bool} (hp : p ≠ [])
    (hget : d.get? p = some (.file content' executable')) (content : ByteArray) (executable : Bool) :
    SameShape d (d.store p content executable) := by
  have hlike : ∀ e, d.get? p = some e → Like e (.file content executable) := fun e hentry => by
    cases hget.symm.trans hentry
    exact .file ..
  refine ⟨grows_store hp hlike, ⟨fun q e hentry => ?_, (store_workingDirectory ..).symm,
    (store_process ..).symm⟩⟩
  rw [get?_store hp] at hentry
  split at hentry
  · next hsame =>
    cases hentry
    exact ⟨_, hsame.get?.trans hget, .file ..⟩
  · exact ⟨e, hentry, .refl e⟩

/-- A file is stored at a free place or over a file. -/
theorem store_cases (hp : p ≠ [])
    (hlike : ∀ e, d.get? p = some e → Like e (.file content executable)) :
    d.get? p = none ∧ d.store p content executable = d.put p (.file content executable) ∨
      SameShape d (d.store p content executable) := by
  cases hget : d.get? p with
  | none => exact .inl ⟨rfl, store_of_get?_eq_none hget content executable⟩
  | some e =>
    obtain ⟨content', executable', rfl⟩ := (hlike e hget).symm.exists_file
    exact .inr (sameShape_store hp hget content executable)

/-- A disk stays sound when a file is stored in a directory. -/
theorem Sound.store (hd : Sound d) (hdir : d.get? dir = some .directory) (hname : IsEntryName name)
    (hlike : ∀ e, d.get? (dir ++ [name]) = some e → Like e (.file content executable)) :
    Sound (d.store (dir ++ [name]) content executable) := by
  rcases store_cases (by simp) hlike with ⟨hnone, hstore⟩ | hshape
  · rw [hstore]
    exact hd.put hdir hname fun hget => by cases hnone.symm.trans hget
  · exact hd.sameShape hshape

/-- A tree stays plain when a file is stored under a name without backslashes. -/
theorem PlainBelow.store (hplain : PlainBelow d base) (hname : '\\' ∉ name)
    (hlike : ∀ e, d.get? (dir ++ [name]) = some e → Like e (.file content executable)) :
    PlainBelow (d.store (dir ++ [name]) content executable) base := by
  rcases store_cases (by simp) hlike with ⟨-, hstore⟩ | hshape
  · rw [hstore]
    exact hplain.put (by simp) hname
  · exact hplain.sameShape hshape

end ProtoUpkeep.Disk
