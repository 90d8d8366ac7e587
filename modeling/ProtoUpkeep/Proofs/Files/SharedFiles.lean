import ProtoUpkeep.Files.Disk

/-!
# Files with several names

A disk is seen through the entries at its places (`Disk.get?`) and the numbers of its files
(`Disk.number?`). There is one lemma for each of the two views of each way to change a disk. Putting an
entry, erasing one and moving one change the places that they name. Storing a file changes the entries
at all its names (`Disk.get?_store`) and no number (`Disk.number?_store`), so names of one file stay
names of one file (`Disk.sameFile_store_iff`).
-/

namespace ProtoUpkeep.Disk

variable {d : Disk} {p q r old new : Place} {e e' : Entry} {content : ByteArray} {executable : Bool}

/-! ## Entries and numbers -/

theorem get?_of_ne_nil (hp : p ≠ []) : d.get? p = d.entries[p]? := by simp [get?, hp]

theorem number?_of_ne_nil (hp : p ≠ []) : d.number? p = d.numbers[p]? := by simp [number?, hp]

/-- The root has no number. -/
@[simp] theorem number?_nil (d : Disk) : d.number? [] = none := rfl

/-- The entry at a place after one has been put. -/
theorem get?_put (hp : p ≠ []) (e : Entry) (q : Place) :
    (d.put p e).get? q = if q = p then some e else d.get? q := by
  by_cases hq : q = []
  · rw [hq, if_neg hp.symm]
    rfl
  · rw [get?_of_ne_nil hq, get?_of_ne_nil hq, put, getElem?_insert_place]

/-- The entry at a place after one has been taken away. -/
theorem get?_erase (hp : p ≠ []) (q : Place) :
    (d.erase p).get? q = if q = p then none else d.get? q := by
  by_cases hq : q = []
  · rw [hq, if_neg hp.symm]
    rfl
  · rw [get?_of_ne_nil hq, get?_of_ne_nil hq, erase, getElem?_erase_place]

/-- An entry that is put has no number. -/
theorem number?_put (p : Place) (e : Entry) (q : Place) :
    (d.put p e).number? q = if q = p then none else d.number? q := by
  by_cases hq : q = []
  · simp [hq]
  · rw [number?_of_ne_nil hq, number?_of_ne_nil hq, put, getElem?_erase_place]

/-- A place that is erased has no number. -/
theorem number?_erase (p q : Place) :
    (d.erase p).number? q = if q = p then none else d.number? q := by
  by_cases hq : q = []
  · simp [hq]
  · rw [number?_of_ne_nil hq, number?_of_ne_nil hq, erase, getElem?_erase_place]

/-- A place with a number is not the root. -/
theorem ne_nil_of_isSome_number? (h : (d.number? p).isSome) : p ≠ [] := by
  rintro rfl
  cases h

/-- A number is one of a file. -/
theorem exists_file_of_isSome_number? (h : (d.number? p).isSome) :
    ∃ content executable, d.get? p = some (.file content executable) := by
  have hp := ne_nil_of_isSome_number? h
  obtain ⟨n, hn⟩ := Option.isSome_iff_exists.1 h
  rw [number?_of_ne_nil hp] at hn
  have hfile := (d.numbered p n hn).1
  rw [← get?_of_ne_nil hp] at hfile
  cases hget : d.get? p with
  | none =>
    rw [hget] at hfile
    cases hfile
  | some e =>
    cases e with
    | file content executable => exact ⟨content, executable, rfl⟩
    | directory | link =>
      rw [hget] at hfile
      cases hfile

/-- A free place has no number. -/
theorem number?_of_get?_eq_none (h : d.get? p = none) : d.number? p = none := by
  cases hnumber : d.number? p with
  | none => rfl
  | some n =>
    obtain ⟨content, executable, hget⟩ := exists_file_of_isSome_number? (d := d) (p := p) (by rw [hnumber]; rfl)
    cases h.symm.trans hget

/-! ## Names of one file -/

theorem SameFile.refl (d : Disk) (p : Place) : d.SameFile p p := .inl rfl

/-- Names of one file have one number. -/
theorem SameFile.number? (h : d.SameFile p q) : d.number? q = d.number? p := by
  rcases h with rfl | ⟨hnumber, -⟩
  · rfl
  · exact hnumber

/-- Names of one file show the same. -/
theorem SameFile.get? (h : d.SameFile p q) : d.get? q = d.get? p := by
  rcases h with rfl | ⟨hnumber, hsome⟩
  · rfl
  · have hp := ne_nil_of_isSome_number? hsome
    have hq := ne_nil_of_isSome_number? (hnumber ▸ hsome)
    obtain ⟨n, hn⟩ := Option.isSome_iff_exists.1 hsome
    rw [get?_of_ne_nil hp, get?_of_ne_nil hq]
    refine (d.numbered p n ?_).2 q ?_
    · rw [← hn, number?_of_ne_nil hp]
    · rw [← hn, ← hnumber, number?_of_ne_nil hq]

theorem SameFile.symm (h : d.SameFile p q) : d.SameFile q p := by
  rcases h with rfl | ⟨hnumber, hsome⟩
  · exact .refl d q
  · exact .inr ⟨hnumber.symm, hnumber ▸ hsome⟩

theorem SameFile.trans (h : d.SameFile p q) (h' : d.SameFile q r) : d.SameFile p r := by
  rcases h with rfl | ⟨hnumber, hsome⟩
  · exact h'
  · exact .inr ⟨h'.number?.trans hnumber, hsome⟩

/-- Numbers tell names of one file. -/
theorem sameFile_congr {d' : Disk} (h : ∀ r, d'.number? r = d.number? r) :
    d'.SameFile p q ↔ d.SameFile p q := by
  simp only [SameFile, h]

/-- A file without a number has one name. -/
theorem sameFile_iff_of_number?_eq_none (h : d.number? p = none) : d.SameFile p q ↔ q = p := by
  simp [SameFile, h]

/-- A free place is no name of a file. -/
theorem sameFile_iff_of_get?_eq_none (h : d.get? p = none) : d.SameFile p q ↔ q = p :=
  sameFile_iff_of_number?_eq_none (number?_of_get?_eq_none h)

/-- The root is no name of a file. -/
theorem SameFile.ne_nil (h : d.SameFile p q) (hp : p ≠ []) : q ≠ [] := by
  rcases h with rfl | ⟨hnumber, hsome⟩
  · exact hp
  · exact ne_nil_of_isSome_number? (hnumber ▸ hsome)

/-! ## Storing -/

/-- The entries are equal, or both are files. -/
inductive Like : Entry → Entry → Prop
  | refl (e : Entry) : Like e e
  | file (content content' : ByteArray) (executable executable' : Bool) :
    Like (.file content executable) (.file content' executable')

theorem Like.trans {e₁ e₂ e₃ : Entry} (h : Like e₁ e₂) (h' : Like e₂ e₃) : Like e₁ e₃ := by
  cases h with
  | refl => exact h'
  | file => cases h' <;> exact .file ..

/-- Only a file is like a file. -/
theorem Like.exists_file (h : Like (.file content executable) e) :
    ∃ content' executable', e = .file content' executable' := by
  cases h <;> exact ⟨_, _, rfl⟩

/-- Only a directory is like a directory. -/
theorem Like.eq_directory (h : Like .directory e) : e = .directory := by
  cases h
  rfl

/-- A file that is stored where no file with a number is is put there. -/
theorem store_of_number?_eq_none (h : d.number? p = none) (content : ByteArray) (executable : Bool) :
    d.store p content executable = d.put p (.file content executable) := by
  rw [store, if_pos (by rw [h]; rfl)]

/-- A file that is stored at a free place is put there. -/
theorem store_of_get?_eq_none (h : d.get? p = none) (content : ByteArray) (executable : Bool) :
    d.store p content executable = d.put p (.file content executable) :=
  store_of_number?_eq_none (number?_of_get?_eq_none h) content executable

/-- A file with a number is changed under all its names. -/
theorem store_of_number? (h : (d.number? p).isSome) (content : ByteArray) (executable : Bool) :
    (d.store p content executable).entries = (d.entries.map fun q e =>
        if d.numbers[q]? = d.number? p ∧ (d.number? p).isSome then .file content executable else e) ∧
      (d.store p content executable).numbers = d.numbers := by
  have hnot : ¬ (d.number? p).isNone = true := by
    rw [Option.isNone_iff_eq_none]
    exact Option.isSome_iff_ne_none.1 h
  rw [store, if_neg hnot]
  exact ⟨rfl, rfl⟩

/-- The entry at a place after a file has been stored. -/
theorem get?_store (hp : p ≠ []) (content : ByteArray) (executable : Bool) (q : Place) :
    (d.store p content executable).get? q =
      if d.SameFile p q then some (.file content executable) else d.get? q := by
  cases hnumber : d.number? p with
  | none =>
    rw [store_of_number?_eq_none hnumber, get?_put hp]
    simp only [sameFile_iff_of_number?_eq_none hnumber]
  | some n =>
    have hsome : (d.number? p).isSome = true := hnumber ▸ rfl
    by_cases hq : q = []
    · rw [hq, if_neg fun hsame => hsame.ne_nil hp rfl]
      rfl
    · have hsame : d.SameFile p q ↔ d.numbers[q]? = d.number? p := by
        rw [← number?_of_ne_nil hq]
        exact ⟨SameFile.number?, fun h => .inr ⟨h, hsome⟩⟩
      have hstore : (d.store p content executable).get? q = d.entries[q]?.map fun e =>
          if d.numbers[q]? = d.number? p ∧ (d.number? p).isSome then .file content executable
          else e := by
        rw [get?_of_ne_nil hq, (store_of_number? hsome content executable).1]
        exact Std.TreeMap.getElem?_map
      rw [hstore, get?_of_ne_nil hq]
      by_cases hname : d.SameFile p q
      · obtain ⟨content', executable', hget⟩ :=
          exists_file_of_isSome_number? (p := q) (hname.number? ▸ hsome)
        rw [get?_of_ne_nil hq] at hget
        rw [if_pos hname, hget, Option.map_some, if_pos ⟨hsame.1 hname, hsome⟩]
      · rw [if_neg hname]
        simp only [mt hsame.2 hname, false_and, if_false, Option.map_id']

/-- Numbers stay when a file is stored. -/
@[simp] theorem number?_store (p : Place) (content : ByteArray) (executable : Bool) (q : Place) :
    (d.store p content executable).number? q = d.number? q := by
  cases hnumber : d.number? p with
  | none =>
    rw [store_of_number?_eq_none hnumber, number?_put]
    split
    · next hq => rw [hq, hnumber]
    · rfl
  | some n =>
    have hsome : (d.number? p).isSome = true := hnumber ▸ rfl
    rw [number?, number?, (store_of_number? hsome content executable).2]

/-- Names of one file stay names of one file when one is stored. -/
theorem sameFile_store_iff : (d.store r content executable).SameFile p q ↔ d.SameFile p q :=
  sameFile_congr (number?_store r content executable)

@[simp] theorem store_workingDirectory (d : Disk) (p : Place) (content : ByteArray)
    (executable : Bool) : (d.store p content executable).workingDirectory = d.workingDirectory := by
  unfold store
  split <;> rfl

@[simp] theorem store_process (d : Disk) (p : Place) (content : ByteArray) (executable : Bool) :
    (d.store p content executable).process = d.process := by
  unfold store
  split <;> rfl

/-! ## Moving -/

/-- A file without a number is moved by putting it at the other place. -/
theorem move_of_number?_eq_none (hold : old ≠ []) (hget : d.get? old = some e)
    (hnumber : d.number? old = none) : d.move old new = (d.erase old).put new e := by
  rw [get?_of_ne_nil hold] at hget
  rw [number?_of_ne_nil hold] at hnumber
  unfold move
  split
  · next hnone => cases hnone.symm.trans hget
  · next hget' _ => cases hget'.symm.trans hget; rfl
  · next hnumber' => cases hnumber'.symm.trans hnumber

/-- A file with a number gets one more name and loses its old one. -/
theorem move_of_number? {n : Nat} (hold : old ≠ []) (hget : d.get? old = some e)
    (hnumber : d.number? old = some n) : ∃ named : Disk, d.move old new = named.erase old ∧
      named.entries = d.entries.insert new e ∧ named.numbers = d.numbers.insert new n ∧
      named.workingDirectory = d.workingDirectory ∧ named.process = d.process := by
  rw [get?_of_ne_nil hold] at hget
  rw [number?_of_ne_nil hold] at hnumber
  unfold move
  split
  · next hnone => cases hnone.symm.trans hget
  · next hnone => cases hnone.symm.trans hnumber
  · next hget' hnumber' =>
    cases hget'.symm.trans hget
    cases hnumber'.symm.trans hnumber
    exact ⟨_, rfl, rfl, rfl, rfl, rfl⟩

/-- The entry at a place after one has been moved. -/
theorem get?_move (hold : old ≠ []) (hnew : new ≠ []) (hne : old ≠ new) (hget : d.get? old = some e)
    (q : Place) : (d.move old new).get? q =
      if q = new then some e else if q = old then none else d.get? q := by
  cases hnumber : d.number? old with
  | none => rw [move_of_number?_eq_none hold hget hnumber, get?_put hnew, get?_erase hold]
  | some n =>
    obtain ⟨named, hmove, hentries, -⟩ := move_of_number? hold hget hnumber
    have hnamed : named.get? q = if q = new then some e else d.get? q := by
      rw [← get?_put hnew (d := d)]
      by_cases hq : q = []
      · rw [hq]; rfl
      · rw [get?_of_ne_nil hq, get?_of_ne_nil hq, hentries]; rfl
    rw [hmove, get?_erase hold, hnamed]
    by_cases hq : q = old
    · rw [if_pos hq, if_pos hq, if_neg (hq ▸ hne)]
    · rw [if_neg hq, if_neg hq]

/-- A file keeps its number when it is moved. -/
theorem number?_move (hold : old ≠ []) (hnew : new ≠ []) (hne : old ≠ new)
    (hget : d.get? old = some e) (q : Place) : (d.move old new).number? q =
      if q = new then d.number? old else if q = old then none else d.number? q := by
  cases hnumber : d.number? old with
  | none => rw [move_of_number?_eq_none hold hget hnumber, number?_put, number?_erase]
  | some n =>
    obtain ⟨named, hmove, -, hnumbers, -⟩ := move_of_number? hold hget hnumber
    have hnamed : named.number? q = if q = new then some n else d.number? q := by
      by_cases hq : q = []
      · rw [hq, if_neg hnew.symm, number?_nil, number?_nil]
      · rw [number?_of_ne_nil hq, number?_of_ne_nil hq, hnumbers, getElem?_insert_place]
    rw [hmove, number?_erase, hnamed]
    by_cases hq : q = old
    · rw [if_pos hq, if_pos hq, if_neg (hq ▸ hne)]
    · rw [if_neg hq, if_neg hq]

/-- The process is at home on the disk where a file has been moved. -/
theorem move_workingDirectory (hold : old ≠ []) (hget : d.get? old = some e) :
    (d.move old new).workingDirectory = d.workingDirectory ∧ (d.move old new).process = d.process := by
  cases hnumber : d.number? old with
  | none =>
    rw [move_of_number?_eq_none hold hget hnumber]
    exact ⟨rfl, rfl⟩
  | some n =>
    obtain ⟨named, hmove, -, -, hdirectory, hprocess⟩ := move_of_number? hold hget hnumber
    rw [hmove]
    exact ⟨hdirectory, hprocess⟩

end ProtoUpkeep.Disk
