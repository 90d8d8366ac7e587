import ProtoUpkeep.Proofs.Files.Growth

/-!
# Disks that differ at some places

What an operation leaves alone is said by the places where it may have changed something
(`Disk.SameExcept`): everywhere else stand the same entries, which are names of the same files. A
temporary file is one of its own (`Disk.OwnFile`): nothing else changes when it is written, moved or
erased, since it has no other name.
-/

namespace ProtoUpkeep.Disk

variable {d d' d'' : Disk} {p q own : Place} {changed changed' : List Place}
  {content bytes : ByteArray} {executable mode : Bool} {e : Entry} {path : Text} {dir : Place}
  {name : Text} {left : Nat}

/-! ## Everything else -/

/-- The disks have the same entries and files, except perhaps at some places, and the same process
works on them in the same directory. -/
structure SameExcept (changed : List Place) (d d' : Disk) : Prop where
  /-- The entries. -/
  get? : ∀ q, q ∉ changed → d'.get? q = d.get? q
  /-- The numbers of files. -/
  number? : ∀ q, q ∉ changed → d'.number? q = d.number? q
  /-- The directory. -/
  workingDirectory : d'.workingDirectory = d.workingDirectory
  /-- The process. -/
  process : d'.process = d.process

/-- What has not changed is none of what may have. -/
theorem ne_of_not_mem (hq : q ∉ changed) (hmem : p ∈ changed) : ¬ q = p := fun heq =>
  hq (heq ▸ hmem)

/-- A disk is the same as itself. -/
theorem SameExcept.refl (changed : List Place) (d : Disk) : SameExcept changed d d :=
  ⟨fun _ _ => rfl, fun _ _ => rfl, rfl, rfl⟩

/-- Disks may differ at more places. -/
theorem SameExcept.mono (h : SameExcept changed d d') (hsub : changed ⊆ changed') :
    SameExcept changed' d d' :=
  ⟨fun q hq => h.get? q fun hmem => hq (hsub hmem), fun q hq => h.number? q fun hmem => hq (hsub hmem),
    h.workingDirectory, h.process⟩

theorem SameExcept.trans (h : SameExcept changed d d') (h' : SameExcept changed d' d'') :
    SameExcept changed d d'' :=
  ⟨fun q hq => (h'.get? q hq).trans (h.get? q hq), fun q hq => (h'.number? q hq).trans (h.number? q hq),
    h'.workingDirectory.trans h.workingDirectory, h'.process.trans h.process⟩

/-- A place that shows the same again has not changed. -/
theorem SameExcept.remove (h : SameExcept (p :: changed) d d') (hget : d'.get? p = d.get? p)
    (hnumber : d'.number? p = d.number? p) : SameExcept changed d d' := by
  refine ⟨fun q hq => ?_, fun q hq => ?_, h.workingDirectory, h.process⟩
  · by_cases hqp : q = p
    · rw [hqp, hget]
    · exact h.get? q (by simp [hqp, hq])
  · by_cases hqp : q = p
    · rw [hqp, hnumber]
    · exact h.number? q (by simp [hqp, hq])

/-- A place that is free on both disks has not changed. -/
theorem SameExcept.remove_free (h : SameExcept (p :: changed) d d') (hfree : d.get? p = none)
    (hfree' : d'.get? p = none) : SameExcept changed d d' :=
  h.remove (hfree'.trans hfree.symm)
    ((number?_of_get?_eq_none hfree').trans (number?_of_get?_eq_none hfree).symm)

/-- An entry that is erased changes one place. -/
theorem SameExcept.erase (h : SameExcept changed d d') (hp : p ≠ []) (hmem : p ∈ changed) :
    SameExcept changed d (d'.erase p) where
  get? q hq := by rw [get?_erase hp, if_neg (ne_of_not_mem hq hmem), h.get? q hq]
  number? q hq := by rw [number?_erase, if_neg (ne_of_not_mem hq hmem), h.number? q hq]
  workingDirectory := h.workingDirectory
  process := h.process

/-- A file that is stored changes the places of its names. -/
theorem SameExcept.store (h : SameExcept changed d d') (hp : p ≠ [])
    (hnames : ∀ q, d'.SameFile p q → q ∈ changed) (content : ByteArray) (executable : Bool) :
    SameExcept changed d (d'.store p content executable) where
  get? q hq := by rw [get?_store hp, if_neg fun hsame => hq (hnames q hsame), h.get? q hq]
  number? q hq := by rw [number?_store, h.number? q hq]
  workingDirectory := (store_workingDirectory ..).trans h.workingDirectory
  process := (store_process ..).trans h.process

/-- A file that is moved changes two places. -/
theorem SameExcept.move (h : SameExcept changed d d') (hp : p ≠ []) (hown : own ≠ []) (hne : p ≠ own)
    (hget : d'.get? p = some e) (hmem : p ∈ changed) (hmem' : own ∈ changed) :
    SameExcept changed d (d'.move p own) where
  get? q hq := by
    rw [get?_move hp hown hne hget, if_neg (ne_of_not_mem hq hmem'), if_neg (ne_of_not_mem hq hmem),
      h.get? q hq]
  number? q hq := by
    rw [number?_move hp hown hne hget, if_neg (ne_of_not_mem hq hmem'),
      if_neg (ne_of_not_mem hq hmem), h.number? q hq]
  workingDirectory := (move_workingDirectory hp hget).1.trans h.workingDirectory
  process := (move_workingDirectory hp hget).2.trans h.process

/-- A file that is stored as it stands changes nothing. -/
theorem SameExcept.store_same (h : SameExcept changed d d') (hp : p ≠ [])
    (hget : d'.get? p = some (.file content executable)) :
    SameExcept changed d (d'.store p content executable) where
  get? q hq := by
    rw [get?_store hp]
    split
    · next hsame => rw [← hget, ← hsame.get?, h.get? q hq]
    · exact h.get? q hq
  number? q hq := by rw [number?_store, h.number? q hq]
  workingDirectory := (store_workingDirectory ..).trans h.workingDirectory
  process := (store_process ..).trans h.process

/-- A disk that differs at one place keeps all other entries. -/
theorem SameExcept.keeps (h : SameExcept [own] d d') : Keeps d own d' where
  get? q _ hq hget := by
    rw [h.get? q (by simpa using hq), hget]
  workingDirectory := h.workingDirectory

/-- The names of the file at a place. -/
def names (d : Disk) (p : Place) : List Place := p :: d.numbers.keys.filter fun q => d.SameFile p q

theorem mem_names_iff : q ∈ d.names p ↔ d.SameFile p q := by
  rw [names, List.mem_cons, List.mem_filter, decide_eq_true_iff]
  refine ⟨fun h => h.elim .inl (·.2), fun h => ?_⟩
  rcases h with heq | ⟨hnumber, hsome⟩
  · exact .inl heq
  · refine .inr ⟨?_, .inr ⟨hnumber, hsome⟩⟩
    have hq := hnumber ▸ hsome
    rw [number?_of_ne_nil (ne_nil_of_isSome_number? hq)] at hq
    rw [Std.TreeMap.mem_keys, Std.TreeMap.mem_iff_isSome_getElem?]
    exact hq

/-- The names of the file that a path leads to, or the place where one would be made. -/
def namesAt (d : Disk) (path : Text) : List Place :=
  match d.lookup true path with
  | .ok (.vacant p) => d.names p
  | .ok (.found p _) => d.names p
  | .error _ => []

/-- A file is written under the names of the one that the path leads to. -/
theorem WrittenAt.namesAt (h : WrittenAt d path p content executable) : d.namesAt path = d.names p := by
  rcases h.leads with hvacant | ⟨e, hfound⟩
  · rw [Disk.namesAt, hvacant]
  · rw [Disk.namesAt, hfound]

/-- What is written at a path changes the names of the file that the path leads to. -/
theorem WrittenAt.same (h : WrittenAt d path p content executable) :
    SameExcept (d.namesAt path) d (d.store p content executable) :=
  (SameExcept.refl _ d).store h.ne_nil (fun q hsame => by rwa [h.namesAt, mem_names_iff]) _ _

/-! ## Files of their own -/

/-- A file with one name stands at a place, and nothing else has changed. -/
structure OwnFile (p : Place) (bytes : ByteArray) (mode : Bool) (d d' : Disk) : Prop where
  /-- The place is not the root. -/
  ne_nil : p ≠ []
  /-- The file. -/
  file : d'.get? p = some (.file bytes mode)
  /-- It has one name. -/
  number? : d'.number? p = none
  /-- All else. -/
  same : SameExcept [p] d d'

/-- A file is stored where none with several names stands. -/
theorem ownFile_store (hp : p ≠ []) (hnumber : d.number? p = none) (bytes : ByteArray) (mode : Bool) :
    OwnFile p bytes mode d (d.store p bytes mode) where
  ne_nil := hp
  file := by rw [get?_store hp, if_pos (.refl d p)]
  number? := by rw [number?_store, hnumber]
  same := (SameExcept.refl _ d).store hp
    (fun q hsame => by simp [(sameFile_iff_of_number?_eq_none hnumber).1 hsame]) bytes mode

/-- What is done to a file of its own leaves one. -/
theorem OwnFile.trans {d₁ : Disk} (h : OwnFile p content executable d d₁)
    (h' : OwnFile p bytes mode d₁ d') : OwnFile p bytes mode d d' :=
  ⟨h.ne_nil, h'.file, h'.number?, h.same.trans h'.same⟩

/-- A file of its own is erased. -/
theorem OwnFile.erase (h : OwnFile p bytes mode d d') :
    SameExcept [p] d (d'.erase p) ∧ (d'.erase p).get? p = none :=
  ⟨h.same.erase h.ne_nil (by simp), by rw [get?_erase h.ne_nil, if_pos rfl]⟩

/-- A file of its own is moved. -/
theorem OwnFile.move (h : OwnFile p bytes mode d d') (hown : own ≠ []) (hne : p ≠ own) :
    SameExcept [p, own] d (d'.move p own) ∧ (d'.move p own).get? p = none ∧
      (d'.move p own).get? own = some (.file bytes mode) ∧ (d'.move p own).number? own = none := by
  refine ⟨(h.same.mono (by simp)).move h.ne_nil hown hne h.file (by simp) (by simp), ?_, ?_, ?_⟩
  · rw [get?_move h.ne_nil hown hne h.file, if_neg hne, if_pos rfl]
  · rw [get?_move h.ne_nil hown hne h.file, if_pos rfl]
  · rw [number?_move h.ne_nil hown hne h.file, if_pos rfl, h.number?]

/-- A disk has grown by a file of its own, where nothing or a file stood. -/
theorem OwnFile.grows (h : OwnFile p bytes mode d d')
    (hlike : ∀ e, d.get? p = some e → Like e (.file bytes mode)) : Grows d d' where
  get? q e hget := by
    by_cases hq : q = p
    · rw [hq] at hget ⊢
      exact ⟨_, h.file, hlike e hget⟩
    · exact ⟨e, (h.same.get? q (by simpa using hq)).trans hget, .refl e⟩
  workingDirectory := h.same.workingDirectory
  process := h.same.process

/-- A file is written where nothing or a file stands, and nothing else changes if that one has one
name. -/
theorem EntryAt.exists_writeFile (h : EntryAt d path dir name left)
    (hlike : ∀ e, d.get? (dir ++ [name]) = some e → Like e (.file ByteArray.empty false))
    (hnumber : d.number? (dir ++ [name]) = none) :
    ∃ mode, (d.get? (dir ++ [name]) = none → mode = false) ∧ ∀ bytes, ∃ d',
      d.writeFile path bytes = .ok d' ∧ OwnFile (dir ++ [name]) bytes mode d d' := by
  cases hget : d.get? (dir ++ [name]) with
  | none =>
    refine ⟨false, fun _ => rfl, fun bytes => ⟨_, h.writeFile hget bytes, ?_⟩⟩
    rw [← store_of_number?_eq_none hnumber]
    exact ownFile_store (by simp) hnumber bytes false
  | some e =>
    obtain ⟨content, executable, rfl⟩ : ∃ content executable, e = .file content executable := by
      cases hlike e hget <;> exact ⟨_, _, rfl⟩
    exact ⟨executable, (fun hnone => by cases hnone), fun bytes =>
      ⟨_, h.writeFile_of_file (h.lookup_of_file hget) bytes, ownFile_store (by simp) hnumber _ _⟩⟩

end ProtoUpkeep.Disk
