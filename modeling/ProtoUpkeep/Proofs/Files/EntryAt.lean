import ProtoUpkeep.Proofs.Files.Descent
import ProtoUpkeep.Files.Outside
import ProtoUpkeep.Proofs.Files.PathText
import ProtoUpkeep.Proofs.Files.SharedFiles
import ProtoUpkeep.Proofs.Text.Search

/-!
# The entry that a path names

A path that ends in a name, behind components that descend, names an entry of a directory, whether
something stands there or not (`Disk.EntryAt`). The operations on disks are then settled by what
stands at that place, and there is one lemma for each of them. Paths that differ in the last name
alone name entries of one directory (`Disk.EntryAt.beside`).

A walk depends on directories and links alone (`Disk.walk_of_sameWays`), so a path names the same
entry on every disk that keeps all entries, except one that leads to a file (`Disk.Keeps`,
`Disk.EntryAt.of_keeps`).
-/

namespace ProtoUpkeep.Disk

open RawPath (ofText EndsIn Beside)

variable {d d' : Disk} {path path' source target : Text} {dir own p q : Place} {name name' : Text}
  {left links : Nat} {follow slash executable : Bool} {content : ByteArray} {e : Entry} {spot : Spot}
  {xs : List Text}

/-! ## Entries -/

/-- A place where something stands is not a free one. -/
theorem ne_of_get? (hget : d.get? q = some e) (hfree : d.get? p = none) : q ≠ p := by
  rintro rfl
  rw [hfree] at hget
  cases hget

/-- What a walk finds stands where it is found, if it is no directory. -/
theorem get?_of_walk (h : walk d follow links slash dir xs = .ok (.found q e)) :
    e = .directory ∨ d.get? q = some e := by
  induction links, dir, xs using walk_induction d generalizing slash with
  | nil links dir =>
    rw [walk] at h
    cases h
    exact .inl rfl
  | dot links dir rest ih =>
    rw [walk, if_pos rfl] at h
    exact ih h
  | dotDot links dir rest ih =>
    rw [walk, if_neg (by decide), if_pos rfl] at h
    exact ih h
  | name links dir c rest hdot hdotDot ihDirectory ihLink =>
    rw [walk_cons (isName_of_walk hdot hdotDot h)] at h
    split at h
    · split at h <;> cases h
    · next hget => exact ihDirectory hget h
    · next hget =>
      split at h
      · cases h
        exact .inr hget
      · cases h
    · next target hget =>
      split at h
      · cases h
        exact .inr hget
      · split at h
        · cases h
        · next links => exact ihLink links target rfl hget h

/-- The second disk has the directories and links of the first. -/
def SameWays (d d' : Disk) : Prop :=
  ∀ q e, d.get? q = some e → (∀ content executable, e ≠ .file content executable) →
    d'.get? q = some e

/-- A walk depends on directories and links alone: on a disk with the same ones it ends where it did,
and finds the file that stands there if it ends at a file. -/
theorem walk_of_sameWays (hways : SameWays d d')
    (h : walk d follow links slash dir xs = .ok (.found q e)) :
    ((∀ content executable, e ≠ .file content executable) ∧
        walk d' follow links slash dir xs = .ok (.found q e)) ∨
      (∃ content executable, e = .file content executable) ∧ ∀ content' executable',
        d'.get? q = some (.file content' executable') →
          walk d' follow links slash dir xs = .ok (.found q (.file content' executable')) := by
  induction links, dir, xs using walk_induction d generalizing slash with
  | nil links dir =>
    rw [walk] at h ⊢
    refine .inl ⟨fun content executable heq => ?_, h⟩
    cases h
    cases heq
  | dot links dir rest ih =>
    rw [walk, if_pos rfl] at h ⊢
    exact ih h
  | dotDot links dir rest ih =>
    rw [walk, if_neg (by decide), if_pos rfl] at h ⊢
    exact ih h
  | name links dir c rest hdot hdotDot ihDirectory ihLink =>
    have hc := isName_of_walk hdot hdotDot h
    rw [walk_cons hc] at h ⊢
    split at h
    · split at h <;> cases h
    · next hget =>
      rw [hways _ _ hget (by simp)]
      exact ihDirectory hget h
    · next content executable hget =>
      split at h
      · next hend =>
        cases h
        refine .inr ⟨⟨_, _, rfl⟩, fun content' executable' hget' => ?_⟩
        rw [hget']
        exact if_pos hend
      · cases h
    · next target hget =>
      rw [hways _ _ hget (by simp)]
      simp only
      split at h
      · next hend =>
        rw [if_pos hend]
        refine .inl ⟨fun content executable heq => ?_, h⟩
        cases h
        cases heq
      · next hend =>
        rw [if_neg hend]
        split at h
        · cases h
        · next links => exact ihLink links target rfl hget h

/-- What a walk finds it finds on a disk that has it, and the directories and links of the first. -/
theorem walk_of_get? (hways : SameWays d d')
    (h : walk d follow links slash dir xs = .ok (.found q e))
    (hend : d.get? q = some e → d'.get? q = some e) :
    walk d' follow links slash dir xs = .ok (.found q e) := by
  rcases walk_of_sameWays hways h with ⟨-, hwalk⟩ | ⟨⟨content, executable, rfl⟩, hfile⟩
  · exact hwalk
  · exact hfile _ _ (hend ((get?_of_walk h).resolve_left (by simp)))

/-- What a walk finds it finds on a disk with more entries too. -/
theorem walk_mono (hkeep : ∀ q e, d.get? q = some e → d'.get? q = some e)
    (h : walk d follow links slash dir xs = .ok (.found q e)) :
    walk d' follow links slash dir xs = .ok (.found q e) :=
  walk_of_get? (fun q e hget _ => hkeep q e hget) h (hkeep q e)

/-! ## Paths that name entries -/

/-- The path names the entry `name` of the directory `dir`; so many links are left behind `dir`. -/
structure EntryAt (d : Disk) (path : Text) (dir : Place) (name : Text) (left : Nat) : Prop where
  /-- It is a path. -/
  checked : checkPath path = .ok ()
  /-- It ends in the name, and what stands before descends to the directory. -/
  descends : ∃ before, EndsIn path before name ∧
    Descends d maxLinks (d.start (ofText path)) before dir left
  /-- The name can be one of an entry. -/
  isName : IsName name

/-- Only an entry's own name is left to be walked. -/
theorem EntryAt.lookup (h : EntryAt d path dir name left) (follow : Bool) :
    d.lookup follow path = d.walk follow left false dir [name] := by
  obtain ⟨before, hends, hdesc⟩ := h.descends
  rw [Disk.lookup, h.checked]
  simp only [bind, Except.bind]
  rw [hends.components, hends.slash, walk_append hdesc (by simp)]

/-- The end of the path is the name in the directory. -/
theorem EntryAt.lastName? (h : EntryAt d path dir name left) :
    d.lastName? path = .ok (some ⟨dir, name, false⟩) := by
  obtain ⟨before, hends, hdesc⟩ := h.descends
  have hname : ¬ (name = RawPath.dot ∨ name = RawPath.dotDot) := by
    simp [h.isName.ne_dot, h.isName.ne_dotDot]
  have hreverse : (ofText path).components.reverse = name :: before.reverse := by
    rw [hends.components, List.reverse_append]
    rfl
  rw [Disk.lastName?, h.checked]
  simp only [bind, Except.bind, hreverse, List.reverse_reverse, walk_of_descends hdesc true,
    if_neg hname, hends.slash]
  rfl

/-- Where nothing stands the place is vacant. -/
theorem EntryAt.lookup_of_none (h : EntryAt d path dir name left)
    (hnone : d.get? (dir ++ [name]) = none) :
    d.lookup follow path = .ok (.vacant (dir ++ [name])) := by
  rw [h.lookup, walk_cons h.isName, hnone]
  rfl

/-- A file is found. -/
theorem EntryAt.lookup_of_file (h : EntryAt d path dir name left)
    (hfile : d.get? (dir ++ [name]) = some (.file content executable)) :
    d.lookup follow path = .ok (.found (dir ++ [name]) (.file content executable)) := by
  rw [h.lookup, walk_cons h.isName, hfile]
  rfl

/-- Paths start in the same directory if both or neither are absolute. -/
theorem start_congr {t u : Text} (h : (ofText t).absolute = (ofText u).absolute) :
    d.start (ofText t) = d.start (ofText u) := by
  rw [start, start, h]

/-- A path that can be followed is one. -/
theorem checkPath_of_lookup (h : d.lookup follow path = .ok spot) : checkPath path = .ok () := by
  rw [Disk.lookup] at h
  cases hcheck : checkPath path with
  | error fault =>
    rw [hcheck] at h
    cases h
  | ok u => rfl

/-- The file that a path leads to stands at a place below the root. -/
theorem get?_of_lookup (h : d.lookup true path = .ok (.found q (.file content executable))) :
    q ≠ [] ∧ d.get? q = some (.file content executable) := by
  have hchecked := checkPath_of_lookup h
  rw [Disk.lookup, hchecked] at h
  have hget := (get?_of_walk h).resolve_left (by simp)
  refine ⟨?_, hget⟩
  rintro rfl
  cases hget

/-- A path leads to a file exactly if it can be looked up as one. -/
theorem isFile_eq_true_iff : d.isFile path = true ↔
    ∃ q content executable, d.lookup true path = .ok (.found q (.file content executable)) := by
  unfold isFile stat?
  split
  · next h =>
    split at h
    · next hlookup => simp_all
    · cases h
  · next h =>
    simp only [Bool.false_eq_true, false_iff, not_exists]
    intro q content executable hlookup
    exact h content executable (by rw [hlookup])

/-- A path leads where it did on a disk that keeps all entries. -/
theorem lookup_mono (hkeep : ∀ q e, d.get? q = some e → d'.get? q = some e)
    (hworking : d'.workingDirectory = d.workingDirectory)
    (h : d.lookup follow path = .ok (.found q e)) :
    d'.lookup follow path = .ok (.found q e) := by
  have hchecked := checkPath_of_lookup h
  rw [Disk.lookup, hchecked] at h ⊢
  simp only [bind, Except.bind, start, hworking] at h ⊢
  exact walk_mono hkeep h

/-- A path that leads to a file names an entry. -/
theorem exists_entryAt (h : d.lookup true path = .ok (.found q (.file content executable))) :
    ∃ dir name left, EntryAt d path dir name left := by
  have hchecked := checkPath_of_lookup h
  rw [Disk.lookup, hchecked] at h
  simp only [bind, Except.bind] at h
  have hslash : (ofText path).slash = false := by
    by_contra hslash
    rw [Bool.not_eq_false] at hslash
    rw [hslash] at h
    exact walk_slash_ne_file h
  obtain hnil | ⟨before, name, hcomponents⟩ :=
    List.eq_nil_or_concat' (ofText path).components
  · rw [hnil, walk] at h
    cases h
  rw [hcomponents] at h
  obtain ⟨dir, left, hdesc, hwalk⟩ := exists_descends (by simp) h
  have hends : EndsIn path before name := ⟨hcomponents, hslash⟩
  refine ⟨dir, name, left, hchecked, ⟨before, hends, hdesc⟩, isName_of_walk ?_ ?_ hwalk⟩
  · rintro rfl
    rw [walk, if_pos rfl, walk] at hwalk
    cases hwalk
  · rintro rfl
    rw [walk, if_neg (by decide), if_pos rfl, walk] at hwalk
    cases hwalk

/-- No descent passes the entry of a path that leads to a file. -/
theorem EntryAt.blocks (h : EntryAt d path dir name left)
    (hfile : d.lookup true path = .ok (.found q (.file content executable))) :
    Blocks d dir name := by
  rw [h.lookup] at hfile
  exact blocks_of_walk h.isName hfile

/-- Something stands at the entry of a path that leads to a file. -/
theorem EntryAt.exists_get? (h : EntryAt d path dir name left)
    (hfile : d.lookup true path = .ok (.found q (.file content executable))) :
    ∃ e, d.get? (dir ++ [name]) = some e := by
  cases hget : d.get? (dir ++ [name]) with
  | some e => exact ⟨e, rfl⟩
  | none =>
    rw [h.lookup_of_none hget] at hfile
    cases hfile

/-- Nothing stands at the path, not even a link. -/
def Free (d : Disk) (path : Text) : Prop := ∀ q e, d.lookup false path ≠ .ok (.found q e)

/-- Nothing stands at a path that leads to a free name. -/
theorem free_of_lookup (h : d.lookup false path = .ok (.vacant p)) : Free d path := fun q e => by
  rw [h]
  simp

/-- The entry is found where links are not followed. -/
theorem EntryAt.lookup_of_some (h : EntryAt d path dir name left)
    (hget : d.get? (dir ++ [name]) = some e) :
    d.lookup false path = .ok (.found (dir ++ [name]) e) := by
  rw [h.lookup, walk_cons h.isName, hget]
  cases e with
  | file content executable => rfl
  | directory => rw [walk]
  | link target => rfl

/-- Nothing stands at the path exactly if there is no entry. -/
theorem EntryAt.free_iff (h : EntryAt d path dir name left) :
    Free d path ↔ d.get? (dir ++ [name]) = none := by
  constructor
  · intro hfree
    cases hget : d.get? (dir ++ [name]) with
    | none => rfl
    | some e => exact absurd (h.lookup_of_some hget) (hfree _ e)
  · exact fun hnone => free_of_lookup (h.lookup_of_none hnone)

/-- The path beside a path names an entry of the same directory, if its name can be one. -/
theorem EntryAt.beside (h : EntryAt d path dir name left)
    (hbeside : ∀ before, EndsIn path before name → Beside path before path' name')
    (hchecked : checkPath path' = .ok ()) (hname : IsName name') :
    EntryAt d path' dir name' left := by
  obtain ⟨before, hbefore, hdesc⟩ := h.descends
  obtain ⟨⟨dots, mid, rfl, hdots, hends⟩, habsolute, -, -⟩ := hbeside before hbefore
  obtain ⟨last, between, hmid, hlast⟩ := hdesc.split
  obtain ⟨rfl, rfl⟩ := hlast.eq_of_dots hdots
  exact ⟨hchecked, ⟨mid, hends, start_congr habsolute ▸ hmid⟩, hname⟩

/-- The path beside a path names an entry of the same directory, if it can be followed. -/
theorem EntryAt.beside_of_lookup (h : EntryAt d path dir name left)
    (hbeside : ∀ before, EndsIn path before name → Beside path before path' name')
    (hlookup : d.lookup follow path' = .ok spot) : EntryAt d path' dir name' left := by
  have hchecked := checkPath_of_lookup hlookup
  refine h.beside hbeside hchecked ?_
  obtain ⟨before, hbefore, hdesc⟩ := h.descends
  obtain ⟨⟨dots, mid, rfl, -, hends⟩, habsolute, hdot, hdotDot⟩ := hbeside before hbefore
  obtain ⟨last, between, hmid, -⟩ := hdesc.split
  rw [Disk.lookup, hchecked] at hlookup
  simp only [bind, Except.bind] at hlookup
  rw [hends.components, hends.slash, start_congr habsolute, walk_append hmid (by simp)] at hlookup
  exact isName_of_walk hdot hdotDot hlookup

/-! ## Disks that keep entries -/

/-- The second disk has all entries of the first, except perhaps the one at `own`, and the process
works in the same directory. -/
structure Keeps (d : Disk) (own : Place) (d' : Disk) : Prop where
  /-- The entries. -/
  get? : ∀ q e, q ≠ own → d.get? q = some e → d'.get? q = some e
  /-- The directory. -/
  workingDirectory : d'.workingDirectory = d.workingDirectory

/-- A path names the same entry on a disk that keeps all entries but one that leads to a file. -/
theorem EntryAt.of_keeps (h : EntryAt d path dir name left) (hblocks : Blocks d own name')
    (hkeeps : Keeps d (own ++ [name']) d') : EntryAt d' path dir name left := by
  obtain ⟨before, hends, hdesc⟩ := h.descends
  refine ⟨h.checked, ⟨before, hends, ?_⟩, h.isName⟩
  have hstart : d'.start (ofText path) = d.start (ofText path) := by
    rw [start, start, hkeeps.workingDirectory]
  rw [hstart]
  exact hdesc.frame hblocks hkeeps.get?

/-! ## Operations -/

/-- A file is written where the place is vacant. -/
theorem EntryAt.writable_of_none (h : EntryAt d path dir name left)
    (hnone : d.get? (dir ++ [name]) = none) : d.writable path = .ok (.vacant (dir ++ [name])) := by
  simp only [writable, bind, Except.bind, h.lastName?, h.lookup_of_none hnone]
  rfl

/-- A file is overwritten where the path leads to one. -/
theorem EntryAt.writable_of_file (h : EntryAt d path dir name left)
    (hfile : d.lookup true path = .ok (.found q (.file content executable))) :
    d.writable path = .ok (.found q (.file content executable)) := by
  simp only [writable, bind, Except.bind, h.lastName?, hfile]
  rfl

/-- Nothing is written over a directory. -/
theorem EntryAt.writable_of_directory (h : EntryAt d path dir name left)
    (hdir : d.get? (dir ++ [name]) = some .directory) : d.writable path = .error .isDirectory := by
  have hlookup : d.lookup true path = .ok (.found (dir ++ [name]) .directory) := by
    rw [h.lookup, walk_cons h.isName, hdir]
    exact walk.eq_1 ..
  simp only [writable, bind, Except.bind, h.lastName?, hlookup]
  rfl

/-- A path that can be written to can be followed. -/
theorem lookup_of_writable (h : d.writable path = .ok spot) : d.lookup true path = .ok spot := by
  simp only [writable, bind, Except.bind] at h
  split at h
  · cases h
  · split at h
    · cases h
    · split at h
      · cases h
      · split at h
        · cases h
        · next hlookup =>
          split at h
          · cases h
          · cases h
            exact hlookup

/-- The entry of a path is removed, if it is no directory. -/
theorem EntryAt.removeFile (h : EntryAt d path dir name left)
    (hget : d.get? (dir ++ [name]) = some e) (hne : e ≠ .directory) :
    d.removeFile path = .ok (d.erase (dir ++ [name])) := by
  have hlen : ¬ maxName < byteCount name := Nat.not_lt.2 h.isName.byteCount_le
  simp only [Disk.removeFile, bind, Except.bind, h.lastName?, if_neg hlen, hget]
  cases e with
  | file content executable => rfl
  | directory => exact absurd rfl hne
  | link target => rfl

/-- What is removed is there, and is no directory. -/
theorem EntryAt.exists_of_removeFile (h : EntryAt d path dir name left)
    (hremove : d.removeFile path = .ok d') :
    ∃ e, d.get? (dir ++ [name]) = some e ∧ e ≠ .directory := by
  have hlen : ¬ maxName < byteCount name := Nat.not_lt.2 h.isName.byteCount_le
  simp only [Disk.removeFile, bind, Except.bind, h.lastName?, if_neg hlen] at hremove
  split at hremove
  · cases hremove
  · cases hremove
  · next e hne hget =>
    refine ⟨e, hget, ?_⟩
    rintro rfl
    exact hne rfl

/-- A file is moved to another name, if that is not one of its names. -/
theorem EntryAt.renameFile {dir' : Place} {left' : Nat} (h : EntryAt d source dir name left)
    (h' : EntryAt d target dir' name' left') (he : d.get? (dir ++ [name]) = some e)
    (hdirectory : d.get? (dir' ++ [name']) ≠ some .directory) :
    d.renameFile source target =
      .ok (if d.SameFile (dir ++ [name]) (dir' ++ [name']) then d
        else d.move (dir ++ [name]) (dir' ++ [name'])) := by
  have hlen : ¬ (maxName < byteCount name ∨ maxName < byteCount name') := by
    have := h.isName.byteCount_le
    have := h'.isName.byteCount_le
    omega
  simp only [Disk.renameFile, bind, Except.bind, h.lastName?, h'.lastName?, if_neg hlen, he]
  simp only [Bool.false_eq_true, or_self, if_false]
  rfl

/-- A file is written to a free place. -/
theorem EntryAt.writeFile (h : EntryAt d path dir name left)
    (hnone : d.get? (dir ++ [name]) = none) (content : ByteArray) :
    d.writeFile path content = .ok (d.put (dir ++ [name]) (.file content false)) := by
  simp only [Disk.writeFile, bind, Except.bind, h.writable_of_none hnone,
    store_of_get?_eq_none hnone]
  rfl

/-- A file is written over another one. -/
theorem EntryAt.writeFile_of_file {bytes : ByteArray} (h : EntryAt d path dir name left)
    (hfile : d.lookup true path = .ok (.found p (.file bytes executable))) (content : ByteArray) :
    d.writeFile path content = .ok (d.store p content executable) := by
  simp only [Disk.writeFile, bind, Except.bind, h.writable_of_file hfile]
  rfl

/-- A path that a file can be written to can be followed. -/
theorem exists_lookup_of_writeFile (h : d.writeFile path content = .ok d') :
    ∃ spot, d.lookup true path = .ok spot := by
  simp only [Disk.writeFile, bind, Except.bind] at h
  split at h
  · cases h
  · next hwritable => exact ⟨_, lookup_of_writable hwritable⟩

/-- A file is copied to a free place. -/
theorem EntryAt.copyFile_of_none (h : EntryAt d target dir name left)
    (hnone : d.get? (dir ++ [name]) = none)
    (hsource : d.lookup true source = .ok (.found q (.file content executable)))
    (part : Option Part := none) :
    d.copyFile source target part = .ok (content.size, d.put (dir ++ [name])
      (.file (Part.copied part content executable executable).1
        (Part.copied part content executable executable).2)) := by
  simp only [Disk.copyFile, bind, Except.bind, hsource, h.writable_of_none hnone,
    store_of_get?_eq_none hnone]
  rfl

/-! ## Directories -/

/-- The bytes of two texts put together. -/
theorem byteCount_append (t u : Text) : byteCount (t ++ u) = byteCount t + byteCount u := by
  rw [byteCount, List.map_append, List.foldl_append, ← Nat.add_zero (List.foldl _ 0 _)]
  exact List.foldl_assoc

/-- The bytes of a character and a text. -/
theorem byteCount_cons (c : Char) (t : Text) : byteCount (c :: t) = c.utf8Size + byteCount t := by
  rw [← List.singleton_append, byteCount_append]
  simp [byteCount]

/-- A text that is not empty has a byte. -/
theorem byteCount_pos {t : Text} (hne : t ≠ []) : 0 < byteCount t := by
  obtain ⟨c, rest, rfl⟩ := List.exists_cons_of_ne_nil hne
  have := c.utf8Size_pos
  rw [byteCount_cons]
  omega

/-- What a path is. -/
theorem checkPath_eq_ok_iff :
    checkPath path = .ok () ↔ '\x00' ∉ path ∧ path ≠ [] ∧ byteCount path < maxPath := by
  have hnul : path.contains ['\x00'] = true ↔ '\x00' ∈ path := by
    rw [Text.contains, Text.isSome_cutAt_iff, List.singleton_infix_iff]
  unfold checkPath
  by_cases h₁ : '\x00' ∈ path
  · simp [hnul.2 h₁, h₁]
  · rw [if_neg (h₁ ∘ hnul.1)]
    by_cases h₂ : path = []
    · simp [h₂]
    · rw [if_neg (by simpa using h₂)]
      by_cases h₃ : maxPath ≤ byteCount path
      · simp [h₃]
      · simp [h₁, h₂, h₃, Nat.lt_of_not_le h₃]

/-- A text that a path starts with is a path, unless it is empty. -/
theorem checkPath_of_head {parent : Text} (h : checkPath path = .ok ()) (hhead : parent <+: path)
    (hne : parent ≠ []) : checkPath parent = .ok () := by
  rw [checkPath_eq_ok_iff] at h ⊢
  obtain ⟨hnul, -, hlt⟩ := h
  have hbytes : byteCount parent ≤ byteCount path := by
    obtain ⟨rest, rfl⟩ := hhead
    simp [byteCount_append]
  exact ⟨fun hmem => hnul (hhead.subset hmem), hne, Nat.lt_of_le_of_lt hbytes hlt⟩

/-- What is found as a directory has been descended to. -/
theorem exists_descends_of_walk {dir : Place} {xs : List Text} {slash : Bool}
    (h : walk d true links slash dir xs = .ok (.found q .directory)) :
    ∃ left, Descends d links dir xs q left := by
  induction links, dir, xs using walk_induction d generalizing slash with
  | nil links dir =>
    rw [walk] at h
    cases h
    exact ⟨links, .nil⟩
  | dot links dir rest ih =>
    rw [walk, if_pos rfl] at h
    obtain ⟨left, hdesc⟩ := ih h
    exact ⟨left, .dot hdesc⟩
  | dotDot links dir rest ih =>
    rw [walk, if_neg (by decide), if_pos rfl] at h
    obtain ⟨left, hdesc⟩ := ih h
    exact ⟨left, .dotDot hdesc⟩
  | name links dir c rest hdot hdotDot ihDirectory ihLink =>
    have hc := isName_of_walk hdot hdotDot h
    rw [walk_cons hc] at h
    simp only [Bool.not_true, Bool.and_false, Bool.false_and, Bool.false_eq_true, if_false] at h
    split at h
    · split at h <;> cases h
    · next hget =>
      obtain ⟨left, hdesc⟩ := ihDirectory hget h
      exact ⟨left, .directory hc hget hdesc⟩
    · split at h <;> cases h
    · next target hget =>
      split at h
      · cases h
      · next links =>
        obtain ⟨left, hdesc⟩ := ihLink links target rfl hget h
        exact ⟨left, .link hc hget hdesc⟩

/-- Where the end of a path is a name, what stands before descends to the directory. -/
theorem exists_of_lastName? {last : LastName} (h : d.lastName? path = .ok (some last)) :
    checkPath path = .ok () ∧ (ofText path).slash = last.slash ∧ last.name ≠ RawPath.dot ∧
      last.name ≠ RawPath.dotDot ∧ ∃ before left,
        (ofText path).components = before ++ [last.name] ∧
          Descends d maxLinks (d.start (ofText path)) before last.dir left := by
  simp only [lastName?, bind, Except.bind] at h
  split at h
  · cases h
  · next hchecked =>
    split at h
    · cases h
    · next name before hreverse =>
      have hcomponents : (ofText path).components = before.reverse ++ [name] := by
        rw [← List.reverse_reverse (ofText path).components, hreverse, List.reverse_cons]
      split at h
      · cases h
      · next hwalk =>
        split at h
        · cases h
        · next dir =>
          obtain ⟨left, hdesc⟩ := exists_descends_of_walk hwalk
          split at h
          · cases h
          · next hdots =>
            cases h
            exact ⟨hchecked, rfl, not_or.1 hdots |>.1, not_or.1 hdots |>.2, before.reverse, left,
              hcomponents, hdesc⟩
        · cases h

/-- A path whose end is a name that can be one of an entry names that entry. -/
theorem exists_entryAt_of_lastName? (h : d.lastName? path = .ok (some ⟨dir, name, false⟩))
    (hlen : byteCount name ≤ maxName) : ∃ left, EntryAt d path dir name left := by
  obtain ⟨hchecked, hslash, hdot, hdotDot, before, left, hcomponents, hdesc⟩ :=
    exists_of_lastName? h
  exact ⟨left, hchecked, ⟨before, ⟨hcomponents, hslash⟩, hdesc⟩, hdot, hdotDot, hlen⟩

/-- A path that leads to a directory descends to it. -/
theorem exists_descends_of_lookup {path : Text}
    (h : d.lookup true path = .ok (.found q .directory)) :
    ∃ left, Descends d maxLinks (d.start (ofText path)) (ofText path).components q left := by
  rw [Disk.lookup, checkPath_of_lookup h] at h
  exact exists_descends_of_walk h

/-- A path that descends to a directory leads to it. -/
theorem lookup_of_descends {path : Text} {left : Nat} (hchecked : checkPath path = .ok ())
    (h : Descends d maxLinks (d.start (ofText path)) (ofText path).components q left) :
    d.lookup true path = .ok (.found q .directory) := by
  rw [Disk.lookup, hchecked]
  exact walk_of_descends h _

/-- A component that descends stays, goes up, or names an entry that is there. -/
theorem Descends.exists_get? {c : Text} (h : Descends d links dir [c] p left) :
    (c = RawPath.dot ∨ c = RawPath.dotDot) ∨ IsName c ∧ ∃ e, d.get? (dir ++ [c]) = some e := by
  cases h with
  | dot => exact .inl (.inl rfl)
  | dotDot => exact .inl (.inr rfl)
  | directory hc hget => exact .inr ⟨hc, _, hget⟩
  | link hc hget => exact .inr ⟨hc, _, hget⟩

/-- Where a path leads to a directory none is made. -/
theorem makeDirectory_of_descends (hchecked : checkPath path = .ok ())
    (h : Descends d maxLinks (d.start (ofText path)) (ofText path).components dir left) :
    d.makeDirectory path = .error .exists := by
  obtain hnil | ⟨xs, c, hcomponents⟩ := List.eq_nil_or_concat' (ofText path).components
  · simp only [makeDirectory, Disk.lastName?, bind, Except.bind, hchecked, hnil, List.reverse_nil]
    rfl
  rw [hcomponents] at h
  obtain ⟨mid, between, hxs, hc⟩ := h.split
  have hreverse : (ofText path).components.reverse = c :: xs.reverse := by
    rw [hcomponents, List.reverse_append]
    rfl
  simp only [makeDirectory, Disk.lastName?, bind, Except.bind, hchecked, hreverse,
    List.reverse_reverse, walk_of_descends hxs true]
  rcases hc.exists_get? with hdots | ⟨hname, e, hget⟩
  · rw [if_pos hdots]
    rfl
  · rw [if_neg (not_or.2 ⟨hname.ne_dot, hname.ne_dotDot⟩)]
    simp only [pure, Except.pure, if_neg (Nat.not_lt.2 hname.byteCount_le), hget]

/-- A directory that is there stays as it is. -/
theorem makeDirectories_of_descends (hchecked : checkPath path = .ok ())
    (h : Descends d maxLinks (d.start (ofText path)) (ofText path).components dir left)
    (bound : Nat) {o : Outside} (hgrants : o.Grants) :
    d.makeDirectories (bound + 1) path o = (.ok (), d) := by
  have hlookup : d.lookup true path = .ok (.found dir .directory) := by
    rw [Disk.lookup, hchecked]
    exact walk_of_descends h _
  have hdirectory : d.isDirectory path = true := by simp [isDirectory, stat?, hlookup]
  rw [makeDirectories]
  by_cases hempty : path.isEmpty = true
  · rw [if_pos hempty]
  · rw [if_neg hempty, Outside.makeDirectory, hgrants.answer, makeDirectory_of_descends hchecked h]
    exact if_pos ((hgrants.isDirectory d path).trans hdirectory)

/-- The directory of an entry is there. -/
theorem EntryAt.makeDirectories_parent {parent : Text} (h : EntryAt d path dir name left)
    (hparent : RawPath.parent? path = some parent) (hne : parent ≠ []) (bound : Nat) {o : Outside}
    (hgrants : o.Grants) : d.makeDirectories (bound + 1) parent o = (.ok (), d) := by
  obtain ⟨before, hends, hdesc⟩ := h.descends
  obtain ⟨⟨parent', hisParent⟩, -⟩ := hends.exists_isParent h.isName.ne_dot
  obtain rfl : parent' = parent := Option.some.inj (hisParent.parent?.symm.trans hparent)
  obtain ⟨dots, rfl, hdots⟩ := hisParent.components
  obtain ⟨last, between, hmid, -⟩ := hdesc.split
  exact makeDirectories_of_descends (checkPath_of_head h.checked hisParent.isPrefix hne)
    (start_congr hisParent.absolute ▸ hmid) bound hgrants

end ProtoUpkeep.Disk
