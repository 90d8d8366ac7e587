import ProtoUpkeep.Proofs.Files.Directories
import ProtoUpkeep.Proofs.Files.Overwrite
import ProtoUpkeep.Proofs.Files.Shapes
import ProtoUpkeep.Proofs.Tree.ImportLines
import ProtoUpkeep.Proofs.Tree.Listing

/-!
# Flattening a tree

The listed files of a tree are flattened one after the other. What one of them becomes depends on its
own entry alone (`Entry.flattened`), and writing it changes no other entry, whatever stands around the
disk (`flattenFile_ends`). So the run over all of them is settled file by file: behind a run that
succeeds every listed file is flat and everything else is what it was (`flattenFiles_ends`,
`flattenTree_ends`). Where nothing interferes it succeeds exactly if each of the files can be flattened
(`CanFlatten`).

A file in a directory that is not seen as one is not found. Where all are seen (`ShowsAll`), flattening a
tree does exactly what it should (`flattenTree_exact`); otherwise a file may be passed over without an
error (`flattenTree_misses_long_path`).
-/

namespace ProtoUpkeep

open Disk

variable {o : Outside} {d d' d'' : Disk} {skip : List Text} {root : Path} {base rel p q : Place} {places : List Place}
  {rels : List Place} {e : Entry} {name : Text}

/-! ## Flat entries -/

namespace Entry

/-- The text of a file in a flat tree, if flattening changes it. -/
def flatText? : Entry → Option Text
  | .file content _ => (Text.ofBytes? content).bind flattenImports?
  | _ => none

/-- The entry in a flat tree. A file that is written anew is not executable. -/
def flattened (e : Entry) : Entry :=
  match e.flatText? with
  | some flat => .file flat.toBytes false
  | none => e

/-- An entry that flattening does not change. -/
theorem flattened_of_none (h : e.flatText? = none) : e.flattened = e := by
  rw [flattened, h]

/-- Flattening does not change what is flat. -/
@[simp] theorem flatText?_flattened (e : Entry) : e.flattened.flatText? = none := by
  cases hflat : e.flatText? with
  | none => rw [flattened_of_none hflat, hflat]
  | some flat =>
    rw [flattened, hflat]
    cases e with
    | file content executable =>
      obtain ⟨proto, -, hproto⟩ := Option.bind_eq_some_iff.1 hflat
      simpa [flatText?] using flattenImports?_of_eq_some hproto
    | directory => cases hflat
    | link target => cases hflat

/-- A file stays a file, and other entries stay as they are. -/
theorem like_flattened (e : Entry) : Like e e.flattened := by
  cases hflat : e.flatText? with
  | none =>
    rw [flattened_of_none hflat]
    exact .refl e
  | some flat =>
    rw [flattened, hflat]
    cases e with
    | file content executable => exact .file ..
    | directory => cases hflat
    | link target => cases hflat

end Entry

/-! ## Flat places -/

/-- Whether flattening changes a file of a tree. -/
def changes (d : Disk) (base rel : Place) : Bool := ((d.get? (base ++ rel)).bind Entry.flatText?).isSome

theorem changes_congr (h : d'.get? (base ++ rel) = d.get? (base ++ rel)) :
    changes d' base rel = changes d base rel := by
  rw [changes, changes, h]

namespace Disk

/-- There is no file below a place that has been left under a temporary name. -/
def NoLeftovers (d : Disk) (base : Place) : Prop :=
  ∀ (rel : Place) (path : Path) (content : ByteArray) (executable : Bool),
    d.get? (base ++ rel ++ [Files.temporaryName d.process path]) ≠ some (.file content executable)

theorem NoLeftovers.sameShape (h : SameShape d d') (hleft : NoLeftovers d base) :
    NoLeftovers d' base := by
  intro rel path content executable hget
  obtain ⟨content', executable', hget'⟩ := h.shrinks.file hget
  rw [h.grows.process] at hget'
  exact hleft rel path content' executable' hget'

/-- Names that do not start with a dot are no temporary ones. -/
theorem noLeftovers_ofEntries {entries : List (Place × Entry)} (h : isPlainTree entries = true)
    (hnames : ∀ x ∈ entries, ∀ name ∈ x.1.getLast?, name.head? ≠ some '.') (base : Place) :
    NoLeftovers (ofEntries entries) base := by
  intro rel path content executable hget
  have hmem := (mem_of_get?_ofEntries h hget).resolve_left (by simp)
  exact hnames _ hmem _ List.getLast?_concat rfl

/-- The disks are the same, except that the entries at some places are flat on the second. -/
structure FlattenedAt (places : List Place) (d d' : Disk) : Prop where
  /-- The entries. -/
  get? : ∀ q, d'.get? q = if q ∈ places then (d.get? q).map Entry.flattened else d.get? q
  /-- The numbers of files. A file that is written anew is one of its own. -/
  number? : ∀ q, d'.number? q =
    if q ∈ places ∧ ((d.get? q).bind Entry.flatText?).isSome then none else d.number? q
  /-- The directory that the process works in. -/
  workingDirectory : d'.workingDirectory = d.workingDirectory
  /-- The process. -/
  process : d'.process = d.process

/-- Where every entry is flat nothing changes. -/
theorem FlattenedAt.refl (h : ∀ q ∈ places, (d.get? q).bind Entry.flatText? = none) :
    FlattenedAt places d d where
  get? q := by
    split
    · next hq =>
      have hflat := h q hq
      cases hget : d.get? q with
      | none => rfl
      | some e =>
        rw [hget] at hflat
        rw [Option.map_some, Entry.flattened_of_none hflat]
    · rfl
  number? q := by
    rw [if_neg]
    rintro ⟨hq, hflat⟩
    rw [h q hq] at hflat
    cases hflat
  workingDirectory := rfl
  process := rfl

/-- Entries that are flattened one after the other. -/
theorem FlattenedAt.cons (h : FlattenedAt [p] d d') (h' : FlattenedAt places d' d'')
    (hp : p ∉ places) : FlattenedAt (p :: places) d d'' where
  get? q := by
    rw [h'.get?, h.get?]
    by_cases hq : q = p
    · simp [hq, hp]
    · simp [hq]
  number? q := by
    rw [h'.number?, h.number?, h.get?]
    by_cases hq : q = p
    · simp [hq, hp]
    · simp [hq]
  workingDirectory := h'.workingDirectory.trans h.workingDirectory
  process := h'.process.trans h.process

/-- Another file of a tree is what it was. -/
theorem FlattenedAt.get?_other (h : FlattenedAt [base ++ rel] d d') (hother : other ≠ rel) :
    d'.get? (base ++ other) = d.get? (base ++ other) := by
  rw [h.get?, if_neg]
  rwa [List.mem_singleton, List.append_cancel_left_eq]

/-- Only the places of files whose text is another one change. -/
theorem FlattenedAt.sameExcept {rels : List Place} (h : FlattenedAt (rels.map (base ++ ·)) d d') :
    SameExcept ((rels.filter (changes d base)).map (base ++ ·)) d d' := by
  have hflat : ∀ q, q ∉ (rels.filter (changes d base)).map (base ++ ·) →
      q ∈ rels.map (base ++ ·) → (d.get? q).bind Entry.flatText? = none := by
    intro q hq hmem
    obtain ⟨rel, hrel, rfl⟩ := List.mem_map.1 hmem
    have hsame : changes d base rel = false := by
      by_contra hchanges
      exact hq (List.mem_map.2 ⟨rel, List.mem_filter.2 ⟨hrel, by simpa using hchanges⟩, rfl⟩)
    rwa [changes, Option.isSome_eq_false_iff, Option.isNone_iff_eq_none] at hsame
  refine ⟨fun q hq => ?_, fun q hq => ?_, h.workingDirectory, h.process⟩
  · rw [h.get?]
    split
    · next hmem =>
      have hnone := hflat q hq hmem
      cases hget : d.get? q with
      | none => rfl
      | some e =>
        rw [hget, Option.bind_some] at hnone
        rw [Option.map_some, Entry.flattened_of_none hnone]
    · rfl
  · rw [h.number?, if_neg]
    rintro ⟨hmem, hsome⟩
    rw [hflat q hq hmem] at hsome
    cases hsome

/-- Flattening keeps the shape. -/
theorem FlattenedAt.sameShape (h : FlattenedAt places d d') : SameShape d d' := by
  have hlike : ∀ q e, d.get? q = some e → ∃ e', d'.get? q = some e' ∧ Like e e' := by
    intro q e hget
    rw [h.get?, hget]
    split
    · exact ⟨_, rfl, e.like_flattened⟩
    · exact ⟨e, rfl, .refl e⟩
  refine ⟨⟨hlike, h.workingDirectory, h.process⟩, ⟨fun q e' hget => ?_,
    h.workingDirectory.symm, h.process.symm⟩⟩
  cases hget₀ : d.get? q with
  | none =>
    rw [h.get?, hget₀] at hget
    simp at hget
  | some e =>
    obtain ⟨e'', hget'', hlike'⟩ := hlike q e hget₀
    cases hget.symm.trans hget''
    exact ⟨e, rfl, hlike'.symm⟩

end Disk

/-! ## One file -/

/-- The temporary file of a file in a tree can be written. -/
structure TemporaryFits (d : Disk) (root : Path) (base rel : Place) : Prop where
  /-- Its path is one. -/
  checked : checkPath (Files.temporaryPath d.process (root.below rel)).text = .ok ()
  /-- Its name can be one of an entry. -/
  isName : IsName (Files.temporaryName d.process (root.below rel))
  /-- No directory has the name. -/
  ne_directory : d.get? (base ++ rel.dropLast ++ [Files.temporaryName d.process (root.below rel)]) ≠
    some .directory

/-- The temporary file fits beside a file that can be reached, if its own path leads to a name that
no directory has. -/
theorem temporaryFits_iff {left : Nat}
    (h : EntryAt d (root.below (rel ++ [name])).text (base ++ rel) name left) :
    TemporaryFits d root base (rel ++ [name]) ↔
      EntryAt d (Files.temporaryPath d.process (root.below (rel ++ [name]))).text (base ++ rel)
          (Files.temporaryName d.process (root.below (rel ++ [name]))) left ∧
        d.get? (base ++ rel ++ [Files.temporaryName d.process (root.below (rel ++ [name]))]) ≠
          some .directory := by
  constructor
  · rintro ⟨hchecked, hname, hdirectory⟩
    rw [List.dropLast_concat] at hdirectory
    exact ⟨h.beside (fun before hends => Files.beside_temporaryPath hends h.isName d.process)
      hchecked hname, hdirectory⟩
  · rintro ⟨htemporary, hdirectory⟩
    exact ⟨htemporary.checked, htemporary.isName, by rwa [List.dropLast_concat]⟩

/-- A temporary name that no directory of a tree has is free, if the tree has no leftovers. -/
theorem free_temporaryName {path : Path} (hplain : PlainBelow d base) (hleft : NoLeftovers d base)
    (hdirectory : d.get? (base ++ rel ++ [Files.temporaryName d.process path]) ≠ some .directory) :
    d.get? (base ++ rel ++ [Files.temporaryName d.process path]) = none := by
  cases hthere : d.get? (base ++ rel ++ [Files.temporaryName d.process path]) with
  | none => rfl
  | some e =>
    cases e with
    | file content executable => exact absurd hthere (hleft rel path content executable)
    | directory => exact absurd hthere hdirectory
    | link target =>
      rw [List.append_assoc] at hthere
      exact absurd hthere hplain.ne_link

/-- A file of a tree can be flattened: it is a text, and can be written if flattening changes it. -/
structure CanFlatten (d : Disk) (root : Path) (base rel : Place) : Prop where
  /-- Its path is one. -/
  checked : checkPath (root.below rel).text = .ok ()
  /-- It is a text. -/
  exists_text : ∃ content executable proto, d.get? (base ++ rel) = some (.file content executable) ∧
    Text.ofBytes? content = some proto
  /-- It can be written. -/
  fits : (d.get? (base ++ rel)).bind Entry.flatText? ≠ none → TemporaryFits d root base rel

/-- Whether a file can be flattened depends on its entry, flat or not, and on the shape of the
disk. -/
theorem CanFlatten.congr (h : CanFlatten d root base rel) (hshape : SameShape d d')
    (hget : d'.get? (base ++ rel) = d.get? (base ++ rel) ∨
      d'.get? (base ++ rel) = (d.get? (base ++ rel)).map Entry.flattened) :
    CanFlatten d' root base rel := by
  obtain ⟨content, executable, proto, hget₀, hbytes⟩ := h.exists_text
  rw [hget₀, Option.map_some] at hget
  have hfits : (d.get? (base ++ rel)).bind Entry.flatText? ≠ none →
      TemporaryFits d' root base rel := fun hchanged => by
    obtain ⟨hchecked, hname, hdirectory⟩ := h.fits hchanged
    rw [← hshape.grows.process] at hchecked hname hdirectory
    exact ⟨hchecked, hname, fun hget' => hdirectory (hshape.shrinks.directory hget')⟩
  rcases hget with hsame | hflat
  · refine ⟨h.checked, ⟨content, executable, proto, hsame, hbytes⟩, fun hchanged => hfits ?_⟩
    rwa [hsame, ← hget₀] at hchanged
  · refine ⟨h.checked, ?_, fun hchanged => absurd (by simp [hflat]) hchanged⟩
    cases hnone : (Entry.file content executable).flatText? with
    | none => exact ⟨content, executable, proto, by rw [hflat, Entry.flattened_of_none hnone], hbytes⟩
    | some flat =>
      refine ⟨flat.toBytes, false, flat, ?_, Text.ofBytes?_toBytes flat⟩
      rw [hflat, Entry.flattened, hnone]

section Run

variable (hd : Sound d) (hplain : PlainBelow d base)
  (hroot : d.lookup true root.text = .ok (.found base .directory)) (hleft : NoLeftovers d base)

include hd hplain hroot

/-- A text is read from a file of a tree if its bytes write one, its path is one and that is not
refused. -/
theorem runOn_readText_below {proto : Text} {d₁ : Disk} (hne : rel ≠ [])
    (hget : d.get? (base ++ rel) = some e) :
    (Files.readText (root.below rel)).runOn d o = (.ok proto, d₁) ↔
      d₁ = d ∧ o.refuses d (.read (root.below rel).text) = none ∧
        checkPath (root.below rel).text = .ok () ∧
        ∃ content executable, e = .file content executable ∧ Text.ofBytes? content = some proto := by
  rw [Files.runOn_readText_eq_ok_iff_of_outside]
  refine and_congr_right fun _ => and_congr_right fun _ => ⟨?_, ?_⟩
  · rintro ⟨q, content, executable, hlookup, hbytes⟩
    have hchecked := checkPath_of_lookup hlookup
    rw [lookup_below hd hplain hroot hne hget hchecked] at hlookup
    cases hlookup
    exact ⟨hchecked, content, executable, rfl, hbytes⟩
  · rintro ⟨hchecked, content, executable, rfl, hbytes⟩
    exact ⟨_, content, executable, lookup_below hd hplain hroot hne hget hchecked, hbytes⟩

include hleft

/-- A file of a tree is written in one step, or that is refused; where nothing interferes it is
refused only if its temporary file does not fit. -/
theorem runOn_writeText_below (hne : rel ≠ []) {content : ByteArray} {executable : Bool}
    (hget : d.get? (base ++ rel) = some (.file content executable))
    (hchecked : checkPath (root.below rel).text = .ok ()) (flat : Text) (o : Outside) :
    (∃ error d', (Files.writeText (root.below rel) flat).runOn d o = (.error error, d') ∧
      (o.Grants → d' = d ∧ ¬ TemporaryFits d root base rel)) ∨
    (TemporaryFits d root base rel ∧ ∃ d',
      (Files.writeText (root.below rel) flat).runOn d o = (.ok (), d') ∧
        SameExcept [base ++ rel] d d' ∧ d'.get? (base ++ rel) = some (.file flat.toBytes false) ∧
        d'.number? (base ++ rel) = none) := by
  obtain ⟨rel, name, rfl⟩ := (List.eq_nil_or_concat' rel).resolve_left hne
  have hnames := hd.isPlainName hplain hget
  rw [← List.append_assoc] at hget ⊢
  obtain ⟨left, hentry⟩ := exists_entryAt_below hd hroot hnames (.inr (hd.parent hget)) hchecked
  have hfits := temporaryFits_iff hentry
  by_cases hdirectory : d.get? (base ++ rel ++
      [Files.temporaryName d.process (root.below (rel ++ [name]))]) = some .directory
  · obtain ⟨error, hrun⟩ := Files.runOn_writeAtomic_of_directory hentry hdirectory o flat.toBytes
    exact .inl ⟨error, d, hrun, fun _ => ⟨rfl, fun h => (hfits.1 h).2 hdirectory⟩⟩
  · have hfree := free_temporaryName hplain hleft hdirectory
    have hnot : d.get? (base ++ rel ++ [name]) ≠ some .directory := fun hdir => by
      cases hget.symm.trans hdir
    rcases Files.runOn_writeAtomic hentry hnot (fun _ => hfree) o flat.toBytes with
      ⟨error, d', hrun, hgrants⟩ | ⟨htemporary, hwritten⟩
    · exact .inl ⟨error, d', hrun, fun h => ⟨(hgrants h).1, fun hfit => (hgrants h).2 (hfits.1 hfit).1⟩⟩
    · exact .inr ⟨hfits.2 ⟨htemporary, hdirectory⟩, hwritten⟩

/-- How flattening a file of a tree ends. -/
inductive FileEnd (o : Outside) (d : Disk) (root : Path) (base rel : Place) (e : Entry) :
    Except FileError Bool × Disk → Prop
  /-- It is refused. A file that is flat is left alone. -/
  | failed {error : FileError} {d' : Disk} : (e.flatText? = none → d' = d) →
    (o.Grants → d' = d ∧ ¬ CanFlatten d root base rel) → FileEnd o d root base rel e (.error error, d')
  /-- It is flat, and nothing else has changed. -/
  | flat {d' : Disk} : CanFlatten d root base rel → FlattenedAt [base ++ rel] d d' →
    (e.flatText? = none → d' = d) → FileEnd o d root base rel e (.ok e.flatText?.isSome, d')

/-- Flattening a file of a tree ends in one of these ways. -/
theorem flattenFile_ends (hne : rel ≠ []) (hget : d.get? (base ++ rel) = some e) (o : Outside) :
    FileEnd o d root base rel e ((flattenFile (root.below rel)).runOn d o) := by
  rcases hread : (Files.readText (root.below rel)).runOn d o with ⟨r, d₁⟩
  cases r with
  | error error =>
    obtain rfl := (Files.readsOnly_readText _).eq_of_runOn hread
    rw [flattenFile, DiskAction.runOn_bind_error hread]
    refine .failed (fun _ => rfl) fun hgrants => ⟨rfl, fun h => ?_⟩
    obtain ⟨content, executable, proto, hget', hbytes⟩ := h.exists_text
    cases hget.symm.trans hget'
    have hok := (runOn_readText_below hd hplain hroot hne hget).2
      ⟨rfl, hgrants.refuses _ _, h.checked, content, executable, rfl, hbytes⟩
    cases hread.symm.trans hok
  | ok proto =>
    obtain ⟨rfl, -, hchecked, content, executable, rfl, hbytes⟩ :=
      (runOn_readText_below hd hplain hroot hne hget).1 hread
    have hflat : (Entry.file content executable).flatText? = flattenImports? proto := by
      simp [Entry.flatText?, hbytes]
    have htext : ∃ content executable proto, d₁.get? (base ++ rel) = some (.file content executable) ∧
        Text.ofBytes? content = some proto := ⟨content, executable, proto, hget, hbytes⟩
    rw [flattenFile, DiskAction.runOn_bind_ok hread]
    cases hproto : flattenImports? proto with
    | none =>
      rw [hproto] at hflat
      have hsame : (d₁.get? (base ++ rel)).bind Entry.flatText? = none := by
        rw [hget, Option.bind_some, hflat]
      have hend : FileEnd o d₁ root base rel (.file content executable)
          (.ok (Entry.file content executable).flatText?.isSome, d₁) :=
        .flat ⟨hchecked, htext, fun h => absurd hsame h⟩
          (.refl fun q hq => by rw [List.mem_singleton.1 hq, hsame]) fun _ => rfl
      rwa [hflat] at hend
    | some flat =>
      rw [hproto] at hflat
      have hchanges : (d₁.get? (base ++ rel)).bind Entry.flatText? ≠ none := by
        rw [hget, Option.bind_some, hflat]
        simp
      rcases runOn_writeText_below hd hplain hroot hleft hne hget hchecked flat o with
        ⟨error, d', hrun, hgrants⟩ | ⟨hfits, d', hrun, hsame, hget', hnumber⟩
      · have hrun' := DiskAction.runOn_bind_error (f := fun _ => pure true) hrun
        refine hrun' ▸ .failed (by simp [hflat]) fun h => ⟨(hgrants h).1, fun hcan => ?_⟩
        exact (hgrants h).2 (hcan.fits hchanges)
      · have hrun' := DiskAction.runOn_bind_ok (f := fun _ => pure true) hrun
        have hat : FlattenedAt [base ++ rel] d₁ d' := by
          refine ⟨fun q => ?_, fun q => ?_, hsame.workingDirectory, hsame.process⟩
          · by_cases hq : q = base ++ rel
            · rw [hq, hget', if_pos (by simp), hget, Option.map_some, Entry.flattened, hflat]
            · rw [if_neg (by simpa using hq), hsame.get? q (by simpa using hq)]
          · by_cases hq : q = base ++ rel
            · rw [hq, hnumber, if_pos ⟨by simp, Option.isSome_iff_ne_none.2 hchanges⟩]
            · rw [if_neg (by simp [hq]), hsame.number? q (by simpa using hq)]
        have hend : FileEnd o d₁ root base rel (.file content executable)
            (.ok (Entry.file content executable).flatText?.isSome, d') :=
          .flat ⟨hchecked, htext, fun _ => hfits⟩ hat (by simp [hflat])
        rw [hflat] at hend
        exact hrun' ▸ hend

end Run

/-! ## A tree -/

/-- How flattening files of a tree one after the other ends. -/
inductive FilesEnd (o : Outside) (d : Disk) (root : Path) (base : Place) (rels : List Place) :
    Except FileError (List Path) × Disk → Prop
  /-- One of them is refused. Where nothing interferes it cannot be flattened, and some others are
  flat. -/
  | failed {error : FileError} {d' : Disk} : ((∀ rel ∈ rels, changes d base rel = false) → d' = d) →
    (o.Grants → (∃ rel ∈ rels, ¬ CanFlatten d root base rel) ∧
      ∃ done, done ⊆ rels ∧ FlattenedAt (done.map (base ++ ·)) d d') →
    FilesEnd o d root base rels (.error error, d')
  /-- They are flat, and nothing else has changed. -/
  | flat {d' : Disk} : (∀ rel ∈ rels, CanFlatten d root base rel) →
    FlattenedAt (rels.map (base ++ ·)) d d' →
    ((∀ rel ∈ rels, changes d base rel = false) → d' = d) →
    FilesEnd o d root base rels (.ok ((rels.filter (changes d base)).map root.below), d')

/-- One more file is flattened in front of others. -/
theorem FilesEnd.cons {flag : Bool} {outcome : Except FileError (List Path) × Disk}
    (hnot : rel ∉ rels) (hcan : CanFlatten d root base rel) (hflat : FlattenedAt [base ++ rel] d d')
    (hsame : changes d base rel = false → d' = d) (hflag : changes d base rel = flag)
    (h : FilesEnd o d' root base rels outcome) : FilesEnd o d root base (rel :: rels)
      (outcome.1.map fun others => if flag then root.below rel :: others else others, outcome.2) := by
  -- The other files are what they were, so what holds of them holds on the disk behind.
  have hshape := hflat.sameShape
  have hother : ∀ r ∈ rels, d'.get? (base ++ r) = d.get? (base ++ r) := fun r hr =>
    hflat.get?_other (ne_of_mem_of_not_mem hr hnot)
  have hunchanged : (∀ r ∈ rel :: rels, changes d base r = false) →
      d' = d ∧ ∀ r ∈ rels, changes d' base r = false := fun hall =>
    ⟨hsame (hall rel (by simp)), fun r hr => by
      rw [changes_congr (hother r hr)]
      exact hall r (by simp [hr])⟩
  have hfresh : ∀ done : List Place, done ⊆ rels → base ++ rel ∉ done.map (base ++ ·) := by
    intro done hdone hmem
    obtain ⟨r, hr, heq⟩ := List.mem_map.1 hmem
    exact hnot (List.append_cancel_left heq ▸ hdone hr)
  cases h with
  | failed hsame' hgrants =>
    refine .failed (fun hall => ?_) fun h => ?_
    · obtain ⟨rfl, hrest⟩ := hunchanged hall
      exact hsame' hrest
    · obtain ⟨⟨r, hr, hcannot⟩, done, hdone, hflat'⟩ := hgrants h
      exact ⟨⟨r, by simp [hr], fun hc => hcannot (hc.congr hshape (.inl (hother r hr)))⟩, rel :: done,
        List.cons_subset_cons rel hdone, hflat.cons hflat' (hfresh done hdone)⟩
  | flat hcan' hflat' hsame' =>
    have hfilter : rels.filter (changes d' base) = rels.filter (changes d base) :=
      List.filter_congr fun r hr => changes_congr (hother r hr)
    have hresult : (((rel :: rels).filter (changes d base)).map root.below) =
        if flag then root.below rel :: (rels.filter (changes d' base)).map root.below
        else (rels.filter (changes d' base)).map root.below := by
      rw [hfilter, List.filter_cons, hflag]
      cases flag <;> rfl
    have hall : ∀ r ∈ rel :: rels, CanFlatten d root base r := by
      intro r hr
      rcases List.mem_cons.1 hr with rfl | hr
      · exact hcan
      · exact (hcan' r hr).congr hshape.symm (.inl (hother r hr).symm)
    dsimp only [Except.map]
    rw [← hresult]
    refine .flat hall (hflat.cons hflat' (hfresh rels (List.Subset.refl _))) fun hnone => ?_
    obtain ⟨rfl, hrest⟩ := hunchanged hnone
    exact hsame' hrest

/-- Flattening files of a tree one after the other ends in one of these ways. -/
theorem flattenFiles_ends (hd : Sound d) (hplain : PlainBelow d base)
    (hroot : d.lookup true root.text = .ok (.found base .directory)) (hleft : NoLeftovers d base)
    (hthere : ∀ rel ∈ rels, rel ≠ [] ∧ ∃ e, d.get? (base ++ rel) = some e) (hnodup : rels.Nodup)
    (o : Outside) :
    FilesEnd o d root base rels ((flattenFiles (rels.map root.below)).runOn d o) := by
  induction rels generalizing d with
  | nil => exact .flat (by simp) (.refl (by simp)) fun _ => rfl
  | cons rel rels ih =>
    obtain ⟨hnot, hnodup⟩ := List.nodup_cons.1 hnodup
    obtain ⟨hne, e, hget⟩ := hthere rel (by simp)
    have hchanges : changes d base rel = e.flatText?.isSome := by
      rw [changes, hget, Option.bind_some]
    have hnone : changes d base rel = false → e.flatText? = none := fun h => by
      rwa [hchanges, Option.isSome_eq_false_iff, Option.isNone_iff_eq_none] at h
    rw [List.map_cons, flattenFiles]
    have hend := flattenFile_ends hd hplain hroot hleft hne hget o
    rcases hrun : (flattenFile (root.below rel)).runOn d o with ⟨r, d₁⟩
    rw [hrun] at hend
    cases hend with
    | failed hsame hgrants =>
      rw [DiskAction.runOn_bind_error hrun]
      refine .failed (fun hall => hsame (hnone (hall rel (by simp)))) fun h => ?_
      obtain ⟨rfl, hcannot⟩ := hgrants h
      exact ⟨⟨rel, by simp, hcannot⟩, [], by simp, .refl (by simp)⟩
    | flat hcan hflat hsame =>
      have hshape := hflat.sameShape
      have hthere₁ : ∀ r ∈ rels, r ≠ [] ∧ ∃ e, d₁.get? (base ++ r) = some e := fun r hr => by
        rw [hflat.get?_other (ne_of_mem_of_not_mem hr hnot)]
        exact hthere r (by simp [hr])
      have hrest := ih (hd.sameShape hshape) (hplain.sameShape hshape)
        (lookup_directory_grows hshape.grows hroot) (hleft.sameShape hshape) hthere₁ hnodup
      have hcons := hrest.cons hnot hcan hflat (fun h => hsame (hnone h)) hchanges
      rw [DiskAction.runOn_bind_ok hrun]
      rcases hrun' : (flattenFiles (rels.map root.below)).runOn d₁ o with ⟨r', d₂⟩
      rw [hrun'] at hcons
      cases r' with
      | error error =>
        rw [DiskAction.runOn_bind_error hrun']
        exact hcons
      | ok others =>
        rw [DiskAction.runOn_bind_ok hrun']
        exact hcons

/-- How flattening a tree ends. -/
inductive TreeEnd (o : Outside) (d : Disk) (skip : List Text) (root : Path) (base : Place) :
    Except TreeError (List Path) × Disk → Prop
  /-- It is refused. Where nothing interferes one of the listed files cannot be flattened, and some
  others are flat. -/
  | failed {error : TreeError} {d' : Disk} :
    ((∀ rel, IsListed o d skip root base rel → changes d base rel = false) → d' = d) →
    (o.Grants → (∃ rel, IsListed o d skip root base rel ∧ ¬ CanFlatten d root base rel) ∧
      ∃ done : List Place, (∀ rel ∈ done, IsListed o d skip root base rel) ∧
        FlattenedAt (done.map (base ++ ·)) d d') → TreeEnd o d skip root base (.error error, d')
  /-- The listed files are flat, and nothing else has changed. -/
  | flat {rels : List Place} {d' : Disk} : rels.Pairwise (· < ·) →
    (∀ rel, rel ∈ rels ↔ IsListed o d skip root base rel) →
    (∀ rel ∈ rels, CanFlatten d root base rel) → FlattenedAt (rels.map (base ++ ·)) d d' →
    ((∀ rel ∈ rels, changes d base rel = false) → d' = d) →
    TreeEnd o d skip root base (.ok ((rels.filter (changes d base)).map root.below), d')

/-- Flattening a tree ends in one of these ways. -/
theorem flattenTree_ends (hd : Sound d) (hplain : PlainBelow d base)
    (hroot : d.lookup true root.text = .ok (.found base .directory)) (hleft : NoLeftovers d base)
    (skip : List Text) (o : Outside) :
    TreeEnd o d skip root base ((flattenTree root skip).runOn d o) := by
  have hisDirectory : (Files.isDirectory root : DiskAction TreeError Bool).runOn d o =
      (.ok (o.isDirectory d root.text), d) := DiskAction.runOn_ofQuery _ _
  rw [flattenTree, DiskAction.runOn_bind_ok hisDirectory]
  cases hseen : o.isDirectory d root.text with
  | false =>
    rw [if_neg (by simp)]
    refine .failed (fun _ => rfl) fun hgrants => ?_
    rw [hgrants.isDirectory, Bool.eq_false_iff] at hseen
    exact absurd (isDirectory_eq_true_iff.2 ⟨_, hroot⟩) hseen
  | true =>
    rw [if_pos rfl]
    have hsearch := protosIn_ends hd hplain hroot skip o
    have hlisting : (DiskAction.ofQuery fun o d => protosIn d skip Disk.maxPath root ⟨[]⟩ o).runOn d o =
        (protosIn d skip Disk.maxPath root ⟨[]⟩ o, d) := DiskAction.runOn_ofQuery _ _
    generalize protosIn d skip Disk.maxPath root ⟨[]⟩ o = found at hsearch hlisting
    cases hsearch with
    | refused hrefused =>
      rw [DiskAction.runOn_mapError_error (DiskAction.runOn_bind_error hlisting)]
      refine .failed (fun _ => rfl) fun hgrants => ?_
      obtain ⟨call, hcall⟩ := hrefused
      rw [hgrants.refuses] at hcall
      cases hcall
    | @found rels hfinds =>
      have hmem : ∀ rel, rel ∈ rels ↔ IsListed o d skip root base rel := fun rel => by
        rw [hfinds.mem_iff, and_iff_right List.nil_prefix]
      have hthere : ∀ rel ∈ rels, rel ≠ [] ∧ ∃ e, d.get? (base ++ rel) = some e := fun rel hrel =>
        ⟨((hmem rel).1 hrel).ne_nil, ((hmem rel).1 hrel).exists_get?.imp fun _ h => h.1⟩
      have hnodup : rels.Nodup := by
        refine hfinds.pairwise.imp fun {r r'} hlt => ?_
        rintro rfl
        exact List.lt_irrefl r hlt
      have hend := flattenFiles_ends hd hplain hroot hleft hthere hnodup o
      have hbind := DiskAction.runOn_bind_ok (f := flattenFiles) hlisting
      rcases hrun : (flattenFiles (rels.map root.below)).runOn d o with ⟨r, d'⟩
      rw [hrun] at hend hbind
      cases hend with
      | failed hsame hgrants =>
        rw [DiskAction.runOn_mapError_error hbind]
        refine .failed (fun hall => hsame fun rel hrel => hall rel ((hmem rel).1 hrel)) fun h => ?_
        obtain ⟨⟨rel, hrel, hcannot⟩, done, hdone, hflat⟩ := hgrants h
        exact ⟨⟨rel, (hmem rel).1 hrel, hcannot⟩, done, fun r hr => (hmem r).1 (hdone hr), hflat⟩
      | flat hcan hflat hsame =>
        rw [DiskAction.runOn_mapError_ok hbind]
        exact .flat hfinds.pairwise hmem hcan hflat hsame

/-- Whether a path leads to a directory depends on the shape of the disk. -/
theorem Disk.SameShape.isDirectory_eq (h : SameShape d d') (path : Text) :
    o.isDirectory d' path = o.isDirectory d path := by
  have hiff : d'.isDirectory path = d.isDirectory path := by
    rw [Bool.eq_iff_iff, isDirectory_eq_true_iff, isDirectory_eq_true_iff]
    exact ⟨fun ⟨q, hq⟩ => ⟨q, lookup_directory_grows h.shrinks hq⟩,
      fun ⟨q, hq⟩ => ⟨q, lookup_directory_grows h.grows hq⟩⟩
  rw [Outside.isDirectory, Outside.isDirectory, hiff]

/-- What is listed depends on the shape of the disk. -/
theorem IsListed.sameShape (h : IsListed o d skip root base rel) (hshape : SameShape d d') :
    IsListed o d' skip root base rel where
  ne_nil := h.ne_nil
  exists_get? := by
    obtain ⟨e, hget, hnot⟩ := h.exists_get?
    obtain ⟨e', hget', hlike⟩ := hshape.grows.get? _ _ hget
    refine ⟨e', hget', fun heq => ?_⟩
    subst heq
    rw [hshape.isDirectory_eq]
    exact hnot hlike.symm.eq_directory
  extension := h.extension
  not_skipped := h.not_skipped
  reached above name hpre := by
    obtain ⟨hseen, homits⟩ := h.reached above name hpre
    exact ⟨fun hne => by rw [hshape.isDirectory_eq, hseen hne], homits⟩

/-! ## Trees that are seen as a whole -/

/-- The directories below the root, outside those to skip, are seen as directories, and so are the names
in them. -/
structure ShowsAll (o : Outside) (d : Disk) (skip : List Text) (root : Path) (base : Place) : Prop where
  /-- The directories. -/
  isDirectory : ∀ rel, rel ≠ [] → (∀ c ∈ rel, c ∉ skip) →
    d.get? (base ++ rel) = some .directory → o.isDirectory d (root.below rel).text = true
  /-- The names. -/
  omits : ∀ rel name, (∀ c ∈ rel, c ∉ skip) → d.get? (base ++ rel ++ [name]) ≠ none →
    o.omits (root.below rel).text name = false

/-- Where a tree is seen as a whole a search comes to each of its entries, unless it is below a directory
to skip. -/
theorem ShowsAll.shows (hshows : ShowsAll o d skip root base) (hd : Sound d)
    (hget : d.get? (base ++ rel) = some e) (hskip : ∀ c ∈ rel.dropLast, c ∉ skip) (above : Place)
    (name : Text) (hpre : above ++ [name] <+: rel) : Shows o d root above name := by
  obtain ⟨rest, rfl⟩ := hpre
  have habove : ∀ c ∈ above, c ∉ skip := fun c hc => hskip c (by
    rw [List.append_assoc, List.dropLast_append_of_ne_nil (by simp)]
    exact List.mem_append_left _ hc)
  have hsplit : base ++ (above ++ [name] ++ rest) = base ++ above ++ [name] ++ rest := by simp
  rw [hsplit] at hget
  have hthere : ∃ e, d.get? (base ++ above ++ [name]) = some e := by
    by_cases hrest : rest = []
    · rw [hrest, List.append_nil] at hget
      exact ⟨e, hget⟩
    · exact ⟨_, hd.directory hrest hget⟩
  obtain ⟨e', hget'⟩ := hthere
  exact ⟨fun hne => hshows.isDirectory above hne habove (hd.parent hget'),
    hshows.omits above name habove fun hnone => by cases hget'.symm.trans hnone⟩

/-- A proto file of a tree whose text is another one in the flat tree: a file with the extension
`proto`, below no directory to skip. -/
structure Flattens (d : Disk) (skip : List Text) (root : Path) (base rel : Place) (flat : Text) :
    Prop where
  /-- Its text is another one when it is flat. -/
  text : ∃ content executable proto, d.get? (base ++ rel) = some (.file content executable) ∧
    Text.ofBytes? content = some proto ∧ flattenImports? proto = some flat
  /-- It has the extension. -/
  extension : (root.below rel).extension? = some protoExtension
  /-- No directory to skip is above it. -/
  not_skipped : ∀ c ∈ rel.dropLast, c ∉ skip

theorem Flattens.flatText? {flat : Text} (h : Flattens d skip root base rel flat) :
    (d.get? (base ++ rel)).bind Entry.flatText? = some flat := by
  obtain ⟨content, executable, proto, hget, hbytes, hflat⟩ := h.text
  simp [hget, Entry.flatText?, hbytes, hflat]

/-- A proto file whose text is another one when it is flat is listed, if the tree is seen. -/
theorem Flattens.isListed {flat : Text} (hd : Sound d) (hshows : ShowsAll o d skip root base)
    (hroot : d.lookup true root.text = .ok (.found base .directory))
    (h : Flattens d skip root base rel flat) : IsListed o d skip root base rel := by
  obtain ⟨content, executable, proto, hget, -, -⟩ := h.text
  have hne : rel ≠ [] := by
    rintro rfl
    rw [List.append_nil] at hget
    cases hget.symm.trans (hd.directory_of_lookup hroot)
  exact ⟨hne, ⟨_, hget, by simp⟩, h.extension, h.not_skipped, hshows.shows hd hget h.not_skipped⟩

/-- The listed files that flattening changes are those whose text is another one. -/
theorem exists_flattens_iff (hd : Sound d) (hshows : ShowsAll o d skip root base)
    (hroot : d.lookup true root.text = .ok (.found base .directory))
    (hcan : IsListed o d skip root base rel → CanFlatten d root base rel) :
    (∃ flat, Flattens d skip root base rel flat) ↔
      IsListed o d skip root base rel ∧ changes d base rel = true := by
  constructor
  · rintro ⟨flat, h⟩
    exact ⟨h.isListed hd hshows hroot, by rw [changes, h.flatText?]; rfl⟩
  · rintro ⟨hlisted, hchanges⟩
    obtain ⟨-, ⟨content, executable, proto, hget, hbytes⟩, -⟩ := hcan hlisted
    rw [changes, hget, Option.bind_some, Entry.flatText?, hbytes, Option.bind_some,
      Option.isSome_iff_exists] at hchanges
    obtain ⟨flat, hflat⟩ := hchanges
    exact ⟨flat, ⟨content, executable, proto, hget, hbytes, hflat⟩, hlisted.extension,
      hlisted.not_skipped⟩

/-- What is listed where something else stands around the disk is listed where the tree is seen as a
whole, unless it is seen as a directory there. -/
theorem IsListed.of_showsAll {o' : Outside} (hd : Sound d) (hshows : ShowsAll o d skip root base)
    (h : IsListed o' d skip root base rel) (hdir : d.get? (base ++ rel) = some .directory →
      o.isDirectory d (root.below rel).text = false) : IsListed o d skip root base rel := by
  obtain ⟨e, hget, -⟩ := h.exists_get?
  exact ⟨h.ne_nil, ⟨e, hget, fun heq => hdir (heq ▸ hget)⟩, h.extension, h.not_skipped,
    hshows.shows hd hget h.not_skipped⟩

section Again

variable (hd : Sound d) (hplain : PlainBelow d base)
  (hroot : d.lookup true root.text = .ok (.found base .directory)) (hleft : NoLeftovers d base)
  (hshows : ShowsAll o d skip root base)
  (hmem : ∀ rel, rel ∈ rels ↔ IsListed o d skip root base rel)
  (hcan : ∀ rel ∈ rels, CanFlatten d root base rel)
  (hflat : FlattenedAt (rels.map (base ++ ·)) d d')

include hd hshows hmem hflat

/-- Nothing that is listed on a flat tree changes any more, whatever stands around the disk. -/
theorem changes_eq_false_of_flattenedAt {o' : Outside} (h : IsListed o' d' skip root base rel) :
    changes d' base rel = false := by
  have hlisted := h.sameShape hflat.sameShape.symm
  obtain ⟨e, hget, -⟩ := hlisted.exists_get?
  cases e with
  | file content executable =>
    have hrel := (hmem rel).2 (hlisted.of_showsAll hd hshows (by simp [hget]))
    rw [changes, hflat.get?, if_pos (List.mem_map.2 ⟨rel, hrel, rfl⟩)]
    cases d.get? (base ++ rel) <;> simp
  | directory | link =>
    rw [changes, hflat.get?, hget]
    split <;> rfl

include hplain hroot hleft hcan

/-- A flat tree stays as it is when it is flattened again, whatever stands around the disk, and nothing
is reported where nothing interferes. -/
theorem runOn_flattenTree_of_flattenedAt (o' : Outside) :
    ((flattenTree root skip).runOn d' o').2 = d' ∧
      (o'.Grants → (flattenTree root skip).runOn d' o' = (.ok [], d')) := by
  have hshape := hflat.sameShape
  have hunchanged : ∀ rel, IsListed o' d' skip root base rel → changes d' base rel = false :=
    fun rel => changes_eq_false_of_flattenedAt hd hshows hmem hflat
  have hend := flattenTree_ends (hd.sameShape hshape) (hplain.sameShape hshape)
    (lookup_directory_grows hshape.grows hroot) (hleft.sameShape hshape) skip o'
  generalize (flattenTree root skip).runOn d' o' = outcome at hend ⊢
  cases hend with
  | failed hsame hgrants =>
    refine ⟨hsame hunchanged, fun h => ?_⟩
    obtain ⟨⟨rel, hlisted, hcannot⟩, -⟩ := hgrants h
    -- What is listed now was listed the first time, and could be flattened.
    have hbefore := hlisted.sameShape hshape.symm
    have hdir : d.get? (base ++ rel) = some .directory →
        o.isDirectory d (root.below rel).text = false := by
      intro hget
      obtain ⟨e, hget', hnot⟩ := hbefore.exists_get?
      cases hget.symm.trans hget'
      have hunseen := hnot rfl
      rw [h.isDirectory] at hunseen
      rw [Outside.isDirectory, hunseen, Bool.and_false]
    have hrel := (hmem rel).2 (hbefore.of_showsAll hd hshows hdir)
    refine absurd ((hcan rel hrel).congr hshape (.inr ?_)) hcannot
    rw [hflat.get?, if_pos (List.mem_map.2 ⟨rel, hrel, rfl⟩)]
  | @flat rels' d'' hpairwise hmem' hcan' hflat' hsame =>
    have hnone : ∀ rel ∈ rels', changes d' base rel = false := fun rel hrel =>
      hunchanged rel ((hmem' rel).1 hrel)
    have hnil : rels'.filter (changes d' base) = [] := by
      rw [List.filter_eq_nil_iff]
      exact fun rel hrel => by simp [hnone rel hrel]
    obtain rfl := hsame hnone
    rw [hnil]
    exact ⟨rfl, fun _ => rfl⟩

end Again

/-- Flattening a tree of files and directories, where no temporary file is left over, does exactly
this, whatever stands around the disk, if all directories and names of the tree are seen. The result
lists the proto files whose text is another one in the flat tree, directory by directory in the order of
the names; these now hold that text, and every other entry is what it was. Flattening the tree again
changes nothing, and reports nothing if nothing interferes. -/
theorem flattenTree_exact {updated : List Path} (hd : Sound d) (hplain : PlainBelow d base)
    (hroot : d.lookup true root.text = .ok (.found base .directory)) (hleft : NoLeftovers d base)
    (hshows : ShowsAll o d skip root base)
    (hrun : (flattenTree root skip).runOn d o = (.ok updated, d')) :
    ∃ rels : List Place, updated = rels.map root.below ∧ rels.Pairwise (· < ·) ∧
      (∀ rel, rel ∈ rels ↔ ∃ flat, Flattens d skip root base rel flat) ∧
      (∀ rel flat, Flattens d skip root base rel flat →
        d'.get? (base ++ rel) = some (.file flat.toBytes false)) ∧
      SameExcept (rels.map (base ++ ·)) d d' ∧
      ∀ o' : Outside, ((flattenTree root skip).runOn d' o').2 = d' ∧
        (o'.Grants → (flattenTree root skip).runOn d' o' = (.ok [], d')) := by
  have hend := flattenTree_ends hd hplain hroot hleft skip o
  rw [hrun] at hend
  cases hend with
  | @flat rels _ hpairwise hmem hcan hflat _ =>
    have hiff : ∀ rel, rel ∈ rels.filter (changes d base) ↔
        ∃ flat, Flattens d skip root base rel flat := fun rel => by
      rw [exists_flattens_iff hd hshows hroot fun h => hcan rel ((hmem rel).2 h), List.mem_filter,
        hmem]
    refine ⟨_, rfl, hpairwise.filter _, hiff, fun rel flat h => ?_, ?_,
      runOn_flattenTree_of_flattenedAt hd hplain hroot hleft hshows hmem hcan hflat⟩
    · obtain ⟨content, executable, proto, hget, -, -⟩ := h.text
      have hflatText := h.flatText?
      rw [hget, Option.bind_some] at hflatText
      have hrel : base ++ rel ∈ rels.map (base ++ ·) :=
        List.mem_map.2 ⟨rel, (hmem rel).2 (h.isListed hd hshows hroot), rfl⟩
      rw [hflat.get?, if_pos hrel, hget, Option.map_some, Entry.flattened, hflatText]
    · exact hflat.sameExcept

/-- A text with an import by a path. -/
def nestedImport : Text := ImportLine.spelt "x/b.proto" ";"

/-- The text with the import by a name. -/
def flatImport : Text := ImportLine.spelt "b.proto" ";"

theorem fileOf_nested : ImportLine.fileOf "x/b.proto" = "b.proto".toList :=
  (ImportLine.fileOf_append (by decide : "x".toList ≠ []) (by decide) (by decide)).trans
    (ImportLine.fileOf_of_not_mem (by decide))

theorem flattenImports?_nestedImport : flattenImports? nestedImport = some flatImport := by
  refine flattenImports?_of_line (by decide) ?_ (by decide)
  have hflatten : ImportLine.flatten (ImportLine.spelt "x/b.proto" ";") =
      ImportLine.spelt (ImportLine.fileOf "x/b.proto") ";" :=
    ImportLine.flatten_spelt (by decide) (by decide) (by decide)
  rw [fileOf_nested] at hflatten
  exact hflatten

/-- A tree with a proto file that imports by a path, and one in a directory `sdk`. -/
def sdkTree : List (Place × Entry) := [
  (["p"], .directory),
  (["p", "a.proto"], .file nestedImport.toBytes true),
  (["p", "sdk"], .directory),
  (["p", "sdk", "c.proto"], .file nestedImport.toBytes true)]

/-- What is in the tree. -/
theorem eq_of_get?_sdkTree (htree : isPlainTree sdkTree = true) {rel : Place} {e : Entry}
    (hget : (ofEntries sdkTree).get? (["p".toList] ++ rel) = some e) (hne : rel ≠ []) :
    rel = ["a.proto".toList] ∨ rel = ["sdk".toList] ∨ rel = ["sdk".toList, "c.proto".toList] := by
  have hmem := (mem_of_get?_ofEntries htree hget).resolve_left (by simp)
  simp only [sdkTree, List.mem_cons, Prod.mk.injEq, List.cons_append, List.nil_append,
    List.cons.injEq, true_and, List.not_mem_nil, or_false] at hmem
  rcases hmem with ⟨rfl, -⟩ | ⟨rfl, -⟩ | ⟨rfl, -⟩ | ⟨rfl, -⟩
  · exact absurd rfl hne
  · exact .inl rfl
  · exact .inr (.inl rfl)
  · exact .inr (.inr rfl)

/-- The file outside the directory to skip is the only one that is listed. -/
theorem eq_of_isListed_sdkTree (htree : isPlainTree sdkTree = true) {rel : Place}
    (h : IsListed .calm (ofEntries sdkTree) ["sdk"] ⟨"p"⟩ ["p"] rel) : rel = ["a.proto".toList] := by
  obtain ⟨e, hget, -⟩ := h.exists_get?
  rcases eq_of_get?_sdkTree htree hget h.ne_nil with rfl | rfl | rfl
  · rfl
  · exact absurd h.extension (by decide)
  · exact absurd (by decide) (h.not_skipped "sdk" (by decide))

/-- The import of the file in the tree is flattened, that of the file in the directory to skip is
not. -/
theorem flattenTree_exact_sdkTree : ∃ updated d',
    (flattenTree ⟨"p"⟩ ["sdk"]).runOn (ofEntries sdkTree) = (.ok updated, d') ∧
      updated = [⟨"p/a.proto"⟩] ∧
      d'.get? ["p", "a.proto"] = some (.file flatImport.toBytes false) ∧
      d'.get? ["p", "sdk", "c.proto"] = some (.file nestedImport.toBytes true) ∧
      (flattenTree ⟨"p"⟩ ["sdk"]).runOn d' = (.ok [], d') := by
  have htree : isPlainTree sdkTree = true := by decide
  have hd := sound_ofEntries htree
  have hplain := plainBelow_ofEntries htree ["p"]
  have hleft := noLeftovers_ofEntries htree (by decide) ["p"]
  have hroot : (ofEntries sdkTree).lookup true "p" = .ok (.found ["p"] .directory) :=
    lookup_of_descends (by decide)
      (.directory (c := "p") ⟨by decide, by decide, by decide⟩ rfl .nil)
  have hget : (ofEntries sdkTree).get? (["p".toList] ++ ["a.proto".toList]) =
      some (.file nestedImport.toBytes true) := rfl
  have hshows : ShowsAll .calm (ofEntries sdkTree) ["sdk"] ⟨"p"⟩ ["p"] := by
    refine ⟨fun rel hne hskip hget => ?_, fun _ _ _ _ => rfl⟩
    rcases eq_of_get?_sdkTree htree hget hne with rfl | rfl | rfl
    · cases hget
    · exact absurd (by decide) (hskip "sdk" (by decide))
    · cases hget
  have hcan : CanFlatten (ofEntries sdkTree) ⟨"p"⟩ ["p"] ["a.proto"] := by
    refine ⟨by decide, ⟨_, _, _, hget, Text.ofBytes?_toBytes _⟩, fun _ => ⟨?_, ?_, ?_⟩⟩
    · decide
    · constructor <;> decide
    · decide
  have hend : TreeEnd .calm (ofEntries sdkTree) ["sdk"] ⟨"p"⟩ ["p"]
      ((flattenTree ⟨"p"⟩ ["sdk"]).runOn (ofEntries sdkTree)) :=
    flattenTree_ends hd hplain hroot hleft ["sdk"] .calm
  rcases hrun : (flattenTree ⟨"p"⟩ ["sdk"]).runOn (ofEntries sdkTree) with ⟨r, d'⟩
  rw [hrun] at hend
  cases hend with
  | failed _ hgrants =>
    obtain ⟨⟨rel, hlisted, hcannot⟩, -⟩ := hgrants Outside.calm_grants
    exact absurd (eq_of_isListed_sdkTree htree hlisted ▸ hcan) hcannot
  | flat =>
    obtain ⟨rels', hupdated, hsorted, hmem', hflat, hsame, hagain⟩ :=
      flattenTree_exact hd hplain hroot hleft hshows hrun
    have hflattens : Flattens (ofEntries sdkTree) ["sdk"] ⟨"p"⟩ ["p"] ["a.proto"] flatImport :=
      ⟨⟨_, _, _, hget, Text.ofBytes?_toBytes _, flattenImports?_nestedImport⟩, by decide, by simp⟩
    have hrels : rels' = [["a.proto".toList]] := by
      have hall : ∀ rel ∈ rels', rel = ["a.proto".toList] := fun rel hrel => by
        obtain ⟨flat, h⟩ := (hmem' rel).1 hrel
        exact eq_of_isListed_sdkTree htree (h.isListed hd hshows hroot)
      obtain ⟨rel, others, rfl⟩ :=
        List.exists_cons_of_ne_nil (List.ne_nil_of_mem ((hmem' _).2 ⟨_, hflattens⟩))
      obtain rfl := hall rel (by simp)
      refine congrArg _ (List.eq_nil_iff_forall_not_mem.2 fun other hother => ?_)
      have hlt := (List.pairwise_cons.1 hsorted).1 other hother
      rw [hall other (by simp [hother])] at hlt
      exact List.lt_irrefl _ hlt
    refine ⟨_, d', rfl, ?_, hflat _ _ hflattens, ?_, (hagain .calm).2 Outside.calm_grants⟩
    · rw [hupdated, hrels]
      rfl
    · rw [hsame.get? _ (by rw [hrels]; decide)]
      rfl

/-! ## Paths that are too long -/

/-- A tree with a proto file in a directory. -/
def subTree : List (Place × Entry) := [
  (["p"], .directory),
  (["p", "sub"], .directory),
  (["p", "sub", "a.proto"], .file nestedImport.toBytes false)]

/-- A path to the tree, with steps in front. -/
def longRoot (n : Nat) : Path := ⟨staying n "p"⟩

/-- The path leads to the tree unless there are too many steps. -/
theorem lookup_longRoot {n : Nat} (hn : 2 * n + 1 < maxPath) :
    (ofEntries subTree).lookup true (longRoot n).text = .ok (.found ["p"] .directory) := by
  have hp : (ofEntries subTree).lookup true "p" = .ok (.found ["p"] .directory) :=
    lookup_of_descends (by decide)
      (.directory (c := "p") ⟨by decide, by decide, by decide⟩ rfl .nil)
  exact lookup_staying hp (by decide) hn

/-- Nothing is listed where the path of the directory is too long. -/
theorem not_isListed_longRoot {n : Nat} (hn : maxPath ≤ 2 * n + 5) (rel : Place) :
    ¬ IsListed .calm (ofEntries subTree) [] (longRoot n) ["p"] rel := by
  intro hlisted
  have hsub : IsPlainName "sub" := by decide
  obtain ⟨e, hget, -⟩ := hlisted.exists_get?
  have hmem := (mem_of_get?_ofEntries (by decide) hget).resolve_left (by simp)
  simp only [subTree, List.mem_cons, Prod.mk.injEq, List.cons_append, List.nil_append,
    List.cons.injEq, true_and, List.not_mem_nil, or_false] at hmem
  rcases hmem with ⟨rfl, -⟩ | ⟨rfl, -⟩ | ⟨rfl, -⟩
  · exact absurd rfl hlisted.ne_nil
  · have hextension : ((longRoot n).join "sub").extension? = some protoExtension :=
      hlisted.extension
    rw [Path.extension?_join hsub] at hextension
    exact absurd hextension (by decide)
  · have hseen := (hlisted.reached ["sub"] "a.proto" List.prefix_rfl).isDirectory (by simp)
    obtain ⟨q, hlookup⟩ := isDirectory_eq_true_iff.1 hseen
    have hlt : byteCount ((longRoot n).join "sub").text < maxPath :=
      (checkPath_eq_ok_iff.1 (checkPath_of_lookup hlookup)).2.2
    have hlast : (longRoot n).text.getLast? = some 'p' := getLast?_staying (by decide) n
    have hbytes : byteCount (longRoot n).text = 2 * n + 1 := byteCount_staying n "p"
    have hfour : byteCount "/sub".toList = 4 := by decide
    have hsplit : byteCount ((longRoot n).text ++ '/' :: "sub".toList) =
        byteCount (longRoot n).text + byteCount "/sub".toList := byteCount_append _ _
    rw [Path.text_join hsub, hlast] at hlt
    change byteCount ((longRoot n).text ++ '/' :: "sub".toList) < maxPath at hlt
    omega

/-- The extension of the proto file. -/
theorem extension?_longRoot (n : Nat) :
    ((longRoot n).below ["sub", "a.proto"]).extension? = some protoExtension := by
  have hfile : IsPlainName "a.proto" := by decide
  exact (Path.extension?_join hfile ((longRoot n).join "sub")).trans (by decide)

/-- Where nothing is listed nothing changes. -/
theorem runOn_flattenTree_longRoot {n : Nat} (hroot : 2 * n + 1 < maxPath)
    (hsub : maxPath ≤ 2 * n + 5) :
    (flattenTree (longRoot n) []).runOn (ofEntries subTree) = (.ok [], ofEntries subTree) := by
  have htree : isPlainTree subTree = true := by decide
  have hnone := not_isListed_longRoot hsub
  have hend := flattenTree_ends (sound_ofEntries htree) (plainBelow_ofEntries htree ["p"])
    (lookup_longRoot hroot) (noLeftovers_ofEntries htree (by decide) ["p"]) [] .calm
  generalize (flattenTree (longRoot n) []).runOn (ofEntries subTree) = outcome at hend ⊢
  cases hend with
  | failed _ hgrants =>
    obtain ⟨⟨rel, hlisted, -⟩, -⟩ := hgrants Outside.calm_grants
    exact absurd hlisted (hnone rel)
  | flat _ hmem _ _ hsame =>
    obtain rfl := List.eq_nil_iff_forall_not_mem.2 fun rel hrel => hnone rel ((hmem rel).1 hrel)
    obtain rfl := hsame (by simp)
    rfl

/-- A proto file below a directory whose path has 4096 bytes or more is not found: its import stays as
it is, and no error is reported. -/
theorem flattenTree_misses_long_path :
    Sound (ofEntries subTree) ∧ PlainBelow (ofEntries subTree) ["p"] ∧
      NoLeftovers (ofEntries subTree) ["p"] ∧
      (ofEntries subTree).lookup true (longRoot 2046).text = .ok (.found ["p"] .directory) ∧
      (flattenTree (longRoot 2046) []).runOn (ofEntries subTree) = (.ok [], ofEntries subTree) ∧
      Flattens (ofEntries subTree) [] (longRoot 2046) ["p"] ["sub", "a.proto"] flatImport := by
  have htree : isPlainTree subTree = true := by decide
  exact ⟨sound_ofEntries htree, plainBelow_ofEntries htree ["p"],
    noLeftovers_ofEntries htree (by decide) ["p"], lookup_longRoot (by decide),
    runOn_flattenTree_longRoot (by decide) (by decide),
    ⟨_, _, _, rfl, Text.ofBytes?_toBytes _, flattenImports?_nestedImport⟩, extension?_longRoot 2046,
    by simp⟩

end ProtoUpkeep
