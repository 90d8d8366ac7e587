import Mathlib
import ProtoUpkeep.Proofs.Tree.Listing

/-!
# The directories that a search visits

The search for proto files carries two paths for each directory: the one that is read, and the one
below the root, which the names to skip are compared with. `protosNoted` is the search that also notes
both for each directory that it reads. It ends as the search does, and what it notes agrees with the
root (`Noting.Notes`, `notes_protosNoted`): each directory is the root joined with its path below it
(`Placed`). A step of the search keeps this by the associativity of joining (`Placed.entry`).
-/

namespace ProtoUpkeep

open Disk
open RawPath (dot)

variable {o : Outside} {d : Disk} {skip : List Text} {root dir below : Path} {name : Text} {names : List Text}
  {depth : Nat}

/-! ## Noting visits -/

/-- A directory that a search reads. -/
structure Visit where
  /-- Its path. -/
  dir : Path
  /-- Its path below the root. -/
  below : Path
deriving DecidableEq, Repr

/-- An action that notes the directories it reads, up to the one that it fails at. -/
abbrev Noting (α : Type) := ExceptT FileError (StateM (List Visit)) α

namespace Noting

variable {α β : Type} {P : Visit → Prop} {a : Noting α} {r : Except FileError α} {v : Visit}

/-- How an action ends behind some visits, and all visits then. -/
def runAfter (a : Noting α) (visits : List Visit) : Except FileError α × List Visit :=
  StateT.run (ExceptT.run a) visits

/-- Notes a visit. -/
def note (v : Visit) : Noting Unit := modify (· ++ [v])

/-- The action ends with a result, and `P` holds of each visit that it notes. -/
def Notes (P : Visit → Prop) (a : Noting α) (r : Except FileError α) : Prop :=
  ∀ visits, ∃ noted, a.runAfter visits = (r, visits ++ noted) ∧ ∀ v ∈ noted, P v

theorem notes_pure (x : α) : Notes P (pure x) (.ok x) := fun visits =>
  ⟨[], by rw [List.append_nil]; rfl, by simp⟩

theorem notes_throw (e : FileError) : Notes P (throw e : Noting α) (.error e) := fun visits =>
  ⟨[], by rw [List.append_nil]; rfl, by simp⟩

theorem notes_note (h : P v) : Notes P (note v) (.ok ()) := fun _ =>
  ⟨[v], rfl, by simpa using h⟩

/-- The visits of an action that goes on are those of its first part and those behind. -/
theorem Notes.bind {f : α → Noting β} {g : α → Except FileError β} (h : Notes P a r)
    (hf : ∀ x, Notes P (f x) (g x)) : Notes P (a >>= f) (r >>= g) := by
  intro visits
  obtain ⟨noted, hrun, hnoted⟩ := h visits
  have hrun : StateT.run (ExceptT.run a) visits = (r, visits ++ noted) := hrun
  cases r with
  | error e =>
    refine ⟨noted, ?_, hnoted⟩
    simp only [runAfter, ExceptT.run_bind, StateT.run_bind, hrun]
    rfl
  | ok x =>
    obtain ⟨more, hmore, hall⟩ := hf x (visits ++ noted)
    refine ⟨noted ++ more, ?_, fun v hv => (List.mem_append.1 hv).elim (hnoted v) (hall v)⟩
    simp only [runAfter, ExceptT.run_bind, StateT.run_bind, hrun]
    rw [← List.append_assoc]
    exact hmore

/-- The visits of a loop are those of its turns. -/
theorem notes_mapM {γ : Type} {f : γ → Noting α} {g : γ → Except FileError α} {xs : List γ}
    (h : ∀ x ∈ xs, Notes P (f x) (g x)) : Notes P (xs.mapM f) (xs.mapM g) := by
  induction xs with
  | nil => exact notes_pure []
  | cons x xs ih =>
    rw [List.mapM_cons, List.mapM_cons]
    exact (h x (by simp)).bind fun y => (ih fun x hx => h x (by simp [hx])).bind fun ys =>
      notes_pure (y :: ys)

end Noting

open Noting

/-! ## The search -/

/-- The search for the proto files in a directory and below it, with a note of each directory that is
read. -/
def protosNoted (d : Disk) (skip : List Text) (depth : Nat) (dir below : Path)
    (o : Outside := .calm) : Noting (List Path) :=
  match depth with
  | 0 => return []
  | depth + 1 => do
    note ⟨dir, below⟩
    match o.readDirectory d dir.text with
    | .error fault => throw (.io dir.text fault)
    | .ok names => do
      let found ← names.mapM fun name => do
        let path := dir.join name
        if o.isDirectory d path.text then
          if (below.join name).hasComponent skip then return []
          else protosNoted d skip depth path (below.join name) o
        else if path.extension? = some protoExtension then return [path]
        else return []
      return found.flatten

/-- The two paths of a directory agree. -/
structure Placed (root : Path) (v : Visit) : Prop where
  /-- The directory is the root joined with its path below the root. -/
  dir_eq : v.dir = root.join v.below.text
  /-- That path is normal. -/
  isNormal : v.below.IsNormal
  /-- It leads below the root or is empty. -/
  ne_dot : v.below.text ≠ dot

/-- The paths of the root agree. -/
theorem placed_root (root : Path) : Placed root ⟨root, ⟨[]⟩⟩ :=
  ⟨(Path.join_nil root).symm, by simp [Path.IsNormal], by simp [dot]⟩

/-- The paths of an entry agree if those of its directory do. -/
theorem Placed.entry {v : Visit} (h : Placed root v) (hname : name ≠ dot) :
    Placed root ⟨v.dir.join name, v.below.join name⟩ where
  dir_eq := by
    rw [h.dir_eq]
    exact Path.join_join h.isNormal h.ne_dot root name
  isNormal := h.isNormal.join name
  ne_dot := Path.join_ne_dot h.ne_dot hname

/-- No directory lists itself. -/
theorem Disk.Sound.ne_dot_of_readDirectory {path : Text} (hd : Sound d)
    (h : o.readDirectory d path = .ok names) (hname : name ∈ names) : name ≠ dot := by
  obtain ⟨place, hplace⟩ : ∃ place, names ⊆ d.children place := by
    have hread := (Outside.answer_eq_ok_iff.1 h).2
    simp only [readDirectory, bind, Except.bind] at hread
    split at hread
    · cases hread
    · next spot _ =>
      split at hread
      · cases hread
        exact ⟨_, List.filter_subset_self _⟩
      · cases hread
      · cases hread
  obtain ⟨e, hget⟩ := mem_children_iff.1 (hplace hname)
  exact (hd.isEntryName hget).ne_dot

/-- The search that notes visits ends as the search does, and the paths that it notes agree. -/
theorem notes_protosNoted (hd : Sound d) (h : Placed root ⟨dir, below⟩) :
    Notes (Placed root) (protosNoted d skip depth dir below o)
      (protosIn d skip depth dir below o) := by
  induction depth generalizing dir below with
  | zero => exact notes_pure []
  | succ depth ih =>
    rw [protosNoted, protosIn]
    refine (notes_note h).bind (g := fun _ => _) fun _ => ?_
    cases hread : o.readDirectory d dir.text with
    | error fault => exact notes_throw _
    | ok names =>
      refine (notes_mapM fun name hname => ?_).bind fun found => notes_pure found.flatten
      have hentry := h.entry (hd.ne_dot_of_readDirectory hread hname)
      dsimp only
      split
      · split
        · exact notes_pure []
        · exact ih hentry
      · split
        · exact notes_pure _
        · exact notes_pure []

/-- The directories that a search visits, in the order in which they are read. -/
def visits (d : Disk) (skip : List Text) (depth : Nat) (root : Path) (o : Outside := .calm) :
    List Visit :=
  ((protosNoted d skip depth root ⟨[]⟩ o).runAfter []).2

/-- Noting the visits of a search does not change it, and each directory that it visits is the root
joined with its path below the root. -/
theorem runAfter_protosNoted (hd : Sound d) (skip : List Text) (depth : Nat) (root : Path)
    (o : Outside) :
    (protosNoted d skip depth root ⟨[]⟩ o).runAfter [] =
        (protosIn d skip depth root ⟨[]⟩ o, visits d skip depth root o) ∧
      ∀ v ∈ visits d skip depth root o, v.dir = root.join v.below.text := by
  have hnotes : Notes (Placed root) (protosNoted d skip depth root ⟨[]⟩ o)
      (protosIn d skip depth root ⟨[]⟩ o) := notes_protosNoted hd (placed_root root)
  obtain ⟨noted, hrun, hplaced⟩ := hnotes []
  rw [visits, hrun]
  exact ⟨rfl, fun v hv => (hplaced v hv).dir_eq⟩

/-- How paths are joined and taken apart. Joining is associative, whatever the paths start and end
with, unless the one in the middle is `.`. A component that is joined to a path without a slash at its
end is the last component of the result, and the path is its parent. So a search for proto files reads
only directories that are its root joined with their path below the root, on every disk, whatever stands
around it, and whether it ends well or not. -/
theorem Path.join_algebra :
    (∀ a b c : Path, b.IsNormal → b.text ≠ dot →
      (a.join b.text).join c.text = a.join (b.join c.text).text) ∧
    (∀ (a : Path) (s : Text), a.text ≠ [] → a.text.getLast? ≠ some '/' → IsSegment s →
      (a.join s).fileName? = some s ∧ (a.join s).parent? = some a) ∧
    ∀ (d : Disk) (skip : List Text) (depth : Nat) (root : Path) (o : Outside), Sound d →
      (protosNoted d skip depth root ⟨[]⟩ o).runAfter [] =
          (protosIn d skip depth root ⟨[]⟩ o, visits d skip depth root o) ∧
        ∀ v ∈ visits d skip depth root o, v.dir = root.join v.below.text := by
  refine ⟨fun a b c hb hdot => join_join hb hdot a c.text, fun a s ha hend hs => ?_,
    fun d skip depth root o hd => runAfter_protosNoted hd skip depth root o⟩
  exact ⟨fileName?_join_of_isSegment hs ha hend, parent?_join_of_isSegment hs ha hend⟩

/-- A directory `sub` beside one whose name ends in a backslash, so that its path reads as a path to
`sub`. -/
def slashedDisk : Disk :=
  (ofEntries [
    (["p"], .directory),
    (["p", "sub"], .directory),
    (["p", "sub", "x"], .directory)]).put (["p".toList] ++ ["sub\\".toList]) .directory

/-- The directory below `sub` is visited on two ways, and on both of them its path is the root joined
with its path below the root. -/
theorem Path.join_algebra_slashedDisk :
    (IsNormal ⟨"sub/"⟩ ∧ "sub/".toList ≠ dot ∧
      ((Path.mk "/p/").join "sub/").join "x\\y" =
        (Path.mk "/p/").join ((Path.mk "sub/").join "x\\y").text) ∧
    (IsSegment ".." ∧ ((Path.mk "p").join "..").fileName? = some "..".toList ∧
      ((Path.mk "p").join "..").parent? = some ⟨"p"⟩) ∧
    Sound slashedDisk ∧
      visits slashedDisk [] 3 ⟨"p"⟩ = [⟨⟨"p"⟩, ⟨[]⟩⟩, ⟨⟨"p/sub"⟩, ⟨"sub"⟩⟩, ⟨⟨"p/sub/x"⟩, ⟨"sub/x"⟩⟩,
        ⟨⟨"p/sub/"⟩, ⟨"sub/"⟩⟩, ⟨⟨"p/sub/x"⟩, ⟨"sub/x"⟩⟩] ∧
      ∀ v ∈ visits slashedDisk [] 3 ⟨"p"⟩, v.dir = (Path.mk "p").join v.below.text := by
  obtain ⟨hassoc, hname, hvisits⟩ := Path.join_algebra
  have hnormal : IsNormal ⟨"sub/"⟩ := by
    unfold IsNormal
    decide
  have hsegment : IsSegment ".." := by constructor <;> decide
  have hd : Sound slashedDisk := by
    refine (sound_ofEntries (by decide)).put rfl ?_ (by simp)
    constructor
    · constructor <;> decide
    · decide
    · decide
  exact ⟨⟨hnormal, by decide, hassoc ⟨"/p/"⟩ ⟨"sub/"⟩ ⟨"x\\y"⟩ hnormal (by decide)⟩,
    ⟨hsegment, hname ⟨"p"⟩ ".." (by decide) (by decide) hsegment⟩, hd, by cbv,
    (hvisits slashedDisk [] 3 ⟨"p"⟩ .calm hd).2⟩

end ProtoUpkeep
