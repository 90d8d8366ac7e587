import Std.Data.TreeMap
import ProtoUpkeep.Text.Basic

/-!
# Entries and the names of files

A file has one name or several. The names of a file with several stand at places that have one number,
and the same entry stands at all of them (`Numbers`). That is so behind every way to change a disk: a
place that gets a new entry loses its number, a file is changed under all its names, and a place where a
file gets one more name gets the number of the file.
-/

namespace ProtoUpkeep

/-- A place on a disk: the components below the root. -/
abbrev Place := List Text

/-- Equality of bytes is decided as in core, whatever a module imports beside it. -/
instance decidableEqBytes : DecidableEq ByteArray := ByteArray.instDecidableEq

/-- What stands at a place. -/
inductive Entry where
  /-- A file with its bytes. -/
  | file (content : ByteArray) (executable : Bool)
  /-- A directory. -/
  | directory
  /-- A link to a path. -/
  | link (target : Text)
deriving DecidableEq

/-- Whether the entry is a file. -/
def Entry.isFile : Entry → Bool
  | file .. => true
  | directory | link _ => false

/-! ## Names of files -/

/-- The value at a place after one has been inserted. -/
theorem getElem?_insert_place {β : Type} (m : Std.TreeMap Place β) (p q : Place) (x : β) :
    (m.insert p x)[q]? = if q = p then some x else m[q]? := by
  simp only [Std.TreeMap.getElem?_insert, Std.LawfulEqCmp.compare_eq_iff_eq, eq_comm (a := q)]

/-- The value at a place after one has been taken away. -/
theorem getElem?_erase_place {β : Type} (m : Std.TreeMap Place β) (p q : Place) :
    (m.erase p)[q]? = if q = p then none else m[q]? := by
  simp only [Std.TreeMap.getElem?_erase, Std.LawfulEqCmp.compare_eq_iff_eq, eq_comm (a := q)]

/-- Only files have numbers, and those at one number are the same. -/
def Numbers (entries : Std.TreeMap Place Entry) (numbers : Std.TreeMap Place Nat) : Prop :=
  ∀ (p : Place) (n : Nat), numbers[p]? = some n → entries[p]?.any Entry.isFile = true ∧
    ∀ q : Place, numbers[q]? = some n → entries[q]? = entries[p]?

namespace Numbers

variable {entries : Std.TreeMap Place Entry} {numbers : Std.TreeMap Place Nat} {p : Place}

/-- An entry that is put has no number. -/
theorem put (h : Numbers entries numbers) (p : Place) (e : Entry) :
    Numbers (entries.insert p e) (numbers.erase p) := by
  intro r n hr
  rw [getElem?_erase_place] at hr
  split at hr
  · cases hr
  · next hne =>
    obtain ⟨hfile, hsame⟩ := h r n hr
    rw [getElem?_insert_place, if_neg hne]
    refine ⟨hfile, fun q hq => ?_⟩
    rw [getElem?_erase_place] at hq
    split at hq
    · cases hq
    · next hne' => rw [getElem?_insert_place, if_neg hne', hsame q hq]

/-- A place that is erased has no number. -/
theorem erase (h : Numbers entries numbers) (p : Place) :
    Numbers (entries.erase p) (numbers.erase p) := by
  intro r n hr
  rw [getElem?_erase_place] at hr
  split at hr
  · cases hr
  · next hne =>
    obtain ⟨hfile, hsame⟩ := h r n hr
    rw [getElem?_erase_place, if_neg hne]
    refine ⟨hfile, fun q hq => ?_⟩
    rw [getElem?_erase_place] at hq
    split at hq
    · cases hq
    · next hne' => rw [getElem?_erase_place, if_neg hne', hsame q hq]

/-- A file may be changed under all its names. -/
theorem change (h : Numbers entries numbers) (number? : Option Nat) (content : ByteArray)
    (executable : Bool) : Numbers (entries.map fun q e =>
      if numbers[q]? = number? ∧ number?.isSome then .file content executable else e) numbers := by
  intro r n hr
  obtain ⟨hfile, hsame⟩ := h r n hr
  simp only [Std.TreeMap.getElem?_map]
  refine ⟨?_, fun q hq => by rw [hsame q hq, hq, hr]⟩
  cases hget : entries[r]? with
  | none =>
    rw [hget] at hfile
    cases hfile
  | some e =>
    rw [hget] at hfile
    rw [Option.map_some, Option.any_some]
    split
    · rfl
    · exact hfile

/-- A file may get one more name. -/
theorem name (h : Numbers entries numbers) {old : Place} {n : Nat} {e : Entry}
    (hold : numbers[old]? = some n) (hget : entries[old]? = some e) (new : Place) :
    Numbers (entries.insert new e) (numbers.insert new n) := by
  obtain ⟨hfile, hsame⟩ := h old n hold
  intro r k hr
  rw [getElem?_insert_place] at hr ⊢
  have hkind : ∀ q : Place, (numbers.insert new n)[q]? = some k → (entries.insert new e)[q]? =
      if k = n then some e else entries[r]? := by
    intro q hq
    rw [getElem?_insert_place] at hq ⊢
    split at hq
    · cases hq
      rw [if_pos ‹_›, if_pos rfl]
    · next hne =>
      rw [if_neg hne]
      split
      · next hk => rw [hsame q (hk ▸ hq), hget]
      · next hk =>
        split at hr
        · exact absurd (Option.some.inj hr).symm hk
        · exact (h r k hr).2 q hq
  have hr' : (numbers.insert new n)[r]? = some k := by rwa [getElem?_insert_place]
  have hentry := hkind r hr'
  rw [getElem?_insert_place] at hentry
  refine ⟨?_, fun q hq => by rw [hkind q hq, hentry]⟩
  rw [hentry]
  split
  · rwa [hget] at hfile
  · next hk =>
    split at hr
    · exact absurd (Option.some.inj hr).symm hk
    · exact (h r k hr).1

end Numbers

end ProtoUpkeep
