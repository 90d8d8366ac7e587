import ProtoUpkeep.Text.Basic

/-!
# Dictionaries

A dictionary maps texts to texts. Its entries are kept in ascending order of their keys, each key
once, so two dictionaries with the same entries are equal, and the order in which they are written
out is fixed. Keys are ordered by their code points.
-/

namespace ProtoUpkeep

/-- A map from texts to texts. -/
@[ext] structure Dictionary where
  /-- The entries in ascending order of their keys. -/
  entries : List (Text × Text)
  /-- Each key is above the ones before it. -/
  ascending : entries.Pairwise fun a b => a.1 < b.1 := by decide
deriving DecidableEq

namespace Dictionary

/-- The entries with the value at `key` set, the order of the keys kept. -/
def put (key value : Text) : List (Text × Text) → List (Text × Text)
  | [] => [(key, value)]
  | e :: rest =>
    if key < e.1 then (key, value) :: e :: rest
    else if e.1 < key then e :: put key value rest
    else (key, value) :: rest

theorem key_mem_put {key value : Text} {entries : List (Text × Text)} {e : Text × Text}
    (h : e ∈ put key value entries) : e = (key, value) ∨ e ∈ entries := by
  induction entries with
  | nil => simpa [put] using h
  | cons a rest ih =>
    simp only [put] at h
    split at h
    · simpa using h
    · split at h
      · rcases List.mem_cons.1 h with rfl | h
        · simp
        · rcases ih h with rfl | h <;> simp [*]
      · rcases List.mem_cons.1 h with rfl | h <;> simp [*]

theorem ascending_put {key value : Text} {entries : List (Text × Text)}
    (h : entries.Pairwise fun a b => a.1 < b.1) :
    (put key value entries).Pairwise fun a b => a.1 < b.1 := by
  induction entries with
  | nil => simp [put]
  | cons a rest ih =>
    obtain ⟨ha, hrest⟩ := List.pairwise_cons.1 h
    simp only [put]
    split
    · next hlt =>
      refine List.pairwise_cons.2 ⟨fun e he => ?_, h⟩
      rcases List.mem_cons.1 he with rfl | he
      · exact hlt
      · exact List.lt_trans hlt (ha e he)
    · split
      · next hlt =>
        refine List.pairwise_cons.2 ⟨fun e he => ?_, ih hrest⟩
        rcases key_mem_put he with rfl | he
        · exact hlt
        · exact ha e he
      · next h₁ h₂ =>
        have hkey : key = a.1 := List.le_antisymm (List.not_lt.1 h₂) (List.not_lt.1 h₁)
        refine List.pairwise_cons.2 ⟨fun e he => ?_, hrest⟩
        simpa [hkey] using ha e he

/-- The dictionary without entries. -/
def empty : Dictionary where
  entries := []

instance : EmptyCollection Dictionary := ⟨empty⟩

/-- The dictionary with the value at `key` set. -/
def insert (d : Dictionary) (key value : Text) : Dictionary where
  entries := put key value d.entries
  ascending := ascending_put d.ascending

/-- The dictionary of the given entries; of two with one key the later one counts. -/
def ofList (entries : List (Text × Text)) : Dictionary :=
  entries.foldl (fun d e => d.insert e.1 e.2) ∅

/-- The value at `key`. -/
def get? (d : Dictionary) (key : Text) : Option Text := d.entries.lookup key

end Dictionary

end ProtoUpkeep
