import ProtoUpkeep.Proofs.Tree.ImportLines

/-!
# What flattening does to a line

`ImportLine.flatten` searches a line for its first import and takes directories off its path one at a
time. What comes out is said here without the search (`ImportLine.FlattensTo`): of the imports on a
line the one that stands furthest left changes, and it loses the longest run of directories that
leaves something of its path (`ImportLine.IsFileOf`). An empty segment is no directory, so the run
ends in front of two slashes, and a slash at the end belongs to the file. The text that comes out has
a line for every line, and flattening it again changes nothing (`forall₂_flattensTo_lines`).
-/

namespace ProtoUpkeep

open Text

variable {t line path file rest before old proto : Text} {dirs : List Text}

namespace ImportLine

/-! ## The directories of a path -/

/-- The path consists of directories, each with its slash, and a file. -/
structure LiesIn (path : Text) (dirs : List Text) (file : Text) : Prop where
  /-- A directory is not empty and has no slash. -/
  directory : ∀ dir ∈ dirs, dir ≠ [] ∧ '/' ∉ dir
  /-- Something is left for the file. -/
  file_ne_nil : file ≠ []
  /-- The parts make up the path. -/
  eq : path = dirs.flatMap (· ++ ['/']) ++ file

/-- The file is what the longest run of directories at the start of the path leaves. -/
def IsFileOf (path file : Text) : Prop :=
  ∃ dirs, LiesIn path dirs file ∧ ∀ dirs' file', LiesIn path dirs' file' → dirs'.length ≤ dirs.length

/-- A path that lies in a first directory and others is one with that directory dropped, which lies in
the others. -/
theorem LiesIn.exists_of_cons {dir : Text} (h : LiesIn path (dir :: dirs) file) :
    ∃ rest, dropDirectory? path = some rest ∧ rest ≠ [] ∧ LiesIn rest dirs file := by
  obtain ⟨hdir, hslash⟩ := h.directory dir (by simp)
  refine ⟨dirs.flatMap (· ++ ['/']) ++ file, dropDirectory?_eq_some_iff.2 ⟨dir, hdir, hslash, ?_⟩,
    List.append_ne_nil_of_right_ne_nil _ h.file_ne_nil,
    fun d hd => h.directory d (by simp [hd]), h.file_ne_nil, rfl⟩
  rw [h.eq]
  simp

/-- A path in which no directory can be dropped is a file. -/
theorem isFileOf_self (hne : path ≠ [])
    (h : ∀ rest, dropDirectory? path = some rest → rest = []) : IsFileOf path path := by
  refine ⟨[], ⟨by simp, hne, rfl⟩, fun dirs' file' h' => ?_⟩
  cases dirs' with
  | nil => exact Nat.le_refl 0
  | cons dir dirs' =>
    obtain ⟨rest, hrest, hne', -⟩ := h'.exists_of_cons
    exact absurd (h rest hrest) hne'

/-- A path without its directories is its file. -/
theorem isFileOf_fileOf (hne : path ≠ []) : IsFileOf path (fileOf path) := by
  fun_induction fileOf path with
  | case1 path rest h hempty =>
    refine isFileOf_self hne fun rest' h' => ?_
    rw [h] at h'
    obtain rfl := Option.some.inj h'
    exact List.isEmpty_iff.1 hempty
  | case2 path rest h hrest ih =>
    obtain ⟨dir, hdir, hslash, rfl⟩ := dropDirectory?_eq_some_iff.1 h
    obtain ⟨dirs, hlies, hlongest⟩ := ih (by simpa using hrest)
    refine ⟨dir :: dirs, ⟨?_, hlies.file_ne_nil, ?_⟩, fun dirs' file' h' => ?_⟩
    · rintro d (_ | ⟨_, hd⟩)
      · exact ⟨hdir, hslash⟩
      · exact hlies.directory d hd
    · conv_lhs => rw [hlies.eq]
      simp
    · -- A run of directories starts with the same one, because that ends at the first slash.
      cases dirs' with
      | nil => exact Nat.zero_le _
      | cons dir' dirs' =>
        obtain ⟨rest', hrest', -, hlies'⟩ := h'.exists_of_cons
        rw [h] at hrest'
        obtain rfl := Option.some.inj hrest'
        exact Nat.succ_le_succ (hlongest dirs' file' hlies')
  | case3 path h =>
    exact isFileOf_self hne fun rest h' => by rw [h] at h'; cases h'

/-- An empty segment ends the run of directories, and a slash at the end belongs to the file. -/
example : fileOf "a/b//c/" = "/c/".toList ∧ fileOf "a/b/" = "b/".toList := by cbv

/-! ## The first import of a line -/

/-- An import of a path stands behind `before`, and `rest` behind it. -/
def HasImport (line before path rest : Text) : Prop :=
  ∃ old, line = before ++ old ∧ IsImport old path rest

/-- The line, trimmed, starts with the word and does not mention the library. -/
def IsImportLine (line : Text) : Prop := "import".toList <+: line.trim ∧ ¬ "google".toList <:+: line

/-- `flat` is what flattening makes of a line. -/
structure FlattensTo (line flat : Text) : Prop where
  /-- A line that does not start with the word, or that mentions the library, stays as it is. -/
  of_other : ¬ IsImportLine line → flat = line
  /-- A line without an import stays as it is. -/
  of_none : (∀ before path rest, ¬ HasImport line before path rest) → flat = line
  /-- On any other line the import that stands furthest left loses its directories, and a single
  blank is in front of its path. -/
  of_first : IsImportLine line → ∀ before path rest, HasImport line before path rest →
    (∀ before' path' rest', HasImport line before' path' rest' → before.length ≤ before'.length) →
    ∃ file, IsFileOf path file ∧
      flat = before ++ ("import \"" ++ (file ++ ("\"" ++ rest)))

/-- An import is flattened on the lines that start with the word and do not mention the library. -/
theorem isFlattened_iff_isImportLine : isFlattened line = true ↔ IsImportLine line := by
  rw [isFlattened_iff, IsImportLine, startsWith_trim_iff (by decide)]

/-- In front of the import that stands furthest left no import is found. -/
theorem importAt?_eq_none_of_leftmost (hline : line = before ++ old)
    (hleft : ∀ before' path' rest', HasImport line before' path' rest' →
      before.length ≤ before'.length) :
    ∀ u, u <:+ before → u ≠ [] → importAt? (u ++ old) = none := by
  rintro u ⟨v, rfl⟩ hne
  refine Option.eq_none_iff_forall_ne_some.2 fun ⟨path', rest'⟩ hsome => ?_
  have hlen := hleft v path' rest' ⟨u ++ old, by rw [hline, List.append_assoc],
    importAt?_eq_some_iff.1 hsome⟩
  have hpos := List.length_pos_of_ne_nil hne
  rw [List.length_append] at hlen
  omega

/-- What flattening makes of a line. -/
theorem flattensTo_flatten (line : Text) : FlattensTo line (flatten line) where
  of_other h := if_neg (mt isFlattened_iff_isImportLine.1 h)
  of_none h := by
    have hfirst : flattenFirst line = line := by
      rcases flattenFirst_cases line with hsame | ⟨before, old, path, rest, hline, hold, -⟩
      · exact hsame
      · exact absurd ⟨old, hline, importAt?_eq_some_iff.1 hold⟩ (h before path rest)
    rw [flatten, hfirst, ite_self]
  of_first hword before path rest := by
    rintro ⟨old, hline, himport⟩ hleft
    have hflatten : flatten line = flattenFirst line :=
      if_pos (isFlattened_iff_isImportLine.2 hword)
    obtain ⟨-, -, -, hpath, -, -⟩ := id himport
    refine ⟨fileOf path, isFileOf_fileOf hpath, ?_⟩
    rw [hflatten, hline, flattenFirst_append (importAt?_eq_some_iff.2 himport)
      (importAt?_eq_none_of_leftmost hline hleft)]
    rfl

end ImportLine

/-- Flattening takes directories off the first import of each line and changes nothing else, and there
is nothing to flatten in what comes out. -/
theorem forall₂_flattensTo_lines (proto : Text) :
    let flat := (flattenImports? proto).getD proto
    List.Forall₂ ImportLine.FlattensTo proto.lines flat.lines ∧ flattenImports? flat = none := by
  intro flat
  refine ⟨?_, flattenImports?_getD_flattenImports? proto⟩
  rw [lines_getD_flattenImports?, List.forall₂_map_right_iff, List.forall₂_same]
  exact fun line _ => ImportLine.flattensTo_flatten line

end ProtoUpkeep
