import ProtoUpkeep.Proofs.Tree.ImportLines

/-!
# The paths that a text imports

A line imports a path at every place where an import is found (`ImportLine.Imports`), and a text
imports what its lines import, those that mention the library left out (`Imports`). Flattening rewrites
the first import of a line, and nothing that stands behind it is another import than before
(`ImportLine.suffix_of_importAt?_spelt`). So a flat text imports what it imported, and the paths of the
rewritten imports without their directories (`imports_of_flattenImports?`).
-/

namespace ProtoUpkeep

variable {line path name rest rest' old proto flat : Text}

namespace ImportLine

/-- The line imports a path. -/
def Imports (line path : Text) : Prop :=
  ∃ old rest, old <:+ line ∧ importAt? old = some (path, rest)

/-- The first import on the line is one of a path. -/
def ImportsFirst (line path : Text) : Prop :=
  ∃ before old rest, line = before ++ old ∧ importAt? old = some (path, rest) ∧
    ∀ u, u <:+ before → u ≠ [] → importAt? (u ++ old) = none

theorem ImportsFirst.imports (h : ImportsFirst line path) : Imports line path := by
  obtain ⟨before, old, rest, rfl, hold, -⟩ := h
  exact ⟨old, rest, List.suffix_append before old, hold⟩

/-- The paths that a line imports. -/
def paths (line : Text) : List Text := line.tails.filterMap fun old => (importAt? old).map Prod.fst

theorem mem_paths_iff : path ∈ paths line ↔ Imports line path := by
  simp [paths, Imports]

/-- An import starts with the letter i. -/
theorem importAt?_eq_none {c : Char} (hc : c ≠ 'i') (t : Text) : importAt? (c :: t) = none := by
  refine Option.eq_none_iff_forall_ne_some.2 fun ⟨path, rest⟩ hsome => ?_
  obtain ⟨gap, -, -, -, -, heq⟩ := importAt?_eq_some_iff.1 hsome
  exact hc (List.cons.inj heq).1

/-- Behind the word of an import the next one starts in the path or behind it. -/
theorem suffix_of_importAt?_spelt {old rest rest' : Text}
    (hold : old <:+ spelt path rest) (himport : importAt? old = some (name, rest')) :
    old = spelt path rest ∨ old <:+ path ++ '"' :: rest := by
  have hspelt : spelt path rest = 'i' :: ("mport \"".toList ++ (path ++ '"' :: rest)) := rfl
  rw [hspelt] at hold ⊢
  rcases List.suffix_cons_iff.1 hold with heq | ⟨front, hfront⟩
  · exact .inl heq
  rcases List.append_eq_append_iff.1 hfront with ⟨u, hword, rfl⟩ | ⟨front', -, hbehind⟩
  · cases u with
    | nil => exact .inr List.suffix_rfl
    | cons c u =>
      have hc : c ∈ "mport \"".toList := hword ▸ List.mem_append_right front List.mem_cons_self
      cases (importAt?_eq_none (ne_of_mem_of_not_mem hc (by decide)) _).symm.trans himport
  · exact .inr ⟨front', hbehind.symm⟩

/-- A line whose first import is rewritten imports the path of that one without its directories, and
otherwise what it imported before. -/
theorem imports_of_flattenFirst (h : Imports (flattenFirst line) path) :
    Imports line path ∨ ∃ p, ImportsFirst line p ∧ path = fileOf p := by
  rcases flattenFirst_cases line with hsame | ⟨before, old, p, rest, rfl, hold, hnone⟩
  · rw [hsame] at h
    exact .inl h
  rw [flattenFirst_append hold hnone] at h
  obtain ⟨gap, -, -, hpath, hquote, hspelling⟩ := importAt?_eq_some_iff.1 hold
  have hspelt := importAt?_spelt (fileOf_ne_nil hpath)
    (fun hmem => hquote ((fileOf_suffix p).subset hmem)) rest
  have hrewritten : ∀ {rest'}, importAt? (spelt (fileOf p) rest) = some (path, rest') →
      ∃ p', ImportsFirst (before ++ old) p' ∧ path = fileOf p' := by
    intro rest' himport
    cases hspelt.symm.trans himport
    exact ⟨p, ⟨before, old, rest, rfl, hold, hnone⟩, rfl⟩
  obtain ⟨new, rest', ⟨front, hnew⟩, himport⟩ := h
  rcases List.append_eq_append_iff.1 hnew with ⟨u, hu, rfl⟩ | ⟨front', -, hbehind⟩
  · by_cases hnil : u = []
    · subst hnil
      exact .inr (hrewritten himport)
    · have hfirst := importAt?_append_spelt_of_first hold hnone (fileOf p) u ⟨front, hu.symm⟩ hnil
      cases hfirst.symm.trans himport
  · rcases suffix_of_importAt?_spelt ⟨front', hbehind.symm⟩ himport with rfl | hin
    · exact .inr (hrewritten himport)
    · -- What follows the word is the same but for the directories that the path has lost.
      refine .inl ⟨new, rest', hin.trans ?_, himport⟩
      obtain ⟨dirs, hdirs⟩ := fileOf_suffix p
      refine ⟨before ++ ("import".toList ++ (gap ++ '"' :: dirs)), ?_⟩
      conv_rhs => rw [hspelling, ← hdirs]
      simp only [List.append_assoc, List.cons_append]

end ImportLine

/-- The text imports a path, on a line that does not mention the library. -/
def Imports (proto path : Text) : Prop :=
  ∃ line ∈ proto.lines, line.contains "google" = false ∧ ImportLine.Imports line path

/-- The paths that a text imports. -/
def importedPaths (proto : Text) : List Text :=
  (proto.lines.filter fun line => !line.contains "google").flatMap ImportLine.paths

theorem mem_importedPaths_iff : path ∈ importedPaths proto ↔ Imports proto path := by
  simp [importedPaths, Imports, List.mem_flatMap, ImportLine.mem_paths_iff, and_assoc]

/-- The text imports a path, and the import is one that flattening rewrites. -/
def FlattensImport (proto path : Text) : Prop :=
  ∃ line ∈ proto.lines, ImportLine.isFlattened line = true ∧ ImportLine.ImportsFirst line path

theorem FlattensImport.imports (h : FlattensImport proto path) : Imports proto path := by
  obtain ⟨line, hline, hflattened, hfirst⟩ := h
  exact ⟨line, hline, by simpa using (Bool.and_eq_true_iff.1 hflattened).2, hfirst.imports⟩

/-- A text that has been flattened imports what it imported before, and the paths of the imports that
were rewritten without their directories. -/
theorem imports_of_flattenImports? (h : flattenImports? proto = some flat)
    (himports : Imports flat path) :
    Imports proto path ∨ ∃ p, FlattensImport proto p ∧ path = ImportLine.fileOf p := by
  obtain ⟨flatLine, hmem, hgoogle, himport⟩ := himports
  rw [lines_of_flattenImports? h, List.mem_map] at hmem
  obtain ⟨line, hline, rfl⟩ := hmem
  by_cases hflattened : ImportLine.isFlattened line = true
  · rw [ImportLine.flatten, if_pos hflattened] at himport
    rcases ImportLine.imports_of_flattenFirst himport with hsame | ⟨p, hfirst, hpath⟩
    · exact .inl ⟨line, hline, by simpa using (Bool.and_eq_true_iff.1 hflattened).2, hsame⟩
    · exact .inr ⟨p, ⟨line, hline, hflattened, hfirst⟩, hpath⟩
  · rw [ImportLine.flatten, if_neg hflattened] at himport hgoogle
    exact .inl ⟨line, hline, hgoogle, himport⟩

end ProtoUpkeep
