import ProtoUpkeep.Text.Basic

/-!
# Import lines of proto files

The compiler looks imports up in one directory, so an import by a path is rewritten to the path
without its directories. An import is the word `import`, blanks and a quoted path that is not empty;
the first one on a line is rewritten. A line that does not start with `import`, or that mentions
`google`, stays as it is.
-/

namespace ProtoUpkeep.ImportLine

/-- The text behind the first slash, where the text before that slash is not empty. -/
def dropDirectory? (path : Text) : Option Text :=
  match path.dropWhile (· != '/') with
  | _ :: rest => if rest.length + 1 < path.length then some rest else none
  | [] => none

/-- A path without its directories: without the longest run of non-empty segments at its start, each
with its slash, that leaves something. -/
def fileOf (path : Text) : Text :=
  match _h : dropDirectory? path with
  | some rest => if rest.isEmpty then path else fileOf rest
  | none => path
termination_by path.length
decreasing_by
  simp only [dropDirectory?] at _h
  split at _h
  · split at _h
    · simp only [Option.some.injEq] at _h
      subst _h
      omega
    · contradiction
  · contradiction

/-- The quoted path of the import at the start of a text and what stands behind it. -/
def importAt? (t : Text) : Option (Text × Text) := do
  let t ← Text.dropHead? "import" t
  let t ← Text.dropBlanks? t
  let t ← Text.dropHead? "\"" t
  let (path, t) ← Text.run? (· != '"') t
  let t ← Text.dropHead? "\"" t
  some (path, t)

/-- The line with its first import rewritten. -/
def flattenFirst : Text → Text
  | [] => []
  | c :: t =>
    match importAt? (c :: t) with
    | some (path, rest) => "import \"".toList ++ fileOf path ++ '"' :: rest
    | none => c :: flattenFirst t

/-- Whether the import on a line is rewritten. -/
def isFlattened (line : Text) : Bool :=
  line.trim.startsWith "import" && !line.contains "google"

/-- The line as it stands in a flat tree. -/
def flatten (line : Text) : Text := if isFlattened line then flattenFirst line else line

end ProtoUpkeep.ImportLine

namespace ProtoUpkeep

/-- The text of a proto file as it stands in a flat tree, or `none` if nothing changes. -/
def flattenImports? (proto : Text) : Option Text :=
  let flat := Text.ofLines (proto.lines.map ImportLine.flatten)
  if flat = proto then none else some flat

end ProtoUpkeep
