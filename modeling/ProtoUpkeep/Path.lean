import ProtoUpkeep.Text.Basic

/-!
# Slash paths

Proto files, configurations and reports write paths with forward slashes. A `Path` is such a text;
joining, taking the parent and taking the name work on the text alone and never look at a disk. A
segment that starts with a slash replaces the path it is joined to.
-/

namespace ProtoUpkeep

/-- A path with forward slashes. -/
structure Path where
  /-- Its text. -/
  text : Text
deriving DecidableEq, Repr

namespace Path

/-- The text with each backslash turned into a slash. -/
def forward (t : Text) : Text := t.map fun c => if c = '\\' then '/' else c

/-- The path that a text names, whichever slashes it uses. -/
def ofText (t : Text) : Path := ⟨forward t⟩

/-- The path of `segment` below `base`. -/
def join (base : Path) (segment : Text) : Path :=
  let segment := forward segment
  if segment.head? = some '/' || base.text.isEmpty then ⟨segment⟩
  else if segment.isEmpty || segment = ['.'] then base
  else if base.text.getLast? = some '/' then ⟨base.text ++ segment⟩
  else ⟨base.text ++ '/' :: segment⟩

/-- The path with text added to its last component. -/
def withSuffix (p : Path) (suffix : Text) : Path := ⟨p.text ++ suffix⟩

/-- The path's text without the slashes it ends with. -/
def trimmed (p : Path) : Text := p.text.dropEndWhile (· = '/')

/-- The characters behind the last slash of a text. -/
def lastPiece (t : Text) : Text := (t.reverse.takeWhile (· ≠ '/')).reverse

/-- The path of the directory that the last component is in, if the path has a slash before that
component. -/
def parent? (p : Path) : Option Path :=
  let t := p.trimmed
  let before := t.take (t.length - (lastPiece t).length)
  match before with
  | [] => none
  | [_] => some ⟨['/']⟩
  | before => some ⟨before.dropLast⟩

/-- The last component, if there is one. -/
def fileName? (p : Path) : Option Text :=
  let name := lastPiece p.trimmed
  if name.isEmpty then none else some name

/-- The text behind the last dot of a name. A dot that starts the name does not count. -/
def nameExtension? (name : Text) : Option Text :=
  let behind := (name.reverse.takeWhile (· ≠ '.')).reverse
  if behind.length + 1 < name.length then some behind else none

/-- The extension of the last component. -/
def extension? (p : Path) : Option Text := p.fileName?.bind nameExtension?

/-- Whether a component of the path is one of the names. -/
def hasComponent (p : Path) (names : List Text) : Bool :=
  (p.text.pieces '/').any fun piece => names.contains piece

/-- How two paths are ordered: by their code points. -/
def compare (p q : Path) : Ordering := compareOfLessAndEq p.text q.text

end Path

end ProtoUpkeep
