import ProtoUpkeep.Files.Disk
import ProtoUpkeep.Program.Shell.Glob

/-!
# Fields

The parts of a word are put together to fields. What is put in outside of quotes is cut at blanks. A
field with a pattern outside of quotes stands for the paths on the disk that match it, or for itself
if there is none. A name that starts with a dot matches only a pattern that starts with one.
-/

namespace ProtoUpkeep.Shell

/-- Characters with the mark that they are quoted. -/
abbrev MarkedText := List (Bool × Char)

/-- Characters of which all are quoted or none is. -/
def marked (quoted : Bool) (t : Text) : MarkedText := t.map fun c => (quoted, c)

/-- Fields that are being put together. -/
structure Fields where
  /-- The fields that are finished, the last one first. -/
  finished : List MarkedText
  /-- The field that is open, if one is. -/
  open? : Option MarkedText

namespace Fields

/-- No fields. -/
def none : Fields := ⟨[], .none⟩

/-- Adds characters to the open field. -/
def add (quoted : Bool) (t : Text) (f : Fields) : Fields :=
  { f with open? := some (f.open?.getD [] ++ marked quoted t) }

/-- Ends the open field. -/
def close (f : Fields) : Fields :=
  match f.open? with
  | some t => ⟨t :: f.finished, .none⟩
  | .none => f

/-- Adds characters that are cut into fields at blanks. -/
def addSplit (t : Text) (f : Fields) : Fields :=
  t.foldl (fun f c => if c == ' ' || c == '\t' || c == '\n' then f.close else f.add false [c]) f

/-- Adds texts in quotes, each of which ends the field before it. -/
def addEach (ts : List Text) (f : Fields) : Fields :=
  match ts with
  | [] => f
  | t :: ts => ts.foldl (fun f t => f.close.add true t) (f.add true t)

/-- The fields. -/
def toList (f : Fields) : List MarkedText := f.close.finished.reverse

end Fields

/-- The characters between slashes. -/
def components (cs : MarkedText) : List MarkedText :=
  match cs with
  | [] => [[]]
  | (quoted, c) :: cs =>
    match c == '/', components cs with
    | true, rest => [] :: rest
    | false, [] => [[(quoted, c)]]
    | false, first :: rest => ((quoted, c) :: first) :: rest

/-- The paths that continue a path by components that match patterns. -/
def matchingPaths (d : Disk) (path : Text) : List MarkedText → List Text
  | [] => [path]
  | cs :: rest =>
    let literal := cs.map (·.2)
    let goOn (name : Text) : List Text :=
      let path := path ++ name
      match rest with
      | [] => if d.pathExists path then [path] else []
      | _ => matchingPaths d (path ++ ['/']) rest
    if isPattern cs then
      let pattern := globOf (cs.length + 1) cs
      let names := match d.readDirectory (if path.isEmpty then ['.'] else path) with
        | .ok names => names
        | .error _ => []
      let shown := names.filter fun n =>
        (n.head? != some '.' || literal.head? == some '.') && matchesGlob pattern n
      shown.flatMap goOn
    else goOn literal

/-- The texts that a field stands for. -/
def expandField (d : Disk) (cs : MarkedText) : List Text :=
  if isPattern cs then
    match matchingPaths d [] (components cs) with
    | [] => [cs.map (·.2)]
    | paths => paths
  else [cs.map (·.2)]

end ProtoUpkeep.Shell
