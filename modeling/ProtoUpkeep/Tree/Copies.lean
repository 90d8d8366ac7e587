import ProtoUpkeep.Files.Action

/-!
# Copying proto files into the tree

The listed files are copied from where they come from, each under its path relative to the source. A
file that is listed twice is copied once. A file that is not there, or cannot be copied, does not stop
the others: the report says what became of each.
-/

namespace ProtoUpkeep

/-- What became of a file that was to be copied. -/
inductive CopyOutcome where
  /-- It was copied. -/
  | copied
  /-- There is no such file at the source. -/
  | notFound
  /-- Copying it failed. -/
  | failed (error : FileError)
deriving DecidableEq, Repr

/-- What became of the files that were to be copied, in the order of the request. -/
structure CopyReport where
  /-- Each file with what became of it. -/
  outcomes : List (Text × CopyOutcome)
deriving DecidableEq, Repr

namespace CopyReport

/-- The files that were copied. -/
def copied (r : CopyReport) : List Text :=
  r.outcomes.filterMap fun
    | (file, .copied) => some file
    | _ => none

/-- The files that are not at the source. -/
def notFound (r : CopyReport) : List Text :=
  r.outcomes.filterMap fun
    | (file, .notFound) => some file
    | _ => none

/-- The files that could not be copied, and why. -/
def failed (r : CopyReport) : List (Text × FileError) :=
  r.outcomes.filterMap fun
    | (file, .failed error) => some (file, error)
    | _ => none

end CopyReport

/-- Copies one file from below `source` to below `dest`. -/
def copyProto {ε : Type} (source dest : Path) (name : Text) : DiskAction ε CopyOutcome := do
  if ← Files.isFile (source.join name) then
    match ← (Files.copy (source.join name) (dest.join name)).attempt with
    | .ok _ => return .copied
    | .error error => return .failed error
  else return .notFound

/-- Copies files one after the other from below `source` to below `dest`. -/
def copyEach {ε : Type} (source dest : Path) :
    List Text → DiskAction ε (List (Text × CopyOutcome))
  | [] => return []
  | name :: rest => do
    let outcome ← copyProto source dest name
    return (name, outcome) :: (← copyEach source dest rest)

/-- Copies the listed files from below `source` to below `dest`, each of them once. -/
def copyProtos {ε : Type} (source dest : Path) (names : List Text) : DiskAction ε CopyReport := do
  return ⟨← copyEach source dest names.eraseDups⟩

end ProtoUpkeep
