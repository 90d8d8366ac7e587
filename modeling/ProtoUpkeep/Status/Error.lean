import ProtoUpkeep.Files.Error
import ProtoUpkeep.Pattern.Reader
import ProtoUpkeep.Status.Section

/-!
# What can go wrong with the status enum
-/

namespace ProtoUpkeep

/-- One of the two files that are compared. -/
inductive InputFile where
  /-- The proto file. -/
  | proto
  /-- The Swift file. -/
  | swift
deriving DecidableEq, Repr

/-- Why the Swift enum could not be brought in step. -/
inductive StatusError where
  /-- A file operation failed. -/
  | file (error : FileError)
  /-- One of the two files does not exist. -/
  | missingInput (kind : InputFile) (path : Text)
  /-- The proto file has no enum block of that name. -/
  | enumNotFound (name : Text)
  /-- The pattern of a section's anchor is refused. -/
  | invalidAnchor (s : Section) (error : PatternError)
deriving DecidableEq, Repr

namespace StatusError

/-- The first words of the message about a refused pattern. -/
def invalidAnchorHeadline (s : Section) : Text :=
  "Invalid pattern for ".toList ++ s.title ++ " anchor: "

/-- What the error says. -/
def message : StatusError → Text
  | file error => "Filesystem error: ".toList ++ error.message
  | missingInput kind path =>
    (match kind with | .proto => "Proto" | .swift => "Swift" : String).toList ++
      " file not found: " ++ path
  | enumNotFound name => "Could not find enum ".toList ++ name ++ " in proto file"
  | invalidAnchor s _ => invalidAnchorHeadline s ++ "not a valid pattern"

end StatusError

end ProtoUpkeep
