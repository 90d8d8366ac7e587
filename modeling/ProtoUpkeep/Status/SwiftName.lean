import ProtoUpkeep.Text.Dictionary
import ProtoUpkeep.Unicode.Letter

/-!
# Swift identifiers of proto names

A proto name is a list of segments joined by underscores. Its Swift identifier is the first segment
in lower case followed by the others capitalized, except where a table of acronyms gives a segment a
spelling of its own.
-/

namespace ProtoUpkeep

/-- The spelling of a segment that is not the first: the one from the table, or else capitalized. -/
def swiftSegment (acronyms : Dictionary) (segment : Text) : Text :=
  (acronyms.get? segment).getD segment.capitalize

/-- The Swift identifier of a proto name. -/
def swiftName (acronyms : Dictionary) (name : Text) : Text :=
  match name.pieces '_' with
  | [] => []
  | first :: others => first.lower ++ others.flatMap (swiftSegment acronyms)

end ProtoUpkeep
