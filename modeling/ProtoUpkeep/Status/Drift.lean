import ProtoUpkeep.Status.Code
import ProtoUpkeep.Status.Declaration
import ProtoUpkeep.Status.RawValues

/-!
# What the Swift enum lacks

A proto code is missing if the Swift file maps no raw value to it. A code that is mapped has drifted
if the declaration of its number says another comment, blanks at the ends apart, or another
deprecation. Where several declarations name one number the last of them counts.
-/

namespace ProtoUpkeep

/-- A declaration whose doc comment no longer says what the proto file says. -/
structure Drift where
  /-- What the proto file says. -/
  code : StatusCode
  /-- The declaration to bring up to date. -/
  declaration : Declaration
deriving DecidableEq, Repr

/-- The codes whose number has no mapping, in ascending order of their numbers. -/
def missingCodes (codes : List StatusCode) (mapped : RawValues) : List StatusCode :=
  (codes.filter fun c => !mapped.contains c.number).mergeSort fun a b => a.number ≤ b.number

/-- Whether a declaration says something else than a code. -/
def Declaration.differs (d : Declaration) (c : StatusCode) : Bool :=
  c.comment.trim != d.comment.trim || c.deprecated != d.deprecated

/-- The last declaration of a number. -/
def declarationOf? (declarations : List Declaration) (number : Int) : Option Declaration :=
  declarations.reverse.find? (·.number == number)

/-- The drifted declarations of mapped codes, in the order of the codes. -/
def drifts (codes : List StatusCode) (mapped : RawValues) (declarations : List Declaration) :
    List Drift :=
  (codes.filter fun c => mapped.contains c.number).filterMap fun code =>
    match declarationOf? declarations code.number with
    | some declaration =>
      if declaration.differs code then some { code, declaration } else none
    | none => none

end ProtoUpkeep
