import ProtoUpkeep.Status.Code
import ProtoUpkeep.Status.Section
import ProtoUpkeep.Status.SwiftName
import ProtoUpkeep.Text.Decimal

/-!
# Generated Swift

A `Style` fixes how codes are spelled in Swift: by its table of acronyms and by the marker that the
doc comments of deprecated codes start with. It renders one code for each section, and a list of
codes into the fragments that are inserted.
-/

namespace ProtoUpkeep

/-- What the Swift text of a code depends on. -/
structure Style where
  /-- The spelling of segments that are not capitalized. -/
  acronyms : Dictionary
  /-- What the doc comment of a deprecated code starts with. -/
  marker : Text

namespace Style

/-- The Swift identifier of a code. -/
def name (s : Style) (c : StatusCode) : Text := swiftName s.acronyms c.name

/-- The doc comment for a comment text and a deprecation, or `none` where there is nothing to say. -/
def docComment? (s : Style) (comment : Text) (deprecated : Bool) : Option Text :=
  match comment.isEmpty, deprecated with
  | false, true => some (s.marker ++ ' ' :: comment)
  | false, false => some comment
  | true, true => some s.marker
  | true, false => none

/-- The declaration of a code, below its doc comment. -/
def caseDeclaration (s : Style) (c : StatusCode) : Text :=
  let doc : Text := match s.docComment? c.comment c.deprecated with
    | some doc => "    /// " ++ doc ++ "\n"
    | none => []
  doc ++ "    case " ++ s.name c ++ "  // = " ++ Text.ofInt c.number

/-- The case that maps the raw value of a code to it. -/
def initCase (s : Style) (c : StatusCode) : Text :=
  "        case ".toList ++ Text.ofInt c.number ++ ": self = ." ++ s.name c

/-- The case that maps a code to its raw value. -/
def rawValueCase (s : Style) (c : StatusCode) : Text :=
  "        case .".toList ++ s.name c ++ ": return " ++ Text.ofInt c.number

/-- The entry of a code in the list of all cases. -/
def allCasesEntry (s : Style) (c : StatusCode) : Text :=
  "        .".toList ++ s.name c ++ ","

/-- The entry of a code in the map of names. -/
def nameMapEntry (c : StatusCode) : Text :=
  "            ".toList ++ Text.ofInt c.number ++ ": \"" ++ c.name ++ "\","

/-- The text to insert in each section for the given codes. Declarations are separated by blank
lines, and one more follows the last, which sets them off from the declaration behind them. -/
def fragments (s : Style) (codes : List StatusCode) : PerSection Text where
  caseDeclarations := Text.joinWith "\n\n" (codes.map s.caseDeclaration) ++ "\n"
  initCases := Text.ofLines (codes.map s.initCase)
  rawValueCases := Text.ofLines (codes.map s.rawValueCase)
  allCases := Text.ofLines (codes.map s.allCasesEntry)
  nameMap := Text.ofLines (codes.map nameMapEntry)

end Style

end ProtoUpkeep
