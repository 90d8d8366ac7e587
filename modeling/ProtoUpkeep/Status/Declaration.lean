import ProtoUpkeep.Status.Code
import ProtoUpkeep.Text.Decimal

/-!
# Case declarations of the Swift enum

A declaration is a line `case identifier  // = number` together with the doc comment that ends
directly above it. `Declaration.ofSwift` lists them with the lines they cover, so that the comment
of one can be replaced: the doc comment covers the lines from `firstLine` up to, but not with,
`caseLine`. Lines are counted from zero.
-/

namespace ProtoUpkeep

/-- A case declaration with its doc comment. -/
structure Declaration where
  /-- The raw value that the line names. -/
  number : Int
  /-- The identifier of the case. -/
  identifier : Text := []
  /-- The doc comment's text, without the deprecation marker. -/
  comment : Text := []
  /-- Whether the doc comment starts with the deprecation marker. -/
  deprecated : Bool := false
  /-- The first line of the doc comment, or the line of the case where there is none. -/
  firstLine : Nat := 0
  /-- The line of the case. -/
  caseLine : Nat := 0
deriving DecidableEq, Repr

namespace Declaration

/-- A case line: its identifier and the digits of its number. -/
structure CaseLine where
  /-- The identifier. -/
  identifier : Text
  /-- The digits of the number. -/
  digits : Text
deriving DecidableEq, Repr

/-- A line read as `case IDENTIFIER // = DIGITS`, with any blanks between the parts. -/
def caseLine? (line : Text) : Option CaseLine := do
  let t ← Text.dropHead? "case" line.trimStart
  let t ← Text.dropBlanks? t
  let (identifier, t) ← Text.run? isWord t
  let t ← Text.dropHead? "//" t.trimStart
  let t ← Text.dropHead? "=" t.trimStart
  let (digits, t) ← Text.run? isDigit t.trimStart
  if t.trimStart.isEmpty then some { identifier, digits } else none

/-- Whether the line is a doc comment line. -/
def isDocLine (line : Text) : Bool := line.trimStart.startsWith "///"

/-- The text without any doc comment marks at its start. -/
def dropDocMarks : Text → Text
  | '/' :: '/' :: '/' :: t => dropDocMarks t
  | t => t

/-- What a doc comment line says. -/
def docText (line : Text) : Text := (dropDocMarks line.trim).trim

/-- The text of a doc comment: what its lines say, joined by blanks, lines that say nothing left
out. -/
def joinDoc (doc : List Text) : Text :=
  Text.joinWith [' '] ((doc.map docText).filter fun l => !l.isEmpty)

/-- The comment and the deprecation that a doc comment's text stands for. An empty marker marks
nothing. -/
def splitMarker (marker text : Text) : Text × Bool :=
  match Text.dropHead? marker text with
  | some rest => if marker.isEmpty then (text, false) else (rest.trim, true)
  | none => (text, false)

/-- The declaration on `line`, the line of number `index`, given the lines above it from the nearest
one up. -/
def onLine? (marker : Text) (above : List Text) (index : Nat) (line : Text) :
    Option Declaration := do
  let c ← caseLine? (line.dropEndWhile (· == '\r'))
  let number ← Text.readCode? c.digits
  let doc := above.takeWhile isDocLine
  let (comment, deprecated) := splitMarker marker (joinDoc doc.reverse)
  some {
    number, comment, deprecated
    identifier := c.identifier
    firstLine := index - doc.length
    caseLine := index }

/-- The declarations on the given lines, whose first has the number `index`, below the lines `above`,
the nearest one first. -/
def onLines (marker : Text) : (above : List Text) → (index : Nat) → List Text → List Declaration
  | _, _, [] => []
  | above, index, line :: rest =>
    (onLine? marker above index line).toList ++ onLines marker (line :: above) (index + 1) rest

/-- The declarations of a Swift text in their order; `marker` is what the doc comment of a deprecated
one starts with. -/
def ofSwift (marker swift : Text) : List Declaration := onLines marker [] 0 swift.lines

end Declaration

end ProtoUpkeep
