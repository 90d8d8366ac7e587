import ProtoUpkeep.Status.Code
import ProtoUpkeep.Text.Decimal
import ProtoUpkeep.Unicode.Letter

/-!
# The enum block of a proto file

`StatusCode.ofProto?` reads the values of one enum. The block is what stands between the opening
brace of the enum and the next closing brace, comments not considered. Its lines are read one by one
with the comment texts that wait for a value: a comment line adds to them, a blank line drops them,
a value takes them, and any other line leaves them alone.
-/

namespace ProtoUpkeep

namespace EnumBlock

/-- `p` at the first place, behind at least one blank and with nothing but blanks before it, where it
gives a result; the places are tried from the last one back. -/
def afterBlanks {α : Type} (p : Text → Option α) : Text → Option α
  | [] => none
  | c :: t =>
    if isBlank c then
      match afterBlanks p t with
      | some a => some a
      | none => p t
    else none

/-- The text behind `name`, blanks and an opening brace, at the start of `t`. -/
def openBlock? (name t : Text) : Option Text := do
  let rest ← Text.dropHead? name t
  Text.dropHead? ['{'] rest.trimStart

/-- The body of the enum block that starts at the start of `t`: it reaches to the first closing
brace. -/
def bodyAt? (name t : Text) : Option Text := do
  let rest ← Text.dropHead? "enum" t
  let inside ← afterBlanks (openBlock? name) rest
  let (body, _) ← Text.cutAt ['}'] inside
  some body

/-- The body of the first enum block of that name in the text. -/
def body? (name : Text) : Text → Option Text
  | [] => none
  | c :: t =>
    match bodyAt? name (c :: t) with
    | some body => some body
    | none => body? name t

/-- The text behind a block comment's opening marker, one more star and the blanks after it, if `t`
starts with such a marker. -/
def openMarker? (t : Text) : Option Text :=
  (Text.dropHead? "/*" t).map fun rest => ((Text.dropHead? "*" rest).getD rest).trimStart

/-- The text behind a block comment's closing marker and the blanks before it, if `t` starts so. -/
def closeMarker? (t : Text) : Option Text := Text.dropHead? "*/" t.trimStart

theorem length_of_openMarker? {t rest : Text} (h : openMarker? t = some rest) :
    rest.length < t.length := by
  obtain ⟨u, hu, rfl⟩ := Option.map_eq_some_iff.1 h
  have hlen := Text.length_of_dropHead? hu
  have htrim := Text.length_trimStart_le ((Text.dropHead? ['*'] u).getD u)
  have hstar : ((Text.dropHead? ['*'] u).getD u).length ≤ u.length := by
    cases hs : Text.dropHead? ['*'] u with
    | none => simp
    | some v => simp [Text.length_of_dropHead? hs]
  simp at hlen htrim ⊢
  omega

theorem length_of_closeMarker? {t rest : Text} (h : closeMarker? t = some rest) :
    rest.length < t.length := by
  have hlen := Text.length_of_dropHead? h
  have htrim := Text.length_trimStart_le t
  simp at hlen
  omega

/-- The text without block comment markers: an opening marker goes with one more star and the blanks
behind it, a closing marker with the blanks before it. -/
def stripMarkers (t : Text) : Text :=
  match t with
  | [] => []
  | c :: ahead =>
    match _h : openMarker? (c :: ahead) with
    | some rest => stripMarkers rest
    | none =>
      match _h' : closeMarker? (c :: ahead) with
      | some rest => stripMarkers rest
      | none => c :: stripMarkers ahead
termination_by t.length
decreasing_by
  · exact length_of_openMarker? _h
  · exact length_of_closeMarker? _h'
  · simp

/-- A comment line: its text, and whether the waiting comment texts are dropped before it. -/
structure CommentLine where
  /-- Whether the line starts a block comment, which drops what waits. -/
  startsBlock : Bool
  /-- What the line says, without its comment marks; empty if it says nothing. -/
  text : Text
deriving DecidableEq, Repr

/-- A trimmed line read as a comment line. The first line of a block comment that does not close on
the same line says nothing; inside a block comment each line starts with a star. -/
def commentLine? (line : Text) : Option CommentLine :=
  if line.startsWith "/*" then
    let text := if line.contains "*/" then (stripMarkers line).trim else []
    some { startsBlock := true, text }
  else if line.startsWith "*" then
    let text := Text.trimEnd (line.dropWhile fun c => c == '*' || c == ' ')
    some { startsBlock := false, text := if text == ['/'] then [] else text }
  else if line.startsWith "//" then
    some { startsBlock := false, text := Text.trim (line.dropWhile fun c => c == '/' || c == ' ') }
  else none

/-- The comment texts that wait after a comment line. -/
def CommentLine.pending (c : CommentLine) (pending : List Text) : List Text :=
  let kept := if c.startsBlock then [] else pending
  if c.text.isEmpty then kept else kept ++ [c.text]

/-- The text behind a deprecation option at the start of `t`, if one stands there. -/
def dropOption? (t : Text) : Option Text := do
  let t ← Text.dropHead? "[deprecated" t
  let t ← Text.dropHead? "=" t.trimStart
  Text.dropHead? "true]" t.trimStart

/-- The text behind a line comment's mark and the blanks after it. The whole of `t` has to be such a
comment, or else empty, and then the comment is missing. -/
def inlineComment? (t : Text) : Option (Option Text) :=
  if t.isEmpty then some none
  else (Text.dropHead? "//" t).map fun rest => some rest.trimStart

/-- What a value line consists of. -/
structure ValueLine where
  /-- The name of the value. -/
  name : Text
  /-- The digits of its number. -/
  digits : Text
  /-- The comment behind the value, where there is one. -/
  comment : Option Text
deriving DecidableEq, Repr

/-- A trimmed line read as `NAME = DIGITS`, an optional deprecation option, an optional semicolon and
an optional comment. -/
def valueLine? (line : Text) : Option ValueLine := do
  let (name, t) ← Text.run? isWord line
  let t ← Text.dropHead? "=" t.trimStart
  let (digits, t) ← Text.run? isDigit t.trimStart
  let t := t.trimStart
  let t := ((dropOption? t).getD t).trimStart
  let t := ((Text.dropHead? ";" t).getD t).trimStart
  let comment ← inlineComment? t
  some { name, digits, comment }

/-- The comment of a value: the texts that waited for it and then the comment behind it. -/
def joinComment (pending : List Text) (inline : Option Text) : Text :=
  let above := Text.joinWith [' '] pending
  match inline.map Text.trim with
  | none | some [] => above.trim
  | some behind => (above ++ (if above.isEmpty then [] else [' ']) ++ behind).trim

/-- A trimmed line read as an enum value, given the comment texts that wait. The word `deprecated`
anywhere on the line, in any letter case, marks the value as deprecated. -/
def value? (pending : List Text) (line : Text) : Option StatusCode := do
  let v ← valueLine? line
  let number ← Text.readCode? v.digits
  some {
    name := v.name
    number
    comment := joinComment pending v.comment
    deprecated := line.lower.contains "deprecated" }

/-- The values of the lines of a block, given the comment texts that wait. -/
def values : (pending : List Text) → List Text → List StatusCode
  | _, [] => []
  | pending, raw :: rest =>
    let line := raw.trim
    if line.isEmpty then values [] rest
    else
      match commentLine? line with
      | some c => values (c.pending pending) rest
      | none =>
        match value? pending line with
        | some code => code :: values [] rest
        | none => values pending rest

end EnumBlock

/-- The values of the enum `name` of a proto file in their order, or `none` if it has no such enum
block. -/
def StatusCode.ofProto? (name proto : Text) : Option (List StatusCode) :=
  (EnumBlock.body? name proto).map fun body => EnumBlock.values [] body.lines

end ProtoUpkeep
