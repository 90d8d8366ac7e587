import ProtoUpkeep.Text.Basic

/-!
# Places in a YAML text

A cursor stands before the rest of a text and knows the line and the column it is in. Lines end with a
carriage return, a line feed, both, or one of three other characters. A gap is a run of blanks and
line ends between two words; it is folded into what stands for it in the value.
-/

namespace ProtoUpkeep.Yaml

/-- Whether the character is a blank inside a line. -/
def isBlank (c : Char) : Bool := c == ' ' || c == '\t'

/-- Whether the character ends a line. -/
def isBreak (c : Char) : Bool :=
  c == '\n' || c == '\r' || c == '\u0085' || c == '\u2028' || c == '\u2029'

/-- Whether a blank, a line end or the end of the text comes next. -/
def atSpace : Text → Bool
  | [] => true
  | c :: _ => isBlank c || isBreak c

/-- Whether a line end or the end of the text comes next. -/
def atLineEnd : Text → Bool
  | [] => true
  | c :: _ => isBreak c

/-- Whether the character may stand in names. -/
def isNameChar (c : Char) : Bool := c.isAlphanum || c == '_' || c == '-'

/-- A place in a text. -/
structure Cursor where
  /-- What comes next. -/
  rest : Text
  /-- The number of line ends before. -/
  line : Nat
  /-- The number of characters before in the line. -/
  column : Nat
  /-- The number of characters before. -/
  index : Nat

namespace Cursor

/-- The start of a text. -/
def start (t : Text) : Cursor := ⟨t, 0, 0, 0⟩

/-- The cursor behind a number of characters of its line. -/
def advance (c : Cursor) (n : Nat) : Cursor :=
  ⟨c.rest.drop n, c.line, c.column + n, c.index + n⟩

/-- The cursor behind the blanks that come next. -/
def skipBlanks (c : Cursor) : Cursor := c.advance (c.rest.takeWhile isBlank).length

/-- The cursor behind the characters of its line that come next. -/
def skipLineRest (c : Cursor) : Cursor :=
  c.advance (c.rest.takeWhile fun d => !isBreak d).length

/-- The line end that comes next, as it stands in values, and the cursor behind it. -/
def lineEnd (c : Cursor) : Text × Cursor :=
  match c.rest with
  | '\r' :: '\n' :: t => (['\n'], ⟨t, c.line + 1, 0, c.index + 2⟩)
  | d :: t =>
    if isBreak d then
      (if d == '\u2028' || d == '\u2029' then [d] else ['\n'], ⟨t, c.line + 1, 0, c.index + 1⟩)
    else ([], c)
  | [] => ([], c)

/-- Whether a line that starts here starts a document or ends one. -/
def atDocumentMark (c : Cursor) : Bool :=
  c.column == 0 &&
    (match c.rest with
    | '-' :: '-' :: '-' :: t => atSpace t
    | '.' :: '.' :: '.' :: t => atSpace t
    | _ => false)

end Cursor

/-- Blanks and line ends between two words. -/
structure Gap where
  /-- The blanks before the first line end. -/
  blanks : Text
  /-- The first line end, if there is one; it is empty where a backslash took it away. -/
  first? : Option Text
  /-- The line ends behind the first one. -/
  more : Text

namespace Gap

/-- Nothing between two words. -/
def none : Gap := ⟨[], .none, []⟩

/-- What stands for the gap: the blanks if it has no line end, a blank if it has one, and the other
line ends if it has several. -/
def folded (g : Gap) : Text :=
  match g.first? with
  | .none => g.blanks
  | some ['\n'] => if g.more.isEmpty then [' '] else g.more
  | some first => first ++ g.more

/-- The gap continued by the blanks and line ends that come next, and the cursor behind them. In the
lines behind the first no tab may stand in front of the column `least`. `bound` limits the number of
characters. -/
def extend (least : Int) : (bound : Nat) → Gap → Cursor → Option (Gap × Cursor)
  | 0, _, _ => .none
  | bound + 1, g, c =>
    match c.rest with
    | [] => some (g, c)
    | d :: _ =>
      if isBlank d then
        match g.first? with
        | .none => extend least bound { g with blanks := g.blanks ++ [d] } (c.advance 1)
        | some _ =>
          if d == '\t' && (c.column : Int) < least then .none else extend least bound g (c.advance 1)
      else if isBreak d then
        let (b, c) := c.lineEnd
        match g.first? with
        | .none => extend least bound ⟨[], some b, g.more⟩ c
        | some _ => extend least bound { g with more := g.more ++ b } c
      else some (g, c)

end Gap

end ProtoUpkeep.Yaml
