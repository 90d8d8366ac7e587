import ProtoUpkeep.Config.Yaml.Reader

/-!
# Writing YAML

Mappings and lists are written in lines; a list below a key is not indented. A text is written plain
where nothing else could be read from that, in single quotes where it could, as a block of lines where
it has line feeds, and in double quotes where it holds what no other form can.
-/

namespace ProtoUpkeep.Yaml

/-- Whether the character shows as itself. -/
def isShown (c : Char) : Bool :=
  let n := c.toNat
  n == 0x0A || (0x20 ≤ n && n ≤ 0x7E) || (0xA0 ≤ n && n != 0xFEFF && n != 0xFFFE && n != 0xFFFF)

/-- What decides about the form of a text. -/
structure Shape where
  /-- A plain scalar of it would be read as something else. -/
  marked : Bool
  /-- It holds a character that does not show. -/
  hidden : Bool
  /-- It has line ends. -/
  lines : Bool
  /-- It starts or ends with a blank or a line end. -/
  edged : Bool
  /-- It ends with a blank. -/
  blankEnd : Bool
  /-- A blank follows a line end in it. -/
  breakBlank : Bool
  /-- A line end follows a blank in it. -/
  blankBreak : Bool

/-- Whether a mark in a text has a meaning of its own, with what stands behind it; `before` is the
character before it. -/
def isMarkAt (before? : Option Char) (c : Char) (t : Text) : Bool :=
  match before? with
  | none =>
    "#,[]&*!|>'\"%@`".toList.contains c || c == '{' || c == '}' ||
      ((c == '?' || c == ':' || c == '-') && atSpace t)
  | some b =>
    (c == ':' && atSpace t) || (c == '#' && (isBlank b || isBreak b))

/-- Whether a mark in a text has a meaning of its own. -/
def isMarked (before? : Option Char) : Text → Bool
  | [] => false
  | c :: t => isMarkAt before? c t || isMarked (some c) t

/-- Whether one of the characters for which `p` holds is followed by one for which `q` does. -/
def isFollowed (p q : Char → Bool) : Text → Bool
  | c :: d :: t => (p c && q d) || isFollowed p q (d :: t)
  | _ => false

/-- What decides about the form of a text. -/
def Shape.of (t : Text) : Shape where
  marked := isMarked none t || Text.startsWith t "---" || Text.startsWith t "..."
  hidden := t.any fun c => !isShown c
  lines := t.any isBreak
  edged := (t.head?.any fun c => c == ' ' || isBreak c) ||
    (t.getLast?.any fun c => c == ' ' || isBreak c)
  blankEnd := t.getLast? == some ' '
  breakBlank := isFollowed isBreak (· == ' ') t
  blankBreak := isFollowed (· == ' ') isBreak t

namespace Shape

/-- Whether the text can stand plain. -/
def isPlain (s : Shape) : Bool :=
  !s.marked && !s.hidden && !s.lines && !s.edged

/-- Whether the text can stand in single quotes. -/
def isSingle (s : Shape) : Bool := !s.hidden && !s.breakBlank && !s.blankBreak

/-- Whether the text can stand as a block of lines. -/
def isBlock (s : Shape) : Bool := !s.hidden && !s.blankEnd

end Shape

/-- Whether a plain scalar with the text would not be read as a text. -/
def isOtherPlain (t : Text) : Bool :=
  isPaddedDigits t ||
    match ofPlain t with
    | some (.text _) => false
    | _ => true

/-- A digit in base sixteen. -/
def hexDigit (n : Nat) : Char := (Nat.digitChar (n % 16)).toUpper

/-- The last digits of a number in base sixteen. -/
def hexDigits : (count : Nat) → Nat → Text
  | 0, _ => []
  | count + 1, n => hexDigits count (n / 16) ++ [hexDigit n]

/-- A character in double quotes. -/
def escapeChar (c : Char) : Text :=
  let n := c.toNat
  if c == '"' then "\\\""
  else if c == '\\' then "\\\\"
  else if isShown c && !isBreak c then [c]
  else if n == 0x00 then "\\0"
  else if n == 0x07 then "\\a"
  else if n == 0x08 then "\\b"
  else if n == 0x09 then "\\t"
  else if n == 0x0A then "\\n"
  else if n == 0x0B then "\\v"
  else if n == 0x0C then "\\f"
  else if n == 0x0D then "\\r"
  else if n == 0x1B then "\\e"
  else if n == 0x85 then "\\N"
  else if n == 0xA0 then "\\_"
  else if n == 0x2028 then "\\L"
  else if n == 0x2029 then "\\P"
  else if n ≤ 0xFF then "\\x".toList ++ hexDigits 2 n
  else if n ≤ 0xFFFF then "\\u".toList ++ hexDigits 4 n
  else "\\U".toList ++ hexDigits 8 n

/-- A text in double quotes. -/
def doubleQuoted (t : Text) : Text := '"' :: t.flatMap escapeChar ++ ['"']

/-- A text in single quotes, where a single quote is written twice. -/
def singleQuoted (t : Text) : Text :=
  '\'' :: t.flatMap (fun c => if c == '\'' then [c, c] else [c]) ++ ['\'']

/-- The first line of a block: whether its indentation has to be said, and what becomes of the line
ends at its end. -/
def blockHeader (t : Text) : Text :=
  let indent : Text :=
    match t with
    | c :: _ => if c == ' ' || isBreak c then ['2'] else []
    | [] => []
  let chomping : Text :=
    match t.reverse with
    | c :: rest =>
      if !isBreak c then ['-']
      else
        match rest with
        | [] => ['+']
        | d :: _ => if isBreak d then ['+'] else []
    | [] => ['-']
  '|' :: indent ++ chomping

/-- The lines of a text; the last line end does not start a line. -/
def blockLines (t : Text) : List Text :=
  match t.getLast? with
  | some '\n' => Text.lines t.dropLast
  | _ => Text.lines t

/-- The lines of a text; those of a block behind its first line are not indented yet. -/
def textLines (t : Text) : List Text :=
  let s := Shape.of t
  if t.elem '\n' then
    if s.isBlock then blockHeader t :: blockLines t else [doubleQuoted t]
  else if s.isPlain && !isOtherPlain t then [t]
  else if s.isSingle then [singleQuoted t]
  else [doubleQuoted t]

/-- Lines moved by one level. An empty line stays empty. -/
def indent (ls : List Text) : List Text :=
  ls.map fun l => if l.isEmpty then [] else ' ' :: ' ' :: l

/-- Lines behind something on the first of them, with the others moved by one level. -/
def hang (head : Text) : List Text → List Text
  | [] => [head]
  | l :: ls => (head ++ l) :: indent ls

/-- The number of bytes that a key before its colon may have. -/
def maxKeyBytes : Nat := 128

/-- Whether a key may stand before its colon on one line. -/
def isSimpleKey (key : Text) : Bool :=
  !key.any isBreak && (key.map Char.utf8Size).foldl (· + ·) 0 ≤ maxKeyBytes

/-- The lines of a member, from those of its key and those of its value. -/
def memberLines (key : Text) (v : Value) (ls : List Text) : List Text :=
  if isSimpleKey key then
    let head := (textLines key).headD []
    match v with
    | .list (_ :: _) => (head ++ [':']) :: ls
    | .object (_ :: _) => (head ++ [':']) :: indent ls
    | _ => hang (head ++ ": ".toList) ls
  else hang "? " (textLines key) ++ hang ": " ls

mutual

/-- The lines of a value. -/
def lines : Value → List Text
  | .list [] => ["[]"]
  | .list items => itemLines items
  | .object [] => [['{', '}']]
  | .object members => allMemberLines members
  | .text t => textLines t
  | v => [Json.scalar v]

/-- The lines of items. -/
def itemLines : List Value → List Text
  | [] => []
  | v :: rest => hang "- " (lines v) ++ itemLines rest

/-- The lines of members. -/
def allMemberLines : List (Text × Value) → List Text
  | [] => []
  | (key, v) :: rest => memberLines key v (lines v) ++ allMemberLines rest

end

/-- The text of a value. -/
def write (v : Value) : Text :=
  let ls := match v with
    | .text t => hang [] (textLines t)
    | v => lines v
  ls.flatMap (· ++ ['\n'])

end ProtoUpkeep.Yaml
