import ProtoUpkeep.Config.Yaml.Scalar

/-!
# Tokens of YAML

A YAML text is cut into tokens. Indentation becomes tokens too: a block collection starts where a line
is indented further than the ones before, and ends where a line is indented less. What turns out to be
a key only at the colon behind it gets its token put in front then; a key has to stand on one line with
its colon, at most 1024 characters before it.
-/

namespace ProtoUpkeep.Yaml

/-- A token. -/
inductive Token where
  /-- The version that a directive asks for. -/
  | version (major minor : Nat)
  /-- The handle that a directive gives to tags. -/
  | tagHandle (handle tagStart : Text)
  /-- The start of a document. -/
  | documentStart
  /-- The end of a document. -/
  | documentEnd
  /-- The start of a list written in lines. -/
  | blockListStart
  /-- The start of a mapping written in lines. -/
  | blockMappingStart
  /-- The end of a list or mapping written in lines. -/
  | blockEnd
  /-- An opening bracket. -/
  | flowListStart
  /-- A closing bracket. -/
  | flowListEnd
  /-- An opening brace. -/
  | flowMappingStart
  /-- A closing brace. -/
  | flowMappingEnd
  /-- A dash in front of an item. -/
  | item
  /-- A comma. -/
  | comma
  /-- The place in front of a key. -/
  | key
  /-- The place in front of a value. -/
  | value
  /-- A reference to an anchor. -/
  | alias (name : Text)
  /-- An anchor. -/
  | anchor (name : Text)
  /-- A tag: its handle and its end. -/
  | tag (handle suffix : Text)
  /-- A scalar, plain or not. -/
  | scalar (plain : Bool) (t : Text)
deriving DecidableEq, Repr

/-- A place that may turn out to be the start of a key. -/
structure KeyStart where
  /-- Whether it has to be one. -/
  required : Bool
  /-- The number of tokens before it. -/
  tokens : Nat
  /-- Its line. -/
  line : Nat
  /-- Its column. -/
  column : Nat
  /-- The number of characters before it. -/
  index : Nat

/-- A text that has been cut into tokens up to a place. -/
structure Scan where
  /-- The place. -/
  cursor : Cursor
  /-- The tokens so far. -/
  tokens : Array Token
  /-- The column of the innermost block collection, or -1 outside of all. -/
  indent : Int
  /-- The columns of the collections around it, from the innermost on. -/
  outer : List Int
  /-- The possible start of a key inside each open bracket or brace, from the innermost on, and at last
  outside of all of them. -/
  keys : List (Option KeyStart)
  /-- Whether a key may start here. -/
  keyAllowed : Bool

namespace Scan

/-- The start of a text. -/
def start (t : Text) : Scan := ⟨Cursor.start t, #[], -1, [], [none], true⟩

/-- Whether a bracket or a brace is open. -/
def inFlow (s : Scan) : Bool := 1 < s.keys.length

/-- The scan with a token added, behind a number of characters. -/
def emit (s : Scan) (token : Token) (length : Nat) : Scan :=
  { s with tokens := s.tokens.push token, cursor := s.cursor.advance length }

/-- The column of the place. -/
def column (s : Scan) : Int := s.cursor.column

/-- Ends the block collections that are indented further than a column; `bound` is the number of
collections that are open. -/
def closeTo (column : Int) : (bound : Nat) → Scan → Scan
  | 0, s => s
  | bound + 1, s =>
    if s.indent ≤ column then s
    else
      match s.outer with
      | [] => s
      | i :: outer =>
        closeTo column bound { s with indent := i, outer, tokens := s.tokens.push .blockEnd }

/-- Ends the block collections that are indented further than a column, outside of brackets and
braces. -/
def close (s : Scan) (column : Int) : Scan :=
  if s.inFlow then s else closeTo column s.outer.length s

/-- Starts a block collection in a column if it is indented further than those around it. Its token
goes in front of the tokens from `place` on. -/
def openAt (s : Scan) (column : Int) (place : Nat) (token : Token) : Scan :=
  if !s.inFlow && s.indent < column then
    { s with
      indent := column
      outer := s.indent :: s.outer
      tokens := s.tokens.insertIdxIfInBounds place token }
  else s

/-- Forgets a possible start of a key. One that had to be a key is an error. -/
def dropKey? (s : Scan) : Option Scan :=
  match s.keys with
  | some k :: keys => if k.required then none else some { s with keys := none :: keys }
  | _ => some s

/-- Notes that a key may start here. -/
def markKey? (s : Scan) : Option Scan :=
  if s.keyAllowed then do
    let s ← s.dropKey?
    let k : KeyStart := {
      required := !s.inFlow && s.indent == s.column
      tokens := s.tokens.size
      line := s.cursor.line
      column := s.cursor.column
      index := s.cursor.index }
    some { s with keys := some k :: s.keys.drop 1 }
  else some s

/-- How many characters a key may be away from its colon. -/
def maxKeyLength : Nat := 1024

/-- Forgets the starts of keys that are too far away. One that had to be a key is an error. -/
def dropFarKeys? (s : Scan) : Option Scan := do
  let keys ← s.keys.mapM fun k? =>
    match k? with
    | none => some none
    | some k =>
      if k.line < s.cursor.line ∨ k.index + maxKeyLength < s.cursor.index then
        if k.required then none else some none
      else some (some k)
  some { s with keys }

/-- Skips what stands between tokens: blanks, comments, line ends and marks of the byte order. A tab
may stand only where no key can start. `bound` limits the number of steps. -/
def skipSpace : (bound : Nat) → Scan → Scan
  | 0, s => s
  | bound + 1, s =>
    match s.cursor.rest with
    | [] => s
    | c :: _ =>
      if c == ' ' || (c == '\t' && (s.inFlow || !s.keyAllowed)) ||
          (c == '\uFEFF' && s.cursor.column == 0) then
        skipSpace bound { s with cursor := s.cursor.advance 1 }
      else if c == '#' then skipSpace bound { s with cursor := s.cursor.skipLineRest }
      else if isBreak c then
        skipSpace bound
          { s with cursor := s.cursor.lineEnd.2, keyAllowed := s.keyAllowed || !s.inFlow }
      else s

/-! ## The tokens, one by one -/

/-- A mark that starts or ends a document. -/
def documentMark? (s : Scan) (token : Token) : Option Scan := do
  let s ← (s.close (-1)).dropKey?
  some ({ s with keyAllowed := false }.emit token 3)

/-- An opening bracket or brace. -/
def openFlow? (s : Scan) (token : Token) : Option Scan := do
  let s ← s.markKey?
  some ({ s with keys := none :: s.keys, keyAllowed := true }.emit token 1)

/-- A closing bracket or brace. -/
def closeFlow? (s : Scan) (token : Token) : Option Scan := do
  let s ← s.dropKey?
  some ({ s with keys := if s.inFlow then s.keys.drop 1 else s.keys, keyAllowed := false }.emit token 1)

/-- A comma. -/
def comma? (s : Scan) : Option Scan := do
  let s ← s.dropKey?
  some ({ s with keyAllowed := true }.emit .comma 1)

/-- A dash in front of an item, or a question mark in front of a key. -/
def mark? (s : Scan) (collection token : Token) (keyAllowed : Bool) : Option Scan := do
  if !s.inFlow && !s.keyAllowed then none
  let s ← (s.openAt s.column s.tokens.size collection).dropKey?
  some ({ s with keyAllowed }.emit token 1)

/-- A colon. What may have been a key before it is one. -/
def colon? (s : Scan) : Option Scan :=
  match s.keys with
  | some k :: keys =>
    let s := { s with
      keys := none :: keys
      tokens := s.tokens.insertIdxIfInBounds k.tokens .key
      keyAllowed := false }
    some ((s.openAt k.column k.tokens .blockMappingStart).emit .value 1)
  | _ =>
    if !s.inFlow && !s.keyAllowed then none
    else
      let s := s.openAt s.column s.tokens.size .blockMappingStart
      some ({ s with keyAllowed := !s.inFlow }.emit .value 1)

/-- Whether what comes next may follow a name. -/
def endsName (t : Text) : Bool :=
  atSpace t ||
    match t with
    | c :: _ => "?:,]%@`".toList.contains c || c == '}'
    | [] => true

/-- A name behind the character that says whether it is that of an anchor. -/
def name? (s : Scan) (token : Text → Token) : Option Scan := do
  let s ← s.markKey?
  let t := s.cursor.rest.drop 1
  let name := t.takeWhile isNameChar
  if name.isEmpty || !endsName (t.drop name.length) then none
  else some ({ s with keyAllowed := false }.emit (token name) (name.length + 1))

/-! ### Tags and directives -/

/-- Whether the character may stand in a tag. -/
def isTagChar (c : Char) : Bool := isNameChar c || ";/?:@&=+$.!~*'()".toList.contains c

/-- Whether the character may stand in a tag that is written out. -/
def isWholeTagChar (c : Char) : Bool := isTagChar c || c == ',' || c == '[' || c == ']'

/-- The characters of a tag, with those written as two digits in base sixteen put in, and the text
behind them. -/
def tagText? (isChar : Char → Bool) : (bound : Nat) → Text → Option (Text × Text)
  | 0, _ => none
  | bound + 1, t =>
    match t with
    | '%' :: a :: b :: t => do
      let n ← Text.digitsValue? 16 [a, b]
      if 0x7F < n then none
      let (rest, t) ← tagText? isChar bound t
      some (Char.ofNat n :: rest, t)
    | c :: t =>
      if isChar c then (tagText? isChar bound t).map fun (rest, t) => (c :: rest, t)
      else if c == '%' then none
      else some ([], c :: t)
    | [] => some ([], [])

/-- The handle at the start of a text: an exclamation mark, and a name with another one if there is
one. -/
def tagHandle (t : Text) : Text :=
  let name := (t.drop 1).takeWhile isNameChar
  match t.drop (name.length + 1) with
  | '!' :: _ => '!' :: name ++ ['!']
  | _ => '!' :: name

/-- The handle and the end of a tag, and the text behind it. -/
def tagParts? (t : Text) : Option ((Text × Text) × Text) :=
  match t with
  | '!' :: '<' :: t => do
    let (whole, t) ← tagText? isWholeTagChar (t.length + 1) t
    let t ← Text.dropHead? ">" t
    if whole.isEmpty then none else some (([], whole), t)
  | _ => do
    let handle := tagHandle t
    let (suffix, rest) ← tagText? isTagChar (t.length + 1) (t.drop handle.length)
    if 1 < handle.length && handle.getLast? == some '!' then
      if suffix.isEmpty then none else some ((handle, suffix), rest)
    else
      match handle.drop 1 ++ suffix with
      | [] => some (([], ['!']), rest)
      | suffix => some ((['!'], suffix), rest)

/-- A tag. -/
def tag? (s : Scan) : Option Scan := do
  let s ← s.markKey?
  let ((handle, suffix), rest) ← tagParts? s.cursor.rest
  let ends := atSpace rest || (s.inFlow && rest.head? == some ',')
  if ends then
    some ({ s with keyAllowed := false }.emit (.tag handle suffix)
      (s.cursor.rest.length - rest.length))
  else none

/-- The token of a directive behind its percent sign, and the text behind it. -/
def directiveToken? (t : Text) : Option (Token × Text) := do
  let name := t.takeWhile isNameChar
  let t := t.drop name.length
  if !atSpace t then none
  let t := t.dropWhile isBlank
  if name == "YAML".toList then
    let (major, t) ← Text.run? isAsciiDigit t
    let t ← Text.dropHead? "." t
    let (minor, t) ← Text.run? isAsciiDigit t
    return (.version (← Text.digitsValue? 10 major) (← Text.digitsValue? 10 minor), t)
  else if name == "TAG".toList then
    let t ← Text.dropHead? "!" t
    let handle := tagHandle ('!' :: t)
    if 1 < handle.length && handle.getLast? != some '!' then none
    let t := t.drop (handle.length - 1)
    if !atSpace t then none
    let (whole, t) ← tagText? isWholeTagChar (t.length + 1) (t.dropWhile isBlank)
    if whole.isEmpty || !atSpace t then none
    return (.tagHandle handle whole, t)
  else none

/-- A directive. Nothing but a comment may follow it on its line. -/
def directive? (s : Scan) : Option Scan := do
  let s ← (s.close (-1)).dropKey?
  let (token, rest) ← directiveToken? (s.cursor.rest.drop 1)
  let s := { s with keyAllowed := false }.emit token (s.cursor.rest.length - rest.length)
  let c := s.cursor.skipBlanks
  let c := if c.rest.head? == some '#' then c.skipLineRest else c
  if atLineEnd c.rest then some { s with cursor := c.lineEnd.2 } else none

/-! ### Scalars -/

/-- A scalar in quotes. -/
def quotedScalar? (s : Scan) (quote : Char) : Option Scan := do
  let s ← s.markKey?
  let (t, c) ← quoted? quote (s.cursor.rest.length + 1) [] (s.cursor.advance 1)
  some { s with keyAllowed := false, cursor := c, tokens := s.tokens.push (.scalar false t) }

/-- A scalar that is a block of lines. -/
def blockScalar? (s : Scan) (folds : Bool) : Option Scan := do
  let s ← s.dropKey?
  let (t, c) ← block? folds s.indent (s.cursor.advance 1)
  some { s with keyAllowed := true, cursor := c, tokens := s.tokens.push (.scalar false t) }

/-- A plain scalar. -/
def plainScalar? (s : Scan) : Option Scan := do
  let s ← s.markKey?
  let (t, c, broken) ← plain? s.inFlow (s.indent + 1) (s.cursor.rest.length + 1) [] Gap.none s.cursor
  some { s with keyAllowed := broken, cursor := c, tokens := s.tokens.push (.scalar true t) }

/-- Whether a plain scalar may start with a character in front of a text. -/
def startsPlain (flow : Bool) (c : Char) (t : Text) : Bool :=
  if c == '-' then
    match t with
    | d :: _ => !isBlank d
    | [] => true
  else if c == '?' || c == ':' then !flow && !atSpace t
  else !(isBlank c || isBreak c || isFlowMark c || "#&*!|>'\"%@`".toList.contains c)

/-- The token that starts with a character at the place, in front of a text. -/
def token? (s : Scan) (c : Char) (t : Text) : Option Scan :=
  if c == '%' && s.cursor.column == 0 then s.directive?
  else if s.cursor.atDocumentMark then
    s.documentMark? (if c == '-' then .documentStart else .documentEnd)
  else if c == '[' then s.openFlow? .flowListStart
  else if c == '{' then s.openFlow? .flowMappingStart
  else if c == ']' then s.closeFlow? .flowListEnd
  else if c == '}' then s.closeFlow? .flowMappingEnd
  else if c == ',' then s.comma?
  else if c == '-' && atSpace t then s.mark? .blockListStart .item true
  else if c == '?' && (s.inFlow || atSpace t) then s.mark? .blockMappingStart .key (!s.inFlow)
  else if c == ':' && (s.inFlow || atSpace t) then s.colon?
  else if c == '*' then s.name? .alias
  else if c == '&' then s.name? .anchor
  else if c == '!' then s.tag?
  else if c == '|' && !s.inFlow then s.blockScalar? false
  else if c == '>' && !s.inFlow then s.blockScalar? true
  else if c == '\'' || c == '"' then s.quotedScalar? c
  else if startsPlain s.inFlow c t then s.plainScalar?
  else none

/-- Cuts the rest of a text into tokens; `bound` limits their number. -/
def finish? : (bound : Nat) → Scan → Option (List Token)
  | 0, _ => none
  | bound + 1, s => do
    let s ← (skipSpace (s.cursor.rest.length + 1) s).dropFarKeys?
    match s.cursor.rest with
    | [] =>
      let s ← (s.close (-1)).dropKey?
      some s.tokens.toList
    | c :: t =>
      let s ← (s.close s.column).token? c t
      finish? bound s

end Scan

/-- Whether the character may stand in a YAML text. -/
def isAllowed (c : Char) : Bool :=
  let n := c.toNat
  n == 0x09 || n == 0x0A || n == 0x0D || (0x20 ≤ n && n ≤ 0x7E) || n == 0x85 ||
    (0xA0 ≤ n && n ≤ 0xFFFD) || 0x10000 ≤ n

/-- The text behind the byte order mark that it starts with, if it starts with one. -/
def dropMark : Text → Text
  | '\uFEFF' :: t => t
  | t => t

/-- The tokens of a text. -/
def tokens? (t : Text) : Option (List Token) :=
  let t := dropMark t
  if t.all isAllowed then (Scan.start t).finish? (t.length + 1) else none

end ProtoUpkeep.Yaml
