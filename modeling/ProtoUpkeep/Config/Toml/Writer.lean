import ProtoUpkeep.Config.Json
import ProtoUpkeep.Config.Toml.Lexeme

/-!
# Writing TOML

A table is written with its values first and the tables in it behind them, each under a header with an
empty line before it. A table that holds nothing but tables needs no header. A list of tables has a
header for each of them; any other list stands on one line if it has no more than one item, and
otherwise has a line for each. Nothing, and a whole number beyond 63 bits, cannot be written.
-/

namespace ProtoUpkeep.Toml

/-! ## Texts -/

/-- How a text is delimited. -/
inductive Quoting where
  /-- Double quotes, with escapes. -/
  | basic
  /-- Single quotes, without escapes. -/
  | literal
  /-- Three double quotes, with escapes. -/
  | longBasic
  /-- Three single quotes, without escapes. -/
  | longLiteral
deriving DecidableEq, Repr

/-- The length of the longest run of a character. -/
def longestRun (c : Char) (t : Text) : Nat :=
  (t.foldl (fun (run, best) d => if d == c then (run + 1, max best (run + 1)) else (0, best))
    ((0, 0) : Nat × Nat)).2

/-- Whether the character can be written in an escape only. -/
def needsEscape (c : Char) : Bool := (c.toNat < 0x20 && c != '\t' && c != '\n') || c.toNat == 0x7F

/-- How a text is delimited: without escapes if that can be, on one line if it has no line end. -/
def Quoting.of (t : Text) : Quoting :=
  let escaped := t.any needsEscape
  let backslash := t.elem '\\'
  let lines := t.elem '\n'
  if !escaped && !backslash && !t.elem '"' && !lines then basic
  else if !escaped && !t.elem '\'' && !lines then literal
  else if !escaped && !backslash && longestRun '"' t ≤ 2 then longBasic
  else if !escaped && longestRun '\'' t ≤ 2 then longLiteral
  else if lines then longBasic
  else basic

/-- How a key is delimited that is not bare. -/
def Quoting.ofKey (t : Text) : Quoting :=
  let escaped := t.any fun c => needsEscape c || c == '\n'
  if !escaped && !t.elem '\\' && !t.elem '"' then basic
  else if !escaped && !t.elem '\'' then literal
  else basic

/-- A text with escapes. Up to `free` double quotes in a row stand for themselves, and so do line feeds
if `lines` says so; `run` is the number of double quotes right before. -/
def escapeFrom (free : Nat) (lines : Bool) : (run : Nat) → Text → Text
  | _, [] => []
  | run, c :: t =>
    if c == '"' then
      if run < free then c :: escapeFrom free lines (run + 1) t
      else "\\\"".toList ++ escapeFrom free lines (run + 1) t
    else escapeChar c ++ escapeFrom free lines 0 t
where
  /-- A character that is no double quote. -/
  escapeChar (c : Char) : Text :=
    if c == '\\' then "\\\\"
    else if c == '\x08' then "\\b"
    else if c == '\t' then "\\t"
    else if c == '\n' then if lines then [c] else "\\n"
    else if c == '\x0c' then "\\f"
    else if c == '\r' then "\\r"
    else if needsEscape c then
      let n := c.toNat
      "\\u00".toList ++ [(Nat.digitChar (n / 16)).toUpper, (Nat.digitChar (n % 16)).toUpper]
    else [c]

/-- A text between the delimiters. A text with line ends starts on a line of its own. -/
def delimit (q : Quoting) (t : Text) : Text :=
  let first : Text := if t.elem '\n' then ['\n'] else []
  match q with
  | .basic => '"' :: escapeFrom 0 false 0 t ++ ['"']
  | .literal => '\'' :: t ++ ['\'']
  | .longBasic => "\"\"\"".toList ++ first ++ escapeFrom 2 true 0 t ++ "\"\"\""
  | .longLiteral => "'''".toList ++ first ++ t ++ "'''"

/-- A text as a value. -/
def writeText (t : Text) : Text := delimit (.of t) t

/-- A text as a key. -/
def writeKey (t : Text) : Text :=
  if !t.isEmpty && t.all isBare then t else delimit (.ofKey t) t

/-- The keys of a header. -/
def writePath (path : List Text) : Text := Text.joinWith ['.'] (path.map writeKey)

/-! ## Values -/

/-- The items of a list that is not a list of tables, or the entries of a table on a line, with the
brackets or braces around them. -/
def enclose (items : List Text) : Text :=
  match items with
  | [] => "[]"
  | [item] => '[' :: item ++ [']']
  | items => '[' :: items.flatMap (fun item => "\n    ".toList ++ item ++ [',']) ++ "\n]"

mutual

/-- A value behind its key. -/
def writeValue? : Value → Option Text
  | .null => none
  | .bool b => some (if b then "true" else "false" : String).toList
  | .int n => if -(Nat.pow 2 63 : Int) ≤ n ∧ n < Nat.pow 2 63 then some (Text.ofInt n) else none
  | .float f => some (f.text Binary64.positional)
  | .text t => some (writeText t)
  | .list items => (writeItems? items).map enclose
  | .object members =>
    (writeMembers? members).map fun
      | [] => ['{', '}']
      | ms => '{' :: ' ' :: Text.joinWith ", " ms ++ [' ', '}']

/-- The items of a list. -/
def writeItems? : List Value → Option (List Text)
  | [] => some []
  | v :: rest =>
    match writeValue? v with
    | none => none
    | some t => (writeItems? rest).map (t :: ·)

/-- The entries of a table on a line. -/
def writeMembers? : List (Text × Value) → Option (List Text)
  | [] => some []
  | (key, v) :: rest =>
    match writeValue? v with
    | none => none
    | some t => (writeMembers? rest).map ((writeKey key ++ " = ".toList ++ t) :: ·)

end

/-! ## Tables -/

/-- Whether the value is a table. -/
def isTable : Value → Bool
  | .object _ => true
  | _ => false

/-- Whether the value is a list of tables. -/
def isTableList : Value → Bool
  | .list [] => false
  | .list items => items.all isTable
  | _ => false

/-- Whether the value stands on a line behind its key. -/
def isInline (v : Value) : Bool := !isTable v && !isTableList v

/-- The lines of the values of a table that stand behind their keys. -/
def inlineLines? : List (Text × Value) → Option Text
  | [] => some []
  | (key, v) :: rest =>
    if isInline v then
      match writeValue? v with
      | none => none
      | some t => (inlineLines? rest).map fun ls => writeKey key ++ " = ".toList ++ t ++ '\n' :: ls
    else inlineLines? rest

/-- A header with an empty line before it. -/
def header (isList : Bool) (path : List Text) : Text :=
  if isList then "\n[[".toList ++ writePath path ++ "]]\n" else "\n[".toList ++ writePath path ++ "]\n"

mutual

/-- The tables in a value that stands at a path. -/
def tablesOf? (path : List Text) : Value → Option Text
  | .object members =>
    match inlineLines? members, nestedOf? path members with
    | some lines, some nested =>
      let shown := members.isEmpty || members.any fun m => isInline m.2
      some ((if shown then header false path else []) ++ lines ++ nested)
    | _, _ => none
  | .list items => if isTableList (.list items) then listedOf? path items else some []
  | _ => some []

/-- The tables in the members of a table that stands at a path. -/
def nestedOf? (path : List Text) : List (Text × Value) → Option Text
  | [] => some []
  | (key, v) :: rest =>
    match tablesOf? (path ++ [key]) v, nestedOf? path rest with
    | some t, some rest => some (t ++ rest)
    | _, _ => none

/-- The tables of a list of tables that stands at a path. -/
def listedOf? (path : List Text) : List Value → Option Text
  | [] => some []
  | .object members :: rest =>
    match inlineLines? members, nestedOf? path members, listedOf? path rest with
    | some lines, some nested, some rest => some (header true path ++ lines ++ nested ++ rest)
    | _, _, _ => none
  | _ :: rest => listedOf? path rest

end

/-- The text of a value, which has to be a table. The first header has no empty line before it where it
starts the text. -/
def write? : Value → Option Text
  | .object members => do
    let lines ← inlineLines? members
    let nested ← nestedOf? [] members
    some (match lines, nested with
      | [], '\n' :: nested => nested
      | lines, nested => lines ++ nested)
  | _ => none

end ProtoUpkeep.Toml
