import ProtoUpkeep.Config.Toml.Moment
import ProtoUpkeep.Config.Toml.Table

/-!
# Reading TOML

A document is a run of lines. A line that starts with a bracket is the header of a table or of a list
of tables, and the lines behind it put values into that table. No key may be given twice. A number
that is infinite or undefined stands for nothing.
-/

namespace ProtoUpkeep.Toml

/-- The number of lists and braces that may be open inside each other. -/
def maxDepth : Nat := 79

/-- A date, a time or a number. -/
def number? (t : Text) : Option (Value × Text) :=
  match moment? t with
  | some (m, t) => some (ofMoment m, t)
  | none => ((float? t).or (special? t)).or (int? t)

/-- A value that holds no others. -/
def scalar? (t : Text) : Option (Value × Text) :=
  match t with
  | '"' :: _ | '\'' :: _ => (string? t).map fun (s, t) => (.text s, t)
  | 't' :: _ => (Text.dropHead? "true" t).map fun t => (.bool true, t)
  | 'f' :: _ => (Text.dropHead? "false" t).map fun t => (.bool false, t)
  | _ => number? t

/-- A key whose number of segments is not too large: all segments but the last, and the last. -/
def path? (t : Text) : Option ((List Text × Text) × Text) := do
  let (segments, t) ← key? maxSegments t
  if maxSegments ≤ segments.length then none
  match segments.getLast? with
  | some last => some ((segments.dropLast, last), t)
  | none => none

mutual

/-- The value at the start of a text. `bound` limits the calls, and `depth` is the number of lists and
braces that may still be opened. -/
def value? : (bound depth : Nat) → Text → Option (Value × Text)
  | 0, _, _ => none
  | bound + 1, depth, t =>
    match t with
    | '[' :: t =>
      match depth with
      | 0 => none
      | depth + 1 =>
        match skipLines? bound t with
        | none => none
        | some (']' :: t) => some (.list [], t)
        | some t => items? bound depth [] t
    | '{' :: t =>
      match depth with
      | 0 => none
      | depth + 1 =>
        match skipBlanks t with
        | '}' :: t => some (.object [], t)
        | t => braces? bound depth [] t
    | t => scalar? t

/-- The list whose further items start the text; `acc` holds the items so far from the last on. -/
def items? : (bound depth : Nat) → (acc : List Value) → Text → Option (Value × Text)
  | 0, _, _, _ => none
  | bound + 1, depth, acc, t =>
    match value? bound depth t with
    | none => none
    | some (v, t) =>
      match skipLines? (t.length + 1) t with
      | some (']' :: t) => some (.list (v :: acc).reverse, t)
      | some (',' :: t) =>
        match skipLines? (t.length + 1) t with
        | some (']' :: t) => some (.list (v :: acc).reverse, t)
        | some t => items? bound depth (v :: acc) t
        | none => none
      | _ => none

/-- The table in braces whose further entries start the text. -/
def braces? : (bound depth : Nat) → (members : Members) → Text → Option (Value × Text)
  | 0, _, _, _ => none
  | bound + 1, depth, members, t =>
    match path? t with
    | some ((path, key), '=' :: t) =>
      match value? bound depth (skipBlanks t) with
      | none => none
      | some (v, t) =>
        match putValue path key v members with
        | none => none
        | some members =>
          match skipBlanks t with
          | '}' :: t => some (.object (toMembers members), t)
          | ',' :: t => braces? bound depth members t
          | _ => none
    | _ => none

end

/-- A document that is being read. -/
structure Document where
  /-- The entries so far. -/
  root : Members
  /-- The path of the table that values go into. -/
  current : List Text

namespace Document

/-- The document with a header. -/
def withHeader (d : Document) (isList : Bool) (path : List Text) (key : Text) : Option Document := do
  let root ← if isList then addTable path key d.root else openTable path key d.root
  some { root, current := path ++ [key] }

/-- The document with a value put into the current table. -/
def withValue (d : Document) (path : List Text) (key : Text) (v : Value) : Option Document := do
  let root ← changeAt .below (fun _ members => putValue path key v members) d.current .own d.root
  some { d with root }

end Document

/-- A header behind its first bracket, and the text behind its line. -/
def header? (d : Document) (t : Text) : Option (Document × Text) := do
  let (isList, t) := match t with
    | '[' :: t => (true, t)
    | t => (false, t)
  let ((path, key), t) ← path? t
  let t ← Text.dropHead? (if isList then "]]" else "]" : String) t
  let d ← d.withHeader isList path key
  return (d, ← lineEnd? t)

/-- A key with its value, and the text behind their line. -/
def pair? (d : Document) (t : Text) : Option (Document × Text) := do
  let ((path, key), t) ← path? t
  let t ← Text.dropHead? "=" t
  let (v, t) ← value? (2 * t.length + 2) maxDepth (skipBlanks t)
  let d ← d.withValue path key v
  return (d, ← lineEnd? t)

/-- Reads the lines of a document; `bound` limits their number. -/
def lines? : (bound : Nat) → Document → Text → Option Document
  | 0, _, _ => none
  | bound + 1, d, t =>
    match skipBlanks t with
    | [] => some d
    | '#' :: t => (lineEnd? ('#' :: t)).bind (lines? bound d)
    | '\n' :: t => lines? bound d t
    | '\r' :: t => (newline? ('\r' :: t)).bind (lines? bound d)
    | '[' :: t => (header? d t).bind fun (d, t) => lines? bound d t
    | t => (pair? d t).bind fun (d, t) => lines? bound d t

/-- The text behind the byte order mark that it starts with, if it starts with one. -/
def dropMark : Text → Text
  | '\uFEFF' :: t => t
  | t => t

/-- The value that a text writes. -/
def read? (t : Text) : Option Value :=
  (lines? (t.length + 2) ⟨[], []⟩ (dropMark t)).map fun d => .object (toMembers d.root)

end ProtoUpkeep.Toml
