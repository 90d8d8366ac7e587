import ProtoUpkeep.Config.Value

/-!
# JSON

The strict notation of values: no comments, no trailing commas, no byte order mark, every control
character in a text escaped, and every escaped surrogate paired. The reader keeps the members of an
object in the order of the text; `Value.sorted` puts them in order. The printer indents by two
blanks.
-/

namespace ProtoUpkeep.Json

/-- Whether the character may stand between the parts of a value. -/
def isSpace (c : Char) : Bool := c == ' ' || c == '\t' || c == '\n' || c == '\r'

/-- The text behind the space it starts with. -/
def skipSpace (t : Text) : Text := t.dropWhile isSpace

/-! ## Reading -/

/-- The value of four hexadecimal digits and the text behind them. -/
def fourHex? (t : Text) : Option (Nat × Text) := do
  let ds := t.take 4
  if ds.length ≠ 4 then none
  let n ← Text.digitsValue? 16 ds
  some (n, t.drop 4)

/-- The character of an escape behind its backslash and the text behind it. A high surrogate has to
be followed by the escape of a low one. -/
def escape? : Text → Option (Char × Text)
  | '"' :: t => some ('"', t)
  | '\\' :: t => some ('\\', t)
  | '/' :: t => some ('/', t)
  | 'b' :: t => some ('\x08', t)
  | 'f' :: t => some ('\x0c', t)
  | 'n' :: t => some ('\n', t)
  | 'r' :: t => some ('\r', t)
  | 't' :: t => some ('\t', t)
  | 'u' :: t => do
    let (n, t) ← fourHex? t
    if n < 0xD800 ∨ 0xDFFF < n then some (Char.ofNat n, t)
    else if 0xDC00 ≤ n then none
    else
      let t ← Text.dropHead? "\\u" t
      let (m, t) ← fourHex? t
      if 0xDC00 ≤ m ∧ m ≤ 0xDFFF then
        some (Char.ofNat (0x10000 + (n - 0xD800) * 0x400 + (m - 0xDC00)), t)
      else none
  | _ => none

/-- The characters of a text up to its closing quote and what stands behind it; `acc` holds the
characters so far from the last one on. -/
def quoted? : (bound : Nat) → (acc : Text) → Text → Option (Text × Text)
  | 0, _, _ => none
  | _ + 1, _, [] => none
  | bound + 1, acc, c :: t =>
    if c == '"' then some (acc.reverse, t)
    else if c == '\\' then
      match escape? t with
      | some (d, t) => quoted? bound (d :: acc) t
      | none => none
    else if c.toNat < 0x20 then none
    else quoted? bound (c :: acc) t

/-- The whole part of a number: a zero, or digits that do not start with one. -/
def wholePart? (t : Text) : Option (Text × Text) := do
  let (ds, rest) ← Text.run? isAsciiDigit t
  if ds.head? == some '0' && ds.length != 1 then none else some (ds, rest)

/-- The exponent of a number and the text behind it; zero if there is none. -/
def exponent? : Text → Option (Option Int × Text)
  | c :: t =>
    if c == 'e' || c == 'E' then do
      let (negative, t) := match t with
        | '-' :: t => (true, t)
        | '+' :: t => (false, t)
        | t => (false, t)
      let (ds, t) ← Text.run? isAsciiDigit t
      let n ← Text.digitsValue? 10 ds
      some (some (if negative then -(n : Int) else n), t)
    else some (none, c :: t)
  | [] => some (none, [])

/-- The largest exponent that is looked at: a number beyond it is zero or out of range. -/
def maxExponent : Int := 5000

/-- The number with the given digits, if it is not out of range. -/
def floatOf? (negative : Bool) (digits : Nat) (exponent : Int) : Option Value :=
  let e := if exponent < -maxExponent then -maxExponent
    else if maxExponent < exponent then maxExponent else exponent
  let f := Binary64.ofDecimal negative digits e
  if f.isFinite then some (.float f) else none

/-- The number at the start of a text and what stands behind it. A number without fraction and
exponent is whole if 64 bits can hold it; the negative zero is not. -/
def number? (t : Text) : Option (Value × Text) := do
  let (negative, t) := match t with
    | '-' :: t => (true, t)
    | t => (false, t)
  let (whole, t) ← wholePart? t
  let (fraction, t) ← match t with
    | '.' :: t => Text.run? isAsciiDigit t
    | t => some ([], t)
  let (exponent, t) ← exponent? t
  let digits ← Text.digitsValue? 10 (whole ++ fraction)
  if fraction.isEmpty && exponent.isNone then
    if negative then
      if 0 < digits && digits ≤ Nat.pow 2 63 then some (.int (-(digits : Int)), t)
      else return (← floatOf? true digits 0, t)
    else if digits < Nat.pow 2 64 then some (.int digits, t)
    else return (← floatOf? false digits 0, t)
  else return (← floatOf? negative digits (exponent.getD 0 - fraction.length), t)

mutual

/-- The value at the start of a text and what stands behind it. `depth` is the number of lists and
objects that may still be opened; `bound` limits the calls, and the length of the text is enough. -/
def value? : (bound depth : Nat) → Text → Option (Value × Text)
  | 0, _, _ => none
  | bound + 1, depth, t =>
    match skipSpace t with
    | '"' :: t => (quoted? bound [] t).map fun (s, t) => (.text s, t)
    | '[' :: t =>
      if depth ≤ 1 then none
      else
        match skipSpace t with
        | ']' :: t => some (.list [], t)
        | t => items? bound (depth - 1) [] t
    | '{' :: t =>
      if depth ≤ 1 then none
      else
        match skipSpace t with
        | '}' :: t => some (.object [], t)
        | t => members? bound (depth - 1) [] t
    | t =>
      match Text.dropHead? "true" t with
      | some t => some (.bool true, t)
      | none =>
        match Text.dropHead? "false" t with
        | some t => some (.bool false, t)
        | none =>
          match Text.dropHead? "null" t with
          | some t => some (.null, t)
          | none => number? t

/-- The list whose further items start the text; `acc` holds the items so far from the last on. -/
def items? : (bound depth : Nat) → (acc : List Value) → Text → Option (Value × Text)
  | 0, _, _, _ => none
  | bound + 1, depth, acc, t =>
    match value? bound depth t with
    | none => none
    | some (v, t) =>
      match skipSpace t with
      | ',' :: t => items? bound depth (v :: acc) t
      | ']' :: t => some (.list (v :: acc).reverse, t)
      | _ => none

/-- The object whose further members start the text; `acc` holds the members so far from the last
on. -/
def members? : (bound depth : Nat) → (acc : List (Text × Value)) → Text → Option (Value × Text)
  | 0, _, _, _ => none
  | bound + 1, depth, acc, t =>
    match skipSpace t with
    | '"' :: t =>
      match quoted? bound [] t with
      | none => none
      | some (key, t) =>
        match skipSpace t with
        | ':' :: t =>
          match value? bound depth t with
          | none => none
          | some (v, t) =>
            match skipSpace t with
            | ',' :: t => members? bound depth ((key, v) :: acc) t
            | '}' :: t => some (.object ((key, v) :: acc).reverse, t)
            | _ => none
        | _ => none
    | _ => none

end

/-- The value that a text writes. Lists and objects may nest 127 deep. -/
def read? (t : Text) : Option Value :=
  match value? (2 * t.length + 2) 128 t with
  | some (v, rest) => if (skipSpace rest).isEmpty then some v else none
  | none => none

/-! ## Writing -/

/-- A hexadecimal digit. -/
def hexDigit (n : Nat) : Char := Nat.digitChar n

/-- A character inside quotes. -/
def quoteChar (c : Char) : Text :=
  if c == '"' then "\\\""
  else if c == '\\' then "\\\\"
  else if c == '\n' then "\\n"
  else if c == '\r' then "\\r"
  else if c == '\t' then "\\t"
  else if c == '\x08' then "\\b"
  else if c == '\x0c' then "\\f"
  else if c.toNat < 0x20 then
    "\\u00".toList ++ [hexDigit (c.toNat / 16), hexDigit (c.toNat % 16)]
  else [c]

/-- A text in quotes. -/
def quote (t : Text) : Text := '"' :: t.flatMap quoteChar ++ ['"']

/-- A line feed and the indentation of a level. -/
def newLine (level : Nat) : Text := '\n' :: List.replicate (2 * level) ' '

/-- A value that holds no others. -/
def scalar : Value → Text
  | .null => "null"
  | .bool b => if b then "true" else "false"
  | .int n => Text.ofInt n
  | .float f => if f.isFinite then f.text Binary64.scientific else "null"
  | .text t => quote t
  | _ => []

mutual

/-- A value at a level of indentation. -/
def render (level : Nat) : Value → Text
  | .list [] => "[]"
  | .list items => '[' :: renderItems (level + 1) items ++ newLine level ++ [']']
  | .object [] => ['{', '}']
  | .object members => '{' :: renderMembers (level + 1) members ++ newLine level ++ ['}']
  | v => scalar v

/-- The items of a list, each on a line of its own. -/
def renderItems (level : Nat) : List Value → Text
  | [] => []
  | [v] => newLine level ++ render level v
  | v :: rest => newLine level ++ render level v ++ ',' :: renderItems level rest

/-- The members of an object, each on a line of its own. -/
def renderMembers (level : Nat) : List (Text × Value) → Text
  | [] => []
  | [(k, v)] => newLine level ++ quote k ++ ": " ++ render level v
  | (k, v) :: rest =>
    newLine level ++ quote k ++ ": " ++ render level v ++ ',' :: renderMembers level rest

end

/-- The value on indented lines. -/
def write (v : Value) : Text := render 0 v

end ProtoUpkeep.Json
