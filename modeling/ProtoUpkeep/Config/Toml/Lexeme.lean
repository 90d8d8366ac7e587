import ProtoUpkeep.Config.Json

/-!
# Lexemes of TOML

Blanks, comments, keys, quoted texts, numbers and moments of time. Each reader takes the longest
lexeme at the start of a text and gives what stands behind it. A comment and a quoted text hold no
control character but the tab; a quoted text of several lines ends its lines with line feeds, whether
the file ends them with a carriage return or not.
-/

namespace ProtoUpkeep.Toml

/-- Whether the character may stand between lexemes of a line. -/
def isBlank (c : Char) : Bool := c == ' ' || c == '\t'

/-- The text behind the blanks that it starts with. -/
def skipBlanks (t : Text) : Text := t.dropWhile isBlank

/-- Whether the character may stand in comments and literal texts. -/
def isPrintable (c : Char) : Bool := c == '\t' || (0x20 ≤ c.toNat && c.toNat != 0x7F)

/-- The text behind the line end that it starts with. -/
def newline? : Text → Option Text
  | '\n' :: t => some t
  | '\r' :: '\n' :: t => some t
  | _ => none

/-- The text behind the comment that it starts with, if it starts with one. -/
def skipComment : Text → Text
  | '#' :: t => t.dropWhile isPrintable
  | t => t

/-- The text behind the rest of a line, on which only blanks and a comment may stand. -/
def lineEnd? (t : Text) : Option Text :=
  match skipComment (skipBlanks t) with
  | [] => some []
  | t => newline? t

/-- The text behind blanks, comments and line ends. A comment has to end with its line; `bound` limits
the number of lines, and the length of the text is enough. -/
def skipLines? : (bound : Nat) → Text → Option Text
  | 0, _ => none
  | bound + 1, t =>
    match skipBlanks t with
    | '#' :: t => (newline? (skipComment ('#' :: t))).bind (skipLines? bound)
    | '\n' :: t => skipLines? bound t
    | '\r' :: t => (newline? ('\r' :: t)).bind (skipLines? bound)
    | t => some t

/-! ## Quoted texts -/

/-- The character with a number of digits in base sixteen as its code point. -/
def codePoint? (count : Nat) (t : Text) : Option (Char × Text) := do
  let ds := t.take count
  if ds.length ≠ count then none
  let n ← Text.digitsValue? 16 ds
  if h : n.isValidChar then some (Char.ofNatAux n h, t.drop count) else none

/-- The character of an escape behind its backslash and the text behind it. -/
def escape? : Text → Option (Char × Text)
  | 'b' :: t => some ('\x08', t)
  | 't' :: t => some ('\t', t)
  | 'n' :: t => some ('\n', t)
  | 'f' :: t => some ('\x0c', t)
  | 'r' :: t => some ('\r', t)
  | '"' :: t => some ('"', t)
  | '\\' :: t => some ('\\', t)
  | 'u' :: t => codePoint? 4 t
  | 'U' :: t => codePoint? 8 t
  | _ => none

/-- The characters up to the closing double quote on the same line. -/
def basic? : (bound : Nat) → (acc : Text) → Text → Option (Text × Text)
  | 0, _, _ => none
  | _ + 1, _, [] => none
  | bound + 1, acc, c :: t =>
    if c == '"' then some (acc.reverse, t)
    else if c == '\\' then
      match escape? t with
      | some (d, t) => basic? bound (d :: acc) t
      | none => none
    else if isPrintable c then basic? bound (c :: acc) t
    else none

/-- The characters up to the closing single quote on the same line. -/
def literal? (t : Text) : Option (Text × Text) :=
  match t.dropWhile fun c => isPrintable c && c != '\'' with
  | '\'' :: rest => some (t.takeWhile fun c => isPrintable c && c != '\'', rest)
  | _ => none

/-- The text behind the blanks and line ends that it starts with. -/
def skipSpace : Text → Text
  | ' ' :: t | '\t' :: t | '\n' :: t | '\r' :: '\n' :: t => skipSpace t
  | t => t

/-- The text behind a backslash that ends a line: the line end and all blanks and line ends behind
it. -/
def joinLines? (t : Text) : Option Text := (newline? (skipBlanks t)).map skipSpace

/-- The characters up to three closing quotes, of which `escapes` tells whether a backslash among them
starts an escape. Up to two quotes in front of the closing ones belong to the text. -/
def multiLine? (quote : Char) (escapes : Bool) :
    (bound : Nat) → (acc : Text) → Text → Option (Text × Text)
  | 0, _, _ => none
  | _ + 1, _, [] => none
  | bound + 1, acc, c :: t =>
    if c == quote then
      match (c :: t).takeWhile (· == quote) with
      | [_] => multiLine? quote escapes bound (c :: acc) t
      | [_, _] => multiLine? quote escapes bound (c :: c :: acc) (t.drop 1)
      | [_, _, _] => some (acc.reverse, t.drop 2)
      | [_, _, _, _] => some ((c :: acc).reverse, t.drop 3)
      | _ => some ((c :: c :: acc).reverse, t.drop 4)
    else if c == '\\' && escapes then
      match joinLines? t with
      | some t => multiLine? quote escapes bound acc t
      | none =>
        match escape? t with
        | some (d, t) => multiLine? quote escapes bound (d :: acc) t
        | none => none
    else if isPrintable c then multiLine? quote escapes bound (c :: acc) t
    else
      match newline? (c :: t) with
      | some t => multiLine? quote escapes bound ('\n' :: acc) t
      | none => none

/-- The text without the line end it starts with, if it starts with one. -/
def dropNewline (t : Text) : Text := (newline? t).getD t

/-- A quoted text on one line. -/
def quoted? : Text → Option (Text × Text)
  | '"' :: t => basic? (t.length + 1) [] t
  | '\'' :: t => literal? t
  | _ => none

/-- A quoted text on one line or on several. -/
def string? : Text → Option (Text × Text)
  | '"' :: '"' :: '"' :: t => multiLine? '"' true (t.length + 1) [] (dropNewline t)
  | '\'' :: '\'' :: '\'' :: t => multiLine? '\'' false (t.length + 1) [] (dropNewline t)
  | t => quoted? t

/-! ## Keys -/

/-- Whether the character may stand in a key without quotes. -/
def isBare (c : Char) : Bool := c.isAlphanum || c == '_' || c == '-'

/-- One segment of a key. -/
def segment? (t : Text) : Option (Text × Text) :=
  match quoted? t with
  | some r => some r
  | none => Text.run? isBare t

/-- The number of segments that a key may not reach. -/
def maxSegments : Nat := 80

/-- The segments of a key; `bound` limits their number. The blanks around the segments are skipped. -/
def key? : (bound : Nat) → Text → Option (List Text × Text)
  | 0, _ => none
  | bound + 1, t => do
    let (s, t) ← segment? (skipBlanks t)
    match skipBlanks t with
    | '.' :: t =>
      let (ss, t) ← key? bound t
      some (s :: ss, t)
    | t => some ([s], t)

/-! ## Numbers -/

/-- A run of digits in which single underscores may stand between digits, without the underscores. -/
def digits? (isDigit : Char → Bool) : Text → Option (Text × Text)
  | [] => none
  | c :: t => if isDigit c then some (go c t) else none
where
  /-- The run whose digit `c` has just been met. -/
  go (c : Char) : Text → Text × Text
    | [] => ([c], [])
    | d :: t =>
      if isDigit d then
        let (ds, rest) := go d t
        (c :: ds, rest)
      else
        match d, t with
        | '_', e :: t =>
          if isDigit e then
            let (ds, rest) := go e t
            (c :: ds, rest)
          else ([c], d :: e :: t)
        | _, t => ([c], d :: t)

/-- A sign and the text behind it; the sign is negative or not. -/
def sign : Text → Bool × Text
  | '-' :: t => (true, t)
  | '+' :: t => (false, t)
  | t => (false, t)

/-- The digits of a decimal number that does not start with a zero, or a zero. -/
def decimal? : Text → Option (Text × Text)
  | '0' :: t => some (['0'], t)
  | t => digits? isAsciiDigit t

/-- The whole number with the given digits, if 64 bits with a sign can hold it. -/
def whole? (negative : Bool) (base : Nat) (digits : Text) : Option Value := do
  let n ← Text.digitsValue? base digits
  if negative then if n ≤ Nat.pow 2 63 then some (.int (-(n : Int))) else none
  else if n < Nat.pow 2 63 then some (.int n) else none

/-- A fraction behind its point. -/
def fraction? : Text → Option (Text × Text)
  | '.' :: t => digits? isAsciiDigit t
  | _ => none

/-- An exponent behind its letter. -/
def exponent? : Text → Option (Int × Text)
  | c :: t => do
    if c != 'e' && c != 'E' then none
    let (negative, t) := sign t
    let (ds, t) ← digits? isAsciiDigit t
    let n ← Text.digitsValue? 10 ds
    some (if negative then -(n : Int) else n, t)
  | [] => none

/-- The number with a fraction; one below all numbers stands for nothing, one above is refused. -/
def fractional? (negative : Bool) (digits : Text) (places : Nat) (exponent : Int) :
    Option Value := do
  let n ← Text.digitsValue? 10 digits
  match Json.floatOf? negative n (exponent - places) with
  | some v => some v
  | none => if negative then some .null else none

/-- A number with a fraction or an exponent. -/
def float? (t : Text) : Option (Value × Text) := do
  let (negative, t) := sign t
  let (ds, t) ← decimal? t
  match fraction? t with
  | some (places, t) =>
    let (e, t) := (exponent? t).getD (0, t)
    return (← fractional? negative (ds ++ places) places.length e, t)
  | none =>
    let (e, t) ← exponent? t
    return (← fractional? negative ds 0 e, t)

/-- A number that is infinite or undefined, which has no value. -/
def special? (t : Text) : Option (Value × Text) :=
  let (_, t) := sign t
  ((Text.dropHead? "inf" t).or (Text.dropHead? "nan" t)).map fun t => (.null, t)

/-- A whole number: in decimal with or without a sign, or in another base without one. -/
def int? : Text → Option (Value × Text)
  | '0' :: 'x' :: t => based 16 t
  | '0' :: 'o' :: t => based 8 t
  | '0' :: 'b' :: t => based 2 t
  | t => do
    let (negative, t) := sign t
    let (ds, t) ← decimal? t
    return (← whole? negative 10 ds, t)
where
  /-- The number whose digits in a base start the text. -/
  based (base : Nat) (t : Text) : Option (Value × Text) := do
    let (ds, t) ← digits? (fun c => (Text.digitsValue? base [c]).isSome) t
    return (← whole? false base ds, t)

end ProtoUpkeep.Toml
