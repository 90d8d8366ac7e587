import ProtoUpkeep.Text.Decimal
import ProtoUpkeep.Text.Utf8

/-!
# What the shell prints

Escapes in what is printed start with a backslash: a letter, or up to three digits in base eight for
any byte. A format is used again as long as there are arguments left.
-/

namespace ProtoUpkeep.Shell

/-- The bytes of a character. -/
def charBytes (c : Char) : List UInt8 := (Text.toBytes [c]).toList

/-- Whether the character is a digit in base eight. -/
def isOctal (c : Char) : Bool := '0' ≤ c && c ≤ '7'

/-- The byte of an escape behind its backslash, and the text behind it. A backslash in front of any
other character stands for itself. -/
def escape (t : Text) : List UInt8 × Text :=
  let digits := (t.take 3).takeWhile isOctal
  if !digits.isEmpty then
    ([((Text.digitsValue? 8 digits).getD 0).toUInt8], t.drop digits.length)
  else
    match t with
    | '\\' :: t => ([92], t)
    | 'a' :: t => ([7], t)
    | 'b' :: t => ([8], t)
    | 'f' :: t => ([12], t)
    | 'n' :: t => ([10], t)
    | 'r' :: t => ([13], t)
    | 't' :: t => ([9], t)
    | 'v' :: t => ([11], t)
    | t => ([92], t)

/-- The bytes of a text with escapes, and whether one of them ends all output. `bound` limits the
number of characters. -/
def escaped : (bound : Nat) → Text → List UInt8 × Bool
  | 0, _ => ([], false)
  | bound + 1, t =>
    match t with
    | [] => ([], false)
    | '\\' :: 'c' :: _ => ([], true)
    | '\\' :: '0' :: c :: t =>
      let (bytes, t) := escape (if isOctal c then c :: t else '0' :: c :: t)
      let (rest, ends) := escaped bound t
      (bytes ++ rest, ends)
    | '\\' :: t =>
      let (bytes, t) := escape t
      let (rest, ends) := escaped bound t
      (bytes ++ rest, ends)
    | c :: t =>
      let (rest, ends) := escaped bound t
      (charBytes c ++ rest, ends)

/-- What is printed for arguments with blanks between them and a line end behind them. -/
def echoBytes (args : List Text) : List UInt8 :=
  let (newline, args) := match args with
    | ['-', 'n'] :: args => (false, args)
    | args => (true, args)
  let t := Text.joinWith [' '] args
  let (bytes, ends) := escaped (t.length + 1) t
  if newline && !ends then bytes ++ [10] else bytes

/-- The whole number that a text writes, or zero. -/
def numberOf (t : Text) : Int :=
  match t with
  | '-' :: t => -(magnitude t : Int)
  | '+' :: t => magnitude t
  | '\'' :: c :: _ | '"' :: c :: _ => c.toNat
  | t => magnitude t
where
  /-- The number without its sign. -/
  magnitude (t : Text) : Nat :=
    match t with
    | '0' :: 'x' :: ds => (Text.digitsValue? 16 ds).getD 0
    | '0' :: ds => (Text.digitsValue? 8 ds).getD 0
    | ds => (Text.digitsValue? 10 (ds.takeWhile isAsciiDigit)).getD 0

/-- Bytes filled up to a width: with zeros or blanks in front, or with blanks behind. -/
def fill (left zero : Bool) (width : Nat) (bytes : List UInt8) : List UInt8 :=
  let missing := width - bytes.length
  if left then bytes ++ List.replicate missing 32
  else if zero then
    match bytes with
    | 45 :: rest => 45 :: List.replicate missing 48 ++ rest
    | bytes => List.replicate missing 48 ++ bytes
  else List.replicate missing 32 ++ bytes

/-- What a format prints with arguments, the arguments that are left, whether it took any, and whether
all output ends. `bound` limits the number of characters. -/
def formatOnce : (bound : Nat) → Text → List Text → List UInt8 × List Text × Bool × Bool
  | 0, _, args => ([], args, false, false)
  | bound + 1, t, args =>
    match t with
    | [] => ([], args, false, false)
    | '%' :: '%' :: t =>
      let (rest, args, took, ends) := formatOnce bound t args
      (37 :: rest, args, took, ends)
    | '%' :: t =>
      let flags := t.takeWhile fun c => "-0+ #".toList.contains c
      let t := t.drop flags.length
      let digits := t.takeWhile isAsciiDigit
      let t := t.drop digits.length
      let width := (Text.digitsValue? 10 digits).getD 0
      let (precision?, t) : Option Nat × Text := match t with
        | '.' :: t =>
          (some ((Text.digitsValue? 10 (t.takeWhile isAsciiDigit)).getD 0),
            t.dropWhile isAsciiDigit)
        | t => (none, t)
      let arg := args.headD []
      let left := flags.elem '-'
      let zero := flags.elem '0'
      let number (t : Text) : List UInt8 := fill left zero width (Text.toBytes t).toList
      match t with
      | [] => ([37], args, false, false)
      | c :: t =>
        let (bytes, ends) : List UInt8 × Bool :=
          if c == 's' then
            let bytes := (Text.toBytes arg).toList
            (fill left false width (bytes.take (precision?.getD bytes.length)), false)
          else if c == 'b' then
            let (bytes, ends) := escaped (arg.length + 1) arg
            (fill left false width bytes, ends)
          else if c == 'c' then (fill left false width ((Text.toBytes arg).toList.take 1), false)
          else if c == 'd' || c == 'i' || c == 'u' then (number (Text.ofInt (numberOf arg)), false)
          else if c == 'o' then (number (Nat.toDigits 8 (numberOf arg).toNat), false)
          else if c == 'x' then (number (Nat.toDigits 16 (numberOf arg).toNat), false)
          else if c == 'X' then
            (number ((Nat.toDigits 16 (numberOf arg).toNat).map Char.toUpper), false)
          else (charBytes c, false)
        if ends then (bytes, args.drop 1, true, true)
        else
          let (rest, args, _, ends) := formatOnce bound t (args.drop 1)
          (bytes ++ rest, args, true, ends)
    | '\\' :: t =>
      let (bytes, t) := escape t
      let (rest, args, took, ends) := formatOnce bound t args
      (bytes ++ rest, args, took, ends)
    | c :: t =>
      let (rest, args, took, ends) := formatOnce bound t args
      (charBytes c ++ rest, args, took, ends)

/-- What a format prints with arguments. `bound` limits the number of times that it is used. -/
def formatBytes (t : Text) : (bound : Nat) → List Text → List UInt8
  | 0, _ => []
  | bound + 1, args =>
    let (bytes, rest, took, ends) := formatOnce (t.length + 1) t args
    if ends || !took || rest.isEmpty then bytes else bytes ++ formatBytes t bound rest

end ProtoUpkeep.Shell
