import ProtoUpkeep.Config.Toml.Lexeme

/-!
# Moments in TOML

A moment is a date, a time of day, or both with or without an offset. It is kept as its text in one
spelling: a `T` between date and time, no zeros at the end of a fraction of a second, and no more than
nine digits of it. Days past the end of their month are refused.
-/

namespace ProtoUpkeep.Toml

/-- A number of exactly `count` digits within limits, as its text. -/
def part? (count least most : Nat) (t : Text) : Option (Text × Text) := do
  let ds := t.take count
  if ds.length ≠ count ∨ !ds.all isAsciiDigit then none
  let n ← Text.digitsValue? 10 ds
  if least ≤ n ∧ n ≤ most then some (ds, t.drop count) else none

/-- The number of days of a month. -/
def daysIn (year month : Nat) : Nat :=
  if month = 2 then
    if year % 4 = 0 ∧ (year % 100 ≠ 0 ∨ year % 400 = 0) then 29 else 28
  else if month = 4 ∨ month = 6 ∨ month = 9 ∨ month = 11 then 30
  else 31

/-- A date. -/
def date? (t : Text) : Option (Text × Text) := do
  let (year, t) ← part? 4 0 9999 t
  let t ← Text.dropHead? "-" t
  let (month, t) ← part? 2 1 12 t
  let t ← Text.dropHead? "-" t
  let most := daysIn ((Text.digitsValue? 10 year).getD 0) ((Text.digitsValue? 10 month).getD 0)
  let (day, t) ← part? 2 1 most t
  return (year ++ '-' :: month ++ '-' :: day, t)

/-- The fraction of a second with its point, without zeros at its end; nothing if it is zero. -/
def secondFraction (ds : Text) : Text :=
  match Text.dropEndWhile (· == '0') (ds.take 9) with
  | [] => []
  | ds => '.' :: ds

/-- A time of day. -/
def time? (t : Text) : Option (Text × Text) := do
  let (hour, t) ← part? 2 0 23 t
  let t ← Text.dropHead? ":" t
  let (minute, t) ← part? 2 0 59 t
  let t ← Text.dropHead? ":" t
  let (second, t) ← part? 2 0 60 t
  let (fraction, t) := match t with
    | '.' :: rest =>
      match Text.run? isAsciiDigit rest with
      | some (ds, rest) => (secondFraction ds, rest)
      | none => ([], t)
    | _ => ([], t)
  return (hour ++ ':' :: minute ++ ':' :: second ++ fraction, t)

/-- The offset of a time. An offset of nothing has no minus sign. -/
def offset? : Text → Option (Text × Text)
  | 'Z' :: t | 'z' :: t => some (['Z'], t)
  | c :: t => do
    if c != '+' && c != '-' then none
    let (hour, t) ← part? 2 0 23 t
    let t ← Text.dropHead? ":" t
    let (minute, t) ← part? 2 0 59 t
    let zero := hour ++ minute == "0000".toList
    return ((if zero then '+' else c) :: hour ++ ':' :: minute, t)
  | [] => none

/-- The time that follows a date behind a `T` or a blank, with its offset if it has one. -/
def timeOfDate? : Text → Option (Text × Text)
  | c :: t => do
    if c != 'T' && c != 't' && c != ' ' then none
    let (time, t) ← time? t
    match offset? t with
    | some (offset, t) => return ('T' :: time ++ offset, t)
    | none => return ('T' :: time, t)
  | [] => none

/-- The text of a moment. -/
def moment? (t : Text) : Option (Text × Text) :=
  match date? t with
  | some (date, t) =>
    match timeOfDate? t with
    | some (time, t) => some (date ++ time, t)
    | none => some (date, t)
  | none => time? t

/-- The value of a moment: an object whose one member has a name that says so. -/
def ofMoment (text : Text) : Value := .object [("$__toml_private_datetime", .text text)]

end ProtoUpkeep.Toml
