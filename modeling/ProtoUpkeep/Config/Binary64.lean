import ProtoUpkeep.Text.Decimal

/-!
# Numbers with a fraction

A number with a fraction is kept as the bits of its binary form of 64 bits. It is written with the
fewest decimal digits that read back as the same number: for one digit, two digits and so on the two
decimals next to the number are tried, and the first that lies among the reals that round to the
number is taken, the nearer one of two.
-/

namespace ProtoUpkeep

/-- A binary floating-point number of 64 bits, by its bits. -/
structure Binary64 where
  /-- The bits: sign, exponent, fraction. -/
  bits : UInt64
deriving DecidableEq, Repr

namespace Binary64

/-- The number nearest to `digits * 10 ^ exponent`, with the given sign. -/
def ofDecimal (negative : Bool) (digits : Nat) (exponent : Int) : Binary64 :=
  let f := Float.ofScientific digits (exponent < 0) exponent.natAbs
  ⟨if negative then f.toBits ||| 0x8000000000000000 else f.toBits⟩

/-- The bits of the exponent. -/
def exponentBits (f : Binary64) : Nat := (f.bits.toNat / Nat.pow 2 52) % Nat.pow 2 11

/-- The bits of the fraction. -/
def fractionBits (f : Binary64) : Nat := f.bits.toNat % Nat.pow 2 52

/-- Whether the number is below zero or the negative zero. -/
def isNegative (f : Binary64) : Bool := Nat.pow 2 63 ≤ f.bits.toNat

/-- Whether the number is neither infinite nor undefined. -/
def isFinite (f : Binary64) : Bool := f.exponentBits != 2047

/-- The absolute value as `m * 2 ^ q`. -/
def parts (f : Binary64) : Nat × Int :=
  if f.exponentBits = 0 then (f.fractionBits, -1074)
  else (f.fractionBits + Nat.pow 2 52, (f.exponentBits : Int) - 1075)

/-- A positive number scaled to a fraction: the number and the two ends of the reals that round to
it, all over one denominator. -/
structure Scaled where
  /-- Numerator of the lower end. -/
  low : Nat
  /-- Numerator of the number. -/
  value : Nat
  /-- Numerator of the upper end. -/
  high : Nat
  /-- The denominator. -/
  den : Nat
  /-- Whether the ends themselves round to the number. -/
  closed : Bool

/-- The scaled form of `m * 2 ^ q`. Below a power of two the next number is only half as far. -/
def scale (m : Nat) (q : Int) : Scaled :=
  let num := if 0 ≤ q then Nat.pow 2 q.toNat else 1
  let den := if 0 ≤ q then 1 else Nat.pow 2 (-q).toNat
  let below := if m = Nat.pow 2 52 ∧ -1074 < q then 1 else 2
  { low := (4 * m - below) * num
    value := 4 * m * num
    high := (4 * m + 2) * num
    den := 4 * den
    closed := m % 2 = 0 }

/-- Whether `c * 10 ^ e` rounds to the number. -/
def Scaled.covers (s : Scaled) (c : Nat) (e : Int) : Bool :=
  let lhs := if 0 ≤ e then c * Nat.pow 10 e.toNat * s.den else c * s.den
  let unit := if 0 ≤ e then 1 else Nat.pow 10 (-e).toNat
  if s.closed then s.low * unit ≤ lhs && lhs ≤ s.high * unit
  else s.low * unit < lhs && lhs < s.high * unit

/-- The number over `10 ^ e`, as quotient and remainder over a denominator. -/
def Scaled.divide (s : Scaled) (e : Int) : Nat × Nat × Nat :=
  let num := if 0 ≤ e then s.value else s.value * Nat.pow 10 (-e).toNat
  let den := if 0 ≤ e then s.den * Nat.pow 10 e.toNat else s.den
  (num / den, num % den, den)

/-- The fewest digits and the exponent of ten that give the number back. `e` is the exponent of the
last of the digits tried first, and `left` the number of further digits that may be tried. -/
def Scaled.shortest (s : Scaled) : (left : Nat) → (e : Int) → Nat × Int
  | 0, e => ((s.divide e).1, e)
  | left + 1, e =>
    let (d, r, den) := s.divide e
    let lower := s.covers d e
    let upper := s.covers (d + 1) e
    if lower && (!upper || 2 * r < den || (2 * r == den && d % 2 == 0)) then (d, e)
    else if upper then (d + 1, e)
    else shortest s left (e - 1)

/-- The exponent of the first decimal digit of the number, searched from `e` down. -/
def Scaled.leading (s : Scaled) : (left : Nat) → (e : Int) → Int
  | 0, e => e
  | left + 1, e => if (s.divide e).1 = 0 then leading s left (e - 1) else e

/-- Digits without zeros at their end, with the exponent to match. -/
def stripZeros : (left : Nat) → Nat → Int → Nat × Int
  | 0, d, e => (d, e)
  | left + 1, d, e => if d ≠ 0 ∧ d % 10 = 0 then stripZeros left (d / 10) (e + 1) else (d, e)

/-- The digits and the exponent of ten that a finite number is written with. -/
def digits (f : Binary64) : Nat × Int :=
  let (m, q) := f.parts
  if m = 0 then (0, 0)
  else
    let s := scale m q
    let (d, e) := s.shortest 17 (s.leading 640 309)
    stripZeros 20 d e

/-- How a number with a fraction is spelled: the exponents that are written without one. -/
structure Spelling where
  /-- The least number of places before the point that is written without an exponent. -/
  least : Int
  /-- The greatest number of places before the point that is written without an exponent. -/
  most : Int

/-- The spelling that uses exponents for very small and very large numbers. -/
def scientific : Spelling := ⟨-4, 16⟩

/-- The spelling without exponents. -/
def positional : Spelling := ⟨-400, 400⟩

/-- The text of a finite number. There is always a point or an exponent in it. -/
def text (sp : Spelling) (f : Binary64) : Text :=
  let (d, e) := f.digits
  let ds := Text.ofNat d
  let places := (ds.length : Int) + e
  let sign : Text := if f.isNegative then ['-'] else []
  let zeros (n : Int) : Text := List.replicate n.toNat '0'
  let body : Text :=
    if d = 0 then "0.0"
    else if 0 ≤ e ∧ places ≤ sp.most then ds ++ zeros e ++ ".0"
    else if 0 < places ∧ places ≤ sp.most then
      ds.take places.toNat ++ '.' :: ds.drop places.toNat
    else if sp.least ≤ places ∧ places ≤ 0 then "0.".toList ++ zeros (-places) ++ ds
    else
      match ds with
      | [c] => c :: 'e' :: Text.ofInt (places - 1)
      | c :: cs => c :: '.' :: cs ++ 'e' :: Text.ofInt (places - 1)
      | [] => []
  sign ++ body

end Binary64

end ProtoUpkeep
