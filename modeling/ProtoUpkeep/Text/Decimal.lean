import ProtoUpkeep.Unicode.Word
import ProtoUpkeep.Text.Basic

/-!
# Decimal numbers

Numbers are written in decimal with a minus sign for negative ones. The number of a status code is
read from a run of digits: only ASCII digits have a value, and the value has to fit in 31 bits, the
non-negative half of what a raw value of the generated enum can hold.
-/

namespace ProtoUpkeep.Text

/-- A natural number in decimal. -/
def ofNat (n : Nat) : Text := Nat.toDigits 10 n

/-- An integer in decimal. -/
def ofInt (n : Int) : Text :=
  if n < 0 then '-' :: ofNat n.natAbs else ofNat n.natAbs

/-- The value of a run of digits in a base up to 36, or `none` if a character is not one of its
digits. An empty run has the value zero. -/
def digitsValue? (base : Nat) (t : Text) : Option Nat :=
  t.foldl (fun acc c => do
    let n ← acc
    let d ← digitValue? c
    if d < base then some (n * base + d) else none) (some 0)
where
  /-- The value of a letter or digit of ASCII. -/
  digitValue? (c : Char) : Option Nat :=
    if '0' ≤ c && c ≤ '9' then some (c.toNat - '0'.toNat)
    else if 'a' ≤ c && c ≤ 'z' then some (c.toNat - 'a'.toNat + 10)
    else if 'A' ≤ c && c ≤ 'Z' then some (c.toNat - 'A'.toNat + 10)
    else none

/-- The largest number of a status code. -/
def maxCode : Nat := 2147483647

/-- The number that a run of digits gives a status code, if it is one. -/
def readCode? (digits : Text) : Option Int := do
  let n ← digitsValue? 10 digits
  if n ≤ maxCode then some n else none

end ProtoUpkeep.Text
