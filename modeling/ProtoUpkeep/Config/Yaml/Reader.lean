import ProtoUpkeep.Config.Json
import ProtoUpkeep.Config.Yaml.Node

/-!
# Reading YAML

A plain scalar is looked at to see what it is: nothing, a truth value, a number or a text. A number may
be written in base two, eight or sixteen; digits behind a zero are a text. A scalar in quotes is a
text. The keys of a mapping are the texts of its scalars, whatever they look like, and of two pairs
with one key the later one counts.
-/

namespace ProtoUpkeep.Yaml

/-- The text without a sign at its start. -/
def dropSign : Text → Text
  | '+' :: t | '-' :: t => t
  | t => t

/-- Whether the text is digits behind a zero, and so no number. -/
def isPaddedDigits (t : Text) : Bool :=
  match dropSign t with
  | '0' :: c :: t => (c :: t).all isAsciiDigit
  | _ => false

/-- Whether the text stands for nothing. -/
def isNull (t : Text) : Bool := ["null", "Null", "NULL", "~"].contains (String.ofList t)

/-- The truth value that the text is. -/
def bool? (t : Text) : Option Bool :=
  if ["true", "True", "TRUE"].contains (String.ofList t) then some true
  else if ["false", "False", "FALSE"].contains (String.ofList t) then some false
  else none

/-- The value of digits in a base; there has to be one. -/
def natural? (base : Nat) (t : Text) : Option Nat :=
  if t.isEmpty then none else Text.digitsValue? base t

/-- The absolute value of a whole number without its sign. Digits behind a zero have none. -/
def magnitude? (t : Text) : Option Nat :=
  let based : Option Nat := match t with
    | '0' :: 'x' :: ds => natural? 16 ds
    | '0' :: 'o' :: ds => natural? 8 ds
    | '0' :: 'b' :: ds => natural? 2 ds
    | _ => none
  based.or (if isPaddedDigits t then none else natural? 10 t)

/-- The whole number that the text is. -/
def int? (t : Text) : Option Int :=
  match t with
  | '-' :: ds => (magnitude? ds).map fun n => -(n : Int)
  | '+' :: ds => (magnitude? ds).map fun n => (n : Int)
  | ds => (magnitude? ds).map fun n => (n : Int)

/-- The largest absolute value that is still looked at as a whole number. -/
def maxMagnitude : Nat := Nat.pow 2 128

/-- What becomes of a whole number: the value it is, or a refusal where 64 bits cannot hold it. A
number beyond `maxMagnitude` is looked at as one with a fraction. -/
def ofInt (n : Int) : Option (Option Value) :=
  if -(Nat.pow 2 63 : Int) ≤ n ∧ n < Nat.pow 2 64 then some (some (.int n))
  else if (n < 0 ∧ n.natAbs ≤ Nat.pow 2 127) ∨ (0 ≤ n ∧ n.natAbs < maxMagnitude) then some none
  else none

/-- The digits of a number with a fraction, without sign: those before and behind the point, of which
there has to be one, and the exponent. -/
def decimal? (t : Text) : Option (Text × Text × Int) := do
  let whole := t.takeWhile isAsciiDigit
  let t := t.drop whole.length
  let (places, t) := match t with
    | '.' :: t => (t.takeWhile isAsciiDigit, t.dropWhile isAsciiDigit)
    | t => ([], t)
  if whole.isEmpty && places.isEmpty then none
  match t with
  | [] => some (whole, places, 0)
  | c :: t =>
    if c != 'e' && c != 'E' then none
    let (negative, ds) : Bool × Text := match t with
      | '-' :: ds => (true, ds)
      | '+' :: ds => (false, ds)
      | ds => (false, ds)
    let n ← natural? 10 ds
    some (whole, places, if negative then -(n : Int) else n)

/-- The number with a fraction that the text is. One that is too large is none, and one that is
written as infinite or undefined has no value. -/
def float? (t : Text) : Option Value :=
  let (negative, body) : Bool × Text := match t with
    | '-' :: body => (true, body)
    | '+' :: body => (false, body)
    | body => (false, body)
  if [".inf", ".Inf", ".INF"].contains (String.ofList body) then some .null
  else if [".nan", ".NaN", ".NAN"].contains (String.ofList t) then some .null
  else do
    let (whole, places, exponent) ← decimal? body
    let n ← Text.digitsValue? 10 (whole ++ places)
    Json.floatOf? negative n (exponent - places.length)

/-- The value of a plain scalar, unless it is a number that cannot be held. -/
def ofPlain (t : Text) : Option Value :=
  if t.isEmpty || isNull t then some .null
  else
    match bool? t with
    | some b => some (.bool b)
    | none =>
      match (int? t).bind ofInt with
      | some v => v
      | none =>
        if isPaddedDigits t then some (.text t) else some ((float? t).getD (.text t))

/-- The start of the tags of the language itself. -/
def coreTag : Text := "tag:yaml.org,2002:"

/-- The value of a scalar. A tag of the language says what it has to be; another one makes it a text,
and one of the document's own is refused. -/
def ofScalar (tag? : Option Text) (plain : Bool) (t : Text) : Option Value :=
  match tag? with
  | none => if plain then ofPlain t else some (.text t)
  | some tag =>
    if tag.head? == some '!' then none
    else if tag == coreTag ++ "bool" then (bool? t).map .bool
    else if tag == coreTag ++ "int" then ((int? t).bind ofInt).getD none
    else if tag == coreTag ++ "float" then float? t
    else if tag == coreTag ++ "null" then if isNull t then some .null else none
    else some (.text t)

/-- Whether a list or mapping may have the tag. -/
def isOpenTag (tag? : Option Text) : Bool := tag?.all fun tag => tag.head? != some '!'

mutual

/-- The value of a node. -/
def ofNode : Node → Option Value
  | .scalar tag? plain t => ofScalar tag? plain t
  | .list tag? items =>
    if isOpenTag tag? then (ofItems items).map .list else none
  | .mapping tag? pairs =>
    if isOpenTag tag? then (ofPairs pairs).map .object else none

/-- The values of nodes. -/
def ofItems : List Node → Option (List Value)
  | [] => some []
  | n :: rest =>
    match ofNode n with
    | none => none
    | some v => (ofItems rest).map (v :: ·)

/-- The members that pairs of nodes give. -/
def ofPairs : List (Node × Node) → Option (List (Text × Value))
  | [] => some []
  | (.scalar _ _ key, n) :: rest =>
    match ofNode n with
    | none => none
    | some v => (ofPairs rest).map ((key, v) :: ·)
  | _ :: _ => none

end

/-- The value that a text writes. A text without a document stands for nothing. -/
def read? (t : Text) : Option Value := do
  match ← nodeOf? (← tokens? t) with
  | none => some .null
  | some n => ofNode n

end ProtoUpkeep.Yaml
