import ProtoUpkeep.Pattern.Syntax
import ProtoUpkeep.Text.Decimal
import ProtoUpkeep.Unicode.Property

/-!
# Reading patterns

The notation of patterns: characters, escapes, classes in brackets with set operations, groups with
and without numbers, names and flags, alternatives, repetition, and assertions. Look-around and
references to groups are refused, so that every pattern that is accepted can be matched in time
proportional to its size and the text's.

A reader is a function on the text still ahead. Where a construct nests, the reader takes a bound on
the depth of its calls; the length of the pattern is always enough, because each call reads a
character.
-/

namespace ProtoUpkeep

/-- Why a pattern is refused. -/
inductive PatternError where
  /-- The pattern ends behind a backslash or inside an escape. -/
  | unfinishedEscape
  /-- The character has no meaning behind a backslash, or not in this place. -/
  | unknownEscape (c : Char)
  /-- A reference to a group. -/
  | backReference
  /-- A condition on the text ahead or behind. -/
  | lookAround
  /-- A hexadecimal escape without a character. -/
  | badCodePoint
  /-- A name that no set of characters has. -/
  | unknownProperty (name : Text)
  /-- A bracket that is not closed. -/
  | unclosedClass
  /-- A range in brackets that is reversed or not between characters. -/
  | badRange
  /-- A group that is not closed. -/
  | unclosedGroup
  /-- A closing parenthesis without a group. -/
  | unopenedGroup
  /-- A group name that is empty, unfinished, taken, or holds a character that none may hold. -/
  | badGroupName
  /-- A list of flags that is unfinished, repeats a flag or holds an unknown one. -/
  | badFlags
  /-- A repetition with nothing before it. -/
  | nothingToRepeat
  /-- A count in braces that is unfinished, too large or reversed. -/
  | badCount
  /-- A class that, with Unicode switched off, holds more than ASCII. -/
  | beyondAscii
  /-- A pattern whose machine would be too large. -/
  | tooLarge
  /-- A pattern whose groups nest too deeply. -/
  | tooDeep
deriving DecidableEq, Repr

namespace PatternReader

/-- The flags in force at a place of a pattern. -/
structure Flags where
  /-- Letters match in either case. -/
  ignoreCase : Bool := false
  /-- `^` and `$` match at lines. -/
  multiLine : Bool := false
  /-- A dot matches line feeds too. -/
  dotAll : Bool := false
  /-- Repetitions are lazy unless marked. -/
  swapGreed : Bool := false
  /-- Named classes reach beyond ASCII. -/
  unicode : Bool := true
  /-- Lines may end with a carriage return. -/
  crlf : Bool := false
  /-- Blanks and comments between the parts of the pattern do not count. -/
  ignoreBlanks : Bool := false

/-- What a reader reads from: the text ahead, and the groups seen so far. -/
structure State where
  /-- The text ahead. -/
  rest : Text
  /-- The number of counted groups so far. -/
  groups : Nat := 0
  /-- The names of groups so far. -/
  names : List Text := []

/-- A reader of a part of a pattern. -/
abbrev ReadM := StateT State (Except PatternError)

/-- The next character, if there is one. -/
def peek : ReadM (Option Char) := return (← get).rest.head?

/-- The character after the next one. -/
def peekSecond : ReadM (Option Char) := return (← get).rest.tail.head?

/-- Moves past the next character. -/
def advance : ReadM Unit := modify fun s => { s with rest := s.rest.tail }

/-- The text behind blanks and comments; a comment reaches from `#` to the end of its line. -/
def skipLayout : (inComment : Bool) → Text → Text
  | _, [] => []
  | false, c :: t =>
    if isBlank c then skipLayout false t
    else if c == '#' then skipLayout true t
    else c :: t
  | true, c :: t => if c == '\n' then skipLayout false t else skipLayout true t

/-- Moves past blanks and comments where they do not count. -/
def skip (flags : Flags) : ReadM Unit := do
  if flags.ignoreBlanks then modify fun s => { s with rest := skipLayout false s.rest }

/-- Moves past the next character and what does not count behind it. -/
def step (flags : Flags) : ReadM Unit := do
  advance
  skip flags

/-- Moves past `head` if the text ahead starts with it. -/
def eat (head : Text) : ReadM Bool := do
  match Text.dropHead? head (← get).rest with
  | some rest =>
    modify fun s => { s with rest }
    return true
  | none => return false

/-- The value of up to `limit` digits in the given base, with what does not count between them. -/
def digits (flags : Flags) (base : Nat) : (limit : Nat) → (acc : Text) → ReadM Text
  | 0, acc => return acc.reverse
  | limit + 1, acc => do
    match ← peek with
    | some c =>
      if ((Text.digitsValue? base [c]).isSome) then
        step flags
        digits flags base limit (c :: acc)
      else return acc.reverse
    | none => return acc.reverse

/-! ## Escapes -/

/-- What an escape stands for. -/
inductive Escape where
  /-- A character; `byte` if it was written with two hexadecimal digits. -/
  | char (c : Char) (byte : Bool)
  /-- A class. -/
  | cls (c : CharClass)
  /-- An assertion. -/
  | look (l : Look)

/-- The character of a code point. -/
def scalar (n : Nat) : ReadM Char :=
  if n < 0xD800 ∨ (0xDFFF < n ∧ n < 0x110000) then return Char.ofNat n
  else throw .badCodePoint

/-- Reads a hexadecimal escape behind the letter `x`, `u` or `U`, which fixes the number of digits
where there are no braces. -/
def hexEscape (flags : Flags) (letter : Char) : ReadM Escape := do
  step flags
  match ← peek with
  | none => throw .unfinishedEscape
  | some '{' =>
    step flags
    let ds ← digits flags 16 (← get).rest.length []
    if (← peek) != some '}' then throw .badCodePoint
    advance
    if ds.isEmpty || 8 < ds.length then throw .badCodePoint
    return .char (← scalar ((Text.digitsValue? 16 ds).getD 0)) false
  | some _ =>
    let count := if letter == 'x' then 2 else if letter == 'u' then 4 else 8
    let ds ← digits flags 16 count []
    if ds.length != count then throw .badCodePoint
    return .char (← scalar ((Text.digitsValue? 16 ds).getD 0)) (letter == 'x')

/-- The characters up to a closing brace, with what does not count between them, and whether the
brace is there. -/
def untilBrace (flags : Flags) : (limit : Nat) → (acc : Text) → ReadM Text
  | 0, _ => throw .unfinishedEscape
  | limit + 1, acc => do
    match ← peek with
    | none => throw .unfinishedEscape
    | some '}' =>
      advance
      return acc.reverse
    | some c =>
      step flags
      untilBrace flags limit (c :: acc)

/-- The class of the characters of a property, closed under case where case does not count. -/
def propertyClass (flags : Flags) (negated : Bool) (name : Text) (spans : Option Spans) :
    ReadM Escape := do
  match spans with
  | none => throw (.unknownProperty name)
  | some s =>
    let c := CharClass.ofSpans s
    let c := if flags.ignoreCase then .folded c else c
    return .cls (if negated then .compl c else c)

/-- Reads a class by its property behind `p` or `P`. -/
def propertyEscape (flags : Flags) (negated : Bool) : ReadM Escape := do
  step flags
  if !flags.unicode then throw .beyondAscii
  match ← peek with
  | none => throw .unfinishedEscape
  | some '{' =>
    step flags
    let name ← untilBrace flags ((← get).rest.length + 1) []
    match Text.cutAt "!=" name with
    | some (n, value) =>
      propertyClass flags (!negated) name (Property.valued? n (value.drop 2))
    | none =>
      match Text.cutAt ":" name <|> Text.cutAt "=" name with
      | some (n, value) => propertyClass flags negated name (Property.valued? n (value.drop 1))
      | none => propertyClass flags negated name (Property.named? name)
  | some c =>
    if c == '\\' then throw (.unknownProperty [c])
    step flags
    propertyClass flags negated [c] (Property.named? [c])

/-- The class of `\d`, `\s` or `\w`, or of its complement for the capital letter. -/
def namedClass (flags : Flags) (c : Char) : CharClass :=
  let positive : CharClass :=
    if c.toLower == 'd' then
      if flags.unicode then .ofSpans Category.decimalNumber else .range '0' '9'
    else if c.toLower == 's' then
      if flags.unicode then .blank else .asciiBlank
    else
      if flags.unicode then .word else .asciiWord
  if c.isUpper then .compl positive else positive

/-- The characters that have a meaning of their own in patterns. -/
def isMeta (c : Char) : Bool := ("\\.+*?()|[]\x7b\x7d^$#&-~" : Text).contains c

/-- Whether a backslash makes the character stand for itself. -/
def isPlainEscape (c : Char) : Bool :=
  isMeta c || (c.toNat < 128 && !c.isAlphanum && c != '<' && c != '>')

/-- The characters that the name of an assertion in braces consists of. -/
def boundaryName (flags : Flags) : (limit : Nat) → (acc : Text) → ReadM Text
  | 0, acc => return acc.reverse
  | limit + 1, acc => do
    match ← peek with
    | some c =>
      if c.isAlpha || c == '-' then
        step flags
        boundaryName flags limit (c :: acc)
      else return acc.reverse
    | none => return acc.reverse

/-- Reads what follows `\b`: a named assertion in braces, or else nothing. Braces that do not start
with a letter or a hyphen are left for a count. -/
def boundary (flags : Flags) : ReadM Escape := do
  let ascii := !flags.unicode
  let plain : Escape := .look (.wordBoundary ascii)
  if (← peek) != some '{' then return plain
  let before ← get
  step flags
  match ← peek with
  | none => throw .unfinishedEscape
  | some c =>
    if !(c.isAlpha || c == '-') then
      set before
      return plain
    let name ← boundaryName flags (← get).rest.length []
    if (← peek) != some '}' then throw .unfinishedEscape
    advance
    if name == "start".toList then return .look (.wordStart ascii)
    else if name == "end".toList then return .look (.wordEnd ascii)
    else if name == "start-half".toList then return .look (.wordStartHalf ascii)
    else if name == "end-half".toList then return .look (.wordEndHalf ascii)
    else throw (.unknownEscape 'b')

/-- Reads an escape behind its backslash. -/
def escape (flags : Flags) : ReadM Escape := do
  match ← peek with
  | none => throw .unfinishedEscape
  | some c =>
    if '0' ≤ c && c ≤ '9' then throw .backReference
    if c == 'x' || c == 'u' || c == 'U' then return ← hexEscape flags c
    if c == 'p' || c == 'P' then return ← propertyEscape flags (c == 'P')
    advance
    if ("dswDSW" : Text).contains c then return .cls (namedClass flags c)
    if isPlainEscape c then return .char c false
    let ascii := !flags.unicode
    match c with
    | 'a' => return .char '\x07' false
    | 'f' => return .char '\x0c' false
    | 't' => return .char '\t' false
    | 'n' => return .char '\n' false
    | 'r' => return .char '\r' false
    | 'v' => return .char '\x0b' false
    | 'A' => return .look .textStart
    | 'z' => return .look .textEnd
    | 'b' => boundary flags
    | 'B' => return .look (.notWordBoundary ascii)
    | '<' => return .look (.wordStart ascii)
    | '>' => return .look (.wordEnd ascii)
    | _ => throw (.unknownEscape c)

/-! ## Classes in brackets -/

/-- A class closed under case where case does not count. -/
def fold (flags : Flags) (c : CharClass) : CharClass :=
  if flags.ignoreCase then if flags.unicode then .folded c else .foldedAscii c else c

/-- How two classes in brackets are combined. -/
inductive SetOp where
  /-- What is in both. -/
  | inter
  /-- What is in the first alone. -/
  | diff
  /-- What is in exactly one. -/
  | symmDiff

/-- The classes to the left of an operator, if there is one, combined with the class behind it. -/
def combine (flags : Flags) (left : Option (SetOp × CharClass)) (right : CharClass) : CharClass :=
  match left with
  | none => right
  | some (.inter, l) => .inter (fold flags l) (fold flags right)
  | some (.diff, l) => .diff (fold flags l) (fold flags right)
  | some (.symmDiff, l) => .symmDiff (fold flags l) (fold flags right)

/-- Reads one end of a range, or a class, in brackets. -/
def classPart (flags : Flags) : ReadM Escape := do
  match ← peek with
  | none => throw .unclosedClass
  | some '\\' =>
    advance
    match ← escape flags with
    | .look _ => throw (.unknownEscape 'b')
    | e => return e
  | some c =>
    advance
    return .char c false

/-- The character that a part stands for, which may be one end of a range. -/
def rangeEnd (flags : Flags) : Escape → ReadM Char
  | .char c _ => if !flags.unicode && 128 ≤ c.toNat then throw .beyondAscii else return c
  | _ => throw .badRange

/-- Reads a character, a range or a named class in brackets. A hyphen before the closing bracket or
before another hyphen makes no range. -/
def classItem (flags : Flags) : ReadM CharClass := do
  let part ← classPart flags
  skip flags
  if (← peek).isNone then throw .unclosedClass
  let behind := ((← get).rest.tail)
  let next := (if flags.ignoreBlanks then skipLayout false behind else behind).head?
  if (← peek) != some '-' || next == some ']' || next == some '-' then
    match part with
    | .cls c => return c
    | part => return .single (← rangeEnd flags part)
  else
    step flags
    let last ← classPart flags
    let a ← rangeEnd flags part
    let b ← rangeEnd flags last
    if a.toNat ≤ b.toNat then return .range a b else throw .badRange

/-- Reads an ASCII class such as `[:alpha:]`. Text that is not one is left for a nested class. -/
def asciiClass? : ReadM (Option CharClass) := do
  let before ← get
  if ← eat "[:" then
    let negated ← eat "^"
    let name := (← get).rest.takeWhile (· != ':')
    modify fun s => { s with rest := s.rest.drop name.length }
    if ← eat ":]" then
      match CharClass.ascii? name with
      | some c => return some (if negated then .compl c else c)
      | none => pure ()
  set before
  return none

/-- Moves past the hyphens at the start of a bracket and tells whether there was one. -/
def leadingHyphens (flags : Flags) : (limit : Nat) → (seen : Bool) → ReadM Bool
  | 0, seen => return seen
  | limit + 1, seen => do
    match ← peek with
    | some '-' =>
      step flags
      leadingHyphens flags limit true
    | none => throw .unclosedClass
    | some _ => return seen

mutual

/-- Reads a class behind its opening bracket. -/
def bracket : (bound : Nat) → Flags → ReadM CharClass
  | 0, _ => throw .tooDeep
  | bound + 1, flags => do
    skip flags
    let negated := (← peek) == some '^'
    if negated then step flags
    let hyphen ← leadingHyphens flags (← get).rest.length false
    if (← peek).isNone then throw .unclosedClass
    let first : CharClass := if hyphen then .single '-' else .empty
    let first ← (do
      if !hyphen && (← peek) == some ']' then
        step flags
        if (← peek).isNone then throw .unclosedClass
        return CharClass.single ']'
      else return first)
    let body := fold flags (← bracketItems bound flags none first)
    return if negated then .compl body else body

/-- Reads the items of a class up to its closing bracket; `left` is what stands before the last
operator and `acc` what stands behind it so far. -/
def bracketItems : (bound : Nat) → Flags → Option (SetOp × CharClass) → CharClass →
    ReadM CharClass
  | 0, _, _, _ => throw .tooDeep
  | bound + 1, flags, left, acc => do
    skip flags
    match ← peek, ← peekSecond with
    | none, _ => throw .unclosedClass
    | some ']', _ =>
      advance
      return combine flags left acc
    | some '[', _ =>
      match ← asciiClass? with
      | some c => bracketItems bound flags left (.union acc c)
      | none =>
        advance
        let inner ← bracket bound flags
        bracketItems bound flags left (.union acc inner)
    | some '&', some '&' => operator bound flags left acc .inter
    | some '-', some '-' => operator bound flags left acc .diff
    | some '~', some '~' => operator bound flags left acc .symmDiff
    | some _, _ =>
      let c ← classItem flags
      bracketItems bound flags left (.union acc c)

/-- Reads an operator of two characters and the items behind it. -/
def operator : (bound : Nat) → Flags → Option (SetOp × CharClass) → CharClass → SetOp →
    ReadM CharClass
  | 0, _, _, _, _ => throw .tooDeep
  | bound + 1, flags, left, acc, op => do
    advance
    advance
    bracketItems bound flags (some (op, combine flags left acc)) .empty

end

/-! ## Groups, repetition and the pattern as a whole -/

/-- A class as a pattern. With Unicode switched off it may hold ASCII characters alone. -/
def classNode (flags : Flags) (c : CharClass) : ReadM PatternNode :=
  if !flags.unicode && c.hasHighByte then throw .beyondAscii else return .oneOf c

/-- A character as a pattern. -/
def charNode (flags : Flags) (c : Char) : PatternNode :=
  if flags.ignoreCase && (flags.unicode || c.toNat < 128) && 1 < (caseOrbit c.toNat).length then
    .oneOf (fold flags (.single c))
  else .char c

/-- An escape as a pattern. -/
def escapeNode (flags : Flags) : Escape → ReadM PatternNode
  | .char c byte =>
    if byte && !flags.unicode && 128 ≤ c.toNat then throw .beyondAscii
    else return charNode flags c
  | .cls c => classNode flags c
  | .look l => return .look l

/-- The character class of a dot. -/
def dot (flags : Flags) : ReadM PatternNode :=
  if !flags.unicode then throw .beyondAscii
  else if flags.dotAll then return .oneOf .all
  else if flags.crlf then return .oneOf (.compl (.union (.single '\r') (.single '\n')))
  else return .oneOf (.compl (.single '\n'))

/-- The flags with one of them set. -/
def setFlag (flags : Flags) (letter : Char) (on : Bool) : Option Flags :=
  match letter with
  | 'i' => some { flags with ignoreCase := on }
  | 'm' => some { flags with multiLine := on }
  | 's' => some { flags with dotAll := on }
  | 'U' => some { flags with swapGreed := on }
  | 'u' => some { flags with unicode := on }
  | 'R' => some { flags with crlf := on }
  | 'x' => some { flags with ignoreBlanks := on }
  | _ => none

/-- Reads flags up to the character that ends them. No flag may stand twice, and the hyphen, which
switches off the flags behind it, has to have one behind it. -/
def flagList : (limit : Nat) → (seen : Text) → (on : Bool) → Flags → ReadM Flags
  | 0, _, _, _ => throw .badFlags
  | limit + 1, seen, on, flags => do
    match ← peek with
    | none => throw .badFlags
    | some c =>
      if c == ':' || c == ')' then
        if seen.head? == some '-' then throw .badFlags else return flags
      if List.elem c seen then throw .badFlags
      advance
      if c == '-' then flagList limit (c :: seen) false flags
      else
        match setFlag flags c on with
        | some flags => flagList limit (c :: seen) on flags
        | none => throw .badFlags

/-- Whether the character may stand in the name of a group. -/
def isNameChar (first : Bool) (c : Char) : Bool :=
  c == '_' ||
    (if c.toNat < 128 then
      c.isAlpha || (!first && (c.isDigit || c == '.' || c == '[' || c == ']'))
    else
      isAlphabeticPoint c.toNat || (!first && Property.number.has c.toNat))

/-- Reads the name of a group and the bracket behind it. -/
def groupName : ReadM Unit := do
  let name := (← get).rest.takeWhile (· != '>')
  modify fun s => { s with rest := s.rest.drop name.length }
  let valid := match name with
    | [] => false
    | c :: cs => isNameChar true c && cs.all (isNameChar false)
  if !valid || (← get).names.contains name then throw .badGroupName
  if !(← eat ">") then throw .badGroupName
  modify fun s => { s with names := name :: s.names }

/-- What an opening parenthesis starts. -/
inductive GroupStart where
  /-- A counted group. -/
  | counted (number : Nat)
  /-- A group that is not counted, with its flags. -/
  | plain (flags : Flags)
  /-- Flags for what follows. -/
  | flags (flags : Flags)

/-- The number of the next counted group. -/
def nextGroup : ReadM Nat := do
  let n := (← get).groups + 1
  modify fun s => { s with groups := n }
  return n

/-- Reads the start of a group behind its parenthesis. -/
def groupStart (flags : Flags) : ReadM GroupStart := do
  skip flags
  if ← eat "?=" then throw .lookAround
  if ← eat "?!" then throw .lookAround
  if ← eat "?<=" then throw .lookAround
  if ← eat "?<!" then throw .lookAround
  let named ← (do if ← eat "?P<" then return true else eat "?<")
  if named then
    let n ← nextGroup
    groupName
    return .counted n
  else if ← eat "?" then
    if (← peek).isNone then throw .unclosedGroup
    let empty := (← peek) == some ')'
    let inner ← flagList ((← get).rest.length + 1) [] true flags
    if (← peek) == some ')' then
      if empty then throw .nothingToRepeat
      advance
      return .flags inner
    else
      advance
      return .plain inner
  else return .counted (← nextGroup)

/-- How often a pattern is repeated. -/
structure Count where
  /-- The least number of copies. -/
  least : Nat
  /-- The greatest number of copies, if there is one. -/
  most : Option Nat

/-- Reads a number inside a count; blanks around it do not count. -/
def countNumber (flags : Flags) : ReadM (Option Nat) := do
  modify fun s => { s with rest := s.rest.dropWhile isBlank }
  let ds ← digits flags 10 (← get).rest.length []
  modify fun s => { s with rest := s.rest.dropWhile isBlank }
  match Text.digitsValue? 10 ds with
  | some n =>
    if ds.isEmpty then return none
    else if n < Nat.pow 2 32 then return some n
    else throw .badCount
  | none => throw .badCount

/-- Reads a count behind its opening brace. -/
def count (flags : Flags) : ReadM Count := do
  skip flags
  let some least ← countNumber flags | throw .badCount
  let most ← (do
    if (← peek) == some ',' then
      step flags
      if (← peek) == some '}' then return none
      let some most ← countNumber flags | throw .badCount
      return some most
    else return some least)
  if (← peek) != some '}' then throw .badCount
  advance
  match most with
  | some m => if m < least then throw .badCount
  | none => pure ()
  return { least, most }

/-- The last pattern of a branch repeated. A question mark behind the count swaps the greed. -/
def repeatLast (flags : Flags) (branch : List (Option PatternNode)) (c : Count) :
    ReadM (List (Option PatternNode)) := do
  let lazily ← eat "?"
  match branch with
  | some last :: before =>
    let node := match last with
      | .empty => .empty
      | last => .copies c.least c.most (lazily == flags.swapGreed) last
    return some node :: before
  | _ => throw .nothingToRepeat

/-- Refuses a repetition that has nothing before it. -/
def needLast (branch : List (Option PatternNode)) : ReadM Unit :=
  match branch with
  | some _ :: _ => return ()
  | _ => throw .nothingToRepeat

/-- The patterns of a branch one after the other; the branch is given from its end. -/
def sequence (branch : List (Option PatternNode)) : PatternNode :=
  match branch.filterMap id with
  | [] => .empty
  | last :: before => before.foldl (fun acc node => .seq node acc) last

/-- The pattern that tries the branches in their order; they are given from the last one. -/
def alternatives : List PatternNode → PatternNode
  | [] => .empty
  | last :: before => before.foldl (fun acc node => .alt node acc) last

/-- Reads patterns up to the end of the group, or of the text outside of any. Flags hold up to the
end of the group; in a branch they are kept as missing patterns, which cannot be repeated. -/
def items : (bound : Nat) → (depth : Nat) → Flags → (branches : List PatternNode) →
    (branch : List (Option PatternNode)) → ReadM PatternNode
  | 0, _, _, _, _ => throw .tooDeep
  | bound + 1, depth, flags, branches, branch => do
    skip flags
    match ← peek with
    | none =>
      if 0 < depth then throw .unclosedGroup
      return alternatives (sequence branch :: branches)
    | some c =>
      advance
      match c with
      | ')' =>
        if depth == 0 then throw .unopenedGroup
        return alternatives (sequence branch :: branches)
      | '|' => items bound depth flags (sequence branch :: branches) []
      | '(' =>
        if 250 ≤ depth then throw .tooDeep
        match ← groupStart flags with
        | .counted n =>
          let body ← items bound (depth + 1) flags [] []
          items bound depth flags branches (some (.group n body) :: branch)
        | .plain inner =>
          let body ← items bound (depth + 1) inner [] []
          items bound depth flags branches (some body :: branch)
        | .flags flags => items bound depth flags branches (none :: branch)
      | '[' =>
        let cls ← bracket bound flags
        let node ← classNode flags cls
        items bound depth flags branches (some node :: branch)
      | '?' =>
        needLast branch
        items bound depth flags branches (← repeatLast flags branch ⟨0, some 1⟩)
      | '*' =>
        needLast branch
        items bound depth flags branches (← repeatLast flags branch ⟨0, none⟩)
      | '+' =>
        needLast branch
        items bound depth flags branches (← repeatLast flags branch ⟨1, none⟩)
      | '{' =>
        needLast branch
        let c ← count flags
        items bound depth flags branches (← repeatLast flags branch c)
      | '\\' =>
        let node ← escapeNode flags (← escape flags)
        items bound depth flags branches (some node :: branch)
      | '.' =>
        let node ← dot flags
        items bound depth flags branches (some node :: branch)
      | '^' =>
        let l := if flags.multiLine then Look.lineStart flags.crlf else .textStart
        items bound depth flags branches (some (.look l) :: branch)
      | '$' =>
        let l := if flags.multiLine then Look.lineEnd flags.crlf else .textEnd
        items bound depth flags branches (some (.look l) :: branch)
      | c => items bound depth flags branches (some (charNode flags c) :: branch)

end PatternReader

/-- The tree of a pattern. -/
def PatternNode.read (pattern : Text) : Except PatternError PatternNode := do
  let bound := 2 * pattern.length + 2
  let (node, _) ← (PatternReader.items bound 0 {} [] []).run { rest := pattern }
  if PatternNode.maxWeight < node.weight then throw .tooLarge
  return node

end ProtoUpkeep
