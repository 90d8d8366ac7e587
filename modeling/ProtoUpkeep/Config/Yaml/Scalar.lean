import ProtoUpkeep.Config.Yaml.Cursor
import ProtoUpkeep.Text.Decimal

/-!
# Scalars of YAML

A scalar is written plain, in quotes, or as a block of lines. A plain scalar ends where something
begins that has a meaning of its own. In double quotes a backslash starts an escape or takes a line
end away. The lines of a block keep their line ends, or are folded, and an indicator says what becomes
of the last one.
-/

namespace ProtoUpkeep.Yaml

/-! ## Plain scalars -/

/-- Whether the character has a meaning inside brackets and braces. -/
def isFlowMark (c : Char) : Bool := c == ',' || c == '[' || c == ']' || c == '{' || c == '}'

/-- The characters of a word of a plain scalar, and the text behind it. -/
def plainWord? (flow : Bool) : Text → Option (Text × Text)
  | [] => some ([], [])
  | c :: t =>
    if isBlank c || isBreak c then some ([], c :: t)
    else if flow && c == ':' &&
        (match t with | d :: _ => isFlowMark d || d == '?' | [] => false) then none
    else if (c == ':' && atSpace t) || (flow && isFlowMark c) then some ([], c :: t)
    else (plainWord? flow t).map fun (word, rest) => (c :: word, rest)

/-- A plain scalar with what comes before it in `acc` and in the gap: its text, the cursor behind it,
and whether a line end was the last thing before that cursor. `least` is the column in which further
lines have to start, and `bound` limits the number of words. -/
def plain? (flow : Bool) (least : Int) :
    (bound : Nat) → (acc : Text) → Gap → Cursor → Option (Text × Cursor × Bool)
  | 0, _, _, _ => none
  | bound + 1, acc, gap, c =>
    if c.atDocumentMark || c.rest.head? == some '#' then some (acc, c, gap.first?.isSome)
    else
      match plainWord? flow c.rest with
      | none => none
      | some (word, rest) =>
        let c := c.advance word.length
        let (acc, gap) := if word.isEmpty then (acc, gap) else (acc ++ gap.folded ++ word, Gap.none)
        match rest with
        | d :: _ =>
          if isBlank d || isBreak d then
            match gap.extend least (rest.length + 1) c with
            | none => none
            | some (gap, c) =>
              if !flow && (c.column : Int) < least then some (acc, c, gap.first?.isSome)
              else plain? flow least bound acc gap c
          else some (acc, c, gap.first?.isSome)
        | [] => some (acc, c, gap.first?.isSome)

/-! ## Quoted scalars -/

/-- The character of an escape behind its backslash, and the text behind it. -/
def escape? : Text → Option (Char × Text)
  | [] => none
  | c :: t =>
    match c with
    | '0' => some ('\x00', t)
    | 'a' => some ('\x07', t)
    | 'b' => some ('\x08', t)
    | 't' => some ('\t', t)
    | '\t' => some ('\t', t)
    | 'n' => some ('\n', t)
    | 'v' => some ('\x0b', t)
    | 'f' => some ('\x0c', t)
    | 'r' => some ('\r', t)
    | 'e' => some ('\x1b', t)
    | ' ' => some (' ', t)
    | '"' => some ('"', t)
    | '/' => some ('/', t)
    | '\\' => some ('\\', t)
    | 'N' => some ('\u0085', t)
    | '_' => some ('\u00a0', t)
    | 'L' => some ('\u2028', t)
    | 'P' => some ('\u2029', t)
    | 'x' => codePoint 2 t
    | 'u' => codePoint 4 t
    | 'U' => codePoint 8 t
    | _ => none
where
  /-- The character with a number of digits in base sixteen as its code point. -/
  codePoint (count : Nat) (t : Text) : Option (Char × Text) := do
    let ds := t.take count
    if ds.length ≠ count then none
    let n ← Text.digitsValue? 16 ds
    if h : n.isValidChar then some (Char.ofNatAux n h, t.drop count) else none

/-- The characters up to a blank, a line end, the closing quote or a backslash that takes a line end
away. `bound` limits their number. -/
def quotedWord? (quote : Char) : (bound : Nat) → (acc : Text) → Cursor → Option (Text × Cursor)
  | 0, _, _ => none
  | bound + 1, acc, c =>
    match c.rest with
    | [] => some (acc.reverse, c)
    | d :: t =>
      if isBlank d || isBreak d then some (acc.reverse, c)
      else if d == quote then
        if quote == '\'' && t.head? == some '\'' then
          quotedWord? quote bound ('\'' :: acc) (c.advance 2)
        else some (acc.reverse, c)
      else if d == '\\' && quote == '"' then
        match t with
        | e :: _ =>
          if isBreak e then some (acc.reverse, c)
          else
            match escape? t with
            | some (e, rest) =>
              quotedWord? quote bound (e :: acc) (c.advance (1 + (t.length - rest.length)))
            | none => none
        | [] => none
      else quotedWord? quote bound (d :: acc) (c.advance 1)

/-- The text of a quoted scalar behind its opening quote, and the cursor behind the closing one.
`bound` limits the number of words. -/
def quoted? (quote : Char) : (bound : Nat) → (acc : Text) → Cursor → Option (Text × Cursor)
  | 0, _, _ => none
  | bound + 1, acc, c =>
    if c.atDocumentMark then none
    else
      match quotedWord? quote (c.rest.length + 1) [] c with
      | none => none
      | some (word, c) =>
        let (gap, c) : Gap × Cursor :=
          match c.rest with
          | '\\' :: _ => (⟨[], some [], []⟩, (c.advance 1).lineEnd.2)
          | _ => (Gap.none, c)
        match c.rest with
        | [] => none
        | d :: _ =>
          if d == quote then some (acc ++ word, c.advance 1)
          else
            match gap.extend (-1) (c.rest.length + 1) c with
            | none => none
            | some (gap, c) => quoted? quote bound (acc ++ word ++ gap.folded) c

/-! ## Blocks of lines -/

/-- What becomes of the line ends at the end of a block. -/
inductive Chomping where
  /-- They are dropped. -/
  | strip
  /-- The first is kept. -/
  | clip
  /-- All are kept. -/
  | keep
deriving DecidableEq

/-- The indicators of a block. -/
structure BlockHeader where
  /-- What becomes of the line ends at its end. -/
  chomping : Chomping
  /-- How many columns its lines are indented by, if that is said. -/
  indent? : Option Nat

/-- A digit that says how far lines are indented. -/
def indentDigit? : Text → Option (Option Nat × Text)
  | c :: t =>
    if c == '0' then none
    else if isAsciiDigit c then some (some (c.toNat - '0'.toNat), t)
    else some (none, c :: t)
  | [] => some (none, [])

/-- The indicator for the line ends at the end. -/
def chomping : Text → Chomping × Text
  | '+' :: t => (.keep, t)
  | '-' :: t => (.strip, t)
  | t => (.clip, t)

/-- The indicators of a block, in either order, and the text behind them. -/
def blockHeader? (t : Text) : Option (BlockHeader × Text) :=
  match chomping t with
  | (.clip, _) => do
    let (indent?, t) ← indentDigit? t
    match indent? with
    | some _ =>
      let (chomping, t) := chomping t
      some ({ chomping, indent? }, t)
    | none => some ({ chomping := .clip, indent? }, t)
  | (chomping, t) => do
    let (indent?, t) ← indentDigit? t
    some ({ chomping, indent? }, t)

/-- The line ends in front of a line of a block, the cursor at that line, and the largest column met.
Blanks are skipped up to the column `indent?`, or all of them where it is not known yet. -/
def blockGap? (indent? : Option Nat) :
    (bound : Nat) → (breaks : Text) → (largest : Nat) → Cursor → Option (Text × Nat × Cursor)
  | 0, _, _, _ => none
  | bound + 1, breaks, largest, c =>
    let blanks := (c.rest.takeWhile (· == ' ')).length
    let c := c.advance (match indent? with | some n => min blanks (n - c.column) | none => blanks)
    let largest := max largest c.column
    let short : Bool := match indent? with
      | some n => c.column < n
      | none => true
    match c.rest with
    | '\t' :: _ => if short then none else some (breaks, largest, c)
    | d :: _ =>
      if isBreak d then
        let (b, c) := c.lineEnd
        blockGap? indent? bound (breaks ++ b) largest c
      else some (breaks, largest, c)
    | [] => some (breaks, largest, c)

/-- What a block has been read to. -/
structure BlockState where
  /-- The text so far. -/
  text : Text
  /-- The line end behind it. -/
  first : Text
  /-- The further line ends behind it. -/
  more : Text
  /-- Whether the last line started with a blank. -/
  blank : Bool

/-- The text of a block whose lines start at the column `indent`. -/
def blockLines? (folds : Bool) (indent : Nat) :
    (bound : Nat) → BlockState → Cursor → Option (BlockState × Cursor)
  | 0, _, _ => none
  | bound + 1, s, c =>
    if c.column ≠ indent ∨ c.rest.isEmpty then some (s, c)
    else
      let blank := match c.rest with
        | d :: _ => isBlank d
        | [] => false
      let joint :=
        if folds && s.first == ['\n'] && !s.blank && !blank then
          if s.more.isEmpty then [' '] else s.more
        else s.first ++ s.more
      let line := c.rest.takeWhile fun d => !isBreak d
      let (first, c) := (c.advance line.length).lineEnd
      match blockGap? (some indent) (c.rest.length + 1) [] 0 c with
      | none => none
      | some (more, _, c) =>
        blockLines? folds indent bound ⟨s.text ++ joint ++ line, first, more, blank⟩ c

/-- A block behind its first character, inside the indentation `outer`: its text and the cursor behind
it. -/
def block? (folds : Bool) (outer : Int) (c : Cursor) : Option (Text × Cursor) := do
  let (header, t) ← blockHeader? c.rest
  let c := (c.advance (c.rest.length - t.length)).skipBlanks
  let c := if c.rest.head? == some '#' then c.skipLineRest else c
  if !atLineEnd c.rest then none
  let (_, c) := c.lineEnd
  let known? := header.indent?.map fun n => (max outer 0).toNat + n
  let (more, largest, c) ← blockGap? known? (c.rest.length + 1) [] 0 c
  let indent := known?.getD (max largest (max (outer + 1).toNat 1))
  let (s, c) ← blockLines? folds indent (c.rest.length + 1) ⟨[], [], more, false⟩ c
  match header.chomping with
  | .strip => some (s.text, c)
  | .clip => some (s.text ++ s.first, c)
  | .keep => some (s.text ++ s.first ++ s.more, c)

end ProtoUpkeep.Yaml
