import ProtoUpkeep.Pattern.Syntax

/-!
# The matching machine

A pattern becomes a program whose instructions read a character, test a place, branch, or note where
the first group starts. `Matcher.run` explores it depth first, the preferred branch first, so the
match it finds is the one that trying the alternatives in their order finds. An instruction is
explored once at each place of the text: a second visit could only fail as the first one did, and on
a loop that reads nothing it would not end. The same holds across starting places, so the visits are
shared between them and the search takes time proportional to program and text.
-/

namespace ProtoUpkeep

/-- An instruction; `next` is where the program goes on. -/
inductive Instr where
  /-- The pattern has matched. -/
  | accept
  /-- Reads one character. -/
  | char (c : Char) (next : Nat)
  /-- Reads one character of a class. -/
  | oneOf (c : CharClass) (next : Nat)
  /-- Goes on where the condition holds. -/
  | look (l : Look) (next : Nat)
  /-- Notes the place as the start of the first group. -/
  | mark (next : Nat)
  /-- Tries the first way and, failing that, the second. -/
  | branch (first second : Nat)

/-- A program: its instructions, by their addresses. -/
abbrev Matcher := Array Instr

namespace Matcher

/-- Adds an instruction and gives its address. -/
def emit (p : Matcher) (i : Instr) : Nat × Matcher := (p.size, p.push i)

/-- Adds the copies of a repeated pattern that may be missing; each is followed by the next. -/
def optionalCopies (body : Nat → Matcher → Nat × Matcher) (greedy : Bool) (next : Nat) :
    Nat → Matcher → Nat × Matcher
  | 0, p => (next, p)
  | n + 1, p =>
    let (rest, p) := optionalCopies body greedy next n p
    let (start, p) := body rest p
    p.emit (if greedy then .branch start next else .branch next start)

/-- Adds the copies of a repeated pattern that must be there. -/
def exactCopies (body : Nat → Matcher → Nat × Matcher) : Nat → Nat → Matcher → Nat × Matcher
  | 0, next, p => (next, p)
  | n + 1, next, p =>
    let (rest, p) := exactCopies body n next p
    body rest p

/-- Adds a loop of at least one copy. -/
def loop (body : Nat → Matcher → Nat × Matcher) (greedy : Bool) (next : Nat) (p : Matcher) :
    Nat × Matcher :=
  let (again, p) := p.emit (.branch next next)
  let (start, p) := body again p
  (start, p.setIfInBounds again (if greedy then .branch start next else .branch next start))

/-- Adds a pattern in front of the address `next` and gives the address where it starts. -/
def add : PatternNode → (next : Nat) → Matcher → Nat × Matcher
  | .empty, next, p => (next, p)
  | .char c, next, p => p.emit (.char c next)
  | .oneOf c, next, p => p.emit (.oneOf c next)
  | .look l, next, p => p.emit (.look l next)
  | .group number body, next, p =>
    let (start, p) := add body next p
    if number == 1 then p.emit (.mark start) else (start, p)
  | .seq a b, next, p =>
    let (start, p) := add b next p
    add a start p
  | .alt a b, next, p =>
    let (first, p) := add a next p
    let (second, p) := add b next p
    p.emit (.branch first second)
  | .copies least most greedy body, next, p =>
    match most with
    | some most =>
      let (rest, p) := optionalCopies (add body) greedy next (most - least) p
      exactCopies (add body) least rest p
    | none =>
      if least == 0 then
        let (start, p) := loop (add body) greedy next p
        p.emit (if greedy then .branch start next else .branch next start)
      else
        let (rest, p) := loop (add body) greedy next p
        exactCopies (add body) (least - 1) rest p

/-- The program of a pattern and the address where it starts. -/
def ofPattern (node : PatternNode) : Nat × Matcher := add node 0 #[.accept]

/-- Whether a word character stands at index `i`. -/
def wordAt (ascii : Bool) (t : Array Char) (i : Nat) : Bool :=
  t[i]?.any fun c => if ascii then isAsciiWord c else isWord c

/-- Whether the condition holds before index `i`. -/
def holds (t : Array Char) (i : Nat) : Look → Bool
  | .textStart => i == 0
  | .textEnd => i == t.size
  | .lineStart false => i == 0 || t[i - 1]? == some '\n'
  | .lineEnd false => i == t.size || t[i]? == some '\n'
  | .lineStart true =>
    i == 0 || t[i - 1]? == some '\n' || (t[i - 1]? == some '\r' && t[i]? != some '\n')
  | .lineEnd true =>
    i == t.size || t[i]? == some '\r' ||
      (t[i]? == some '\n' && (i == 0 || t[i - 1]? != some '\r'))
  | .wordBoundary ascii => before ascii != wordAt ascii t i
  | .notWordBoundary ascii => before ascii == wordAt ascii t i
  | .wordStart ascii => !before ascii && wordAt ascii t i
  | .wordEnd ascii => before ascii && !wordAt ascii t i
  | .wordStartHalf ascii => !before ascii
  | .wordEndHalf ascii => !wordAt ascii t i
where
  /-- Whether a word character stands behind the place. -/
  before (ascii : Bool) : Bool := i != 0 && wordAt ascii t (i - 1)

/-- A place of the program and of the text, with the start of the first group on the way there. -/
structure Thread where
  /-- The address of the next instruction. -/
  address : Nat
  /-- The index of the next character. -/
  index : Nat
  /-- The start of the first group. -/
  group : Option Nat

/-- The threads that a thread goes on as, the preferred one first. -/
def stepThread (p : Matcher) (t : Array Char) (th : Thread) : List Thread :=
  match p[th.address]? with
  | none | some .accept => []
  | some (.char c next) =>
    if t[th.index]? == some c then [{ th with address := next, index := th.index + 1 }] else []
  | some (.oneOf c next) =>
    if t[th.index]?.any (c.has ·.toNat) then
      [{ th with address := next, index := th.index + 1 }]
    else []
  | some (.look l next) => if holds t th.index l then [{ th with address := next }] else []
  | some (.mark next) => [{ th with address := next, group := some th.index }]
  | some (.branch first second) => [{ th with address := first }, { th with address := second }]

/-- Explores the threads of a stack until one accepts. The address zero is the accepting one. -/
def explore (p : Matcher) (t : Array Char) :
    (fuel : Nat) → (visited : Array Bool) → List Thread → Option Thread × Array Bool
  | 0, visited, _ => (none, visited)
  | _ + 1, visited, [] => (none, visited)
  | fuel + 1, visited, th :: stack =>
    if th.address == 0 then (some th, visited)
    else
      let key := th.index * p.size + th.address
      if visited.getD key true then explore p t fuel visited stack
      else explore p t fuel (visited.setIfInBounds key true) (stepThread p t th ++ stack)

/-- The start of the first match at or behind index `i` and the start of its first group; `left` is
the number of starting places to try. -/
def search (p : Matcher) (start : Nat) (t : Array Char) :
    (left : Nat) → (visited : Array Bool) → (i : Nat) → Option (Nat × Option Nat)
  | 0, _, _ => none
  | left + 1, visited, i =>
    match explore p t (2 * p.size * (t.size + 1) + 2) visited [⟨start, i, none⟩] with
    | (some th, _) => some (i, th.group)
    | (none, visited) => search p start t left visited (i + 1)

/-- The start of the leftmost match of a pattern and the start of its first group. -/
def run (node : PatternNode) (t : Text) : Option (Nat × Option Nat) :=
  let (start, p) := ofPattern node
  let t := t.toArray
  search p start t (t.size + 1) (Array.replicate (p.size * (t.size + 1)) false) 0

end Matcher

end ProtoUpkeep
