import ProtoUpkeep.Text.Basic

/-!
# Patterns of the shell

In a pattern a star stands for any characters, a question mark for one, and brackets for one of a set.
Quoted characters stand for themselves.
-/

namespace ProtoUpkeep.Shell

/-- A part of a pattern. -/
inductive GlobItem where
  /-- This character. -/
  | char (c : Char)
  /-- Any character. -/
  | any
  /-- Any characters. -/
  | star
  /-- A character that lies in one of the spans, or in none of them. -/
  | oneOf (negated : Bool) (spans : List (Char × Char))
deriving DecidableEq, Repr

/-- The spans between brackets, of characters with the mark that they are quoted. -/
def spansOf : List (Bool × Char) → List (Char × Char)
  | (_, a) :: (false, '-') :: (_, b) :: rest => (a, b) :: spansOf rest
  | (_, a) :: rest => (a, a) :: spansOf rest
  | [] => []

/-- The set that characters behind an opening bracket write, and the characters behind it. -/
def set? (cs : List (Bool × Char)) : Option (GlobItem × List (Bool × Char)) :=
  let (negated, cs) := match cs with
    | (false, '!') :: cs | (false, '^') :: cs => (true, cs)
    | cs => (false, cs)
  let (first, cs) := match cs with
    | (false, ']') :: cs => ([(true, ']')], cs)
    | cs => ([], cs)
  match cs.dropWhile (· != (false, ']')) with
  | _ :: rest => some (.oneOf negated (spansOf (first ++ cs.takeWhile (· != (false, ']')))), rest)
  | [] => none

/-- The pattern that characters write, each with the mark that it is quoted. `bound` limits the number
of items. -/
def globOf : (bound : Nat) → List (Bool × Char) → List GlobItem
  | 0, _ => []
  | _ + 1, [] => []
  | bound + 1, (quoted, c) :: rest =>
    if quoted then .char c :: globOf bound rest
    else if c == '*' then .star :: globOf bound rest
    else if c == '?' then .any :: globOf bound rest
    else if c == '[' then
      match set? rest with
      | some (item, rest) => item :: globOf bound rest
      | none => .char c :: globOf bound rest
    else .char c :: globOf bound rest

/-- Whether a text matches a pattern. -/
def matchesGlob : List GlobItem → Text → Bool
  | [], t => t.isEmpty
  | .star :: ps, t => (List.range (t.length + 1)).any fun n => matchesGlob ps (t.drop n)
  | .any :: ps, _ :: t => matchesGlob ps t
  | .char c :: ps, d :: t => c == d && matchesGlob ps t
  | .oneOf negated spans :: ps, d :: t =>
    (spans.any fun s => s.1 ≤ d && d ≤ s.2) != negated && matchesGlob ps t
  | _ :: _, [] => false

/-- Whether one of the characters makes a pattern. -/
def isPattern (cs : List (Bool × Char)) : Bool :=
  cs.any fun c => !c.1 && (c.2 == '*' || c.2 == '?' || c.2 == '[')

/-- The text without the shortest or the longest start that matches a pattern. -/
def cutGlobStart (longest : Bool) (p : List GlobItem) (t : Text) : Text :=
  let lengths := (List.range (t.length + 1)).filter fun n => matchesGlob p (t.take n)
  match if longest then lengths.getLast? else lengths.head? with
  | some n => t.drop n
  | none => t

/-- The text without the shortest or the longest end that matches a pattern. -/
def cutGlobEnd (longest : Bool) (p : List GlobItem) (t : Text) : Text :=
  let lengths := (List.range (t.length + 1)).filter fun n => matchesGlob p (t.drop n)
  match if longest then lengths.head? else lengths.getLast? with
  | some n => t.take n
  | none => t

end ProtoUpkeep.Shell
