import ProtoUpkeep.Pattern.CharClass

/-!
# Syntax of patterns

The tree of a pattern after reading: the flags that were in force are already part of the classes,
the assertions and the greed of each repetition. Of the groups only their numbers are kept.
-/

namespace ProtoUpkeep

/-- A condition on a place between two characters. -/
inductive Look where
  /-- The start of the text. -/
  | textStart
  /-- The end of the text. -/
  | textEnd
  /-- The start of a line; with `crlf`, lines also end at carriage returns. -/
  | lineStart (crlf : Bool)
  /-- The end of a line; with `crlf`, lines also end at carriage returns. -/
  | lineEnd (crlf : Bool)
  /-- A place with a word character on exactly one side. -/
  | wordBoundary (ascii : Bool)
  /-- A place with word characters on both sides or on none. -/
  | notWordBoundary (ascii : Bool)
  /-- A place where a word starts. -/
  | wordStart (ascii : Bool)
  /-- A place where a word ends. -/
  | wordEnd (ascii : Bool)
  /-- A place behind which no word character stands. -/
  | wordStartHalf (ascii : Bool)
  /-- A place before which no word character stands. -/
  | wordEndHalf (ascii : Bool)
deriving DecidableEq, Repr

/-- A pattern as a tree. -/
inductive PatternNode where
  /-- Matches the empty text. -/
  | empty
  /-- Matches one character. -/
  | char (c : Char)
  /-- Matches one character of a class. -/
  | oneOf (c : CharClass)
  /-- Matches the empty text where the condition holds. -/
  | look (l : Look)
  /-- A group that is counted. -/
  | group (number : Nat) (body : PatternNode)
  /-- One pattern and then the other. -/
  | seq (a b : PatternNode)
  /-- One pattern or, failing that, the other. -/
  | alt (a b : PatternNode)
  /-- At least `least` and at most `most` copies, as many as possible if `greedy`. -/
  | copies (least : Nat) (most : Option Nat) (greedy : Bool) (body : PatternNode)
deriving DecidableEq, Repr

namespace PatternNode

/-- The one text that the pattern matches, if it consists of characters and groups alone. -/
def literal? : PatternNode → Option Text
  | empty => some []
  | char c => some [c]
  | group _ body => body.literal?
  | seq a b => do some ((← a.literal?) ++ (← b.literal?))
  | _ => none

/-- How far into a pattern of characters and groups the first group starts. -/
def firstGroup? : PatternNode → Option Nat
  | group 1 _ => some 0
  | group _ body => body.firstGroup?
  | seq a b =>
    match a.firstGroup? with
    | some n => some n
    | none => b.firstGroup?.map (· + (a.literal?.getD []).length)
  | _ => none

/-- Whether the pattern can match the empty text. -/
def nullable : PatternNode → Bool
  | empty | look _ => true
  | char _ | oneOf _ => false
  | group _ body => body.nullable
  | seq a b => a.nullable && b.nullable
  | alt a b => a.nullable || b.nullable
  | copies least _ _ body => least == 0 || body.nullable

/-- How large the machine for the pattern is, in the size of a state for one byte. A class counts by
the number of its spans, for each of which a machine over bytes has states of its own. -/
def weight : PatternNode → Nat
  | empty => 0
  | char c => c.utf8Size
  | oneOf c => classWeight c
  | look _ => 1
  | group _ body => body.weight + 2
  | seq a b => a.weight + b.weight
  | alt a b => a.weight + b.weight + 1
  | copies least most _ body => max 1 (most.getD (least + 1)) * (body.weight + 1)
where
  /-- The weight of a class. -/
  classWeight : CharClass → Nat
    | .ofSpans s => 1 + 2 * s.length
    | .word => 2000
    | .blank => 20
    | .union a b | .inter a b => classWeight a + classWeight b
    | .compl a | .folded a | .foldedAscii a => classWeight a

/-- The largest weight of a pattern that is accepted. -/
def maxWeight : Nat := 430000

end PatternNode

end ProtoUpkeep
