import ProtoUpkeep.Text.Basic

/-!
# Edits between two lists of lines

An edit script turns one list of lines into another. Its edits keep, delete or insert a run of lines
and name the lines of both sides by their positions. This module holds the edits and the common runs
of lines at the ends of two ranges, which both the search for a script and its compaction measure.
-/

namespace ProtoUpkeep

/-- The lines of a text for comparison: each keeps its end, which is a line feed, a carriage return
or both. -/
def Text.terminatedLines (t : Text) : List Text := go [] t
where
  /-- The lines of the text ahead, given the line so far from its end. -/
  go (line : Text) : Text → List Text
    | [] => if line.isEmpty then [] else [line.reverse]
    | '\r' :: '\n' :: rest => ('\n' :: '\r' :: line).reverse :: go [] rest
    | c :: rest =>
      if c = '\n' ∨ c = '\r' then (c :: line).reverse :: go [] rest
      else go (c :: line) rest

/-- What an edit does with its lines. -/
inductive EditKind where
  /-- The lines are on both sides. -/
  | keep
  /-- The lines are on the old side alone. -/
  | delete
  /-- The lines are on the new side alone. -/
  | insert
deriving DecidableEq, Repr

/-- An edit: where it stands on both sides, and how many lines it has. -/
structure Edit where
  /-- What is done. -/
  kind : EditKind
  /-- The position on the old side. -/
  oldPos : Nat
  /-- The position on the new side. -/
  newPos : Nat
  /-- The number of lines. -/
  count : Nat
deriving DecidableEq, Repr

namespace Edit

/-- The number of lines on the old side. -/
def oldCount (e : Edit) : Nat := if e.kind = .insert then 0 else e.count

/-- The number of lines on the new side. -/
def newCount (e : Edit) : Nat := if e.kind = .delete then 0 else e.count

/-- The edit moved `n` lines up. -/
def moveUp (e : Edit) (n : Nat) : Edit :=
  { e with oldPos := e.oldPos - n, newPos := e.newPos - n }

/-- The edit moved `n` lines down. -/
def moveDown (e : Edit) (n : Nat) : Edit :=
  { e with oldPos := e.oldPos + n, newPos := e.newPos + n }

/-- The edit with `n` lines more at its start. -/
def growUp (e : Edit) (n : Nat) : Edit := { e.moveUp n with count := e.count + n }

/-- The edit with `n` lines more at its end. -/
def growDown (e : Edit) (n : Nat) : Edit := { e with count := e.count + n }

/-- The edit with `n` lines fewer at its end. -/
def shrinkUp (e : Edit) (n : Nat) : Edit := { e with count := e.count - n }

/-- The edit with `n` lines fewer at its start. -/
def shrinkDown (e : Edit) (n : Nat) : Edit := { e.moveDown n with count := e.count - n }

end Edit

/-- The lines of both sides. -/
structure Sides where
  /-- The old lines. -/
  old : Array Text
  /-- The new lines. -/
  new : Array Text

namespace Sides

/-- How many lines, at most `limit`, are the same from the positions `i` and `j` on. -/
def commonAfter (s : Sides) (i j : Nat) : (limit : Nat) → Nat
  | 0 => 0
  | limit + 1 =>
    if s.old[i]? == s.new[j]? then commonAfter s (i + 1) (j + 1) limit + 1 else 0

/-- How many lines, at most `limit`, are the same right before the positions `i` and `j`. -/
def commonBefore (s : Sides) (i j : Nat) : (limit : Nat) → Nat
  | 0 => 0
  | limit + 1 =>
    if s.old[i - 1]? == s.new[j - 1]? then commonBefore s (i - 1) (j - 1) limit + 1 else 0

end Sides

end ProtoUpkeep
