import ProtoUpkeep.Diff.Compaction
import ProtoUpkeep.Diff.Script
import ProtoUpkeep.Text.Decimal

/-!
# Unified diffs

The difference of two texts in the unified format, with two lines of context. Between kept lines all
deleted lines come before all inserted ones; changes with more than four kept lines between them are
in different hunks.
-/

namespace ProtoUpkeep

/-- A stretch of lines: kept lines, or the deleted and inserted lines between kept ones. -/
structure Stretch where
  /-- Whether the lines are kept. -/
  kept : Bool
  /-- The first old line. -/
  oldPos : Nat
  /-- The number of old lines. -/
  oldCount : Nat
  /-- The first new line. -/
  newPos : Nat
  /-- The number of new lines. -/
  newCount : Nat
deriving DecidableEq, Repr

namespace Stretch

/-- The stretch of one edit. -/
def ofEdit (e : Edit) : Stretch where
  kept := e.kind = .keep
  oldPos := e.oldPos
  oldCount := e.oldCount
  newPos := e.newPos
  newCount := e.newCount

/-- The stretch extended by the edit behind it, of the same sort. A side that had no lines so far
takes its position from the edit. -/
def extend (r : Stretch) (e : Edit) : Stretch where
  kept := r.kept
  oldPos := if r.oldCount = 0 ∧ e.kind = .delete then e.oldPos else r.oldPos
  oldCount := r.oldCount + e.oldCount
  newPos := if r.newCount = 0 ∧ e.kind = .insert then e.newPos else r.newPos
  newCount := r.newCount + e.newCount

/-- The stretches of a script. -/
def ofScript : List Edit → List Stretch
  | [] => []
  | e :: rest => go (ofEdit e) rest
where
  /-- The stretches of the edits behind a stretch that may go on. -/
  go (r : Stretch) : List Edit → List Stretch
    | [] => [r]
    | e :: rest =>
      if r.kept = (e.kind = .keep : Bool) then go (r.extend e) rest else r :: go (ofEdit e) rest

/-- The last lines of a kept stretch, at most `n`. -/
def lastLines (n : Nat) (r : Stretch) : Stretch :=
  let cut := r.oldCount - n
  { r with
    oldPos := r.oldPos + cut, oldCount := r.oldCount - cut
    newPos := r.newPos + cut, newCount := r.newCount - cut }

/-- The first lines of a kept stretch, at most `n`. -/
def firstLines (n : Nat) (r : Stretch) : Stretch :=
  { r with oldCount := min r.oldCount n, newCount := min r.newCount n }

end Stretch

/-- The number of kept lines shown around changes. -/
def contextLines : Nat := 2

namespace Hunk

/-- The stretches with the kept lines at both ends cut to the context. -/
def trimEnds (rs : List Stretch) : List Stretch :=
  let rs := match rs with
    | r :: rest => if r.kept then r.lastLines contextLines :: rest else rs
    | [] => []
  match rs.getLast? with
  | some r => if r.kept then rs.dropLast ++ [r.firstLines contextLines] else rs
  | none => []

/-- The hunks of the stretches, given the stretches of the hunk at hand from its end. -/
def split (hunk : List Stretch) : List Stretch → List (List Stretch)
  | [] =>
    match hunk with
    | [] => []
    | [r] => if r.kept then [] else [[r]]
    | hunk => [hunk.reverse]
  | r :: rest =>
    if r.kept && 2 * contextLines < r.oldCount then
      (r.firstLines contextLines :: hunk).reverse :: split [r.lastLines contextLines] rest
    else split (r :: hunk) rest

/-- A range of lines in a hunk's header: its first line counted from one and its length, which is
left out if it is one. An empty range is named by the line before it. -/
def range (pos count : Nat) : Text :=
  if count = 1 then Text.ofNat (pos + 1)
  else if count = 0 then Text.ofNat pos ++ ",0"
  else Text.ofNat (pos + 1) ++ ',' :: Text.ofNat count

/-- A line with its mark. One without an end is followed by a note. -/
def line (mark : Char) (l : Text) : Text :=
  match l.getLast? with
  | some '\n' | some '\r' => mark :: l
  | _ => mark :: l ++ "\n\\ No newline at end of file\n"

/-- The lines of an array from a position on. -/
def slice (ls : Array Text) (pos count : Nat) : List Text := (ls.extract pos (pos + count)).toList

/-- The lines of a stretch. -/
def body (s : Sides) (r : Stretch) : Text :=
  if r.kept then (slice s.old r.oldPos r.oldCount).flatMap (line ' ')
  else
    (slice s.old r.oldPos r.oldCount).flatMap (line '-') ++
      (slice s.new r.newPos r.newCount).flatMap (line '+')

/-- A hunk: its header and its lines. -/
def render (s : Sides) (hunk : List Stretch) : Text :=
  match hunk.head?, hunk.getLast? with
  | some first, some last =>
    "@@ -".toList ++
      range first.oldPos (last.oldPos + last.oldCount - first.oldPos) ++ " +" ++
      range first.newPos (last.newPos + last.newCount - first.newPos) ++ " @@\n" ++
      hunk.flatMap (body s)
  | _, _ => []

end Hunk

/-- The unified diff between two texts of a file, empty if there is no difference. -/
def unifiedDiff (fileName original updated : Text) : Text :=
  let s : Sides := ⟨original.terminatedLines.toArray, updated.terminatedLines.toArray⟩
  let stretches := Stretch.ofScript (Compaction.compact s s.script)
  match Hunk.split [] (Hunk.trimEnds stretches) with
  | [] => []
  | hunks =>
    "--- a/".toList ++ fileName ++ "\n+++ b/" ++ fileName ++ "\n" ++ hunks.flatMap (Hunk.render s)

end ProtoUpkeep
