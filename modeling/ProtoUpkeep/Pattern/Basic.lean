import ProtoUpkeep.Pattern.Matcher
import ProtoUpkeep.Pattern.Reader

/-!
# Patterns

A pattern says where in a text something is to be inserted: in front of its first group, or of the
whole match where the pattern has no group or the group took no part. What patterns there are and what
they match is up to the engine that reads them; the code around it asks for the two places alone. The
engine here is the one that runs. To it a pattern that consists of characters and groups is one text,
so finding it is searching for that text; any other is left to the matching machine.
-/

namespace ProtoUpkeep

/-- What is known of a match, in characters from the start of the text. -/
structure PatternMatch where
  /-- Where the match starts. -/
  start : Nat
  /-- Where its first group starts, if there is one and it took part. -/
  group? : Option Nat

/-- A pattern that has been read. -/
structure Pattern where
  /-- Its leftmost match in a text. -/
  find : Text → Option PatternMatch

/-- What reads patterns. -/
structure PatternEngine where
  /-- Reads a pattern, or refuses it. -/
  read : Text → Except PatternError Pattern

namespace Pattern

/-- The number of characters in front of what the pattern points at in its leftmost match. -/
def place? (p : Pattern) (t : Text) : Option Nat := (p.find t).map fun m => m.group?.getD m.start

/-- The text cut in front of what the pattern points at in its leftmost match. -/
def cutAt (p : Pattern) (t : Text) : Option (Text × Text) := (p.place? t).map t.splitAt

end Pattern

/-- The leftmost match of a pattern in a text. -/
def PatternNode.find (node : PatternNode) (t : Text) : Option PatternMatch :=
  match node.literal? with
  | some needle =>
    (Text.cutAt needle t).map fun (before, _) =>
      ⟨before.length, node.firstGroup?.map (before.length + ·)⟩
  | none => (Matcher.run node t).map fun (start, group?) => ⟨start, group?⟩

/-- The engine that runs. -/
def PatternEngine.standard : PatternEngine where
  read source := do return ⟨(← PatternNode.read source).find⟩

end ProtoUpkeep
