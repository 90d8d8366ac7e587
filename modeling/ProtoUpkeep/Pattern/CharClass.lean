import ProtoUpkeep.Unicode.Folding
import ProtoUpkeep.Unicode.Word

/-!
# Character classes of patterns

A class is a set of characters, built from spans and from the named sets by the set operations and by
folding case. It is asked one character at a time.
-/

namespace ProtoUpkeep

/-- A set of characters. -/
inductive CharClass where
  /-- The characters whose code points lie in the spans. -/
  | ofSpans (s : Spans)
  /-- The word characters. -/
  | word
  /-- The blank characters. -/
  | blank
  /-- The characters of either class. -/
  | union (a b : CharClass)
  /-- The characters of both classes. -/
  | inter (a b : CharClass)
  /-- The characters that are not in the class. -/
  | compl (a : CharClass)
  /-- The characters that are in the class but for their case. -/
  | folded (a : CharClass)
  /-- The characters that are in the class but for the case of ASCII letters. -/
  | foldedAscii (a : CharClass)
deriving DecidableEq, Repr

namespace CharClass

/-- Whether the code point is in the class. -/
def has : CharClass → Nat → Bool
  | ofSpans s, n => s.has n
  | word, n => isWord (Char.ofNat n)
  | blank, n => isBlank (Char.ofNat n)
  | union a b, n => a.has n || b.has n
  | inter a b, n => a.has n && b.has n
  | compl a, n => !a.has n
  | folded a, n => (caseOrbit n).any a.has
  | foldedAscii a, n => a.has n || a.has (swapAsciiCase n)
where
  /-- The ASCII letter of the other case. -/
  swapAsciiCase (n : Nat) : Nat :=
    if 0x41 ≤ n ∧ n ≤ 0x5A then n + 32 else if 0x61 ≤ n ∧ n ≤ 0x7A then n - 32 else n

/-- The class of no character. -/
def empty : CharClass := ofSpans []

/-- The class of all characters. -/
def all : CharClass := ofSpans (Spans.between 0 0x10FFFF)

/-- The class of one character. -/
def single (c : Char) : CharClass := ofSpans [⟨c.toNat, c.toNat, 1⟩]

/-- The characters from `first` to `last`. -/
def range (first last : Char) : CharClass := ofSpans (Spans.between first.toNat last.toNat)

/-- The characters of the first class that are not in the second. -/
def diff (a b : CharClass) : CharClass := inter a (compl b)

/-- The characters of exactly one of the classes. -/
def symmDiff (a b : CharClass) : CharClass := union (diff a b) (diff b a)

/-- Whether the class has a member from U+0080 to U+00FF. For a class of bytes these stand for the
bytes that are no characters of their own. -/
def hasHighByte (a : CharClass) : Bool := (List.range 128).any fun n => a.has (n + 128)

/-- The ASCII word characters. -/
def asciiWord : CharClass :=
  ofSpans [⟨0x30, 0x39, 1⟩, ⟨0x41, 0x5A, 1⟩, ⟨0x5F, 0x5F, 1⟩, ⟨0x61, 0x7A, 1⟩]

/-- The ASCII blanks. -/
def asciiBlank : CharClass := ofSpans [⟨0x09, 0x0D, 1⟩, ⟨0x20, 0x20, 1⟩]

/-- The ASCII classes by their names in brackets. -/
def ascii? (name : Text) : Option CharClass :=
  (table.find? fun e => e.1.toList == name).map fun e => ofSpans e.2
where
  /-- The names and their spans. -/
  table : List (String × Spans) := [
    ("alnum", [⟨0x30, 0x39, 1⟩, ⟨0x41, 0x5A, 1⟩, ⟨0x61, 0x7A, 1⟩]),
    ("alpha", [⟨0x41, 0x5A, 1⟩, ⟨0x61, 0x7A, 1⟩]),
    ("ascii", [⟨0x00, 0x7F, 1⟩]),
    ("blank", [⟨0x09, 0x09, 1⟩, ⟨0x20, 0x20, 1⟩]),
    ("cntrl", [⟨0x00, 0x1F, 1⟩, ⟨0x7F, 0x7F, 1⟩]),
    ("digit", [⟨0x30, 0x39, 1⟩]),
    ("graph", [⟨0x21, 0x7E, 1⟩]),
    ("lower", [⟨0x61, 0x7A, 1⟩]),
    ("print", [⟨0x20, 0x7E, 1⟩]),
    ("punct", [⟨0x21, 0x2F, 1⟩, ⟨0x3A, 0x40, 1⟩, ⟨0x5B, 0x60, 1⟩, ⟨0x7B, 0x7E, 1⟩]),
    ("space", [⟨0x09, 0x0D, 1⟩, ⟨0x20, 0x20, 1⟩]),
    ("upper", [⟨0x41, 0x5A, 1⟩]),
    ("word", [⟨0x30, 0x39, 1⟩, ⟨0x41, 0x5A, 1⟩, ⟨0x5F, 0x5F, 1⟩, ⟨0x61, 0x7A, 1⟩]),
    ("xdigit", [⟨0x30, 0x39, 1⟩, ⟨0x41, 0x46, 1⟩, ⟨0x61, 0x66, 1⟩])]

end CharClass

end ProtoUpkeep
