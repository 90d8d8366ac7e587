import ProtoUpkeep.Unicode.Blank

/-!
# Texts

A text is the list of its characters. Every parser and renderer of the library works on this type,
so that each of them is a recursion on the characters still ahead. This module holds the plain
operations: trimming, cutting at the first occurrence of a needle, lines, and words separated by a
character. `cutAt` is the one search: `find`, `contains` and the insertion of generated text are
stated through the two pieces that it gives.
-/

namespace ProtoUpkeep

/-- A text: its characters in order. -/
abbrev Text := List Char

instance : Coe String Text := ⟨String.toList⟩

namespace Text

/-- The text without the blanks it starts with. -/
def trimStart (t : Text) : Text := t.dropWhile isBlank

/-- The text without its last characters for which `p` holds. -/
def dropEndWhile (p : Char → Bool) (t : Text) : Text := (t.reverse.dropWhile p).reverse

/-- The text without the blanks it ends with. -/
def trimEnd (t : Text) : Text := dropEndWhile isBlank t

/-- The text without the blanks at both of its ends. -/
def trim (t : Text) : Text := trimEnd (trimStart t)

/-- Whether the text starts with `head`. -/
def startsWith (t head : Text) : Bool := head.isPrefixOf t

/-- Whether the text ends with `tail`. -/
def endsWith (t tail : Text) : Bool := tail.isSuffixOf t

/-- The text after `head`, if it starts with it. -/
def dropHead? : (head t : Text) → Option Text
  | [], t => some t
  | _ :: _, [] => none
  | c :: head, d :: t => if c = d then dropHead? head t else none

/-- The longest run of characters at the start of the text for which `p` holds, and the text behind
it; the run must not be empty. -/
def run? (p : Char → Bool) (t : Text) : Option (Text × Text) :=
  if (t.takeWhile p).isEmpty then none else some (t.takeWhile p, t.dropWhile p)

/-- The text behind the blanks that it starts with; there has to be one. -/
def dropBlanks? (t : Text) : Option Text := (run? isBlank t).map (·.2)

/-- The text before the first occurrence of `needle` and the text from that occurrence on. -/
def cutAt (needle : Text) : Text → Option (Text × Text)
  | [] => if needle.isEmpty then some ([], []) else none
  | c :: t =>
    if needle.isPrefixOf (c :: t) then some ([], c :: t)
    else (cutAt needle t).map fun (before, rest) => (c :: before, rest)

/-- Whether `needle` occurs in the text. -/
def contains (t needle : Text) : Bool := (cutAt needle t).isSome

/-- The pieces between the occurrences of `sep`; there is one more of them than occurrences. -/
def pieces (sep : Char) (t : Text) : List Text := t.splitOn sep

/-- The lines of a text, that is, its pieces between line feeds. A carriage return is a character of
its line. -/
def lines (t : Text) : List Text := pieces '\n' t

/-- The texts joined with `sep` between neighbours. -/
def joinWith (sep : Text) (ts : List Text) : Text := sep.intercalate ts

/-- The text whose lines are the given ones. -/
def ofLines (ls : List Text) : Text := joinWith ['\n'] ls

/-- Joining the lines of a text gives it back. -/
@[simp] theorem ofLines_lines (t : Text) : ofLines (lines t) = t :=
  List.intercalate_splitOn '\n'

/-- Lines that hold no line feed are the lines of the text they are joined into. -/
theorem lines_ofLines {ls : List Text} (hne : ls ≠ []) (h : ∀ l ∈ ls, '\n' ∉ l) :
    lines (ofLines ls) = ls :=
  List.splitOn_intercalate '\n' h hne

theorem lines_ne_nil (t : Text) : lines t ≠ [] := List.splitOn_ne_nil '\n' t

/-- What follows a head is the text without as many characters. -/
theorem append_of_dropHead? {head t rest : Text} (h : dropHead? head t = some rest) :
    head ++ rest = t := by
  induction head generalizing t with
  | nil => simpa [dropHead?] using h.symm
  | cons c head ih =>
    cases t with
    | nil => simp [dropHead?] at h
    | cons d t =>
      simp only [dropHead?] at h
      split at h
      · next heq => simp [heq, ih h]
      · contradiction

theorem length_of_dropHead? {head t rest : Text} (h : dropHead? head t = some rest) :
    t.length = head.length + rest.length := by
  simp [← append_of_dropHead? h]

theorem length_of_run? {p : Char → Bool} {t run rest : Text} (h : run? p t = some (run, rest)) :
    t.length = run.length + rest.length := by
  simp only [run?] at h
  split at h
  · contradiction
  · simp only [Option.some.injEq, Prod.mk.injEq] at h
    obtain ⟨rfl, rfl⟩ := h
    simp [← List.length_append]

theorem length_dropBlanks?_le {t rest : Text} (h : dropBlanks? t = some rest) :
    rest.length ≤ t.length := by
  obtain ⟨⟨run, r⟩, hrun, rfl⟩ := Option.map_eq_some_iff.1 h
  simp [length_of_run? hrun]

theorem length_trimStart_le (t : Text) : (trimStart t).length ≤ t.length :=
  (List.dropWhile_sublist isBlank).length_le

/-- The two pieces of a cut make up the text. -/
theorem append_of_cutAt {needle t before rest : Text} (h : cutAt needle t = some (before, rest)) :
    before ++ rest = t := by
  induction t generalizing before rest with
  | nil =>
    simp only [cutAt] at h
    split at h <;> simp_all
  | cons c t ih =>
    simp only [cutAt] at h
    split at h
    · simp only [Option.some.injEq, Prod.mk.injEq] at h
      obtain ⟨rfl, rfl⟩ := h
      rfl
    · simp only [Option.map_eq_some_iff] at h
      obtain ⟨⟨b, r⟩, hcut, heq⟩ := h
      simp only [Prod.mk.injEq] at heq
      obtain ⟨rfl, rfl⟩ := heq
      simp [ih hcut]

end Text

end ProtoUpkeep
