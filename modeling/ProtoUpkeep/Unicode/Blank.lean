/-!
# Blank characters

The characters with the property `White_Space` of the Unicode standard. Trimming, and the blanks
that every recogniser of the library skips, mean these. A zero-width space and a byte order mark are
not among them.
-/

namespace ProtoUpkeep

/-- Whether the character has the Unicode property `White_Space`. -/
def isBlank (c : Char) : Bool :=
  c == ' ' || ('\t' ≤ c && c ≤ '\r') || c == '\u0085' || c == '\u00a0' || c == '\u1680' ||
    ('\u2000' ≤ c && c ≤ '\u200a') || c == '\u2028' || c == '\u2029' || c == '\u202f' ||
    c == '\u205f' || c == '\u3000'

end ProtoUpkeep
