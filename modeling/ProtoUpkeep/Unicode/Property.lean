import ProtoUpkeep.Unicode.Blank
import ProtoUpkeep.Unicode.Letter
import ProtoUpkeep.Unicode.Script
import ProtoUpkeep.Unicode.Word

/-!
# Properties by name

Patterns name sets of characters by a general category, a script or a property that holds or does
not. Names are compared loosely: letter case, blanks, hyphens and underscores do not count, nor does
a leading `is`.
-/

namespace ProtoUpkeep.Property

/-- A property name in the form in which names are compared. -/
def normalize (name : Text) : Text :=
  let kept := name.filter fun c => c.toNat < 128 && c != ' ' && c != '_' && c != '-'
  let low := kept.map Char.toLower
  match low with
  | 'i' :: 's' :: rest => if rest == ['c'] then low else rest
  | _ => low

/-- The letters. -/
def letter : Spans :=
  Category.uppercaseLetter ++ Category.lowercaseLetter ++ Category.titlecaseLetter ++
    Category.modifierLetter ++ Category.otherLetter

/-- The marks. -/
def mark : Spans := Category.nonspacingMark ++ Category.spacingMark ++ Category.enclosingMark

/-- The numbers. -/
def number : Spans := Category.decimalNumber ++ Category.letterNumber ++ Category.otherNumber

/-- The punctuation characters. -/
def punctuation : Spans :=
  Category.connectorPunctuation ++ Category.dashPunctuation ++ Category.openPunctuation ++
    Category.closePunctuation ++ Category.initialPunctuation ++ Category.finalPunctuation ++
    Category.otherPunctuation

/-- The symbols. -/
def symbol : Spans :=
  Category.mathSymbol ++ Category.currencySymbol ++ Category.modifierSymbol ++ Category.otherSymbol

/-- The separators. -/
def separator : Spans :=
  Category.spaceSeparator ++ Category.lineSeparator ++ Category.paragraphSeparator

/-- The code points that are neither letters, marks, numbers, punctuation, symbols nor separators. -/
def other : Spans :=
  Category.control ++ Category.format ++ Category.privateUse ++ Category.unassigned

/-- The blank characters as spans. -/
def whiteSpace : Spans := [
  ⟨0x09, 0x0D, 1⟩, ⟨0x20, 0x20, 1⟩, ⟨0x85, 0x85, 1⟩, ⟨0xA0, 0xA0, 1⟩, ⟨0x1680, 0x1680, 1⟩,
  ⟨0x2000, 0x200A, 1⟩, ⟨0x2028, 0x2029, 1⟩, ⟨0x202F, 0x202F, 1⟩, ⟨0x205F, 0x205F, 1⟩,
  ⟨0x3000, 0x3000, 1⟩]

/-- The hexadecimal digits of ASCII. -/
def asciiHexDigit : Spans := [⟨0x30, 0x39, 1⟩, ⟨0x41, 0x46, 1⟩, ⟨0x61, 0x66, 1⟩]

/-- The general categories, and the sets that are named like one, by normalized name. -/
def categories : List (String × Spans) := [
  ("any", Spans.between 0 0x10FFFF), ("ascii", Spans.between 0 0x7F),
  ("assigned", letter ++ mark ++ number ++ punctuation ++ symbol ++ separator ++
    Category.control ++ Category.format ++ Category.privateUse),
  ("l", letter), ("letter", letter),
  ("lc", Category.uppercaseLetter ++ Category.lowercaseLetter ++ Category.titlecaseLetter),
  ("casedletter",
    Category.uppercaseLetter ++ Category.lowercaseLetter ++ Category.titlecaseLetter),
  ("lu", Category.uppercaseLetter), ("uppercaseletter", Category.uppercaseLetter),
  ("ll", Category.lowercaseLetter), ("lowercaseletter", Category.lowercaseLetter),
  ("lt", Category.titlecaseLetter), ("titlecaseletter", Category.titlecaseLetter),
  ("lm", Category.modifierLetter), ("modifierletter", Category.modifierLetter),
  ("lo", Category.otherLetter), ("otherletter", Category.otherLetter),
  ("m", mark), ("mark", mark), ("combiningmark", mark),
  ("mn", Category.nonspacingMark), ("nonspacingmark", Category.nonspacingMark),
  ("mc", Category.spacingMark), ("spacingmark", Category.spacingMark),
  ("me", Category.enclosingMark), ("enclosingmark", Category.enclosingMark),
  ("n", number), ("number", number),
  ("nd", Category.decimalNumber), ("decimalnumber", Category.decimalNumber),
  ("digit", Category.decimalNumber),
  ("nl", Category.letterNumber), ("letternumber", Category.letterNumber),
  ("no", Category.otherNumber), ("othernumber", Category.otherNumber),
  ("p", punctuation), ("punctuation", punctuation), ("punct", punctuation),
  ("pc", Category.connectorPunctuation), ("connectorpunctuation", Category.connectorPunctuation),
  ("pd", Category.dashPunctuation), ("dashpunctuation", Category.dashPunctuation),
  ("ps", Category.openPunctuation), ("openpunctuation", Category.openPunctuation),
  ("pe", Category.closePunctuation), ("closepunctuation", Category.closePunctuation),
  ("pi", Category.initialPunctuation), ("initialpunctuation", Category.initialPunctuation),
  ("pf", Category.finalPunctuation), ("finalpunctuation", Category.finalPunctuation),
  ("po", Category.otherPunctuation), ("otherpunctuation", Category.otherPunctuation),
  ("s", symbol), ("symbol", symbol),
  ("sm", Category.mathSymbol), ("mathsymbol", Category.mathSymbol),
  ("sc", Category.currencySymbol), ("currencysymbol", Category.currencySymbol),
  ("sk", Category.modifierSymbol), ("modifiersymbol", Category.modifierSymbol),
  ("so", Category.otherSymbol), ("othersymbol", Category.otherSymbol),
  ("z", separator), ("separator", separator),
  ("zs", Category.spaceSeparator), ("spaceseparator", Category.spaceSeparator),
  ("zl", Category.lineSeparator), ("lineseparator", Category.lineSeparator),
  ("zp", Category.paragraphSeparator), ("paragraphseparator", Category.paragraphSeparator),
  ("c", other), ("other", other),
  ("cc", Category.control), ("control", Category.control), ("cntrl", Category.control),
  ("cf", Category.format), ("format", Category.format),
  ("co", Category.privateUse), ("privateuse", Category.privateUse),
  ("cn", Category.unassigned), ("unassigned", Category.unassigned)]

/-- The alphabetic characters. -/
def alphabetic : Spans := letter ++ Category.letterNumber ++ otherAlphabetic

/-- The properties that hold or do not, by normalized name. -/
def binary : List (String × Spans) := [
  ("alphabetic", alphabetic), ("alpha", alphabetic),
  ("uppercase", Category.uppercaseLetter ++ otherUppercase),
  ("upper", Category.uppercaseLetter ++ otherUppercase),
  ("lowercase", Category.lowercaseLetter ++ otherLowercase),
  ("lower", Category.lowercaseLetter ++ otherLowercase),
  ("whitespace", whiteSpace), ("wspace", whiteSpace), ("space", whiteSpace),
  ("cased", casedSpans), ("caseignorable", caseIgnorableSpans), ("ci", caseIgnorableSpans),
  ("asciihexdigit", asciiHexDigit), ("ahex", asciiHexDigit),
  ("hexdigit", hexDigit), ("hex", hexDigit),
  ("joincontrol", Spans.between 0x200C 0x200D), ("joinc", Spans.between 0x200C 0x200D)]
where
  /-- The uppercase characters that are no uppercase letters. -/
  otherUppercase : Spans := [
    ⟨0x2160, 0x216F, 1⟩, ⟨0x24B6, 0x24CF, 1⟩, ⟨0x1F130, 0x1F149, 1⟩, ⟨0x1F150, 0x1F169, 1⟩,
    ⟨0x1F170, 0x1F189, 1⟩]
  /-- The lowercase characters that are no lowercase letters. -/
  otherLowercase : Spans := [
    ⟨0xAA, 0xAA, 1⟩, ⟨0xBA, 0xBA, 1⟩, ⟨0x2B0, 0x2B8, 1⟩, ⟨0x2C0, 0x2C1, 1⟩, ⟨0x2E0, 0x2E4, 1⟩,
    ⟨0x345, 0x345, 1⟩, ⟨0x37A, 0x37A, 1⟩, ⟨0x10FC, 0x10FC, 1⟩, ⟨0x1D2C, 0x1D6A, 1⟩,
    ⟨0x1D78, 0x1D78, 1⟩, ⟨0x1D9B, 0x1DBF, 1⟩, ⟨0x2071, 0x2071, 1⟩, ⟨0x207F, 0x207F, 1⟩,
    ⟨0x2090, 0x209C, 1⟩, ⟨0x2170, 0x217F, 1⟩, ⟨0x24D0, 0x24E9, 1⟩, ⟨0x2C7C, 0x2C7D, 1⟩,
    ⟨0xA69C, 0xA69D, 1⟩, ⟨0xA770, 0xA770, 1⟩, ⟨0xA7F2, 0xA7F4, 1⟩, ⟨0xA7F8, 0xA7F9, 1⟩,
    ⟨0xAB5C, 0xAB5F, 1⟩, ⟨0xAB69, 0xAB69, 1⟩, ⟨0x10780, 0x10780, 1⟩, ⟨0x10783, 0x10785, 1⟩,
    ⟨0x10787, 0x107B0, 1⟩, ⟨0x107B2, 0x107BA, 1⟩, ⟨0x1E030, 0x1E06D, 1⟩]
  /-- The hexadecimal digits, those of full width included. -/
  hexDigit : Spans := asciiHexDigit ++ [
    ⟨0xFF10, 0xFF19, 1⟩, ⟨0xFF21, 0xFF26, 1⟩, ⟨0xFF41, 0xFF46, 1⟩]

/-- The entry of a table for a normalized name. -/
def entry? (table : List (String × Spans)) (name : Text) : Option Spans :=
  (table.find? fun e => e.1.toList == name).map (·.2)

/-- The characters that a bare name stands for: a property, a category or a script. -/
def named? (name : Text) : Option Spans :=
  let name := normalize name
  entry? binary name <|> entry? categories name <|> entry? Script.byName name

/-- The characters that have the value `value` for the property `name`. -/
def valued? (name value : Text) : Option Spans :=
  let name := String.ofList (normalize name)
  if name == "gc" || name == "generalcategory" then entry? categories (normalize value)
  else if name == "sc" || name == "script" then entry? Script.byName (normalize value)
  else none

end ProtoUpkeep.Property
