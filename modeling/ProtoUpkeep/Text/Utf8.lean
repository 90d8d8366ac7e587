import ProtoUpkeep.Text.Basic

/-!
# UTF-8

Files hold bytes. A text is written in UTF-8, and bytes that are well-formed UTF-8 are read back as
the one text that is written so. Where bytes have to be shown whatever they are, each longest run of
bytes that starts a character and does not finish it, and each byte that starts none, becomes U+FFFD.
-/

namespace ProtoUpkeep.Text

/-- The bytes of a text. -/
def toBytes (t : Text) : ByteArray := (String.ofList t).toUTF8

/-- The text that bytes write, if they are well-formed. -/
def ofBytes? (bytes : ByteArray) : Option Text := bytes.utf8Decode?.map Array.toList

/-- The bytes of a text are read back as the text. -/
@[simp] theorem ofBytes?_toBytes (t : Text) : ofBytes? (toBytes t) = some t := by
  simp [ofBytes?, toBytes]

/-- The character that stands for bytes that write none. -/
def replacement : Char := '\uFFFD'

/-- A character that has been started by its first bytes and is not finished. -/
structure OpenChar where
  /-- The bits so far. -/
  bits : Nat
  /-- The number of bytes that have to follow. -/
  needed : Nat
  /-- The least value of the next of them. -/
  least : Nat
  /-- The greatest value of the next of them. -/
  most : Nat

/-- What a byte that starts a character shows at once, and the character that it leaves open. -/
def startChar (b : Nat) : Text × Option OpenChar :=
  if b < 0x80 then ([Char.ofNat b], none)
  else if 0xC2 ≤ b ∧ b ≤ 0xDF then ([], some ⟨b % 0x20, 1, 0x80, 0xBF⟩)
  else if 0xE0 ≤ b ∧ b ≤ 0xEF then
    ([], some ⟨b % 0x10, 2, if b = 0xE0 then 0xA0 else 0x80, if b = 0xED then 0x9F else 0xBF⟩)
  else if 0xF0 ≤ b ∧ b ≤ 0xF4 then
    ([], some ⟨b % 0x08, 3, if b = 0xF0 then 0x90 else 0x80, if b = 0xF4 then 0x8F else 0xBF⟩)
  else ([replacement], none)

/-- The text that bytes show behind the start of a character, if one is open. -/
def showFrom : (open? : Option OpenChar) → List UInt8 → Text
  | none, [] => []
  | some _, [] => [replacement]
  | none, byte :: rest =>
    let (shown, open?) := startChar byte.toNat
    shown ++ showFrom open? rest
  | some c, byte :: rest =>
    let b := byte.toNat
    if c.least ≤ b ∧ b ≤ c.most then
      let bits := c.bits * 0x40 + b % 0x40
      if c.needed ≤ 1 then Char.ofNat bits :: showFrom none rest
      else showFrom (some ⟨bits, c.needed - 1, 0x80, 0xBF⟩) rest
    else
      let (shown, open?) := startChar b
      replacement :: shown ++ showFrom open? rest

/-- The text that bytes show. -/
def showBytes (bytes : ByteArray) : Text := showFrom none bytes.toList

end ProtoUpkeep.Text
