import ProtoUpkeep.Text.Basic

/-!
# Status codes

A status code is a value of the enum that a proto file declares, with what the file says about it in
comments.
-/

namespace ProtoUpkeep

/-- A value of the proto enum. -/
structure StatusCode where
  /-- The identifier in the proto file. -/
  name : Text
  /-- The number on the wire, which is also the raw value of the Swift case. -/
  number : Int
  /-- The comment lines above the value and the comment behind it, joined by blanks. -/
  comment : Text := []
  /-- Whether the value is marked as deprecated. -/
  deprecated : Bool := false
deriving DecidableEq, Repr

end ProtoUpkeep
