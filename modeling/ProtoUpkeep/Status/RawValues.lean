import Std.Data.TreeMap
import ProtoUpkeep.Text.Decimal

/-!
# The raw values that the Swift enum maps

A mapping is a piece of text `case NUMBER: self = .identifier`. `RawValues.ofSwift` collects the
mappings of a text from left to right; they do not overlap. A number that is mapped twice keeps its
last identifier, and one that no status code can have is passed over.
-/

namespace ProtoUpkeep

/-- The identifier of each raw value. -/
abbrev RawValues := Std.TreeMap Int Text

namespace RawValues

/-- A mapping: the digits of its number and its identifier. -/
structure Mapping where
  /-- The digits of the raw value. -/
  digits : Text
  /-- The identifier. -/
  identifier : Text
deriving DecidableEq, Repr

/-- The mapping at the start of a text and the text behind it. -/
def mappingAt? (t : Text) : Option (Mapping × Text) := do
  let t ← Text.dropHead? "case" t
  let t ← Text.dropBlanks? t
  let (digits, t) ← Text.run? isDigit t
  let t ← Text.dropHead? ":" t
  let t ← Text.dropHead? "self" t.trimStart
  let t ← Text.dropHead? "=" t.trimStart
  let t ← Text.dropHead? "." t.trimStart
  let (identifier, t) ← Text.run? isWord t
  some ({ digits, identifier }, t)

theorem length_of_mappingAt? {t rest : Text} {m : Mapping} (h : mappingAt? t = some (m, rest)) :
    rest.length < t.length := by
  simp only [mappingAt?, Option.bind_eq_bind, Option.bind_eq_some_iff, Prod.exists,
    Option.some.injEq, Prod.mk.injEq] at h
  obtain ⟨t₁, h₁, t₂, h₂, digits, t₃, h₃, t₄, h₄, t₅, h₅, t₆, h₆, t₇, h₇, word, t₈, h₈, rfl, rfl⟩ := h
  have h₁ := Text.length_of_dropHead? h₁
  have h₂ := Text.length_dropBlanks?_le h₂
  have h₃ := Text.length_of_run? h₃
  have h₄ := Text.length_of_dropHead? h₄
  have h₅ := Text.length_of_dropHead? h₅
  have h₆ := Text.length_of_dropHead? h₆
  have h₇ := Text.length_of_dropHead? h₇
  have h₈ := Text.length_of_run? h₈
  have e₄ := Text.length_trimStart_le t₄
  have e₅ := Text.length_trimStart_le t₅
  have e₆ := Text.length_trimStart_le t₆
  have hcase : "case".toList.length = 4 := rfl
  omega

/-- The mappings of a text from left to right. -/
def mappings (t : Text) : List Mapping :=
  match t with
  | [] => []
  | c :: ahead =>
    match _h : mappingAt? (c :: ahead) with
    | some (m, rest) => m :: mappings rest
    | none => mappings ahead
termination_by t.length
decreasing_by
  · exact length_of_mappingAt? _h
  · simp

/-- The table with one mapping added, unless no status code can have its number. -/
def add (table : RawValues) (m : Mapping) : RawValues :=
  match Text.readCode? m.digits with
  | some number => table.insert number m.identifier
  | none => table

/-- The raw values that a Swift text maps. -/
def ofSwift (swift : Text) : RawValues := (mappings swift).foldl add ∅

end RawValues

end ProtoUpkeep
