import ProtoUpkeep.Text.Basic

/-!
# The sections of the Swift file

The Swift file holds five sections that list the codes, each in its own form: the case declarations,
the two switches between raw values and cases, the list of all cases, and the map of names. What
there is once for each of them is a `PerSection`.
-/

namespace ProtoUpkeep

/-- A section, in the order in which generated text is inserted. -/
inductive Section where
  /-- The case declarations of the enum. -/
  | caseDeclarations
  /-- The cases of the switch from a raw value. -/
  | initCases
  /-- The cases of the switch to a raw value. -/
  | rawValueCases
  /-- The entries of the list of all cases. -/
  | allCases
  /-- The entries of the map from raw values to proto names. -/
  | nameMap
deriving DecidableEq, Repr

namespace Section

/-- The sections in their order. -/
def all : List Section := [caseDeclarations, initCases, rawValueCases, allCases, nameMap]

/-- Every section is in the list of the sections. -/
theorem mem_all (sec : Section) : sec ∈ all := by
  cases sec <;> decide

/-- What a section is called in messages. -/
def title : Section → Text
  | caseDeclarations => "enum case declarations"
  | initCases => "init(rawValue:) cases"
  | rawValueCases => "rawValue cases"
  | allCases => "allCases entries"
  | nameMap => "nameMap entries"

end Section

/-- One value for each section. -/
@[ext] structure PerSection (α : Type) where
  /-- The value for the case declarations. -/
  caseDeclarations : α
  /-- The value for the switch from a raw value. -/
  initCases : α
  /-- The value for the switch to a raw value. -/
  rawValueCases : α
  /-- The value for the list of all cases. -/
  allCases : α
  /-- The value for the map of names. -/
  nameMap : α
deriving DecidableEq, Repr

namespace PerSection

variable {α β ε : Type}

/-- The value for a section. -/
def get (p : PerSection α) : Section → α
  | .caseDeclarations => p.caseDeclarations
  | .initCases => p.initCases
  | .rawValueCases => p.rawValueCases
  | .allCases => p.allCases
  | .nameMap => p.nameMap

/-- The values made by `f` for each section in their order; the first failure is the result. -/
def mapM (f : Section → α → Except ε β) (p : PerSection α) : Except ε (PerSection β) := do
  let caseDeclarations ← f .caseDeclarations p.caseDeclarations
  let initCases ← f .initCases p.initCases
  let rawValueCases ← f .rawValueCases p.rawValueCases
  let allCases ← f .allCases p.allCases
  let nameMap ← f .nameMap p.nameMap
  return { caseDeclarations, initCases, rawValueCases, allCases, nameMap }

end PerSection

end ProtoUpkeep
