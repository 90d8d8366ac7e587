import ProtoUpkeep.Config.Binary64
import ProtoUpkeep.Text.Dictionary

/-!
# Configuration values

What a configuration file of any format says is a tree of values. Objects list their members; a
reader puts them in ascending order of their keys, a writer writes them in the order that they have.
-/

namespace ProtoUpkeep

/-- A value of a configuration. -/
inductive Value where
  /-- Nothing. -/
  | null
  /-- A truth value. -/
  | bool (b : Bool)
  /-- A whole number. -/
  | int (n : Int)
  /-- A number with a fraction. -/
  | float (f : Binary64)
  /-- A text. -/
  | text (t : Text)
  /-- A list of values. -/
  | list (items : List Value)
  /-- Named values. -/
  | object (members : List (Text × Value))
deriving Inhabited, Repr

namespace Value

/-- The members with the value at `key` set, the order of the keys kept. -/
def put (key : Text) (value : Value) : List (Text × Value) → List (Text × Value)
  | [] => [(key, value)]
  | m :: rest =>
    if key < m.1 then (key, value) :: m :: rest
    else if m.1 < key then m :: put key value rest
    else (key, value) :: rest

/-- The members in ascending order of their keys; of two with one key the later one counts. -/
def sortMembers (members : List (Text × Value)) : List (Text × Value) :=
  members.foldl (fun ms m => put m.1 m.2 ms) []

mutual

/-- The value with the members of all objects sorted. -/
def sorted : Value → Value
  | list items => list (sortedItems items)
  | object members => object (sortMembers (sortedMembers members))
  | v => v

/-- The values, each with the members of all objects sorted. -/
def sortedItems : List Value → List Value
  | [] => []
  | v :: rest => sorted v :: sortedItems rest

/-- The members, with the members of all objects in them sorted. -/
def sortedMembers : List (Text × Value) → List (Text × Value)
  | [] => []
  | (k, v) :: rest => (k, sorted v) :: sortedMembers rest

end

/-- The member of an object, if the value is an object that has it. -/
def member? (key : Text) : Value → Option Value
  | object members => members.lookup key
  | _ => none

end Value

end ProtoUpkeep
