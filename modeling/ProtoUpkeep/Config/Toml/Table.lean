import ProtoUpkeep.Config.Value

/-!
# Tables of TOML

While a document is read its tables grow entry by entry. A table remembers what made it: a header of
its own or a pair of braces, the header of a table below it, or a dotted key. Only a table that was
made by the header of a table below it may get a header later, and only a table that a dotted key has
made may be extended by one.
-/

namespace ProtoUpkeep.Toml

/-- What made a table. -/
inductive Origin where
  /-- A header of its own. -/
  | own
  /-- The header of a table below it. -/
  | below
  /-- A dotted key. -/
  | dotted
deriving DecidableEq, Repr

/-- What stands at a key. -/
inductive Item where
  /-- A value that is written out. -/
  | value (v : Value)
  /-- A table that may grow. -/
  | table (origin : Origin) (members : List (Text × Item))
  /-- A list of tables, of which the last one may grow. -/
  | tables (members : List (List (Text × Item)))

/-- The entries of a table that may grow. -/
abbrev Members := List (Text × Item)

/-- The entries with the item at a key set; a new key goes to the end. -/
def setMember (key : Text) (item : Item) : Members → Members
  | [] => [(key, item)]
  | m :: rest => if m.1 = key then (key, item) :: rest else m :: setMember key item rest

/-- Changes the table at the end of a path by `change`, which is also told what made that table. A
table that is missing on the way is made by `maker`. A dotted key does not lead through a table with a
header of its own, and nothing leads through a value. -/
def changeAt (maker : Origin) (change : Origin → Members → Option Members) :
    (path : List Text) → Origin → Members → Option Members
  | [], origin, members => change origin members
  | key :: path, _, members =>
    match members.lookup key with
    | none => do
      let below ← changeAt maker change path maker []
      some (setMember key (.table maker below) members)
    | some (.value _) => none
    | some (.table origin below) => do
      if maker = .dotted ∧ origin = .own then none
      let below ← changeAt maker change path origin below
      some (setMember key (.table origin below) members)
    | some (.tables items) =>
      match items.reverse with
      | [] => none
      | last :: before => do
        let last ← changeAt maker change path .own last
        some (setMember key (.tables (last :: before).reverse) members)

/-- Puts a value at a dotted key below a table. The key must be new, and a key of several segments has
to end in a table that a dotted key made. -/
def putValue (path : List Text) (key : Text) (v : Value) (members : Members) : Option Members :=
  changeAt .dotted
    (fun origin members =>
      if (origin == .dotted) == path.isEmpty then none
      else if (members.lookup key).isSome then none
      else some (setMember key (.value v) members))
    path .own members

/-- Gives the table at a path a header. -/
def openTable (path : List Text) (key : Text) (members : Members) : Option Members :=
  changeAt .below
    (fun _ members =>
      match members.lookup key with
      | none => some (setMember key (.table .own []) members)
      | some (.table .below below) => some (setMember key (.table .own below) members)
      | some _ => none)
    path .own members

/-- Adds a table to the list of tables at a path. -/
def addTable (path : List Text) (key : Text) (members : Members) : Option Members :=
  changeAt .below
    (fun _ members =>
      match members.lookup key with
      | none => some (setMember key (.tables [[]]) members)
      | some (.tables items) => some (setMember key (.tables (items ++ [[]])) members)
      | some _ => none)
    path .own members

mutual

/-- The value of an item. -/
def Item.toValue : Item → Value
  | .value v => v
  | .table _ members => .object (toMembers members)
  | .tables items => .list (toTables items)

/-- The values of entries. -/
def toMembers : Members → List (Text × Value)
  | [] => []
  | (key, item) :: rest => (key, item.toValue) :: toMembers rest

/-- The values of a list of tables. -/
def toTables : List Members → List Value
  | [] => []
  | members :: rest => .object (toMembers members) :: toTables rest

end

end ProtoUpkeep.Toml
