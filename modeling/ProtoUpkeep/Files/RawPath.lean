import ProtoUpkeep.Text.Basic

/-!
# Paths as the file system takes them

The file system cuts a path at its slashes. Empty components do not count, `.` stays where it is and
`..` goes up; a slash at the end asks for a directory. A program that takes a path apart before the
file system sees it passes over the components `.` too, except at the start of the path.
-/

namespace ProtoUpkeep

/-- A path cut at its slashes. -/
structure RawPath where
  /-- Whether the path starts at the root. -/
  absolute : Bool
  /-- The components that are not empty. -/
  components : List Text
  /-- Whether a slash stands behind the last component. -/
  slash : Bool
deriving DecidableEq, Repr

namespace RawPath

/-- The path that a text writes. -/
def ofText (t : Text) : RawPath where
  absolute := t.head? == some '/'
  components := (t.pieces '/').filter fun c => !c.isEmpty
  slash := t.getLast? == some '/'

/-- The component `.`, which stays in its directory. -/
def dot : Text := ['.']

/-- The component `..`, which goes to the parent directory. -/
def dotDot : Text := ['.', '.']

/-- The components of a text, each with the number of characters up to its end. Those that are empty
are left out, and so is each `.` that does not start the text. -/
def spans (t : Text) : List (Text × Nat) :=
  go 0 (t.pieces '/')
where
  /-- The components of the pieces that start `start` characters into the text. -/
  go (start : Nat) : List Text → List (Text × Nat)
    | [] => []
    | p :: rest =>
      let stop := start + p.length
      if p.isEmpty || (p == dot && start != 0) then go (stop + 1) rest
      else (p, stop) :: go (stop + 1) rest

/-- The path without its last component, if it has one. -/
def parent? (t : Text) : Option Text :=
  match (spans t).reverse with
  | [] => none
  | [_] => some (if t.head? == some '/' then ['/'] else [])
  | _ :: (_, stop) :: _ => some (t.take stop)

/-- Whether the last component names an entry of its directory. -/
def hasFileName (t : Text) : Bool :=
  match (spans t).getLast? with
  | some (c, _) => c != dot && c != dotDot
  | none => false

/-- The path with its last component replaced by a name. A path whose last component names no entry
is kept, and the name goes below it. -/
def withFileName (t name : Text) : Text :=
  let base := if hasFileName t then (parent? t).getD [] else t
  match base.getLast? with
  | none | some '/' => base ++ name
  | some _ => base ++ '/' :: name

end RawPath

end ProtoUpkeep
