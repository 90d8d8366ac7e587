import ProtoUpkeep.Files.Error
import ProtoUpkeep.Files.Names
import ProtoUpkeep.Files.RawPath

/-!
# Disks

A disk is a finite map from places to entries. A place is the list of components below the root, so
it names an entry without links, `.` and `..`; the root itself is a directory that is always there.
`Disk.get?` is the view through which operations are described.

A file may have several names. They stand at places that have one number and show the same file, and
what is written under one of them is written under all (`Disk.store`).

A path is followed component by component. A link on the way is replaced by its target, as is one at
the end where the operation follows links; after forty of them the path is given up.
-/

namespace ProtoUpkeep

/-- What has been copied when the copying of a file breaks off. -/
structure Part where
  /-- The number of bytes. -/
  written : Nat
  /-- Whether the copy has become executable or not, as the file is. -/
  marked : Bool

/-- The bytes of the copy of a file, in part perhaps, and whether it is executable; `before` tells
whether the file at its place has been. -/
def Part.copied (part : Option Part) (content : ByteArray) (executable before : Bool) :
    ByteArray × Bool :=
  match part with
  | none => (content, executable)
  | some part => (content.extract 0 part.written, if part.marked then executable else before)

/-- A disk with the process that works on it. -/
structure Disk where
  /-- The entries below the root. -/
  entries : Std.TreeMap Place Entry
  /-- The numbers of the files that have several names. -/
  numbers : Std.TreeMap Place Nat := ∅
  /-- Places with one number are names of one file. -/
  numbered : Numbers entries numbers
  /-- The directory that relative paths start in. -/
  workingDirectory : Place
  /-- The number of the process, which no other process has. -/
  process : Nat

namespace Disk

/-- The disk on which only the root is. -/
def empty : Disk where
  entries := ∅
  numbered := by simp [Numbers]
  workingDirectory := []
  process := 1

/-- The entry at a place. -/
def get? (d : Disk) (p : Place) : Option Entry :=
  if p.isEmpty then some .directory else d.entries[p]?

/-- The number of the file at a place, if it has one. -/
def number? (d : Disk) (p : Place) : Option Nat := if p.isEmpty then none else d.numbers[p]?

/-- The disk with an entry put at a place, which has no other name. -/
def put (d : Disk) (p : Place) (e : Entry) : Disk where
  entries := d.entries.insert p e
  numbers := d.numbers.erase p
  numbered := d.numbered.put p e
  workingDirectory := d.workingDirectory
  process := d.process

/-- The disk without the entry at a place. -/
def erase (d : Disk) (p : Place) : Disk where
  entries := d.entries.erase p
  numbers := d.numbers.erase p
  numbered := d.numbered.erase p
  workingDirectory := d.workingDirectory
  process := d.process

/-- The places are the same, or names of one file. -/
def SameFile (d : Disk) (p q : Place) : Prop :=
  q = p ∨ d.number? q = d.number? p ∧ (d.number? p).isSome

instance (d : Disk) (p q : Place) : Decidable (d.SameFile p q) := inferInstanceAs (Decidable (_ ∨ _))

/-- The disk with a file stored at a place: a new one, or the one that is there changed under all its
names. -/
def store (d : Disk) (p : Place) (content : ByteArray) (executable : Bool) : Disk :=
  if (d.number? p).isNone then d.put p (.file content executable)
  else { d with
    entries := d.entries.map fun q e =>
      if d.numbers[q]? = d.number? p ∧ (d.number? p).isSome then .file content executable else e
    numbered := d.numbered.change (d.number? p) content executable }

/-- The disk with the entry at a place moved to another one, where it stays a name of its file. -/
def move (d : Disk) (old new : Place) : Disk :=
  match hget : d.entries[old]?, hnumber : d.numbers[old]? with
  | none, _ => d
  | some e, none => (d.erase old).put new e
  | some e, some n =>
    { d with
      entries := d.entries.insert new e
      numbers := d.numbers.insert new n
      numbered := d.numbered.name hnumber hget new : Disk }.erase old

/-- The names of the entries right below a place, in ascending order. -/
def children (d : Disk) (p : Place) : List Text :=
  d.entries.keys.filterMap fun k =>
    match k.getLast? with
    | some name => if k.dropLast = p then some name else none
    | none => none

/-! ## Following paths -/

/-- Where a path leads. -/
inductive Spot where
  /-- To an entry. -/
  | found (place : Place) (entry : Entry)
  /-- To a free name in a directory, where a file may be. -/
  | vacant (place : Place)

/-- The longest name that a component may be, in bytes. -/
def maxName : Nat := 255

/-- The number of bytes that a path may not reach. -/
def maxPath : Nat := 4096

/-- The number of links that may be followed. -/
def maxLinks : Nat := 40

/-- The number of bytes of a text. -/
def byteCount (t : Text) : Nat := (t.map Char.utf8Size).foldl (· + ·) 0

/-- Follows components from a directory. `links` is the number of links that may still be followed,
`follow` tells whether one at the end is, and `slash` whether the end has to be a directory. -/
def walk (d : Disk) (follow : Bool) (links : Nat) (slash : Bool) (dir : Place)
    (components : List Text) : Except FileFault Spot :=
  match components with
  | [] => .ok (.found dir .directory)
  | c :: rest =>
    if c = RawPath.dot then walk d follow links slash dir rest
    else if c = RawPath.dotDot then walk d follow links slash dir.dropLast rest
    else if maxName < byteCount c then .error .nameTooLong
    else
      let place := dir ++ [c]
      match d.get? place with
      | none => if rest.isEmpty && !slash then .ok (.vacant place) else .error .notFound
      | some .directory => walk d follow links slash place rest
      | some (.file content executable) =>
        if rest.isEmpty && !slash then .ok (.found place (.file content executable))
        else .error .notDirectory
      | some (.link target) =>
        if rest.isEmpty && !follow && !slash then .ok (.found place (.link target))
        else
          match links with
          | 0 => .error .tooManyLinks
          | links + 1 =>
            let path := RawPath.ofText target
            let start := if path.absolute then [] else dir
            walk d follow links (slash || (rest.isEmpty && path.slash)) start
              (path.components ++ rest)
termination_by (links, components.length)

/-- Refuses a text that no path may be. -/
def checkPath (path : Text) : Except FileFault Unit :=
  if path.contains ['\x00'] then .error .nulInPath
  else if path.isEmpty then .error .notFound
  else if maxPath ≤ byteCount path then .error .nameTooLong
  else .ok ()

/-- The directory that a path starts in. -/
def start (d : Disk) (p : RawPath) : Place := if p.absolute then [] else d.workingDirectory

/-- Where a path leads; `follow` tells whether a link at its end is followed. -/
def lookup (d : Disk) (follow : Bool) (path : Text) : Except FileFault Spot := do
  checkPath path
  let p := RawPath.ofText path
  d.walk follow maxLinks p.slash (d.start p) p.components

/-- The end of a path as an entry of its directory. -/
structure LastName where
  /-- The directory. -/
  dir : Place
  /-- The name in it. -/
  name : Text
  /-- Whether a slash stands behind the name. -/
  slash : Bool

/-- The directory of a path's end and the name there, or `none` where the path ends at the root, in
`.` or in `..`. -/
def lastName? (d : Disk) (path : Text) : Except FileFault (Option LastName) := do
  checkPath path
  let p := RawPath.ofText path
  match p.components.reverse with
  | [] => return none
  | name :: before =>
    match ← d.walk true maxLinks true (d.start p) before.reverse with
    | .vacant _ => .error .notFound
    | .found dir .directory =>
      if name = RawPath.dot ∨ name = RawPath.dotDot then return none
      else return some { dir, name, slash := p.slash }
    | .found _ _ => .error .notDirectory

/-! ## Reading -/

/-- The entry that a path leads to, links followed. -/
def stat? (d : Disk) (path : Text) : Option Entry :=
  match d.lookup true path with
  | .ok (.found _ e) => some e
  | _ => none

/-- Whether a path leads to an entry. -/
def pathExists (d : Disk) (path : Text) : Bool := (d.stat? path).isSome

/-- Whether a path leads to a file. -/
def isFile (d : Disk) (path : Text) : Bool :=
  match d.stat? path with
  | some (.file ..) => true
  | _ => false

/-- Whether a path leads to a directory. -/
def isDirectory (d : Disk) (path : Text) : Bool := d.stat? path == some .directory

/-- The place and the bytes of the file that a path leads to, and whether it is executable. -/
def readFile (d : Disk) (path : Text) : Except FileFault (Place × ByteArray × Bool) := do
  match ← d.lookup true path with
  | .found place (.file content executable) => return (place, content, executable)
  | .found _ .directory => .error .isDirectory
  | .found _ (.link _) => .error .tooManyLinks
  | .vacant _ => .error .notFound

/-- The place that a path leads to, written as a path from the root. -/
def realPath (d : Disk) (path : Text) : Except FileFault Text := do
  match ← d.lookup true path with
  | .found place _ => return '/' :: Text.joinWith ['/'] place
  | .vacant _ => .error .notFound

/-- The names in the directory that a path leads to, in ascending order. -/
def readDirectory (d : Disk) (path : Text) : Except FileFault (List Text) := do
  match ← d.lookup true path with
  | .found place .directory => return d.children place
  | .found _ _ => .error .notDirectory
  | .vacant _ => .error .notFound

/-- Whether something stands at the entry that a path names, be it a link. -/
def isTaken (d : Disk) (path : Text) : Bool :=
  match d.lookup false path with
  | .ok (.found ..) => true
  | _ => false

/-! ## Writing -/

/-- The place where a file may be written at a path: a file, or a free name. A link is followed. -/
def writable (d : Disk) (path : Text) : Except FileFault Spot := do
  match ← d.lastName? path with
  | none => .error .isDirectory
  | some last =>
    if last.slash then .error .isDirectory
    match ← d.lookup true path with
    | .found _ .directory => .error .isDirectory
    | spot => return spot

/-- The disk with a file's bytes replaced, or a new file written, at a path. A file that is there
stays executable or not. -/
def writeFile (d : Disk) (path : Text) (content : ByteArray) : Except FileFault Disk := do
  match ← d.writable path with
  | .found place (.file _ executable) => return d.store place content executable
  | .found _ _ => .error .isDirectory
  | .vacant place => return d.store place content false

/-- The disk with a file copied, and the number of bytes copied. The destination is emptied before
the source is read, so a file copied onto itself is lost. If there is a `part`, the copying breaks off
there. -/
def copyFile (d : Disk) (source target : Text) (part : Option Part := none) :
    Except FileFault (Nat × Disk) := do
  match ← d.lookup true source with
  | .vacant _ => .error .notFound
  | .found place (.file content executable) =>
    match ← d.writable target with
    | .vacant dest =>
      let (bytes, mode) := Part.copied part content executable executable
      return (content.size, d.store dest bytes mode)
    | .found dest (.file _ before) =>
      let content := if d.SameFile dest place then ByteArray.empty else content
      let (bytes, mode) := Part.copied part content executable before
      return (content.size, d.store dest bytes mode)
    | .found _ _ => .error .isDirectory
  | .found _ _ => .error .notRegular

/-- The disk without the file or link at a path. -/
def removeFile (d : Disk) (path : Text) : Except FileFault Disk := do
  match ← d.lastName? path with
  | none => .error .isDirectory
  | some last =>
    if maxName < byteCount last.name then .error .nameTooLong
    let place := last.dir ++ [last.name]
    match d.get? place with
    | none => .error .notFound
    | some .directory => .error .isDirectory
    | some _ => if last.slash then .error .notDirectory else return d.erase place

/-- The disk with a new directory at a path. -/
def makeDirectory (d : Disk) (path : Text) : Except FileFault Disk := do
  match ← d.lastName? path with
  | none => .error .exists
  | some last =>
    if maxName < byteCount last.name then .error .nameTooLong
    let place := last.dir ++ [last.name]
    match d.get? place with
    | some _ => .error .exists
    | none => return d.put place .directory

/-- The disk with the file or link at one path moved to another. What stands there is replaced, unless
it is a directory. Nothing happens if both are names of one file. -/
def renameFile (d : Disk) (source target : Text) : Except FileFault Disk := do
  let from? ← d.lastName? source
  let to? ← d.lastName? target
  match from?, to? with
  | some a, some b =>
    if maxName < byteCount a.name ∨ maxName < byteCount b.name then .error .nameTooLong
    let old := a.dir ++ [a.name]
    let new := b.dir ++ [b.name]
    match d.get? old with
    | none => .error .notFound
    | some _ =>
      if a.slash ∨ b.slash then .error .notDirectory
      match d.get? new with
      | some .directory => .error .isDirectory
      | _ => return if d.SameFile old new then d else d.move old new
  | _, _ => .error .busy

end Disk

end ProtoUpkeep
