import ProtoUpkeep.Files.Outside
import ProtoUpkeep.Text.Utf8

/-!
# Actions on disks

An action reads and changes a disk, within what stands around it. It ends with a result or with an
error, and what it has changed before an error stays changed. The reading actions leave the disk alone.
An action that is run without mention of an outside runs in the calm one.
-/

namespace ProtoUpkeep

/-- An action that works on a disk and may fail. -/
abbrev DiskAction (ε α : Type) := ExceptT ε (ReaderT Outside (StateM Disk)) α

namespace DiskAction

variable {ε ε' α : Type}

/-- The result of an action on a disk, and the disk behind it. -/
def runOn (a : DiskAction ε α) (d : Disk) (o : Outside := .calm) : Except ε α × Disk :=
  StateT.run (ReaderT.run (ExceptT.run a) o) d

/-- The action that takes the disk to another one, also where it fails. -/
def ofStep (f : Outside → Disk → Except ε α × Disk) : DiskAction ε α :=
  ExceptT.mk fun o d => f o d

/-- The action that looks at the disk only, as far as it is seen. -/
def ofQuery (f : Outside → Disk → Except ε α) : DiskAction ε α :=
  ofStep fun o d => (f o d, d)

/-- The action that looks at the disk only. -/
def ofReader (f : Disk → Except ε α) : DiskAction ε α :=
  ofQuery fun _ => f

/-- The action that puts another disk in place, unless it fails. -/
def ofUpdate (f : Outside → Disk → Except ε (α × Disk)) : DiskAction ε α :=
  ofStep fun o d =>
    match f o d with
    | .ok (a, d) => (.ok a, d)
    | .error e => (.error e, d)

/-- The action with its error changed. -/
def mapError (f : ε → ε') (a : DiskAction ε α) : DiskAction ε' α :=
  ofStep fun o d =>
    match a.runOn d o with
    | (.ok a, d) => (.ok a, d)
    | (.error e, d) => (.error (f e), d)

/-- The action without its error. -/
def attempt (a : DiskAction ε α) : DiskAction ε' (Except ε α) :=
  ofStep fun o d =>
    match a.runOn d o with
    | (r, d) => (.ok r, d)

/-- The action, with another one to clean up behind it where it fails. -/
def withCleanup (a : DiskAction ε α) (b : DiskAction ε' Unit) : DiskAction ε α :=
  ofStep fun o d =>
    match a.runOn d o with
    | (.ok a, d) => (.ok a, d)
    | (.error e, d) => (.error e, (b.runOn d o).2)

end DiskAction

namespace Files

/-- The action with what the file system says reported at a path. -/
def reportedAt {α : Type} (path : Text) (a : DiskAction FileFault α) : DiskAction FileError α :=
  a.mapError (.io path)

/-- Whether a path leads to a file. -/
def isFile {ε : Type} (path : Path) : DiskAction ε Bool :=
  .ofQuery fun o d => .ok (o.isFile d path.text)

/-- Whether a path leads to a directory. -/
def isDirectory {ε : Type} (path : Path) : DiskAction ε Bool :=
  .ofQuery fun o d => .ok (o.isDirectory d path.text)

/-- The bytes of the file that a path leads to. -/
def readBytes (path : Path) : DiskAction FileError ByteArray :=
  reportedAt path.text <| .ofQuery fun o d => (o.readFile d path.text).map fun (_, bytes, _) => bytes

/-- The text in the file that a path leads to. -/
def readText (path : Path) : DiskAction FileError Text := do
  match Text.ofBytes? (← readBytes path) with
  | some t => return t
  | none => throw (.io path.text .invalidText)

/-- The path of the place that a path leads to, without links, `.` and `..`. -/
def resolve (path : Text) : DiskAction FileError Path :=
  reportedAt path <| .ofQuery fun o d => (o.realPath d path).map Path.ofText

/-- Makes a directory and those above it that are missing. -/
def makeDirectories (path : Text) : DiskAction FileError Unit :=
  reportedAt path <| .ofStep fun o d => d.makeDirectories (path.length + 1) path o

/-- Makes the directory that a path is in, if the path names one. -/
def makeParent (path : Path) : DiskAction FileError Unit :=
  match RawPath.parent? path.text with
  | none | some [] => return
  | some parent => makeDirectories parent

/-- Opens a file for writing, empty. -/
def create (path : Path) : DiskAction FileFault Unit :=
  .ofUpdate fun o d => (o.createFile d path.text).map fun d => ((), d)

/-- Writes bytes through to the file at a path, which is open. -/
def writeThrough (path : Path) (content : ByteArray) : DiskAction FileFault Unit :=
  .ofStep fun o d => o.writeFile d path.text content

/-- Removes the file or link at a path. -/
def remove (path : Path) : DiskAction FileFault Unit :=
  .ofUpdate fun o d => (o.removeFile d path.text).map fun d => ((), d)

/-- Moves the file or link at one path to another. -/
def rename (source target : Path) : DiskAction FileFault Unit :=
  .ofUpdate fun o d => (o.renameFile d source.text target.text).map fun d => ((), d)

/-- Locks the file at a path, which is open. -/
def lock (path : Path) : DiskAction FileFault Unit :=
  .ofQuery fun o d => if (o.refuses d (.lock path.text)).isSome then .error .lockRefused else .ok ()

/-- Unlocks the file at a path, which is open. -/
def unlock (path : Path) : DiskAction FileFault Unit :=
  .ofQuery fun o d => if (o.refuses d (.unlock path.text)).isSome then .error .lockRefused else .ok ()

/-- Copies the bytes of a file, and gives their number. -/
def copyBytes (source target : Path) : DiskAction FileFault Nat :=
  .ofStep fun o d => o.copyFile d source.text target.text

/-- Copies a file, and gives the number of its bytes. The directory of the copy is made. Whatever goes
wrong in copying is reported at the source. -/
def copy (source target : Path) : DiskAction FileError Nat := do
  makeParent target
  reportedAt source.text (copyBytes source target)

end Files

end ProtoUpkeep
