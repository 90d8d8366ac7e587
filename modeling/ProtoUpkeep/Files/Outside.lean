import ProtoUpkeep.Files.Disk

/-!
# What the entries of a disk do not show

An operation on a disk may fail for reasons that no entry shows: the process may lack the permission,
the disk may be full, the hardware may fail. The reasons are gathered in what stands around a disk
(`Outside`). It refuses an operation before anything happens, or breaks it off in the middle; it hides
what a path leads to; and it tells which files are no regular files. Nothing is assumed of it, and it
may answer otherwise on every disk. The calm one never interferes (`Outside.calm`), so that an
operation does what the entries say.
-/

namespace ProtoUpkeep

/-- What a process asks for, with the paths that it names. -/
inductive Call where
  /-- To read a file. -/
  | read (path : Text)
  /-- To read the names in a directory. -/
  | list (path : Text)
  /-- To resolve a path. -/
  | resolve (path : Text)
  /-- To make a directory. -/
  | makeDirectory (path : Text)
  /-- To open a file for writing, empty. -/
  | create (path : Text)
  /-- To lock a file that is open. -/
  | lock (path : Text)
  /-- To write to a file that is open, through to the disk. -/
  | write (path : Text)
  /-- To unlock a file that is open. -/
  | unlock (path : Text)
  /-- To copy a file. -/
  | copy (source target : Text)
  /-- To rename a file. -/
  | rename (source target : Text)
  /-- To remove a file. -/
  | remove (path : Text)
deriving DecidableEq

/-- What stands around a disk and its process. -/
structure Outside where
  /-- Why a call is refused, if it is. Nothing has changed then. -/
  refuses : Disk → Call → Option FileFault
  /-- Why bytes are written in part only, and what part. -/
  breaksOff : Disk → Call → Option (FileFault × Part)
  /-- Whether a path is not seen to lead to a file or a directory: what it leads to may not be looked
  at, or is of another kind. -/
  hides : Text → Bool
  /-- Whether a name is not seen in the directory at a path. -/
  omits : Text → Text → Bool
  /-- Whether a path that is there leads to a device, which takes all bytes and holds none. -/
  absorbs : Disk → Text → Bool

namespace Outside

variable {α : Type}

/-- The outside that never interferes. -/
def calm : Outside where
  refuses _ _ := none
  breaksOff _ _ := none
  hides _ := false
  omits _ _ := false
  absorbs _ _ := false

/-- The outside in which a file at a place is not opened for writing. -/
def guarding (place : Place) : Outside :=
  { calm with
    refuses := fun d call =>
      match call with
      | .copy _ target | .create target =>
        match d.lookup true target with
        | .ok (.found q _) => if q = place then some .permissionDenied else none
        | _ => none
      | _ => none }

/-- Nothing is refused, broken off or hidden. -/
structure Grants (o : Outside) : Prop where
  /-- No call is refused. -/
  refuses : ∀ d call, o.refuses d call = none
  /-- No call breaks off. -/
  breaksOff : ∀ d call, o.breaksOff d call = none
  /-- No path is hidden. -/
  hides : ∀ path, o.hides path = false

theorem calm_grants : calm.Grants := ⟨fun _ _ => rfl, fun _ _ => rfl, fun _ => rfl⟩

/-- The result of a call that is refused or answered. -/
def answer (o : Outside) (d : Disk) (call : Call) (result : Except FileFault α) :
    Except FileFault α :=
  match o.refuses d call with
  | some fault => .error fault
  | none => result

/-- What is answered with a result is not refused. -/
theorem answer_eq_ok_iff {o : Outside} {d : Disk} {call : Call} {result : Except FileFault α}
    {x : α} :
    o.answer d call result = .ok x ↔ o.refuses d call = none ∧ result = .ok x := by
  unfold answer
  cases o.refuses d call <;> simp

/-! ## Reading -/

/-- Whether a path is seen to lead to a file. -/
def isFile (o : Outside) (d : Disk) (path : Text) : Bool := !o.hides path && d.isFile path

/-- Whether a path is seen to lead to a directory. -/
def isDirectory (o : Outside) (d : Disk) (path : Text) : Bool := !o.hides path && d.isDirectory path

/-- The place and the bytes of the file that a path leads to, and whether it is executable. -/
def readFile (o : Outside) (d : Disk) (path : Text) : Except FileFault (Place × ByteArray × Bool) :=
  o.answer d (.read path) (d.readFile path)

/-- The place that a path leads to, written as a path from the root. -/
def realPath (o : Outside) (d : Disk) (path : Text) : Except FileFault Text :=
  o.answer d (.resolve path) (d.realPath path)

/-- The names that are seen in the directory that a path leads to, in ascending order. -/
def readDirectory (o : Outside) (d : Disk) (path : Text) : Except FileFault (List Text) :=
  o.answer d (.list path) ((d.readDirectory path).map (·.filter fun name => !o.omits path name))

/-! ## Writing -/

/-- The disk with a new directory at a path. -/
def makeDirectory (o : Outside) (d : Disk) (path : Text) : Except FileFault Disk :=
  o.answer d (.makeDirectory path) (d.makeDirectory path)

/-- The disk with an empty file at a path, where it is open for writing. -/
def createFile (o : Outside) (d : Disk) (path : Text) : Except FileFault Disk :=
  o.answer d (.create path) (d.writeFile path ByteArray.empty)

/-- Writes bytes to the file at a path, which is open and empty. Some of them may be written before
that fails. -/
def writeFile (o : Outside) (d : Disk) (path : Text) (content : ByteArray) :
    Except FileFault Unit × Disk :=
  match o.refuses d (.write path), o.breaksOff d (.write path) with
  | some fault, _ => (.error fault, d)
  | none, some (fault, part) =>
    match d.writeFile path (content.extract 0 part.written) with
    | .ok d => (.error fault, d)
    | .error fault => (.error fault, d)
  | none, none =>
    match d.writeFile path content with
    | .ok d => (.ok (), d)
    | .error fault => (.error fault, d)

/-- Copies a file, and gives the number of bytes copied. Some of them may be copied before that
fails, and a device at the target takes them all. -/
def copyFile (o : Outside) (d : Disk) (source target : Text) : Except FileFault Nat × Disk :=
  match o.refuses d (.copy source target), o.breaksOff d (.copy source target) with
  | some fault, _ => (.error fault, d)
  | none, some (fault, part) =>
    match d.copyFile source target (some part) with
    | .ok (_, d) => (.error fault, d)
    | .error fault => (.error fault, d)
  | none, none =>
    match d.copyFile source target with
    | .ok (size, d') => (.ok size, if o.absorbs d target && d.isTaken target then d else d')
    | .error fault => (.error fault, d)

/-- The disk with the file or link at one path moved to another. -/
def renameFile (o : Outside) (d : Disk) (source target : Text) : Except FileFault Disk :=
  o.answer d (.rename source target) (d.renameFile source target)

/-- The disk without the file or link at a path. -/
def removeFile (o : Outside) (d : Disk) (path : Text) : Except FileFault Disk :=
  o.answer d (.remove path) (d.removeFile path)

/-! ## Where nothing interferes -/

/-- What is not refused is answered. -/
theorem Grants.answer {o : Outside} (h : o.Grants) (d : Disk) (call : Call)
    (result : Except FileFault α) : o.answer d call result = result := by
  rw [Outside.answer, h.refuses]

/-- A directory is seen where nothing is hidden. -/
theorem Grants.isDirectory {o : Outside} (h : o.Grants) (d : Disk) (t : Text) :
    o.isDirectory d t = d.isDirectory t := by
  rw [Outside.isDirectory, h.hides]
  rfl

variable {d d' : Disk} {source target : Text} {fault : FileFault}

/-- Nothing is refused in the calm outside. -/
@[simp] theorem calm_answer (call : Call) (result : Except FileFault α) :
    calm.answer d call result = result := rfl

/-- Every file is seen in the calm outside. -/
@[simp] theorem calm_isFile (d : Disk) (t : Text) : calm.isFile d t = d.isFile t := rfl

/-- Every directory is seen in the calm outside. -/
@[simp] theorem calm_isDirectory (d : Disk) (t : Text) : calm.isDirectory d t = d.isDirectory t := rfl

/-- A directory is made in the calm outside. -/
@[simp] theorem calm_makeDirectory (d : Disk) (t : Text) : calm.makeDirectory d t = d.makeDirectory t :=
  rfl

/-- All bytes are copied in the calm outside. -/
theorem calm_copyFile_ok {size : Nat} (h : d.copyFile source target = .ok (size, d')) :
    calm.copyFile d source target = (.ok size, d') := by
  simp only [copyFile, calm, h, Bool.false_and, Bool.false_eq_true, if_false]

/-- What cannot be copied is not copied in the calm outside. -/
theorem calm_copyFile_error (h : d.copyFile source target = .error fault) :
    calm.copyFile d source target = (.error fault, d) := by
  simp only [copyFile, calm, h]

end Outside

/-- Makes a directory and those above it that are missing. `bound` limits the number of directories;
the length of the path is enough. On a failure the directories made so far stay. -/
def Disk.makeDirectories (d : Disk) (bound : Nat) (path : Text) (o : Outside := .calm) :
    Except FileFault Unit × Disk :=
  match bound with
  | 0 => (.error .noTree, d)
  | bound + 1 =>
    if path.isEmpty then (.ok (), d)
    else
      match o.makeDirectory d path with
      | .ok d => (.ok (), d)
      | .error .notFound =>
        match RawPath.parent? path with
        | none => (.error .noTree, d)
        | some parent =>
          match makeDirectories d bound parent o with
          | (.error e, d) => (.error e, d)
          | (.ok (), d) =>
            match o.makeDirectory d path with
            | .ok d => (.ok (), d)
            | .error e => if o.isDirectory d path then (.ok (), d) else (.error e, d)
      | .error e => if o.isDirectory d path then (.ok (), d) else (.error e, d)

end ProtoUpkeep
