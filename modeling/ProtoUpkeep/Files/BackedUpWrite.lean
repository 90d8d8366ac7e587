import ProtoUpkeep.Files.AtomicWrite

/-!
# Overwriting with a way back

A file is copied to a backup beside it before it is overwritten. When the overwriting succeeds the
backup goes; when it fails the file is restored from the backup first, and the backup stays if even
that fails. Who overwrites the file is up to the caller: a `Writer` may do anything to the disk.
-/

namespace ProtoUpkeep.Files

/-- What overwrites the file at a path with bytes. -/
abbrev Writer := Path → ByteArray → DiskAction FileError Unit

/-- The path of the backup of a file. -/
def backupPath (path : Path) : Path := path.withSuffix ".bak"

/-- Puts the backup of a file back in its place, and tells whether that worked. -/
def restore (path : Path) : DiskAction FileError Bool := do
  match ← (copyBytes (backupPath path) path).attempt with
  | .ok _ =>
    let _ ← (remove (backupPath path)).attempt
    return true
  | .error _ => return false

/-- Overwrites the file at a path by way of a writer. -/
def overwriteWith (write : Writer) (path : Path) (t : Text) : DiskAction FileError Unit := do
  let backup := backupPath path
  let _ ← reportedAt path.text (copyBytes path backup)
  match ← (write path t.toBytes).attempt with
  | .ok () => reportedAt backup.text (remove backup)
  | .error source => throw (.writeFailed path.text (← restore path) source)

/-- Overwrites the file at a path in one step, with a way back. -/
def overwrite (path : Path) (t : Text) : DiskAction FileError Unit := overwriteWith writeAtomic path t

end ProtoUpkeep.Files
