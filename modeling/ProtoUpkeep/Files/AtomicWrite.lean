import ProtoUpkeep.Files.Action
import ProtoUpkeep.Text.Decimal

/-!
# Writing in one step

A file is written under a temporary name in its directory and then renamed, so a reader sees the old
content or the new content and nothing between. The temporary name holds the file's name and the
number of the process. A temporary file that cannot be written or renamed is removed; one that cannot
be locked or unlocked stays.
-/

namespace ProtoUpkeep.Files

/-- The name under which a file is written before it is renamed. -/
def temporaryName (process : Nat) (path : Path) : Text :=
  '.' :: (path.fileName?.getD [] ++ '.' :: Text.ofNat process ++ ".tmp")

/-- The path under which a file is written before it is renamed. -/
def temporaryPath (process : Nat) (path : Path) : Path :=
  ⟨RawPath.withFileName path.text (temporaryName process path)⟩

/-- Writes bytes to the temporary file of a path and moves it to the path. -/
def writeBy (temporary path : Path) (content : ByteArray) : DiskAction FileError Unit := do
  reportedAt temporary.text (create temporary)
  reportedAt path.text (lock temporary)
  reportedAt temporary.text ((writeThrough temporary content).withCleanup (remove temporary))
  reportedAt path.text (unlock temporary)
  reportedAt path.text ((rename temporary path).withCleanup (remove temporary))

/-- Writes bytes to a path in one step. The directory of the path is made. -/
def writeAtomic (path : Path) (content : ByteArray) : DiskAction FileError Unit := do
  makeParent path
  writeBy (temporaryPath (← get).process path) path content

/-- Writes a text to a path in one step. -/
def writeText (path : Path) (t : Text) : DiskAction FileError Unit := writeAtomic path t.toBytes

end ProtoUpkeep.Files
