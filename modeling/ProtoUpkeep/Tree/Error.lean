import ProtoUpkeep.Files.Error
import ProtoUpkeep.Program.Status

/-!
# What can go wrong with the proto tree
-/

namespace ProtoUpkeep

/-- Why the proto tree could not be kept. -/
inductive TreeError where
  /-- A file operation failed. -/
  | file (error : FileError)
  /-- A file to generate from is no proto file. -/
  | invalidProtoFile (file : Text)
  /-- There is no file to generate from. -/
  | nothingToGenerate
  /-- The compiler could not be started. -/
  | spawnFailed (program : Text) (fault : FileFault)
  /-- The compiler failed and wrote `stderr`. -/
  | compilerFailed (program : Text) (status : ExitStatus) (stderr : Text)
  /-- The root of the tree is no directory. -/
  | directoryNotFound (path : Text)
deriving DecidableEq, Repr

/-- What the error says. -/
def TreeError.message : TreeError → Text
  | file error => "Filesystem error: ".toList ++ error.message
  | invalidProtoFile name => "Invalid proto file: ".toList ++ name
  | nothingToGenerate => "No proto files to generate"
  | spawnFailed program fault => "Failed to run ".toList ++ program ++ ": " ++ fault.message
  | compilerFailed program status _ => program ++ " exited with " ++ status.text
  | directoryNotFound path => "Directory not found: ".toList ++ path

end ProtoUpkeep
