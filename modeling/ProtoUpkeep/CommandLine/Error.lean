import ProtoUpkeep.Status.Error
import ProtoUpkeep.Tree.Error

/-!
# What can go wrong on the command line
-/

namespace ProtoUpkeep

/-- Why a command failed. -/
inductive CommandError where
  /-- Keeping the status enum failed. -/
  | status (error : StatusError)
  /-- Keeping the proto tree failed. -/
  | tree (error : TreeError)
  /-- A file operation failed. -/
  | file (error : FileError)
  /-- The root of the project is no directory. -/
  | rootNotFound (path : Text)
  /-- The configuration file is no file. -/
  | configNotFound (path : Text)
  /-- The configuration lists no proto files. -/
  | nothingConfigured
  /-- None of the listed proto files was copied. -/
  | nothingCopied
  /-- The compiler failed this number of times. -/
  | compilerRunsFailed (count : Nat)
deriving DecidableEq, Repr

/-- What the error says. -/
def CommandError.message : CommandError → Text
  | status error => error.message
  | tree error => error.message
  | file error => error.message
  | rootNotFound path => "Project root not found: ".toList ++ path
  | configNotFound path => "Config file not found: ".toList ++ path
  | nothingConfigured =>
    "No proto files configured. Add a \x60files\x60 list to the [protos] section of protokit.toml."
  | nothingCopied => "No proto files were copied"
  | compilerRunsFailed count => Text.ofNat count ++ " protoc run(s) failed"

end ProtoUpkeep
