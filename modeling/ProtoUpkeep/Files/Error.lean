import ProtoUpkeep.Path

/-!
# What can go wrong with files

`FileFault` is the cause that a file system gives for a refused operation, with its fixed wording.
`FileError` adds what the library was doing: the path that the operation was about, the format of a
configuration, or whether a file that could not be overwritten has its old content back.
-/

namespace ProtoUpkeep

/-- Why an operation on a file is refused. -/
inductive FileFault where
  /-- Nothing has that name. -/
  | notFound
  /-- The process may not do that. -/
  | permissionDenied
  /-- The place is in use by the system. -/
  | busy
  /-- Something has that name already. -/
  | exists
  /-- A name that should be a directory is none. -/
  | notDirectory
  /-- The place is a directory. -/
  | isDirectory
  /-- A component of the path is too long. -/
  | nameTooLong
  /-- The links on the way are too many. -/
  | tooManyLinks
  /-- The file is not a program. -/
  | notExecutable
  /-- The content is no text. -/
  | invalidText
  /-- The path holds the character U+0000. -/
  | nulInPath
  /-- An argument of a program holds the character U+0000. -/
  | nulInArgument
  /-- The file to be copied is no file. -/
  | notRegular
  /-- The directory tree could not be made. -/
  | noTree
  /-- The file could not be locked or unlocked. -/
  | lockRefused
  /-- A cause that the writer of a file gives in its own words. -/
  | other (text : Text)
deriving DecidableEq, Repr

/-- The wording of a cause. -/
def FileFault.message : FileFault → Text
  | notFound => "No such file or directory (os error 2)"
  | notExecutable => "Exec format error (os error 8)"
  | permissionDenied => "Permission denied (os error 13)"
  | busy => "Device or resource busy (os error 16)"
  | «exists» => "File exists (os error 17)"
  | notDirectory => "Not a directory (os error 20)"
  | isDirectory => "Is a directory (os error 21)"
  | nameTooLong => "File name too long (os error 36)"
  | tooManyLinks => "Too many levels of symbolic links (os error 40)"
  | invalidText => "stream did not contain valid UTF-8"
  | nulInPath => "file name contained an unexpected NUL byte"
  | nulInArgument => "nul byte found in provided data"
  | notRegular => "the source path is neither a regular file nor a symlink to a regular file"
  | noTree => "failed to create whole tree"
  | lockRefused => "Lock acquisition failed"
  | other text => text

/-- Why a file operation of the library failed. -/
inductive FileError where
  /-- The file system refused an operation at the path. -/
  | io (path : Text) (fault : FileFault)
  /-- A configuration does not have the form of its format or of what it configures. -/
  | badConfig (path : Text) (format : Text)
  /-- No format has the extension. -/
  | unsupportedFormat (extension : Text)
  /-- The configuration has no such section. -/
  | missingSection (path : Text) (section_ : Text)
  /-- The file at the path could not be overwritten; `restored` tells whether it has its old content
  back. -/
  | writeFailed (path : Text) (restored : Bool) (source : FileError)
deriving DecidableEq, Repr

namespace FileError

/-- The first words of the message about a configuration; what follows is up to the reader of the
format. -/
def badConfigHeadline (path format : Text) : Text :=
  "Failed to parse ".toList ++ format ++ " config at " ++ path ++ ": "

/-- What the error says. -/
def message : FileError → Text
  | io path .lockRefused => "Lock acquisition failed for ".toList ++ path
  | io path fault => "I/O error at ".toList ++ path ++ ": " ++ fault.message
  | badConfig path format => badConfigHeadline path format ++ "unexpected content"
  | unsupportedFormat extension => "Unsupported config format: ".toList ++ extension
  | missingSection path name =>
    "Config section `".toList ++ name ++ "` not found in " ++ path
  | writeFailed path restored source =>
    "Failed to write ".toList ++ path ++ " (original restored: " ++
      (if restored then "true" else "false") ++ "): " ++ source.message

end FileError

end ProtoUpkeep
