import ProtoUpkeep.CommandLine.Error
import ProtoUpkeep.Files.Action

/-!
# The console

A command works on a disk and prints. What it has printed before an error stays printed.
-/

namespace ProtoUpkeep

/-- What a command works on. -/
structure Console where
  /-- The disk. -/
  disk : Disk
  /-- What has been printed so far. -/
  printed : Text

/-- A command at work. -/
abbrev ConsoleAction (α : Type) := ExceptT CommandError (StateM Console) α

namespace ConsoleAction

/-- The action on the disk, with its error made one of the command. -/
def ofDisk {ε α : Type} (f : ε → CommandError) (a : DiskAction ε α) : ConsoleAction α :=
  ExceptT.mk fun c =>
    let (r, disk) := a.runOn c.disk
    (r.mapError f, { c with disk })

/-- Prints a text. -/
def print (t : Text) : ConsoleAction Unit := modify fun c => { c with printed := c.printed ++ t }

/-- Prints a line. -/
def say (t : Text) : ConsoleAction Unit := print (t ++ ['\n'])

/-- Prints lines. -/
def sayAll : List Text → ConsoleAction Unit
  | [] => return
  | t :: ts => do
    say t
    sayAll ts

end ConsoleAction

end ProtoUpkeep
