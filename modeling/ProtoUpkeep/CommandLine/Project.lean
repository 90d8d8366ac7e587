import ProtoUpkeep.CommandLine.Console
import ProtoUpkeep.Config.File

/-!
# Projects

A project is a root that configured paths are relative to, with a configuration file: the one that is
asked for, or the usual one in the root if it is there. Each command has a section of its own in that
file; without file or section the defaults hold.
-/

namespace ProtoUpkeep

/-- A project. -/
structure Project where
  /-- The root. -/
  root : Path
  /-- The configuration file, if there is one. -/
  config? : Option Path
deriving DecidableEq, Repr

namespace Project

/-- The configuration file that is looked for in the root. -/
def usualConfig : Text := "protokit.toml"

/-- Opens the project at a root. A configuration file that is asked for has to be there. -/
def openAt (root : Text) (config? : Option Text) : ConsoleAction Project := do
  let isRoot ← ConsoleAction.ofDisk .file (Files.isDirectory ⟨root⟩)
  if !isRoot then throw (.rootNotFound root)
  let root ← ConsoleAction.ofDisk .file (Files.resolve root)
  match config? with
  | some path =>
    let isFile ← ConsoleAction.ofDisk .file (Files.isFile ⟨path⟩)
    if !isFile then throw (.configNotFound path)
    return { root, config? := some (Path.ofText path) }
  | none =>
    let path := root.join usualConfig
    let isFile ← ConsoleAction.ofDisk .file (Files.isFile path)
    return { root, config? := if isFile then some path else none }

/-- The path that a configured path leads to. -/
def resolve (p : Project) (path : Text) : Path := p.root.join path

/-- The settings in a section of the configuration file, or the defaults. -/
def settings {α : Type} (p : Project) (name : Text) (decode : Value → Option α) (default : α) :
    ConsoleAction α := do
  match p.config? with
  | none => return default
  | some path =>
    match ← ConsoleAction.ofDisk .file (ConfigFile.loadSection decode path name).attempt with
    | .ok a => return a
    | .error (.missingSection ..) => return default
    | .error e => throw (.file e)

/-- The settings of the status enum. -/
def statusSettings (p : Project) : ConsoleAction StatusSettings :=
  p.settings "status" StatusSettings.ofValue? StatusSettings.default

/-- The settings of the proto tree. -/
def treeSettings (p : Project) : ConsoleAction TreeSettings :=
  p.settings "protos" TreeSettings.ofValue? TreeSettings.default

end Project

end ProtoUpkeep
