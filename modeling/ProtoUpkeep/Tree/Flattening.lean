import ProtoUpkeep.Files.AtomicWrite
import ProtoUpkeep.Tree.Error
import ProtoUpkeep.Tree.Imports

/-!
# Flattening the imports of a tree

The proto files of a tree are those with the extension `proto`, below the root and outside the
directories to skip. They are found first, directory by directory in the order of the names, and then
rewritten one after the other. Only files whose text changes are written.
-/

namespace ProtoUpkeep

/-- The extension of proto files. -/
def protoExtension : Text := "proto"

/-- The proto files in a directory and below it, as far as they are seen. `below` is the directory's
path below the root, which the names to skip are compared with; `depth` limits how deep directories may
lie, and the length of the longest path is enough. -/
def protosIn (d : Disk) (skip : List Text) (depth : Nat) (dir below : Path) (o : Outside := .calm) :
    Except FileError (List Path) :=
  match depth with
  | 0 => return []
  | depth + 1 =>
    match o.readDirectory d dir.text with
    | .error fault => throw (.io dir.text fault)
    | .ok names => do
      let found ← names.mapM fun name => do
        let path := dir.join name
        if o.isDirectory d path.text then
          if (below.join name).hasComponent skip then return []
          else protosIn d skip depth path (below.join name) o
        else if path.extension? = some protoExtension then return [path]
        else return []
      return found.flatten

/-- Rewrites the imports of a proto file, and tells whether its text has changed. -/
def flattenFile (path : Path) : DiskAction FileError Bool := do
  match flattenImports? (← Files.readText path) with
  | some flat =>
    Files.writeText path flat
    return true
  | none => return false

/-- Rewrites the imports of proto files one after the other; those that have changed are the
result. -/
def flattenFiles : List Path → DiskAction FileError (List Path)
  | [] => return []
  | path :: rest => do
    let changed ← flattenFile path
    let others ← flattenFiles rest
    return if changed then path :: others else others

/-- Rewrites the imports of the proto files below a directory, those in directories to skip left out.
The files that have changed are the result. -/
def flattenTree (root : Path) (skip : List Text) : DiskAction TreeError (List Path) := do
  if ← Files.isDirectory root then
    DiskAction.mapError .file do
      let paths ← DiskAction.ofQuery fun o d => protosIn d skip Disk.maxPath root ⟨[]⟩ o
      flattenFiles paths
  else throw (.directoryNotFound root.text)

end ProtoUpkeep
