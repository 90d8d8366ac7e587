import ProtoUpkeep.CommandLine.Project
import ProtoUpkeep.Tree.Flattening

/-!
# The command for the imports of a tree
-/

namespace ProtoUpkeep.RewriteImportsCommand

open ConsoleAction

/-- Flattens the imports below a directory, or those of the configured tree, and prints the files that
have changed. Names that are given replace the configured ones to skip. -/
def run (p : Project) (dir? : Option Text) (skip : List Text) : ConsoleAction Unit := do
  let settings ← p.treeSettings
  let root := p.resolve (dir?.getD settings.destDir)
  let skip := if skip.isEmpty then settings.skipDirs else skip
  say ("=> Rewriting imports under ".toList ++ root.text ++ "...")
  if !skip.isEmpty then say ("   Skipping: ".toList ++ Text.joinWith ", " skip)
  let updated ← ofDisk .tree (flattenTree root skip)
  if updated.isEmpty then say "OK All imports already flat."
  else
    sayAll (updated.map fun path => "   ~ ".toList ++ path.text)
    say ("OK Updated ".toList ++ Text.ofNat updated.length ++ " files")

end ProtoUpkeep.RewriteImportsCommand
