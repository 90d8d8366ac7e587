import ProtoUpkeep.CommandLine.Project
import ProtoUpkeep.Tree.Copies
import ProtoUpkeep.Tree.Flattening
import ProtoUpkeep.Tree.Generation

/-!
# The command for the proto files

The listed files are copied, their imports are flattened, and Swift is generated from the files that
were copied. Files that are missing or cannot be copied are reported and passed over. A compiler that
fails is tried for both kinds of code before the command fails.
-/

namespace ProtoUpkeep.FetchCommand

open ConsoleAction

/-- The lines of a text, with the carriage returns in front of line feeds dropped. A line feed at the
end starts no line. -/
def shownLines (t : Text) : List Text :=
  let ls := Text.lines t
  let whole := ls.dropLast.map fun l => if l.getLast? == some '\r' then l.dropLast else l
  match ls.getLast? with
  | none | some [] => whole
  | some l => whole ++ [l]

/-- The lines about the files that were to be copied. -/
def copyLines (r : CopyReport) : List Text :=
  let copied := "   Copied ".toList ++ Text.ofNat r.copied.length ++ " files"
  let missing :=
    if r.notFound.isEmpty then []
    else ("MISSING ".toList ++ Text.ofNat r.notFound.length ++ " files not found:") ::
      r.notFound.map ("   - ".toList ++ ·)
  let failed := r.failed.map fun (name, e) => "FAILED ".toList ++ name ++ ": " ++ e.message
  copied :: missing ++ failed

/-- Copies the listed files and flattens their imports; the report says which were copied. -/
def copy (settings : TreeSettings) (p : Project) : ConsoleAction CopyReport := do
  let source := p.resolve settings.sourceDir
  let dest := p.resolve settings.destDir
  say ("=> Copying proto files from ".toList ++ source.text ++ "...")
  let report ← ofDisk .file (copyProtos source dest settings.files)
  sayAll (copyLines report)
  if report.copied.isEmpty then throw .nothingCopied
  say "=> Rewriting imports..."
  let rewritten ← ofDisk .tree (flattenTree dest settings.skipDirs)
  say ("   Updated ".toList ++ Text.ofNat rewritten.length ++ " files")
  return report

/-- Generates one kind of code, and tells whether the compiler succeeded. -/
def generate (start : Starter) (c : Compiler) (files : List Text) (kind : Codegen) :
    ConsoleAction Bool := do
  say ("=> Generating ".toList ++ kind.title ++ "...")
  match ← ofDisk .tree (c.generate kind files start).attempt with
  | .ok _ =>
    say ("OK Generated ".toList ++ kind.title ++ " into " ++ c.outputDir.text)
    return true
  | .error (.compilerFailed _ status stderr) =>
    say ("FAILED protoc exited with ".toList ++ status.text)
    sayAll ((shownLines stderr).map ("   ".toList ++ ·))
    return false
  | .error e => throw (.tree e)

/-- Generates kinds of code one after the other, and counts the failures of the compiler. -/
def generateAll (start : Starter) (c : Compiler) (files : List Text) :
    List Codegen → ConsoleAction Nat
  | [] => return 0
  | kind :: kinds => do
    let succeeded ← generate start c files kind
    let failures ← generateAll start c files kinds
    return if succeeded then failures else failures + 1

/-- Copies the configured proto files into the tree of a project and generates Swift from them. -/
def run (start : Starter) (p : Project) (skipServices noGenerate : Bool) : ConsoleAction Unit := do
  let settings ← p.treeSettings
  if settings.files.isEmpty then throw .nothingConfigured
  let report ← copy settings p
  if noGenerate then return
  let kinds := if skipServices then [.messages] else [.messages, .services]
  let failures ← generateAll start (Compiler.ofSettings settings p.root) report.copied kinds
  if 0 < failures then throw (.compilerRunsFailed failures)

end ProtoUpkeep.FetchCommand
