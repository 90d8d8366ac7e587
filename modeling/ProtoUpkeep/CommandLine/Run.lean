import ProtoUpkeep.CommandLine.Arguments
import ProtoUpkeep.CommandLine.Fetch
import ProtoUpkeep.CommandLine.RewriteImports
import ProtoUpkeep.CommandLine.StatusCodes

/-!
# Running the command line

One run takes the arguments and a disk to what is printed, how it ended, and the disk behind it. The
programs that it starts are up to what starts them.
-/

namespace ProtoUpkeep.CommandLine

/-- How a run ended. -/
inductive Ending where
  /-- It did what was asked for. -/
  | done
  /-- The command failed. -/
  | failed (error : CommandError)
  /-- The arguments are a mistake. -/
  | usage
deriving DecidableEq, Repr

/-- What a run leaves behind. -/
structure Outcome where
  /-- What it printed. -/
  printed : Text
  /-- How it ended. -/
  ending : Ending
  /-- The disk. -/
  disk : Disk

namespace Ending

/-- The code of an ending. -/
def code : Ending → Nat
  | done => 0
  | failed _ => 1
  | usage => 2

/-- What is said about an ending on the standard error. -/
def complaint : Ending → Text
  | done => []
  | failed error => "error: ".toList ++ error.message ++ "\n"
  | usage => "error: the arguments are not understood\n\nFor more information, try '--help'.\n"

end Ending

/-- The name and version of the program. -/
def versionText : Text := "protokit 0.1.0\n"

/-- What is printed where no command is given. -/
def bannerText : Text :=
  "protokit protobuf maintenance for the Swift SDK\n\nRun protokit --help for available commands.\n"

/-- What is printed on a question for the help. -/
def helpText : Text :=
  "protokit - proto maintenance for the Hiero Swift SDK

Usage: protokit [OPTIONS] [COMMAND]

Commands:
  status-codes     Synchronize Status.swift with response_code.proto
  fetch            Copy the configured proto files and run protoc
  rewrite-imports  Strip directory prefixes from proto import statements

Options:
  -v, --verbose          Show step-by-step progress
      --root <ROOT>      Project root that configured paths are relative to
      --config <CONFIG>  Config file (defaults to protokit.toml in the root)
  -h, --help             Print help
  -V, --version          Print version
"

/-- Does what a command says in a project. -/
def Command.run (start : Starter) (p : Project) : Command → ConsoleAction Unit
  | statusCodes dryRun updateComments proto? swift? =>
    StatusCodesCommand.run p { dryRun, updateComments, proto?, swift? }
  | fetch skipServices noGenerate => FetchCommand.run start p skipServices noGenerate
  | rewriteImports dir? skip => RewriteImportsCommand.run p dir? skip

/-- Does what the arguments ask for. -/
def Request.run (start : Starter) (r : Request) : ConsoleAction Unit := do
  match r.command? with
  | none => ConsoleAction.print bannerText
  | some command =>
    let p ← Project.openAt r.root r.config?
    command.run start p

/-- Runs the program with arguments; the environment may name a configuration file. -/
def run (args : List Text) (env? : Option Text) (disk : Disk) (start : Starter := Program.run) :
    Outcome :=
  match Request.read args env? with
  | .error .usage => ⟨[], .usage, disk⟩
  | .error .help => ⟨helpText, .done, disk⟩
  | .error .version => ⟨versionText, .done, disk⟩
  | .ok request =>
    let (result, console) := StateT.run (ExceptT.run (request.run start)) ⟨disk, []⟩
    match result with
    | .ok () => ⟨console.printed, .done, console.disk⟩
    | .error e => ⟨console.printed, .failed e, console.disk⟩

end ProtoUpkeep.CommandLine
