import ProtoUpkeep.Program.Start
import ProtoUpkeep.Tree.Codegen

/-!
# Running the compiler

The directory for the generated code is made before the compiler is started. A compiler that does not
succeed is an error, which keeps what it wrote to its standard error. What the compiler does is up to
it: it is started by a `Starter`, which may do anything to the disk. `Program.run` is the one that runs.
-/

namespace ProtoUpkeep

/-- What starts a program with arguments and waits for its end. -/
abbrev Starter := Text → List Text → DiskAction FileFault ProgramOutput

namespace Compiler

/-- Runs the compiler on files. -/
def generate (c : Compiler) (kind : Codegen) (files : List Text) (start : Starter := Program.run) :
    DiskAction TreeError ProgramOutput := do
  let args ← DiskAction.ofReader fun _ => c.args kind files
  (Files.makeDirectories c.outputDir.text).mapError .file
  let output ← (start c.program args).mapError (.spawnFailed c.program)
  if output.status.isSuccess then return output
  else throw (.compilerFailed c.program output.status (Text.showBytes output.stderr))

end Compiler

end ProtoUpkeep
