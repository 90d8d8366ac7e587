import ProtoUpkeep.Path
import ProtoUpkeep.Tree.Error
import ProtoUpkeep.Tree.Settings

/-!
# Generating Swift from proto files

Which compiler is run with which arguments. The local tree is the one directory that imports are
looked up in.
-/

namespace ProtoUpkeep

/-- What is generated. -/
inductive Codegen where
  /-- The types of messages. -/
  | messages
  /-- The stubs of services. -/
  | services
deriving DecidableEq, Repr

namespace Codegen

/-- What the generated code is called. -/
def title : Codegen → Text
  | messages => "Swift protobuf"
  | services => "gRPC"

/-- The options of the plugin that generates into a directory. -/
def pluginArgs (outputDir : Path) : Codegen → List Text
  | messages => [
    "--swift_opt=Visibility=Public",
    "--swift_opt=FileNaming=FullPath",
    "--swift_out=".toList ++ outputDir.text]
  | services => [
    "--grpc-swift_opt=Visibility=Public",
    "--grpc-swift_out=".toList ++ outputDir.text]

end Codegen

/-- A compiler of proto files with its directories. -/
structure Compiler where
  /-- The program. -/
  program : Text
  /-- The directory that imports are looked up in. -/
  protoPath : Path
  /-- Where generated code goes. -/
  outputDir : Path
deriving DecidableEq, Repr

namespace Compiler

/-- The compiler of the settings, with directories below `root`. -/
def ofSettings (s : TreeSettings) (root : Path) : Compiler where
  program := s.compiler
  protoPath := root.join s.destDir
  outputDir := root.join s.outputDir

/-- The arguments that the compiler is run with. There must be a file, and all must be proto files. -/
def args (c : Compiler) (kind : Codegen) (files : List Text) : Except TreeError (List Text) :=
  if files.isEmpty then .error .nothingToGenerate
  else
    match files.find? fun f => !f.endsWith ".proto" with
    | some bad => .error (.invalidProtoFile bad)
    | none =>
      .ok (kind.pluginArgs c.outputDir ++ ("--proto_path=".toList ++ c.protoPath.text) :: files)

end Compiler

end ProtoUpkeep
