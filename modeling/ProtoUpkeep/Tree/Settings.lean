import ProtoUpkeep.Text.Basic

/-!
# Settings of the proto tree

Where proto files come from, where they go, and how Swift is generated from them.
-/

namespace ProtoUpkeep

/-- What keeping the proto tree depends on. -/
structure TreeSettings where
  /-- The directory that the listed files are relative to. -/
  sourceDir : Text
  /-- The local tree, in which imports are looked up. -/
  destDir : Text
  /-- Where generated Swift goes. -/
  outputDir : Text
  /-- The compiler of proto files. -/
  compiler : Text
  /-- The files to copy and to generate from. -/
  files : List Text
  /-- The names of directories whose files keep their imports. -/
  skipDirs : List Text
deriving DecidableEq, Repr

/-- The settings that hold where nothing else is said. -/
def TreeSettings.default : TreeSettings where
  sourceDir := "../../protobufs/hapi/hedera-protobuf-java-api/src/main/proto"
  destDir := "Protos"
  outputDir := "Generated"
  compiler := "protoc"
  files := []
  skipDirs := ["sdk", "mirror"]

end ProtoUpkeep
