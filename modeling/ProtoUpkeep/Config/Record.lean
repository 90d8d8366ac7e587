import ProtoUpkeep.Config.Value
import ProtoUpkeep.Status.Settings
import ProtoUpkeep.Tree.Settings

/-!
# Settings as values

Settings are read from an object, where a field that is missing has its default and a member that
names no field is passed over, or from a list of the fields in their order, where fields at the end
may be missing and nothing may follow the last. A field that is given must have its own type; nothing
is converted, and nothing stands for a missing field. A field that holds settings of its own is read
in the same way, so each of them has its own default.
-/

namespace ProtoUpkeep

/-- Where the fields of a record are read from. -/
inductive Fields where
  /-- By their names. -/
  | named (members : List (Text × Value))
  /-- One after the other. -/
  | listed (items : List Value)

namespace Fields

/-- The fields that a value gives, if it is an object or a list. -/
def ofValue? : Value → Option Fields
  | .object members => some (named members)
  | .list items => some (listed items)
  | _ => none

/-- The value of the next field, which has the given name, and the fields behind it. -/
def next (name : Text) : Fields → Option Value × Fields
  | named members => (members.lookup name, named members)
  | listed [] => (none, listed [])
  | listed (v :: rest) => (some v, listed rest)

/-- Reads the next field; it is missing or has the right type. -/
def field {α : Type} (name : Text) (read : Value → Option α) (default : α) (fs : Fields) :
    Option (α × Fields) :=
  match fs.next name with
  | (none, fs) => some (default, fs)
  | (some v, fs) => (read v).map fun a => (a, fs)

/-- Whether nothing is listed behind the last field. -/
def isDone : Fields → Bool
  | named _ => true
  | listed items => items.isEmpty

end Fields

namespace Value

/-- The text that a value is. -/
def text? : Value → Option Text
  | .text t => some t
  | _ => none

/-- The texts that a value lists. -/
def texts? : Value → Option (List Text)
  | .list items => items.mapM text?
  | _ => none

/-- The dictionary that a value is. -/
def dictionary? : Value → Option Dictionary
  | .object members =>
    (members.mapM fun m => (text? m.2).map fun t => (m.1, t)).map Dictionary.ofList
  | _ => none

/-- The value that lists texts. -/
def ofTexts (ts : List Text) : Value := .list (ts.map .text)

/-- The value of a dictionary. -/
def ofDictionary (d : Dictionary) : Value := .object (d.entries.map fun e => (e.1, .text e.2))

end Value

namespace Anchor

/-- The anchor of a kind with the text that the kind takes. -/
def ofKind? (kind text : Text) : Option Anchor :=
  if kind == "marker".toList then some (.marker text)
  else if kind == "pattern".toList then some (.pattern text)
  else none

/-- The name of the member that holds the text of an anchor of a kind. -/
def memberOfKind? (kind : Text) : Option Text :=
  if kind == "marker".toList then some "text"
  else if kind == "pattern".toList then some "regex"
  else none

/-- The anchor that a value describes: an object with its kind and its text, or a list of the two. -/
def ofValue? : Value → Option Anchor
  | .object members => do
    let kind ← (← members.lookup "kind".toList).text?
    let text ← (← members.lookup (← memberOfKind? kind)).text?
    ofKind? kind text
  | .list [.text kind, .text text] => ofKind? kind text
  | _ => none

/-- The value that describes an anchor. -/
def toValue : Anchor → Value
  | marker text => .object [("kind", .text "marker"), ("text", .text text)]
  | pattern regex => .object [("kind", .text "pattern"), ("regex", .text regex)]

/-- The anchors that a value describes. -/
def allOfValue? (v : Value) : Option (PerSection Anchor) := do
  let d := Anchor.defaults
  let fs ← Fields.ofValue? v
  let (caseDeclarations, fs) ← fs.field "case_declarations" ofValue? d.caseDeclarations
  let (initCases, fs) ← fs.field "init_cases" ofValue? d.initCases
  let (rawValueCases, fs) ← fs.field "raw_value_cases" ofValue? d.rawValueCases
  let (allCases, fs) ← fs.field "all_cases" ofValue? d.allCases
  let (nameMap, fs) ← fs.field "name_map" ofValue? d.nameMap
  if fs.isDone then some { caseDeclarations, initCases, rawValueCases, allCases, nameMap } else none

/-- The value that describes the anchors. -/
def allToValue (p : PerSection Anchor) : Value :=
  .object [
    ("case_declarations", p.caseDeclarations.toValue),
    ("init_cases", p.initCases.toValue),
    ("raw_value_cases", p.rawValueCases.toValue),
    ("all_cases", p.allCases.toValue),
    ("name_map", p.nameMap.toValue)]

end Anchor

namespace StatusSettings

/-- The settings that a value describes. -/
def ofValue? (v : Value) : Option StatusSettings := do
  let d := StatusSettings.default
  let fs ← Fields.ofValue? v
  let (enumName, fs) ← fs.field "enum_name" Value.text? d.enumName
  let (protoPath, fs) ← fs.field "proto_path" Value.text? d.protoPath
  let (swiftPath, fs) ← fs.field "swift_path" Value.text? d.swiftPath
  let (deprecatedMarker, fs) ← fs.field "deprecated_marker" Value.text? d.deprecatedMarker
  let (acronyms, fs) ← fs.field "acronyms" Value.dictionary? d.acronyms
  let (anchors, fs) ← fs.field "anchors" Anchor.allOfValue? d.anchors
  if fs.isDone then
    some { enumName, protoPath, swiftPath, deprecatedMarker, acronyms, anchors }
  else none

/-- The value that describes the settings. -/
def toValue (s : StatusSettings) : Value :=
  .object [
    ("enum_name", .text s.enumName),
    ("proto_path", .text s.protoPath),
    ("swift_path", .text s.swiftPath),
    ("deprecated_marker", .text s.deprecatedMarker),
    ("acronyms", Value.ofDictionary s.acronyms),
    ("anchors", Anchor.allToValue s.anchors)]

end StatusSettings

namespace TreeSettings

/-- The settings that a value describes. -/
def ofValue? (v : Value) : Option TreeSettings := do
  let d := TreeSettings.default
  let fs ← Fields.ofValue? v
  let (sourceDir, fs) ← fs.field "source_dir" Value.text? d.sourceDir
  let (destDir, fs) ← fs.field "dest_dir" Value.text? d.destDir
  let (outputDir, fs) ← fs.field "output_dir" Value.text? d.outputDir
  let (compiler, fs) ← fs.field "protoc" Value.text? d.compiler
  let (files, fs) ← fs.field "files" Value.texts? d.files
  let (skipDirs, fs) ← fs.field "skip_dirs" Value.texts? d.skipDirs
  if fs.isDone then some { sourceDir, destDir, outputDir, compiler, files, skipDirs } else none

/-- The value that describes the settings. -/
def toValue (s : TreeSettings) : Value :=
  .object [
    ("source_dir", .text s.sourceDir),
    ("dest_dir", .text s.destDir),
    ("output_dir", .text s.outputDir),
    ("protoc", .text s.compiler),
    ("files", Value.ofTexts s.files),
    ("skip_dirs", Value.ofTexts s.skipDirs)]

end TreeSettings

end ProtoUpkeep
