import ProtoUpkeep.Config.Toml.Reader
import ProtoUpkeep.Config.Toml.Writer
import ProtoUpkeep.Config.Yaml.Writer
import ProtoUpkeep.Path
import ProtoUpkeep.Unicode.Letter

/-!
# Formats of configuration files

The extension of a file says which format it has, in upper or lower case. The texts of a format are
read and written by a codec; what is known of it is up to the library that it comes from, so there may
be any for each format. `Codec.standard` are the ones that run.
-/

namespace ProtoUpkeep

/-- A format of configuration files. -/
inductive Format where
  /-- TOML. -/
  | toml
  /-- JSON. -/
  | json
  /-- YAML. -/
  | yaml
deriving DecidableEq, Repr

namespace Format

/-- What a format is called. -/
def title : Format → Text
  | toml => "TOML"
  | json => "JSON"
  | yaml => "YAML"

/-- The format of files with an extension. -/
def ofExtension? (extension : Text) : Option Format :=
  let e := Text.lower extension
  if e == "toml".toList then some toml
  else if e == "json".toList then some json
  else if e == "yaml".toList || e == "yml".toList then some yaml
  else none

end Format

/-- What reads and writes texts. -/
structure Codec where
  /-- The value that a text writes. -/
  read? : Text → Option Value
  /-- The text of a value, if it can be written. -/
  write? : Value → Option Text

/-- The codec of each format that runs. -/
def Codec.standard : Format → Codec
  | .toml => ⟨Toml.read?, Toml.write?⟩
  | .json => ⟨Json.read?, fun v => some (Json.write v)⟩
  | .yaml => ⟨Yaml.read?, fun v => some (Yaml.write v)⟩

end ProtoUpkeep
