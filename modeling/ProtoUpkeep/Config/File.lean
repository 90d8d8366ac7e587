import ProtoUpkeep.Config.Format
import ProtoUpkeep.Config.Record
import ProtoUpkeep.Files.AtomicWrite

/-!
# Configuration files

Several tools may share one configuration file, each with a section of its own, so either the whole
file or one section of it is decoded. A file is read before its format is judged, and a section that
is null is there, but nothing can be decoded from it. Whatever the format, reading gives a value with
the members of each object in ascending order of their keys.
-/

namespace ProtoUpkeep.ConfigFile

/-- The format of a file. -/
def format (path : Path) : Except FileError Format :=
  let extension := path.extension?.getD []
  match Format.ofExtension? extension with
  | some f => .ok f
  | none => .error (.unsupportedFormat extension)

/-- The value that the text of a file writes. -/
def parse (path : Path) (t : Text) (codecs : Format → Codec := Codec.standard) :
    Except FileError Value := do
  let f ← format path
  match (codecs f).read? t with
  | some v => return v.sorted
  | none => .error (.badConfig path.text f.title)

/-- What a value of a file is decoded to. -/
def decodeAs {α : Type} (decode : Value → Option α) (path : Path) (v : Value) :
    Except FileError α :=
  match decode v with
  | some a => .ok a
  | none => .error (.badConfig path.text (Text.upper (path.extension?.getD "unknown")))

/-- The section of a value with the given name. -/
def sectionOf (path : Path) (name : Text) (v : Value) : Except FileError Value :=
  match v.member? name with
  | some v => .ok v
  | none => .error (.missingSection path.text name)

/-- Loads a whole file. -/
def load {α : Type} (decode : Value → Option α) (path : Path)
    (codecs : Format → Codec := Codec.standard) : DiskAction FileError α := do
  let t ← Files.readText path
  DiskAction.ofReader fun _ => parse path t codecs >>= decodeAs decode path

/-- Loads one section of a file. -/
def loadSection {α : Type} (decode : Value → Option α) (path : Path) (name : Text)
    (codecs : Format → Codec := Codec.standard) : DiskAction FileError α := do
  let t ← Files.readText path
  DiskAction.ofReader fun _ => parse path t codecs >>= sectionOf path name >>= decodeAs decode path

/-- The text of a value in the format of a file. -/
def render (path : Path) (v : Value) (codecs : Format → Codec := Codec.standard) :
    Except FileError Text := do
  let f ← format path
  match (codecs f).write? v with
  | some t => return t
  | none => .error (.badConfig path.text f.title)

/-- Saves a value in the format that the extension of the file says. -/
def save (path : Path) (v : Value) (codecs : Format → Codec := Codec.standard) :
    DiskAction FileError Unit := do
  let t ← DiskAction.ofReader fun _ => render path v codecs
  Files.writeText path t

end ProtoUpkeep.ConfigFile
