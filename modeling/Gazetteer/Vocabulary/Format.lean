import Gazetteer.Path
import Gazetteer.Toml.Document
import Gazetteer.Tree.OfJson
import Gazetteer.Vocabulary.Decode
import Gazetteer.Yaml.Document

/-! The formats of configurations. -/
namespace Gazetteer.Vocabulary

namespace Format

def name : Format → String
  | .yaml => "yaml"
  | .toml => "toml"
  | .json => "json"

/-- What the file names of each format end in. -/
def extensions : List (String × Format) :=
  [("yaml", .yaml), ("yml", .yaml), ("toml", .toml), ("json", .json)]

/-- The format of a file. The case of ASCII letters does not count. -/
def ofPath (path : String) : Except Error Format :=
  let extension := (Path.extension? path).map fun e => String.ofList (e.toList.map Char.toLower)
  match extensions.find? fun e => extension == some e.1 with
  | some e => .ok e.2
  | none => .error (.configType ("'" ++ path ++ "'")
      ("a mapping or a path ending in " ++ ", ".intercalate (extensions.map fun e => "." ++ e.1)))

/-- Reads a tree from text in the format. -/
def readTree : Format → String → Option Tree
  | .yaml => Yaml.read
  | .toml => Toml.read
  | .json => Tree.readJson

end Format

/-- Reads a vocabulary from the text of a configuration. -/
def ofText (format : Format) (text : String) (path : Option String) : Except Error Vocabulary :=
  match format.readTree text with
  | some t => ofTree t
  | none => .error (.malformed format text path)

end Gazetteer.Vocabulary
