import StyleImport.Declarations
import StyleImport.Disk.RealPath
import StyleImport.Json.Reader
import StyleImport.Manifest.Script
import StyleImport.Toml.Scalar
import StyleImport.Yaml.Fault

/-!
# Failures

Why an operation has no result. Each failure keeps its cause; the wording is given in one place.

## Main definitions

- `Manifest.Reason`: why a manifest cannot be used.
- `Failure`: why an operation has no result.
- `Failure.message`: the wording.
-/

namespace StyleImport

/-- The name of the kind of a fault, as a reason shows it. -/
def AccessFault.kindName : AccessFault → String
  | .system .notFound _ => "FileNotFoundError"
  | .system .occupied _ => "FileExistsError"
  | .system .notDirectory _ => "NotADirectoryError"
  | .system .isDirectory _ => "IsADirectoryError"
  | .system _ _ => "OSError"
  | .listing _ => "NotADirectoryError"
  | .noWorkingDirectory => "FileNotFoundError"
  | .linkTree => "OSError"
  | .nullCharacter => "ValueError"
  | .unencodable _ => "UnicodeEncodeError"

/-- Why a manifest cannot be used. -/
inductive Manifest.Reason
  /-- There are no manifests with this ending. -/
  | unsupported (suffix : Text)
  /-- The bytes are no text. -/
  | bytes (fault : Utf8.DecodeFault)
  /-- The text is no JSON document. -/
  | json (fault : Json.Fault)
  /-- The text is no YAML document. -/
  | yaml
  /-- The text is no script, or its literals cannot be worked out. -/
  | script (file : Text) (fault : Script.Fault)
  /-- The script cannot be read from the disk. -/
  | unreadableScript (fault : AccessFault)
  /-- A directory stands where the script should be. -/
  | scriptDirectory (path : Text)
  /-- The script does not assign the name of the exported value. -/
  | noExport (name : Text)
  /-- The value is no mapping but of another kind. -/
  | notMapping (kind : String)
  /-- The description of a package is no object. -/
  | notObject
deriving DecidableEq

/-- The wording of a reason. -/
def Manifest.Reason.message : Manifest.Reason → Text
  | unsupported suffix => "unsupported manifest type " ++ suffix.quoted
  | bytes f => f.message
  | json f => f.message
  | yaml => Yaml.Fault.malformed.message
  | script file f => f.message file
  | unreadableScript f => Text.ofString f.kindName ++ ": " ++ f.message
  | scriptDirectory path =>
    "ImportError: can't find " ++ Text.quoted "__main__" ++ " module in " ++ path.quoted
  | noExport name => "module does not define " ++ name.quoted
  | notMapping kind => "expected a mapping, got " ++ Text.ofString kind
  | notObject => "expected a JSON object"

/-- Why an operation has no result. -/
inductive Failure
  /-- A manifest cannot be used. -/
  | manifest (path : Text) (reason : Manifest.Reason)
  /-- The disk refuses an operation. -/
  | access (fault : AccessFault)
  /-- Links lead in a circle at a path. -/
  | circle (path : Text)
  /-- The bytes of a configuration file are no text. -/
  | bytes (fault : Utf8.DecodeFault)
  /-- An integer has too many digits. -/
  | number (fault : Numeral.Fault)
  /-- A scalar of a YAML document does not give a value of its kind. -/
  | scalar (fault : Yaml.Fault)
  /-- A value cannot be written as a declaration. -/
  | literal (fault : Declarations.Fault)
  /-- A report cannot be written as a JSON document. -/
  | report (fault : Utf8.EncodeFault)
  /-- A mapping is needed to make declarations from and another kind of value is given. -/
  | notMapping (kind : String)
  /-- Entries are looked up in a value of a kind that has none. -/
  | noEntries (kind : String)
  /-- A configuration file that is used is no TOML document. -/
  | invalidConfig (path : Text)
  /-- A configuration file that is read by itself is no TOML document. -/
  | brokenConfig
  /-- The settings do not fit their kinds. -/
  | invalidSettings
  /-- The value of an environment variable is no JSON document. -/
  | unreadableSetting
deriving DecidableEq

namespace Failure

/-- The wording of a failure. -/
def message : Failure → Text
  | manifest path reason => "Invalid manifest " ++ path ++ ": " ++ reason.message
  | access f => f.message
  | circle path => (Disk.RealFault.circle path).message
  | bytes f => f.message
  | number f => f.message
  | scalar f => f.message
  | literal f => f.message
  | report f => "Error serializing to JSON: UnicodeEncodeError: " ++ f.message
  | notMapping kind => "Value manifest must export a mapping, got " ++ Text.ofString kind
  | noEntries kind => "'" ++ Text.ofString kind ++ "' object has no attribute 'get'"
  | invalidConfig path => "Invalid TOML in " ++ path ++ ": <toml>"
  | brokenConfig => ""
  | invalidSettings => ""
  | unreadableSetting => ""

/-- The failure of working out a real path. -/
def ofRealFault : Disk.RealFault → Failure
  | .access f => access f
  | .circle path => circle path

end Failure

end StyleImport
