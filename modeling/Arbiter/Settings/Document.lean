import Arbiter.Settings
import Arbiter.Toml.Document

/-!
# Reading settings

Settings are read from a TOML document. A setting that is not written is on; one
that is written with any other value than a truth value makes the reading fail.

* `Settings.ofEntries?`: the settings of a table.
* `Settings.ofDocument`: the settings of a document.
* `Settings.load`: the settings of a file.
-/

namespace Arbiter

namespace Toml.Value

def bool? : Value → Option Bool
  | .bool value => some value
  | _ => none

/-- How the switches of a section are looked up in a value: by name in a table, by
place in an array. One that is not there is on. A moment counts as a table that
holds none of them. -/
def switches? : Value → Option (String → Nat → Option Bool)
  | .table entries => some fun name _ =>
    match entries.lookup name with
    | none => some true
    | some value => value.bool?
  | .array elements => some fun _ place =>
    match elements[place]? with
    | none => some true
    | some value => value.bool?
  | .moment _ => some fun _ _ => some true
  | _ => none

end Toml.Value

/-- Why settings could not be read. -/
inductive SettingsError where
  /-- The text is no document, or says something else than settings. -/
  | unparsable
  /-- The file is not there, or is no text. -/
  | unreadable (path : String)
  /-- The file does not hold settings. -/
  | invalid (path : String) (cause : SettingsError)
  deriving DecidableEq

namespace SettingsError

def message : SettingsError → String
  | .unparsable => "Failed to parse policy checker config"
  | .unreadable path => "Failed to read config file: " ++ path
  | .invalid path _ => "Invalid config file: " ++ path

/-- The texts of the errors that led to it, the nearest first. -/
def causes : SettingsError → List String
  | .invalid _ cause => cause.message :: cause.causes
  | _ => []

end SettingsError

namespace Settings

/-- A section of a table, if it can be read. One that is not there has its
defaults. -/
def section? {α : Type} (default : α) (read : (String → Nat → Option Bool) → Option α)
    (entries : Toml.Entries) (name : String) : Option α :=
  match entries.lookup name with
  | none => some default
  | some value => value.switches?.bind read

def ofEntries? (entries : Toml.Entries) : Option Settings := do
  return {
    trace := ← section? {} TraceSettings.ofSwitches? entries "trace"
    testing := ← section? {} TestingSettings.ofSwitches? entries "testing" }

def ofDocument (document : String) : Except SettingsError Settings :=
  match (Toml.parse? document).bind ofEntries? with
  | some s => .ok s
  | none => .error .unparsable

/-- The settings of a file, given what the file holds if it is there. -/
def load (path : String) (contents : Option ByteArray) : Except SettingsError Settings :=
  match contents.bind String.fromUTF8? with
  | none => .error (.unreadable path)
  | some document => (ofDocument document).mapError (.invalid path)

end Settings

end Arbiter
