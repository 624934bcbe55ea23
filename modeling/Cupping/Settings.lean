import Cupping.Fault
import Cupping.Files
import Cupping.Text.Blank
import Cupping.Toml.Document

/-!
Settings. Each comes from the command line, else from the environment, else from a file, else it has
its default. A file that cannot be used counts as no file.
-/

namespace Cupping

/-- What a settings file can say. -/
structure SettingsFile where
  apiUrl : Option String
  token : Option String
  datasetDirectory : Option String
  /-- In milliseconds. -/
  pollPeriod : Option Nat
  logLevel : Option String
deriving DecidableEq, Repr

namespace SettingsFile

/-- A file that says nothing. -/
def empty : SettingsFile :=
  ⟨none, none, none, none, none⟩

def optional? {α : Type} (read : Toml.Value → Option α) (name : String)
    (entries : List (String × Toml.Value)) : Option (Option α) :=
  match entries.lookup name with
  | none => some none
  | some value => (read value).map some

/-- The log level in the section for logging: a table, or a list with the level in front. A point in
time is a table without a level. -/
def logLevel? : Toml.Value → Option (Option String)
  | .table entries => optional? Toml.Value.text? "level" entries
  | .list (level :: _) => level.text?.map some
  | .moment => some none
  | _ => none

/-- The settings in a table; unknown names are ignored. -/
def ofTable? (entries : List (String × Toml.Value)) : Option SettingsFile := do
  some
    { apiUrl := ← optional? Toml.Value.text? "api_base_url" entries
      token := ← optional? Toml.Value.text? "token" entries
      datasetDirectory := ← optional? Toml.Value.text? "dataset_dir" entries
      pollPeriod := ← optional? Toml.Value.natural? "poll_interval_ms" entries
      logLevel := (← optional? logLevel? "logging" entries).join }

def load (source : TextSource) (path : String) : Except Fault SettingsFile :=
  match source path with
  | .error fault => .error (.file fault.message)
  | .ok text =>
    match (Toml.read? text).bind ofTable? with
    | some file => .ok file
    | none => .error (.configuration (path ++ ": not a settings file"))

/-- The settings in a file, or none at all if it cannot be used. -/
def loadOrEmpty (source : TextSource) (path : String) : SettingsFile :=
  match load source path with
  | .ok file => file
  | .error _ => empty

end SettingsFile

/-- What the command line says about settings. -/
structure SettingsOptions where
  apiUrl : Option String
  token : Option String
  /-- The path of the settings file. -/
  file : Option String
  datasetDirectory : Option String
deriving DecidableEq, Repr

abbrev Environment := String → Option String

/-- A variable that is set to more than blanks. -/
def Environment.filled? (environment : Environment) (name : String) : Option String :=
  (environment name).filter (!Text.isBlank ·)

/-- Everything that can be set. -/
structure Settings where
  apiUrl : String
  token : Option String
  datasetDirectory : String
  /-- In milliseconds. -/
  pollPeriod : Nat
  logLevel : String
deriving DecidableEq, Repr

namespace Settings

/-- The address of the service when nothing is said. -/
def defaultApiUrl : String := "http://localhost:8000/api/v1"

/-- The directory of the datasets when nothing is said. -/
def defaultDirectory : String := "data"

/-- The time between polls when nothing is said, in milliseconds. -/
def defaultPeriod : Nat := 2000

/-- The path of the settings file. Without a place for settings there may be none. -/
def filePath? (options : SettingsOptions) (environment : Environment)
    (configHome : Option String) : Option String :=
  options.file <|> environment.filled? "BREW_TUNER_CONFIG"
    <|> configHome.map (joinPath · "brew-tuner/config.toml")

def trimSlashes (address : String) : String :=
  String.ofList (Text.dropEndWhile (· = '/') address.toList)

/-- The settings out of all sources. A period of zero counts as none, a blank credential too. -/
def merge (options : SettingsOptions) (environment : Environment) (file : SettingsFile) :
    Settings where
  apiUrl := trimSlashes
    ((options.apiUrl <|> environment.filled? "BREW_TUNER_API_URL" <|> file.apiUrl).getD
      defaultApiUrl)
  token := (options.token <|> environment.filled? "BREW_TUNER_TOKEN" <|> file.token).filter
    (!Text.isBlank ·)
  datasetDirectory :=
    (options.datasetDirectory <|> environment.filled? "BREW_TUNER_DATA_DIR"
      <|> file.datasetDirectory).getD defaultDirectory
  pollPeriod := (file.pollPeriod.filter (· ≠ 0)).getD defaultPeriod
  logLevel := file.logLevel.getD "info"

/-- The settings of a program that is started with some options in some environment. -/
def resolve (options : SettingsOptions) (environment : Environment) (configHome : Option String)
    (source : TextSource) : Settings :=
  merge options environment <|
    match filePath? options environment configHome with
    | none => .empty
    | some path => .loadOrEmpty source path

end Settings
end Cupping
