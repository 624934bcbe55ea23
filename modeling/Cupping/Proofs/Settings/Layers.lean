import Cupping.Settings
import Cupping.Proofs.Text.Blank

/-!
The layers of settings. What the command line says hides the environment and the file, and what the
environment says hides the file. A file counts with all that it says, or with nothing: one that is
missing, cannot be read, is no table or says something of the wrong type is no file at all. However
the settings came about, the program can use them.
-/

namespace Cupping

namespace SettingsFile

/-- The entries that a file can have, and whether an entry has the right type. -/
def entryTypes : List (String × (Toml.Value → Bool)) :=
  [("api_base_url", fun value => value.text?.isSome), ("token", fun value => value.text?.isSome),
    ("dataset_dir", fun value => value.text?.isSome),
    ("poll_interval_ms", fun value => value.natural?.isSome),
    ("logging", fun value => (logLevel? value).isSome)]

/-- Whether no entry has a wrong type; entries of other names are of any type. -/
def IsTyped (entries : List (String × Toml.Value)) : Prop :=
  ∀ entry ∈ entryTypes, ∀ value, entries.lookup entry.1 = some value → entry.2 value = true

/-- All that some entries say. -/
def ofEntries (entries : List (String × Toml.Value)) : SettingsFile where
  apiUrl := (entries.lookup "api_base_url").bind Toml.Value.text?
  token := (entries.lookup "token").bind Toml.Value.text?
  datasetDirectory := (entries.lookup "dataset_dir").bind Toml.Value.text?
  pollPeriod := (entries.lookup "poll_interval_ms").bind Toml.Value.natural?
  logLevel := ((entries.lookup "logging").bind logLevel?).join

variable {entries : List (String × Toml.Value)} {file : SettingsFile}

theorem optional?_eq_some_iff {α : Type} {read : Toml.Value → Option α} {name : String}
    {result : Option α} :
    optional? read name entries = some result ↔
      (∀ value, entries.lookup name = some value → (read value).isSome = true) ∧
        (entries.lookup name).bind read = result := by
  unfold optional?
  cases entries.lookup name with
  | none => simp
  | some value => cases found : read value <;> simp [found]

/-- A table makes a settings file if all of its entries have the right type, and then all of them
are in it. -/
theorem ofTable?_eq_some_iff :
    ofTable? entries = some file ↔ IsTyped entries ∧ file = ofEntries entries := by
  simp only [ofTable?, IsTyped, entryTypes, Option.bind_eq_bind, Option.bind_eq_some_iff,
    optional?_eq_some_iff, List.forall_mem_cons, List.not_mem_nil, Option.some.injEq]
  constructor
  · rintro ⟨_, ⟨url, rfl⟩, _, ⟨token, rfl⟩, _, ⟨directory, rfl⟩, _, ⟨period, rfl⟩, _, ⟨level, rfl⟩,
      rfl⟩
    exact ⟨⟨url, token, directory, period, level, nofun⟩, rfl⟩
  · rintro ⟨⟨url, token, directory, period, level, -⟩, rfl⟩
    exact ⟨_, ⟨url, rfl⟩, _, ⟨token, rfl⟩, _, ⟨directory, rfl⟩, _, ⟨period, rfl⟩, _, ⟨level, rfl⟩,
      rfl⟩

end SettingsFile

/-- Everything that settings are made from. -/
structure Sources where
  options : SettingsOptions
  environment : Environment
  configHome : Option String
  files : TextSource

namespace Sources

/-- The settings of a program that is started with these sources. -/
def settings (sources : Sources) : Settings :=
  .resolve sources.options sources.environment sources.configHome sources.files

/-- The same sources in a place without any files. -/
def withoutFiles (sources : Sources) : Sources :=
  { sources with files := fun _ => .error .absent }

/-- Whether the settings file is there, can be read, and is a table of entries that all have the
right type. -/
def HasEntries (sources : Sources) (entries : List (String × Toml.Value)) : Prop :=
  ∃ path text,
    Settings.filePath? sources.options sources.environment sources.configHome = some path ∧
      sources.files path = .ok text ∧ Toml.read? text = some entries ∧ SettingsFile.IsTyped entries

/-- What the settings file comes to. -/
def file (sources : Sources) : SettingsFile :=
  match Settings.filePath? sources.options sources.environment sources.configHome with
  | none => .empty
  | some path => .loadOrEmpty sources.files path

theorem settings_eq_merge (sources : Sources) :
    sources.settings = .merge sources.options sources.environment sources.file :=
  rfl

variable {sources : Sources} {entries : List (String × Toml.Value)}

/-- A settings file that can be used counts with all of its entries. -/
theorem file_of_hasEntries (usable : sources.HasEntries entries) :
    sources.file = .ofEntries entries := by
  obtain ⟨path, text, located, read, parsed, typed⟩ := usable
  have made : SettingsFile.ofTable? entries = some (.ofEntries entries) :=
    SettingsFile.ofTable?_eq_some_iff.mpr ⟨typed, rfl⟩
  have loaded : SettingsFile.load sources.files path = .ok (.ofEntries entries) := by
    simp only [SettingsFile.load, read, parsed, Option.bind_some, made]
  simp only [file, located, SettingsFile.loadOrEmpty, loaded]

/-- One that cannot be used, for whatever reason, counts with none. -/
theorem file_of_unusable (unusable : ∀ entries, ¬ sources.HasEntries entries) :
    sources.file = .empty := by
  cases located : Settings.filePath? sources.options sources.environment sources.configHome with
  | none => simp only [file, located]
  | some path =>
    cases read : sources.files path with
    | error fault => simp only [file, located, SettingsFile.loadOrEmpty, SettingsFile.load, read]
    | ok text =>
      have nothing : (Toml.read? text).bind SettingsFile.ofTable? = none := by
        rw [Option.bind_eq_none_iff]
        intro entries parsed
        rw [Option.eq_none_iff_forall_ne_some]
        intro file made
        obtain ⟨typed, -⟩ := SettingsFile.ofTable?_eq_some_iff.mp made
        exact unusable entries ⟨path, text, located, read, parsed, typed⟩
      simp only [file, located, SettingsFile.loadOrEmpty, SettingsFile.load, read, nothing]

theorem settings_of_unusable (unusable : ∀ entries, ¬ sources.HasEntries entries) :
    sources.settings = .merge sources.options sources.environment .empty := by
  rw [settings_eq_merge, file_of_unusable unusable]

theorem settings_withoutFiles (sources : Sources) :
    sources.withoutFiles.settings = .merge sources.options sources.environment .empty := by
  refine settings_of_unusable fun entries => ?_
  rintro ⟨path, text, -, read, -⟩
  cases read

end Sources

/-- A setting that every source can give. -/
inductive Layered where
  | apiUrl
  | token
  | datasetDirectory

namespace Layered

/-- What the command line says about it. -/
def option? : Layered → SettingsOptions → Option String
  | apiUrl => SettingsOptions.apiUrl
  | token => SettingsOptions.token
  | datasetDirectory => SettingsOptions.datasetDirectory

/-- The variable of the environment that gives it. -/
def variableName : Layered → String
  | apiUrl => "BREW_TUNER_API_URL"
  | token => "BREW_TUNER_TOKEN"
  | datasetDirectory => "BREW_TUNER_DATA_DIR"

/-- What a file says about it. -/
def entry? : Layered → SettingsFile → Option String
  | apiUrl => SettingsFile.apiUrl
  | token => SettingsFile.token
  | datasetDirectory => SettingsFile.datasetDirectory

/-- What it becomes once its source is settled. -/
def settle : Layered → Option String → Option String
  | apiUrl, found => some (Settings.trimSlashes (found.getD Settings.defaultApiUrl))
  | token, found => found.filter (!Text.isBlank ·)
  | datasetDirectory, found => some (found.getD Settings.defaultDirectory)

def of : Layered → Settings → Option String
  | apiUrl, settings => some settings.apiUrl
  | token, settings => settings.token
  | datasetDirectory, settings => some settings.datasetDirectory

variable {setting : Layered} {sources other : Sources} {value : String}

/-- It is taken from the first source that has it. -/
theorem of_settings (setting : Layered) (sources : Sources) :
    setting.of sources.settings = setting.settle (setting.option? sources.options <|>
      sources.environment.filled? setting.variableName <|> setting.entry? sources.file) := by
  cases setting <;> rfl

theorem of_settings_of_option (given : setting.option? sources.options = some value) :
    setting.of sources.settings = setting.settle (some value) := by
  rw [of_settings, given]
  rfl

theorem filled?_of_seen {environment : Environment} {name : String}
    (held : environment name = some value) (seen : Text.isBlank value = false) :
    environment.filled? name = some value := by
  rw [Environment.filled?, held, Option.filter_some, seen]
  rfl

/-- Sources with one value in the environment differ by what the command line says at most. -/
theorem of_settings_congr (given : setting.option? sources.options = setting.option? other.options)
    (held : sources.environment setting.variableName = some value)
    (again : other.environment setting.variableName = some value)
    (seen : Text.isBlank value = false) :
    setting.of sources.settings = setting.of other.settings := by
  rw [of_settings, of_settings, given, filled?_of_seen held seen, filled?_of_seen again seen]
  rfl

end Layered

namespace Settings

/-- No slash is left at the end of an address. -/
theorem getLast?_trimSlashes (address : String) :
    (trimSlashes address).toList.getLast? ≠ some '/' := by
  intro last
  rw [trimSlashes, String.toList_ofList, Text.dropEndWhile, List.getLast?_reverse] at last
  have other := List.head?_dropWhile_not (fun c => decide (c = '/')) address.toList.reverse
  rw [last] at other
  simp at other

/-- Whatever the sources say, the program can use the settings. -/
structure IsUsable (settings : Settings) : Prop where
  address : settings.apiUrl.toList.getLast? ≠ some '/'
  credential : ∀ token ∈ settings.token, ∃ c ∈ token.toList, Text.isBlankChar c = false
  period : 0 < settings.pollPeriod

theorem isUsable_merge (options : SettingsOptions) (environment : Environment)
    (file : SettingsFile) : (merge options environment file).IsUsable where
  address := getLast?_trimSlashes _
  credential := by
    intro token held
    have seen := (Option.filter_eq_some_iff.mp held).2
    exact Text.exists_seen (by simpa using seen)
  period := by
    change 0 < (file.pollPeriod.filter (· ≠ 0)).getD defaultPeriod
    cases given : file.pollPeriod.filter (· ≠ 0) with
    | none => decide
    | some period =>
      have positive := (Option.filter_eq_some_iff.mp given).2
      simp only [ne_eq, decide_not, Bool.not_eq_true', decide_eq_false_iff_not] at positive
      exact Nat.pos_of_ne_zero positive

end Settings

/-- Settings come from the first source that has them, so that what stands behind that source makes
no difference. A file that cannot be used is as good as none, and one that can be used counts with
all of its entries. All settings are fit for use. -/
theorem settings_layered :
    (∀ (setting : Layered) (sources : Sources),
      setting.of sources.settings = setting.settle (setting.option? sources.options <|>
        sources.environment.filled? setting.variableName <|> setting.entry? sources.file)) ∧
    (∀ (setting : Layered) (sources other : Sources) (value : String),
      setting.option? sources.options = some value → setting.option? other.options = some value →
        setting.of sources.settings = setting.settle (some value) ∧
          setting.of sources.settings = setting.of other.settings) ∧
    (∀ (setting : Layered) (sources other : Sources) (value : String),
      setting.option? sources.options = setting.option? other.options →
      sources.environment setting.variableName = some value →
      other.environment setting.variableName = some value → Text.isBlank value = false →
        setting.of sources.settings = setting.of other.settings) ∧
    (∀ sources : Sources, (∀ entries, ¬ sources.HasEntries entries) →
      sources.settings = .merge sources.options sources.environment .empty ∧
        sources.settings = sources.withoutFiles.settings) ∧
    (∀ (sources : Sources) (entries : List (String × Toml.Value)), sources.HasEntries entries →
      sources.settings = .merge sources.options sources.environment (.ofEntries entries)) ∧
    ∀ sources : Sources, sources.settings.IsUsable := by
  refine ⟨Layered.of_settings, ?option, ?environment, ?unusable, ?usable, ?fit⟩
  case option =>
    intro setting sources other value given again
    have settled := Layered.of_settings_of_option given
    exact ⟨settled, settled.trans (Layered.of_settings_of_option again).symm⟩
  case environment =>
    intro setting sources other value given held again seen
    exact Layered.of_settings_congr given held again seen
  case unusable =>
    intro sources unusable
    have merged := Sources.settings_of_unusable unusable
    exact ⟨merged, merged.trans (Sources.settings_withoutFiles sources).symm⟩
  case usable =>
    intro sources entries usable
    rw [Sources.settings_eq_merge, Sources.file_of_hasEntries usable]
  case fit => exact fun sources => Settings.isUsable_merge _ _ _

/-- A program that is started with an address, a credential in the environment and a settings
file. -/
def startedBeside (text : String) : Sources where
  options := ⟨some "http://host//", none, some "brew.toml", none⟩
  environment := fun name => if name = "BREW_TUNER_TOKEN" then some "key" else none
  configHome := none
  files := fun _ => .ok text

/-- A number for a credential makes the whole file useless, also its directory. -/
theorem settings_layered_beside_files :
    Layered.apiUrl.of (startedBeside "").settings = some "http://host" ∧
      Layered.token.of (startedBeside "token = \"other\"").settings =
        Layered.token.of (startedBeside "").settings ∧
      (startedBeside "dataset_dir = \"brews\"\ntoken = 5").settings =
        (startedBeside "dataset_dir = \"brews\"\ntoken = 5").withoutFiles.settings ∧
      (startedBeside "dataset_dir = \"brews\"").settings.datasetDirectory = "brews" := by
  obtain ⟨-, option, environment, unusable, usable, -⟩ := settings_layered
  have wrong : (Toml.read? "dataset_dir = \"brews\"\ntoken = 5").bind SettingsFile.ofTable? =
      none := by decide +kernel
  have right : (Toml.read? "dataset_dir = \"brews\"").bind SettingsFile.ofTable? =
      some ⟨none, none, some "brews", none, none⟩ := by decide +kernel
  have nothing : ∀ entries,
      ¬ (startedBeside "dataset_dir = \"brews\"\ntoken = 5").HasEntries entries := by
    rintro entries ⟨path, text, -, read, parsed, typed⟩
    cases read
    rw [parsed, Option.bind_some, SettingsFile.ofTable?_eq_some_iff.mpr ⟨typed, rfl⟩] at wrong
    cases wrong
  obtain ⟨entries, parsed, made⟩ := Option.bind_eq_some_iff.mp right
  obtain ⟨typed, same⟩ := SettingsFile.ofTable?_eq_some_iff.mp made
  have whole : (startedBeside "dataset_dir = \"brews\"").HasEntries entries :=
    ⟨"brew.toml", _, rfl, rfl, parsed, typed⟩
  refine ⟨?_, ?_, (unusable _ nothing).2, ?_⟩
  · exact (option .apiUrl _ (startedBeside "") "http://host//" rfl rfl).1.trans (by decide)
  · exact environment .token _ _ "key" rfl rfl rfl (by decide)
  · rw [usable _ entries whole, ← same]
    rfl

end Cupping
