import Cupping.Console.Performance
import Std.Time.DateTime.Timestamp

/-!
The program. It performs what its arguments say with the files and variables that it finds. It has
no transport: what it asks of the service is not answered.
-/

namespace Cupping.Program

open Console

def variableNames : List String :=
  ["BREW_TUNER_API_URL", "BREW_TUNER_TOKEN", "BREW_TUNER_CONFIG", "BREW_TUNER_DATA_DIR"]

def readFault : IO.Error → ReadFault
  | .noFileOrDirectory .. => .absent
  | .inappropriateType _ 21 _ => .directory
  | .inappropriateType .. => .notDirectory
  | error => .other (toString error)

def readText (path : String) : IO (String × Except ReadFault String) := do
  if path.contains '\x00' then return (path, .error .badName)
  try
    let content ← IO.FS.readBinFile path
    return (path, match Text.Utf8.strict? content.toList with
      | some text => .ok text
      | none => .error .notText)
  catch error => return (path, .error (readFault error))

def readEnvironment : IO Environment := do
  let values ← variableNames.mapM fun name => return (name, ← IO.getEnv name)
  return fun name => (values.lookup name).join

def configHome? : IO (Option String) := do
  let named := (← IO.getEnv "XDG_CONFIG_HOME").filter (·.startsWith "/")
  let home := (← IO.getEnv "HOME").filter (!·.isEmpty)
  return named <|> home.map (joinPath · ".config")

def look (line : CommandLine) : IO Surroundings := do
  let environment ← readEnvironment
  let home ← configHome?
  let found ← (Settings.filePath? line.options environment home).toList.mapM readText
  let settings := Settings.resolve line.options environment home (.ofReadings found)
  let data ← (line.command.files settings.datasetDirectory).mapM readText
  return ⟨environment, home, .ofReadings (found ++ data)⟩

/-- Runs the program, and tells its exit code. -/
def run (arguments : List String) : IO UInt32 := do
  let surroundings ← match CommandLine.read arguments with
    | .ok line => look line
    | .error _ => pure ⟨fun _ => none, none, .ofReadings []⟩
  let performance := Performance.ofArguments surroundings ⟨"", [], []⟩ arguments
  let now ← Std.Time.Timestamp.now
  let time := clockText now.toSecondsSinceUnixEpoch.val.toNat
  for line in performance.lines do
    IO.println (line.render time)
  IO.eprint performance.ending.report
  return UInt32.ofNat performance.ending.code

end Cupping.Program

def main (arguments : List String) : IO UInt32 :=
  Cupping.Program.run arguments
