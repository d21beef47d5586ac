import Registrar.Http.Settings
import Registrar.Query.Execution
import Registrar.Settings.Environment
import Registrar.Toml.Parser

/-!
# Settings

Settings come from a document with four sections, and from variables of the environment, which win.
A section that is missing has its usual values, and so has a setting that is missing from its
section, with one exception: a section about the service that names no origins allows all of them.

A section may also be an array of its values in the usual order.

## Main definitions

* `Settings` — all settings; `Settings.usual` has the usual values.
* `Settings.ofToml?` — reads them from a document.
* `Settings.override` — settles what the environment says.
* `Settings.load`, `Settings.loadWithEnvironment`, `Settings.loadFirst` — from the text of a file.
-/

namespace Registrar

/-- All settings. -/
structure Settings where
  /-- The directory of the datasets. -/
  dataDirectory : String
  /-- The file of the reviews, below the data directory unless its path is absolute. -/
  reviewsFile : String
  api : ApiSettings
  /-- The limit on the rows of a result. -/
  maxResults : Nat
  logLevel : String
  logFormat : String
deriving DecidableEq, Inhabited, Repr

/-- Why settings cannot be loaded. -/
inductive SettingsError where
  /-- There is no file to read. -/
  | unreadable
  /-- The file is no document, or a setting has the wrong type. -/
  | malformed
deriving DecidableEq, Repr

namespace Settings

/-! ### Usual values -/

/-- The usual data directory. -/
def usualDataDirectory (environment : Environment) : String :=
  match environment.dataDirectory? with
  | some directory => joinPath directory "campus-insight"
  | none => "./insight_data"

/-- The usual file of the reviews. -/
def usualReviewsFile : String := "room_reviews.json"

/-- The usual origins, if the document has no section about the service. -/
def usualOrigins : List String :=
  ["http://localhost:3000", "http://127.0.0.1:3000"]

/-- The usual level of the log. -/
def usualLogLevel : String := "info"

/-- The usual format of the log. -/
def usualLogFormat : String := "pretty"

/-- The usual settings. -/
def usual (environment : Environment) : Settings where
  dataDirectory := usualDataDirectory environment
  reviewsFile := usualReviewsFile
  api := ⟨ApiSettings.defaultHost, ApiSettings.defaultPort, usualOrigins,
    ApiSettings.defaultMaxBodySize⟩
  maxResults := defaultMaxResults
  logLevel := usualLogLevel
  logFormat := usualLogFormat

/-- The path of the file of the reviews. -/
def reviewsPath (settings : Settings) : String :=
  joinPath settings.dataDirectory settings.reviewsFile

/-! ### Reading -/

/-- A text. -/
def readText? : Toml → Option String
  | .string value => some value
  | _ => none

/-- A number that is not negative and below `bound`. -/
def readNat? (bound : Nat) : Toml → Option Nat
  | .integer value => if 0 ≤ value ∧ value < bound then some value.toNat else none
  | _ => none

/-- Texts. -/
def readTexts? : Toml → Option (List String)
  | .array items => items.mapM readText?
  | _ => none

/-- The values of a section by their names. An array has them in the order of `names`. -/
def sectionMembers? (names : List String) : Toml → Option (List (String × Toml))
  | .table members => some members
  | .array items => some (names.zip items)
  | _ => none

/-- The setting of a name in a section, or its usual value if it is missing. -/
def setting? {α : Type} (read : Toml → Option α) (usual : α) (name : String)
    (members : List (String × Toml)) : Option α :=
  match members.lookup name with
  | some value => read value
  | none => some usual

/-- Reads a section of a document, if it is there. -/
def withSection? (document : Toml) (name : String) (names : List String)
    (read : List (String × Toml) → Option Settings) (missing : Settings) : Option Settings :=
  match document.member? name with
  | none => some missing
  | some value => (sectionMembers? names value).bind read

/-- Reads the settings about storage. -/
def readStorage? (environment : Environment) (settings : Settings)
    (members : List (String × Toml)) : Option Settings := do
  return { settings with
    dataDirectory :=
      ← setting? readText? (usualDataDirectory environment) "data_dir" members
    reviewsFile := ← setting? readText? usualReviewsFile "reviews_file" members }

/-- Reads the settings about the service. -/
def readApi? (settings : Settings) (members : List (String × Toml)) : Option Settings := do
  return { settings with
    api := {
      host := ← setting? readText? ApiSettings.defaultHost "host" members
      port := ← setting? (readNat? (twoPow 16)) ApiSettings.defaultPort "port" members
      origins := ← setting? readTexts? [] "cors_origins" members
      maxBodySize :=
        ← setting? (readNat? (twoPow 64)) ApiSettings.defaultMaxBodySize "max_body_size" members } }

/-- Reads the settings about queries. -/
def readQuery? (settings : Settings) (members : List (String × Toml)) : Option Settings := do
  return { settings with
    maxResults := ← setting? (readNat? (twoPow 64)) defaultMaxResults "max_results" members }

/-- Reads the settings about the log. -/
def readLogging? (settings : Settings) (members : List (String × Toml)) : Option Settings := do
  return { settings with
    logLevel := ← setting? readText? usualLogLevel "level" members
    logFormat := ← setting? readText? usualLogFormat "format" members }

/-- Reads the settings of a document. What is not a setting is ignored. -/
def ofToml? (environment : Environment) (document : Toml) : Option Settings := do
  let settings := usual environment
  let settings ← withSection? document "storage" ["data_dir", "reviews_file"]
    (readStorage? environment settings) settings
  let settings ← withSection? document "api" ["host", "port", "cors_origins", "max_body_size"]
    (readApi? settings) settings
  let settings ← withSection? document "query" ["max_results"] (readQuery? settings) settings
  withSection? document "logging" ["level", "format"] (readLogging? settings) settings

/-! ### The environment -/

/-- The settings with what the environment says. A number that cannot be read is ignored. -/
def override (environment : Environment) (settings : Settings) : Settings where
  dataDirectory := (environment.get? "INSIGHT_DATA_DIR").getD settings.dataDirectory
  reviewsFile := settings.reviewsFile
  api := { settings.api with
    host := (environment.get? "INSIGHT_API_HOST").getD settings.api.host
    port := ((environment.get? "INSIGHT_API_PORT").bind (boundedNat? (twoPow 16))).getD
      settings.api.port }
  maxResults := ((environment.get? "INSIGHT_MAX_RESULTS").bind (boundedNat? (twoPow 64))).getD
    settings.maxResults
  logLevel := (environment.get? "INSIGHT_LOG_LEVEL").getD settings.logLevel
  logFormat := (environment.get? "INSIGHT_LOG_FORMAT").getD settings.logFormat

/-- The usual settings with what the environment says. -/
def ofEnvironment (environment : Environment) : Settings :=
  (usual environment).override environment

/-! ### Files -/

/-- The settings in the text of a file. -/
def load (environment : Environment) (text? : Option String) : Except SettingsError Settings :=
  match text? with
  | none => .error .unreadable
  | some text =>
    match (Toml.parse? text).bind (ofToml? environment) with
    | some settings => .ok settings
    | none => .error .malformed

/-- The settings in the text of a file with what the environment says. -/
def loadWithEnvironment (environment : Environment) (text? : Option String) :
    Except SettingsError Settings :=
  (load environment text?).map (override environment)

/-- The settings of the first file that can be loaded. Without any, the environment alone counts. -/
def loadFirst (environment : Environment) : List (Option String) → Settings
  | [] => ofEnvironment environment
  | text? :: others =>
    match loadWithEnvironment environment text? with
    | .ok settings => settings
    | .error _ => loadFirst environment others

end Settings

end Registrar
