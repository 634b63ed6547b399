import GuildAccess.Paging
import GuildAccess.Settings.StandIn
import GuildAccess.Snowflake.Mint

/-!
Settings of the program. They come in layers: what is built in, a file, variables of the
environment, and last the address of the database from a variable of its own. A library merges the
layers; what comes out is read and then checked as a whole, so that two sides of a comparison may
come from different layers.
-/
namespace GuildAccess

/-- Where the program runs. -/
inductive Stage
  | development
  | staging
  | production
deriving DecidableEq

namespace Stage

def all : List Stage := [.development, .staging, .production]

def name : Stage → String
  | .development => "development"
  | .staging => "staging"
  | .production => "production"

def ofName? (s : String) : Option Stage := all.find? fun stage => stage.name = s

end Stage

/-- Settings of the log output. -/
structure TelemetrySettings where
  level : String := "info"
  json : Bool := false
deriving DecidableEq

/-- Settings of the database. The time to wait for a connection is in seconds. -/
structure DatabaseSettings where
  url : String := ""
  maxConnections : Nat := 20
  minConnections : Nat := 5
  acquireTimeout : Nat := 5
deriving DecidableEq

structure Settings where
  name : String := "haven"
  stage : Stage := .development
  database : DatabaseSettings := {}
  audit : Paging := {}
  worker : Nat := 0
  telemetry : TelemetrySettings := {}
deriving DecidableEq

namespace Settings

/-- What is built in. -/
def builtIn : List (Key × Plain) :=
  let d : Settings := {}
  [(⟨"app", "name"⟩, .text d.name), (⟨"app", "env"⟩, .text "development"),
    (⟨"database", "url"⟩, .text ""),
    (⟨"database", "max_connections"⟩, .whole d.database.maxConnections),
    (⟨"database", "min_connections"⟩, .whole d.database.minConnections),
    (⟨"database", "acquire_timeout_secs"⟩, .whole d.database.acquireTimeout),
    (⟨"audit", "default_page_size"⟩, .whole d.audit.standard),
    (⟨"audit", "max_page_size"⟩, .whole d.audit.maximum),
    (⟨"snowflake", "worker_id"⟩, .whole 0),
    (⟨"telemetry", "level"⟩, .text d.telemetry.level),
    (⟨"telemetry", "json"⟩, .truth false)]

/-- How variables are named for settings. -/
def naming : Naming := ⟨"HAVEN", "__", "__", true⟩

def overrides (environment : List (String × String)) : List (Key × Plain) :=
  match environment.find? fun v => v.1 = "DATABASE_URL" with
  | some v => [(⟨"database", "url"⟩, .text v.2)]
  | none => []

/-- Checks what has to hold of the values together. -/
def check (s : Settings) : Except SettingsError Unit :=
  if Mint.workers ≤ s.worker then
    .error (.invalidValue "snowflake.worker_id" (toString s.worker ++ " (must be < 1024)"))
  else if s.audit.maximum = 0 then .error (.invalidValue "audit.max_page_size" "0")
  else if s.database.maxConnections < s.database.minConnections then
    .error (.invalidValue "database.min_connections"
      (toString s.database.minConnections ++ " exceeds max_connections " ++
        toString s.database.maxConnections))
  else .ok ()

section With
variable (lib : Library)

/-- The value of a field, or a default where there is none. -/
def field {α : Type} (value : Option lib.Value) (read : lib.Value → Except SettingsError α)
    (default : α) : Except SettingsError α :=
  match value with
  | some v => read v
  | none => .ok default

def toStage (v : lib.Value) : Except SettingsError Stage := do
  let i ← lib.choice (Stage.all.map Stage.name) v
  .ok (Stage.all.get (i.cast (List.length_map ..)))

/-- Reads settings off what was merged. -/
def decode (merged : lib.Merged) : Except SettingsError Settings := do
  let d : Settings := {}
  let half := lib.whole 0x100000000
  let app ← lib.entries merged "app" ["name", "env"]
  let name ← field lib (app "name") lib.text d.name
  let stage ← field lib (app "env") (toStage lib) d.stage
  let database ← lib.entries merged "database"
    ["url", "max_connections", "min_connections", "acquire_timeout_secs"]
  let url ← field lib (database "url") lib.text d.database.url
  let most ← field lib (database "max_connections") half d.database.maxConnections
  let least ← field lib (database "min_connections") half d.database.minConnections
  let timeout ← field lib (database "acquire_timeout_secs") (lib.whole 0x10000000000000000)
    d.database.acquireTimeout
  let audit ← lib.entries merged "audit" ["default_page_size", "max_page_size"]
  let standard ← field lib (audit "default_page_size") half d.audit.standard
  let maximum ← field lib (audit "max_page_size") half d.audit.maximum
  let snowflake ← lib.entries merged "snowflake" ["worker_id"]
  let worker ← field lib (snowflake "worker_id") (lib.whole 0x10000) d.worker
  let telemetry ← lib.entries merged "telemetry" ["level", "json"]
  let level ← field lib (telemetry "level") lib.text d.telemetry.level
  let json ← field lib (telemetry "json") lib.truth d.telemetry.json
  .ok ⟨name, stage, ⟨url, most, least, timeout⟩, ⟨standard, maximum⟩, worker, ⟨level, json⟩⟩

/-- The settings of sources, the later ones over the earlier ones. -/
def ofSources (sources : List lib.Source) (overrides : List (Key × Plain)) :
    Except SettingsError Settings := do
  let s ← decode lib (← lib.merge builtIn sources overrides)
  s.check
  .ok s

/-- The settings of a file alone. -/
def ofTextWith (source : String) : Except SettingsError Settings := do
  ofSources lib [← lib.ofText source] []

/-- The settings of a file, if it is there, and the environment. -/
def loadWith (file : Option String) (environment : List (String × String)) :
    Except SettingsError Settings := do
  let file ← lib.ofFile false file
  let named ← lib.ofEnvironment naming environment
  ofSources lib [file, named] (overrides environment)

end With

/-- The settings of a file alone. -/
def ofToml : String → Except SettingsError Settings := ofTextWith .standIn

/-- The settings of a file, if it is there, and the environment. -/
def load : Option String → List (String × String) → Except SettingsError Settings :=
  loadWith .standIn

end Settings
end GuildAccess
