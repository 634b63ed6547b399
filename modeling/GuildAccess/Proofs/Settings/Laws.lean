import GuildAccess.Proofs.Judgement
import GuildAccess.Settings

/-!
What settings are decoded from. The program names its settings to the library, and each is what its
field reads as, or what is built in where the field is missing. What the library does with sources
is not the program's: as far as loading relies on it, it is written down as laws.
-/
namespace GuildAccess.Settings

/-- A setting. -/
inductive Setting
  | name
  | stage
  | url
  | maxConnections
  | minConnections
  | acquireTimeout
  | standardPageSize
  | maximumPageSize
  | worker
  | level
  | json
deriving DecidableEq

namespace Setting

def all : List Setting :=
  [.name, .stage, .url, .maxConnections, .minConnections, .acquireTimeout, .standardPageSize,
    .maximumPageSize, .worker, .level, .json]

def key : Setting → Key
  | .name => ⟨"app", "name"⟩
  | .stage => ⟨"app", "env"⟩
  | .url => ⟨"database", "url"⟩
  | .maxConnections => ⟨"database", "max_connections"⟩
  | .minConnections => ⟨"database", "min_connections"⟩
  | .acquireTimeout => ⟨"database", "acquire_timeout_secs"⟩
  | .standardPageSize => ⟨"audit", "default_page_size"⟩
  | .maximumPageSize => ⟨"audit", "max_page_size"⟩
  | .worker => ⟨"snowflake", "worker_id"⟩
  | .level => ⟨"telemetry", "level"⟩
  | .json => ⟨"telemetry", "json"⟩

def standard : Setting → Plain
  | .name => .text "haven"
  | .stage => .text "development"
  | .url => .text ""
  | .maxConnections => .whole 20
  | .minConnections => .whole 5
  | .acquireTimeout => .whole 5
  | .standardPageSize => .whole 50
  | .maximumPageSize => .whole 100
  | .worker => .whole 0
  | .level => .text "info"
  | .json => .truth false

def of (s : Settings) : Setting → Plain
  | .name => .text s.name
  | .stage => .text s.stage.name
  | .url => .text s.database.url
  | .maxConnections => .whole s.database.maxConnections
  | .minConnections => .whole s.database.minConnections
  | .acquireTimeout => .whole s.database.acquireTimeout
  | .standardPageSize => .whole s.audit.standard
  | .maximumPageSize => .whole s.audit.maximum
  | .worker => .whole s.worker
  | .level => .text s.telemetry.level
  | .json => .truth s.telemetry.json

def fields (k : Setting) : List String :=
  (all.filter fun other => other.key.group = k.key.group).map fun other => other.key.field

end Setting

variable {lib : Library} {s : Settings} {merged : lib.Merged}

/-- A setting is what a value of the library reads as. -/
def Holds (lib : Library) (s : Settings) : Setting → lib.Value → Prop
  | .name, v => lib.text v = .ok s.name
  | .stage, v => ∃ i, lib.choice ["development", "staging", "production"] v = .ok i ∧
    [Stage.development, .staging, .production].get i = s.stage
  | .url, v => lib.text v = .ok s.database.url
  | .maxConnections, v => lib.whole 0x100000000 v = .ok s.database.maxConnections
  | .minConnections, v => lib.whole 0x100000000 v = .ok s.database.minConnections
  | .acquireTimeout, v => lib.whole 0x10000000000000000 v = .ok s.database.acquireTimeout
  | .standardPageSize, v => lib.whole 0x100000000 v = .ok s.audit.standard
  | .maximumPageSize, v => lib.whole 0x100000000 v = .ok s.audit.maximum
  | .worker, v => lib.whole 0x10000 v = .ok s.worker
  | .level, v => lib.text v = .ok s.telemetry.level
  | .json, v => lib.truth v = .ok s.telemetry.json

/-- The value of a field is what a setting reads it as; a field that is missing leaves the setting
as it is built in. -/
def Reads (lib : Library) (s : Settings) (k : Setting) : Option lib.Value → Prop
  | some v => s.Holds lib k v
  | none => k.of s = k.standard

/-- Settings that are read off what was merged, field by field. -/
def DecodedFrom (s : Settings) (lib : Library) (merged : lib.Merged) : Prop :=
  ∀ k : Setting, ∃ read, lib.entries merged k.key.group k.fields = .ok read ∧
    s.Reads lib k (read k.key.field)

/-- A name of small letters and underscores. -/
def isPlain (name : String) : Bool := name ≠ "" && name.toList.all fun c => c.isLower || c = '_'

structure Key.IsPlain (k : Key) : Prop where
  group : isPlain k.group = true
  field : isPlain k.field = true

def Key.dotted (k : Key) : List Char := k.group.toList ++ '.' :: k.field.toList

/-- What loading relies on about the library, where `sets?` is what a source sets a key to and
`parsed` is what the text of a variable is taken for. A file that is there is read like a text, and
one that may be missing and is missing sets nothing. The variables set the keys that they are named
for, the last one of a name counting; an environment where none is named for a key makes a source
that adds nothing. A plain value is read as what it is, and the name of a choice as that choice. -/
structure Library.Lawful (lib : Library) (sets? : lib.Source → Key → Option lib.Value)
    (parsed : String → lib.Value) : Prop where
  file_there : ∀ required source, lib.ofFile required (some source) = lib.ofText source
  file_missing : ∃ x, lib.ofFile false none = .ok x ∧ ∀ key, sets? x key = none
  none_named : ∀ naming environment, (∀ v ∈ environment, Naming.dotted? naming v.1 = none) →
    ∃ x, lib.ofEnvironment naming environment = .ok x ∧ ∀ defaults sources overrides,
      lib.merge defaults (sources ++ [x]) overrides = lib.merge defaults sources overrides
  named : ∀ naming environment x, lib.ofEnvironment naming environment = .ok x →
    naming.parsing = true → ∀ key : Key, key.IsPlain → sets? x key =
      (environment.reverse.find? fun v => naming.dotted? v.1 = some key.dotted).map fun v =>
        parsed v.2
  text_plain : ∀ s, lib.text (lib.plain (.text s)) = .ok s
  whole_plain : ∀ bound n, n < bound → lib.whole bound (lib.plain (.whole n)) = .ok n
  truth_plain : ∀ b, lib.truth (lib.plain (.truth b)) = .ok b
  choice_plain : ∀ names : List String, names.Nodup → (∀ name ∈ names, lower name = name) →
    ∀ i, lib.choice names (lib.plain (.text (names.get i))) = .ok i

/-- Sources are merged key by key: over any defaults and under any overrides, the value of a field
is what the overrides set it to, or the last source that sets it, or the defaults. -/
def Library.KeyByKey (lib : Library) (sets? : lib.Source → Key → Option lib.Value)
    (sources : List lib.Source) : Prop :=
  ∀ defaults overrides merged, lib.merge defaults sources overrides = .ok merged →
    ∀ group fields read, lib.entries merged group fields = .ok read → ∀ field ∈ fields,
      read field = (((overrides.reverse.lookup ⟨group, field⟩).map lib.plain).or
        (sources.reverse.findSome? fun x => sets? x ⟨group, field⟩)).or
          ((defaults.reverse.lookup ⟨group, field⟩).map lib.plain)

end GuildAccess.Settings
