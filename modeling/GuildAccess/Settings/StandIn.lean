import GuildAccess.Settings.Toml
import GuildAccess.Settings.Variables

/-!
A library of layered settings to run the program with. It reads files of sections with single values
only, and knows nothing of lists and tables in files. What is shown of loading is shown for every
library that keeps the laws; this one is an instance of them.
-/
namespace GuildAccess.Settings

/-- What there is at a place: a single value, or a section or a list with its entries. -/
inductive Found
  | single (v : Scalar)
  | compound (entries : List Step)
deriving DecidableEq

namespace Found

def read {α : Type} (read? : Scalar → Option α) : Found → Except SettingsError α
  | .single v =>
    match read? v with
    | some a => .ok a
    | none => .error .unreadable
  | .compound _ => .error .unreadable

/-- The name that a value stands for: a text, or the only entry of a section. -/
def name? : Found → Option String
  | .single (.text s) | .compound [.name s] => some s
  | _ => none

/-- The one of some names that a value stands for, in any case. -/
def choose (names : List String) (f : Found) : Except SettingsError (Fin names.length) :=
  match f.name?.bind fun s => names.findFinIdx? fun name => name = lower s with
  | some i => .ok i
  | none => .error .unreadable

end Found

def Plain.toScalar : Plain → Scalar
  | .text s => .text s
  | .whole n => .whole n
  | .truth b => .truth b

def Key.path (k : Key) : Path := [.name k.group, .name k.field]

namespace Layer

/-- The layer of plain values. -/
def ofPlain (values : List (Key × Plain)) : Layer := values.map fun v => (v.1.path, v.2.toScalar)

def found? (l : Layer) (p : Path) : Option Found :=
  match l.value? p with
  | some v => some (.single v)
  | none => if l.reaches p then some (.compound (l.steps p)) else none

/-- The fields of a section, each found under its name or, if there is a list in place of the
section, at its position. -/
def entries (l : Layer) (group : String) (fields : List String) :
    Except SettingsError (String → Option Found) :=
  if (l.value? [.name group]).isSome then .error .unreadable
  else if l.isList [.name group] then
    .ok fun field => l.found? [.name group, .index (fields.idxOf field)]
  else .ok fun field => l.found? [.name group, .name field]

end Layer

def readText (source : String) : Except SettingsError Layer :=
  match Layer.ofToml? source with
  | some l => .ok l
  | none => .error .unreadable

/-- The library to run with. -/
abbrev Library.standIn : Library where
  Source := Layer
  Merged := Layer
  Value := Found
  plain p := .single p.toScalar
  ofText := readText
  ofFile required
    | some source => readText source
    | none => if required then .error .unreadable else .ok []
  ofEnvironment := Layer.ofVariables
  merge defaults sources overrides := .ok
    ((Layer.overlay [] (.ofPlain defaults)).overlay (sources.foldl .overlay [])
      |>.overlay (.ofPlain overrides))
  entries := Layer.entries
  text := Found.read fun v => some v.toText
  whole bound := Found.read fun v => v.toWord?.filter (· < bound)
  truth := Found.read Scalar.toTruth?
  choice := Found.choose

end GuildAccess.Settings
