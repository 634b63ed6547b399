import GuildAccess.CallError

/-!
The library of layered settings, as far as the program uses it. It reads sources, lays them over
each other and gives out single values of what comes of that. The program is written for any such
library: which keys there are, what is built in, in which order the sources are given, what is to
win over all of them and what each value is read as, is the program's own.
-/
namespace GuildAccess.Settings

/-- The key of a setting: a section and a field in it. -/
structure Key where
  group : String
  field : String
deriving DecidableEq

/-- A value that the program hands to the library. -/
inductive Plain
  | text (s : String)
  | whole (n : Int)
  | truth (b : Bool)
deriving DecidableEq

/-- The small letter of a letter, if it is one of ASCII. The Kelvin sign is the only letter beyond
ASCII that has such a small letter. -/
def lowerChar (c : Char) : Char := if c = '\u212a' then 'k' else c.toLower

def lower (s : String) : String := s.map lowerChar

/-- A text with a point for every separator, if there is one; `skip` is how much of a separator is
still to be left out. -/
def pointed (between : List Char) : (skip : Nat) → List Char → List Char
  | _, [] => []
  | skip + 1, _ :: rest => pointed between skip rest
  | 0, c :: rest =>
    if between ≠ [] ∧ between <+: c :: rest then '.' :: pointed between (between.length - 1) rest
    else c :: pointed between 0 rest

/-- How variables of the environment are named for settings: what their names begin with, what parts
that from the key, and what parts the key. With parsing, a variable is taken for a number or a truth
value if it spells one. -/
structure Naming where
  mark : String
  behindMark : String
  between : String
  parsing : Bool
deriving DecidableEq

/-- The key that a variable is named for, in any case, with points between its parts. -/
def Naming.dotted? (n : Naming) (name : String) : Option (List Char) :=
  let mark := (lower (n.mark ++ n.behindMark)).toList
  let name := (lower name).toList
  if mark.isPrefixOf name then some (pointed n.between.toList 0 (name.drop mark.length)) else none

/-- A library of layered settings. Reading may fail, and so may merging. A section of what was
merged is asked for with the names of its fields, and gives the value of each that is there. -/
structure Library where
  Source : Type
  Merged : Type
  Value : Type
  plain : Plain → Value
  ofText : String → Except SettingsError Source
  ofFile : (required : Bool) → Option String → Except SettingsError Source
  ofEnvironment : Naming → List (String × String) → Except SettingsError Source
  merge : (defaults : List (Key × Plain)) → List Source → (overrides : List (Key × Plain)) →
    Except SettingsError Merged
  entries : Merged → (group : String) → (fields : List String) →
    Except SettingsError (String → Option Value)
  text : Value → Except SettingsError String
  whole : (bound : Nat) → Value → Except SettingsError Nat
  truth : Value → Except SettingsError Bool
  choice : (names : List String) → Value → Except SettingsError (Fin names.length)

end GuildAccess.Settings
