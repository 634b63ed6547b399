import GuildAccess.Settings.Layer
import GuildAccess.Settings.Library

/-!
Variables of the environment as a layer of settings. In the dotted key that a variable is named for,
points part the names of a path, and a position in a list stands in brackets; a variable whose name
is no such path sets nothing.
-/
namespace GuildAccess.Settings

def isNameChar (c : Char) : Bool := c.isAlphanum || c = '_' || c = '-' || c = ' '

def readName (cs : List Char) : Option (Step × List Char) :=
  let name := cs.takeWhile isNameChar
  if name.isEmpty then none else some (.name (String.ofList name), cs.dropWhile isNameChar)

/-- A place in a list, which may lie outside of every list. -/
def place (n : Int) : Except SettingsError Step :=
  if n < 0 then .error .beforeList
  else if 0x100000000000000 ≤ n then .error .beyondMemory
  else .ok (.index n.toNat)

/-- A whole number of 64 bits up to a closing bracket, blanks around it aside. -/
def readPlace (cs : List Char) : Option (Int × List Char) :=
  let isBlank (c : Char) : Bool := c = ' ' || c = '\t'
  let cs := cs.dropWhile isBlank
  let (negative, cs) := match cs with
    | '-' :: rest => (true, rest)
    | cs => (false, cs)
  match Text.digits? (cs.takeWhile Char.isDigit), (cs.dropWhile Char.isDigit).dropWhile isBlank with
  | some size, ']' :: rest =>
    let n : Int := if negative then -(size : Int) else size
    if -0x8000000000000000 ≤ n ∧ n < 0x8000000000000000 then some (n, rest) else none
  | _, _ => none

/-- The steps behind the first name of a path, as many as `fuel` allows. -/
def readSteps : Nat → List Char → Option (List (Except SettingsError Step))
  | _, [] => some []
  | 0, _ => none
  | fuel + 1, '.' :: cs => do
    let (step, rest) ← readName cs
    let later ← readSteps fuel rest
    some (.ok step :: later)
  | fuel + 1, '[' :: cs => do
    let (n, rest) ← readPlace cs
    let later ← readSteps fuel rest
    some (place n :: later)
  | _, _ => none

def readPath (cs : List Char) : Option (Except SettingsError Path) := do
  let (first, rest) ← readName cs
  let later ← readSteps rest.length rest
  some ((Except.ok first :: later).mapM fun step => step)

/-- The path that a variable sets. -/
def variablePath? (naming : Naming) (name : String) : Option (Except SettingsError Path) := do
  readPath (← naming.dotted? name)

def Layer.ofVariables (naming : Naming) (environment : List (String × String)) :
    Except SettingsError Layer :=
  let value (s : String) : Scalar := if naming.parsing then .ofVariable s else .text s
  let assignments := environment.filterMap fun v =>
    (variablePath? naming v.1).map fun path => path.map fun p => (p, value v.2)
  assignments.mapM fun a => a

end GuildAccess.Settings
