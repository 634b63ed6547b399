import GuildAccess.Double.Text
import GuildAccess.Settings.Library

/-!
Values of settings before their kind is known. A variable of the environment is text, and is taken
for the first of truth value, whole number and real number that it spells. A setting accepts every
value that can stand for its kind.
-/
namespace GuildAccess.Settings

/-- A single value. -/
inductive Scalar
  | truth (b : Bool)
  | whole (n : Int)
  | real (d : Double)
  | text (s : String)
deriving DecidableEq

namespace Scalar

def whole? (s : String) : Option Int :=
  match Text.signed? s.toList with
  | some n => if -0x8000000000000000 ≤ n ∧ n < 0x8000000000000000 then some n else none
  | none => none

def ofVariable (s : String) : Scalar :=
  if lower s = "true" then .truth true
  else if lower s = "false" then .truth false
  else
    match whole? s, Double.parse? s with
    | some n, _ => .whole n
    | none, some d => .real d
    | none, none => .text s

def isYes (s : String) : Bool := ["true", "on", "yes"].contains (lower s)

def isNo (s : String) : Bool := ["false", "off", "no"].contains (lower s)

def toWord? : Scalar → Option Nat
  | .truth b => some b.toNat
  | .whole n => if 0 ≤ n then some n.toNat else none
  | .real d => some d.toWord
  | .text s =>
    if isYes s then some 1
    else if isNo s then some 0
    else
      match Text.unsigned? s.toList with
      | some n => if n < 0x10000000000000000 then some n else none
      | none => none

def toTruth? : Scalar → Option Bool
  | .truth b => some b
  | .whole n => some (n ≠ 0)
  | .real d => some !d.isZero
  | .text s =>
    if isYes s ∨ s = "1" then some true else if isNo s ∨ s = "0" then some false else none

def toText : Scalar → String
  | .truth b => if b then "true" else "false"
  | .whole n => toString n
  | .real d => d.render
  | .text s => s

end Scalar
end GuildAccess.Settings
