import GuildAccess.Permissions
import GuildAccess.Text.Decimal
import GuildAccess.Text.Quoted

/-!
Permission sets in text: the bits as one decimal number below 2^64. Text from a client is refused
when it has bits without a flag; text from storage is trusted, loses such bits, and grants nothing
when it cannot be read.
-/
namespace GuildAccess.Permissions

/-- Why a text or number is no permission set. -/
inductive ReadError
  | malformed (text : String)
  | unknownBits (bits : Nat)
deriving DecidableEq

def ReadError.message : ReadError → String
  | .malformed text => "invalid permissions string: " ++ Text.quoted text
  | .unknownBits bits => "unknown permission bits: 0x" ++ Text.hex bits

/-- Written form: the bits in decimal. -/
def render (p : Permissions) : String := toString p.toNat

def unknown (n : Nat) : Nat := n - n % 0x200000

def ofBits (n : Nat) : Except ReadError Permissions :=
  if unknown n = 0 then .ok (ofNat n) else .error (.unknownBits (unknown n))

/-- The number below 2^64 that a text writes. -/
def word? (s : String) : Option Nat :=
  match Text.unsigned? (Text.trim s.toList) with
  | some n => if n < 0x10000000000000000 then some n else none
  | none => none

def parse (s : String) : Except ReadError Permissions :=
  match word? s with
  | some n => ofBits n
  | none => .error (.malformed s)

def ofStored (s : String) : Permissions :=
  match word? s with
  | some n => ofNat n
  | none => ∅

end GuildAccess.Permissions
