import GuildAccess.Permissions
import GuildAccess.Fault

/-!
Pairs of flags to allow and flags to deny, applied on top of a permission set in one channel. Denied
flags are cleared first, so a flag in both halves ends up set.
-/
namespace GuildAccess

/-- Flags to allow and flags to deny. -/
structure Overwrite where
  allow : Permissions := ∅
  deny : Permissions := ∅
deriving DecidableEq

namespace Overwrite

/-- Clears the denied flags, then sets the allowed ones. -/
def apply (o : Overwrite) (p : Permissions) : Permissions := (p \ o.deny) ∪ o.allow

/-- Whether the pair changes nothing. -/
def isEmpty (o : Overwrite) : Bool := o.allow.isEmpty && o.deny.isEmpty

/-- A pair fit to be stored has no flag in both halves. -/
def validate (o : Overwrite) : Except Fault Unit :=
  if (o.allow ∩ o.deny).isEmpty then .ok () else .error (.overlap (o.allow ∩ o.deny).nameList)

@[simp] theorem has_apply (o : Overwrite) (p : Permissions) (f : Flag) :
    (o.apply p).has f = ((p.has f && !o.deny.has f) || o.allow.has f) := by
  simp [apply]

end Overwrite
end GuildAccess
