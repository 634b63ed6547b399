import GuildAccess.Role
import GuildAccess.Overwrite
import GuildAccess.Ranked

/-!
How roles and overrides resolve to permissions, and what rank lets an actor do. Server-wide, the
owner and every administrator hold all flags, and everyone else the union of the roles that
contribute. In a channel the overrides are applied in turn: the everyone role's, those of the held
roles from the lowest rank to the highest, and the member's own; each later one wins.
-/
namespace GuildAccess

/-- Whether a role counts for a user who holds the given ids. -/
def Role.contributes (held : List Snowflake) (r : Role) : Bool := r.isEveryone || held.contains r.id

def Role.isHeld (held : List Snowflake) (r : Role) : Bool := !r.isEveryone && held.contains r.id

namespace Resolver

/-- Unites the permissions of roles with a start, up to the first administrator role, which grants
everything. -/
def unite (start : Permissions) : List Role → Permissions
  | [] => start
  | r :: rest => if r.grantsAdministrator then .all else unite (start ∪ r.permissions) rest

/-- Server-wide permissions of a user who holds the given ids; ids without a role add nothing. -/
def server (roles : List Role) (held : List Snowflake) (isOwner : Bool) : Permissions :=
  if isOwner then .all else unite ∅ (roles.filter (Role.contributes held))

/-- The overwrite that a list keyed by role gives a role; a later entry replaces an earlier one. -/
def overwriteOf? (overwrites : List (Snowflake × Overwrite)) (role : Snowflake) :
    Option Overwrite :=
  (overwrites.reverse.find? fun e => e.1 = role).map (·.2)

/-- Drops each item whose key is that of the item before it. -/
def dropRepeats {α : Type} (key : α → Snowflake) : Option Snowflake → List α → List α
  | _, [] => []
  | last, x :: rest =>
    if last = some (key x) then dropRepeats key last rest
    else x :: dropRepeats key (some (key x)) rest

/-- The overwrites of held roles, in the order in which they apply. -/
def ranked (held : List Role) (overwrites : List (Snowflake × Overwrite)) :
    List (Role × Overwrite) :=
  let found := (held.filter fun r => !r.isEveryone).filterMap fun r =>
    (overwriteOf? overwrites r.id).map fun o => (r, o)
  dropRepeats (·.1.id) none (sortRanked (fun e => (e.1.position, e.1.id)) found)

def applyOpt (o : Option Overwrite) (p : Permissions) : Permissions :=
  match o with
  | some o => o.apply p
  | none => p

/-- Permissions in a channel. Overwrites are looked up for the held roles only. -/
def channel (server : Permissions) (held : List Role) (overwrites : List (Snowflake × Overwrite))
    (everyone user : Option Overwrite) : Permissions :=
  if server.has .administrator then .all
  else
    let base := applyOpt everyone server
    let byRole := (ranked held overwrites).foldl (fun p e => e.2.apply p) base
    applyOpt user byRole

/-- Highest position among the explicitly held roles, 0 without any. -/
def highest (roles : List Role) (held : List Snowflake) : Int :=
  (((roles.filter (Role.isHeld held)).map (·.position)).max?).getD 0

/-- Whether an actor may act on a role at a position. -/
def checkPosition (isOwner : Bool) (highest position : Int) : Except Fault Unit :=
  if isOwner || position < highest then .ok () else .error .outranked

/-- Whether an actor may grant flags. -/
def checkGrant (actor granted : Permissions) : Except Fault Unit :=
  if (granted \ actor).isEmpty then .ok () else .error (.escalation (granted \ actor).nameList)

def checkMember (isOwner : Bool) (highest : Int) (targetIsOwner : Bool) (targetHighest : Int) :
    Except Fault Unit :=
  if targetIsOwner then .error .ownerProtected
  else if isOwner || targetHighest < highest then .ok ()
  else .error .outranked

end Resolver
end GuildAccess
