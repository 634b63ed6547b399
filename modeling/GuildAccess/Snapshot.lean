import GuildAccess.Resolver
import GuildAccess.ChannelOverride

/-!
All that one permission decision depends on: a user, the roles of the guild, the ids the user holds
and the overrides of at most one channel. It is loaded for the decision and not kept.
-/
namespace GuildAccess

/-- The inputs of a decision. -/
structure Snapshot where
  userId : Snowflake
  roles : List Role
  held : List Snowflake
  isOwner : Bool
  overrides : List ChannelOverride

namespace Snapshot

/-- The everyone role: the first role so marked. -/
def everyone? (s : Snapshot) : Option Role := s.roles.find? (·.isEveryone)

/-- The roles explicitly held, in the order of the guild's roles. -/
def heldRoles (s : Snapshot) : List Role := s.roles.filter (Role.isHeld s.held)

def highest (s : Snapshot) : Int := Resolver.highest s.roles s.held

def server (s : Snapshot) : Permissions := Resolver.server s.roles s.held s.isOwner

/-- The override of the everyone role, the last if there are several. -/
def everyoneOverwrite? (s : Snapshot) : Option Overwrite :=
  (s.overrides.reverse.find? fun o =>
    match o.target with
    | .role id => s.everyone?.map (·.id) = some id
    | .member _ => false).map (·.overwrite)

/-- The override of the user, the last if there are several. -/
def userOverwrite? (s : Snapshot) : Option Overwrite :=
  (s.overrides.reverse.find? fun o => o.target = .member s.userId).map (·.overwrite)

/-- The overrides of roles other than the everyone role. -/
def roleOverwrites (s : Snapshot) : List (Snowflake × Overwrite) :=
  s.overrides.filterMap fun o =>
    match o.target with
    | .role id => if s.everyone?.map (·.id) = some id then none else some (id, o.overwrite)
    | .member _ => none

/-- Permissions in the channel whose overrides were loaded. -/
def channel (s : Snapshot) : Permissions :=
  Resolver.channel s.server s.heldRoles s.roleOverwrites s.everyoneOverwrite? s.userOverwrite?

/-- The override of a target, the first if there are several. -/
def overwriteOf? (s : Snapshot) (target : OverrideTarget) : Option Overwrite :=
  (s.overrides.find? fun o => o.target = target).map (·.overwrite)

end Snapshot
end GuildAccess
