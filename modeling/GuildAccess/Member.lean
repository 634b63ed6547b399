import GuildAccess.Snowflake
import GuildAccess.Instant

/-!
Members of a guild. A member lists the roles assigned to it, each once and in the order they were
assigned; the everyone role is held without being listed.
-/
namespace GuildAccess

/-- Membership of a user in a guild. -/
structure Member where
  guildId : Snowflake
  userId : Snowflake
  nickname : Option String
  roles : List Snowflake
  joinedAt : Instant
  updatedAt : Instant
deriving DecidableEq

namespace Member

/-- A member that joins now, without roles. -/
def new (guildId userId : Snowflake) (now : Instant) : Member :=
  ⟨guildId, userId, none, [], now, now⟩

def hasRole (m : Member) (role : Snowflake) : Bool := m.roles.contains role

/-- Assigns a role, last in the list; a role already there is left alone. -/
def addRole (m : Member) (role : Snowflake) (now : Instant) : Member :=
  if m.hasRole role then m else { m with roles := m.roles ++ [role], updatedAt := now }

def removeRole (m : Member) (role : Snowflake) (now : Instant) : Member :=
  if m.hasRole role then { m with roles := m.roles.erase role, updatedAt := now } else m

/-- Assigns many roles in turn. -/
def withRoles (m : Member) (roles : List Snowflake) (now : Instant) : Member :=
  roles.foldl (fun m role => m.addRole role now) m

def setNickname (m : Member) (nickname : Option String) (now : Instant) : Member :=
  { m with nickname := nickname, updatedAt := now }

/-- The nickname, or else the name of the user. -/
def displayName (m : Member) (userName : String) : String := m.nickname.getD userName

end Member
end GuildAccess
