import GuildAccess.Snowflake
import GuildAccess.Instant

/-!
Guilds: communities with one owner.
-/
namespace GuildAccess

structure Guild where
  id : Snowflake
  name : String
  ownerId : Snowflake
  createdAt : Instant
  updatedAt : Instant
deriving DecidableEq

namespace Guild

def new (id : Snowflake) (name : String) (owner : Snowflake) (now : Instant) : Guild :=
  ⟨id, name, owner, now, now⟩

def isOwner (g : Guild) (user : Snowflake) : Bool := g.ownerId = user

def transfer (g : Guild) (owner : Snowflake) (now : Instant) : Guild :=
  { g with ownerId := owner, updatedAt := now }

end Guild
end GuildAccess
