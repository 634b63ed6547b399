import GuildAccess.Snowflake
import GuildAccess.Instant
import GuildAccess.Overwrite

/-!
Channels of a guild. A locked channel remembers the everyone override that its lock replaced.
-/
namespace GuildAccess

/-- What a channel is for. -/
inductive ChannelKind
  | text
  | voice
  | category
deriving DecidableEq

namespace ChannelKind

def code : ChannelKind → Int
  | .text => 0
  | .voice => 2
  | .category => 4

/-- The kind of a stored code; unknown codes are text channels. -/
def ofCode (code : Int) : ChannelKind :=
  if code = 2 then .voice else if code = 4 then .category else .text

def name : ChannelKind → String
  | .text => "text"
  | .voice => "voice"
  | .category => "category"

end ChannelKind

structure Channel where
  id : Snowflake
  guildId : Snowflake
  name : String
  kind : ChannelKind
  topic : Option String
  position : Int
  parentId : Option Snowflake
  locked : Bool
  preLock : Option Overwrite
  createdAt : Instant
  updatedAt : Instant
deriving DecidableEq

namespace Channel

def new (id guildId : Snowflake) (name : String) (kind : ChannelKind) (now : Instant) :
    Channel where
  id := id
  guildId := guildId
  name := name
  kind := kind
  topic := none
  position := 0
  parentId := none
  locked := false
  preLock := none
  createdAt := now
  updatedAt := now

/-- Locks the channel and remembers the everyone override before. -/
def lock (c : Channel) (previous : Option Overwrite) (now : Instant) : Channel :=
  { c with locked := true, preLock := previous, updatedAt := now }

/-- Unlocks the channel and forgets the everyone override before the lock. -/
def unlock (c : Channel) (now : Instant) : Channel :=
  { c with locked := false, preLock := none, updatedAt := now }

def setName (c : Channel) (name : String) (now : Instant) : Channel :=
  { c with name := name, updatedAt := now }

def setParent (c : Channel) (parent : Option Snowflake) (now : Instant) : Channel :=
  { c with parentId := parent, updatedAt := now }

end Channel
end GuildAccess
