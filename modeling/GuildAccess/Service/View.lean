import GuildAccess.Store

/-!
What callers get to see of the rows. A view has no times of creation or update, except where a
caller is told them.
-/
namespace GuildAccess

/-- A role as seen by callers: an administrator by mark or by bit is one. -/
structure RoleView where
  id : Snowflake
  guildId : Snowflake
  name : String
  color : Int
  hoist : Bool
  position : Int
  permissions : Permissions
  isAdmin : Bool
  mentionable : Bool
  showTag : Bool
  tagStyle : Option String
  isEveryone : Bool
deriving DecidableEq

def Role.view (r : Role) : RoleView where
  id := r.id
  guildId := r.guildId
  name := r.name
  color := r.color
  hoist := r.hoist
  position := r.position
  permissions := r.permissions
  isAdmin := r.grantsAdministrator
  mentionable := r.mentionable
  showTag := r.showTag
  tagStyle := r.tagStyle
  isEveryone := r.isEveryone

/-- A member as seen by callers. -/
structure MemberView where
  guildId : Snowflake
  userId : Snowflake
  nickname : Option String
  roles : List Snowflake
  joinedAt : Instant
deriving DecidableEq

def Member.view (m : Member) : MemberView := ⟨m.guildId, m.userId, m.nickname, m.roles, m.joinedAt⟩

/-- A channel as seen by callers. -/
structure ChannelView where
  id : Snowflake
  guildId : Snowflake
  name : String
  kind : ChannelKind
  position : Int
  parentId : Option Snowflake
  locked : Bool
deriving DecidableEq

def Channel.view (c : Channel) : ChannelView :=
  ⟨c.id, c.guildId, c.name, c.kind, c.position, c.parentId, c.locked⟩

/-- An override as seen by callers. -/
structure OverrideView where
  channelId : Snowflake
  target : OverrideTarget
  overwrite : Overwrite
  updatedAt : Instant
deriving DecidableEq

def ChannelOverride.view (o : ChannelOverride) : OverrideView :=
  ⟨o.channelId, o.target, o.overwrite, o.updatedAt⟩

/-- What a user may do in a guild, or in one of its channels. -/
structure EffectivePermissions where
  guildId : Snowflake
  channelId : Option Snowflake
  userId : Snowflake
  permissions : Permissions
deriving DecidableEq

/-- A page of the log, newest entry first. `before` is the cursor of the next page. -/
structure AuditPage where
  entries : List Audit.Entry
  before : Option Snowflake
  hasMore : Bool
  limit : Nat

end GuildAccess
