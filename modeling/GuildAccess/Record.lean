import GuildAccess.Guild
import GuildAccess.Role
import GuildAccess.Channel
import GuildAccess.Member
import GuildAccess.ChannelOverride
import GuildAccess.Audit
import GuildAccess.Permissions.Text

/-!
Rows of a database table, where permission sets and names are text, and how they are read. Reading
is lenient where a stored value can only be too wide or outdated, and fails where the kind of a row
cannot be told.
-/
namespace GuildAccess

structure RoleRecord where
  id : Snowflake
  guildId : Snowflake
  name : String
  color : Int
  hoist : Bool
  position : Int
  permissions : String
  isAdmin : Bool
  mentionable : Bool
  showTag : Bool
  tagStyle : Option String
  isEveryone : Bool
  createdAt : Instant
  updatedAt : Instant

/-- The role of a row. The administrator mark is taken as stored. -/
def RoleRecord.toRole (r : RoleRecord) : Role where
  id := r.id
  guildId := r.guildId
  name := r.name
  color := r.color
  hoist := r.hoist
  position := r.position
  permissions := .ofStored r.permissions
  isAdmin := r.isAdmin
  mentionable := r.mentionable
  showTag := r.showTag
  tagStyle := r.tagStyle
  isEveryone := r.isEveryone
  createdAt := r.createdAt
  updatedAt := r.updatedAt

/-- A stored channel. The two columns for the override before a lock are both empty if there was
none. -/
structure ChannelRecord where
  id : Snowflake
  guildId : Snowflake
  name : String
  kind : Int
  topic : Option String
  position : Int
  parentId : Option Snowflake
  locked : Bool
  preLockAllow : Option String
  preLockDeny : Option String
  createdAt : Instant
  updatedAt : Instant

/-- Reads the two columns. If one is there, a missing one reads as no flags. -/
def Overwrite.ofColumns : Option String → Option String → Option Overwrite
  | none, none => none
  | allow, deny =>
    some ⟨(allow.map Permissions.ofStored).getD ∅, (deny.map Permissions.ofStored).getD ∅⟩

def Overwrite.toColumns (o : Option Overwrite) : Option String × Option String :=
  (o.map (·.allow.render), o.map (·.deny.render))

def ChannelRecord.toChannel (r : ChannelRecord) : Channel where
  id := r.id
  guildId := r.guildId
  name := r.name
  kind := .ofCode r.kind
  topic := r.topic
  position := r.position
  parentId := r.parentId
  locked := r.locked
  preLock := Overwrite.ofColumns r.preLockAllow r.preLockDeny
  createdAt := r.createdAt
  updatedAt := r.updatedAt

def Channel.toRecord (c : Channel) : ChannelRecord where
  id := c.id
  guildId := c.guildId
  name := c.name
  kind := c.kind.code
  topic := c.topic
  position := c.position
  parentId := c.parentId
  locked := c.locked
  preLockAllow := (Overwrite.toColumns c.preLock).1
  preLockDeny := (Overwrite.toColumns c.preLock).2
  createdAt := c.createdAt
  updatedAt := c.updatedAt

structure OverrideRecord where
  channelId : Snowflake
  guildId : Snowflake
  targetKind : String
  targetId : Snowflake
  allow : String
  deny : String
  updatedAt : Instant

def OverrideRecord.toOverride (r : OverrideRecord) : Except Fault ChannelOverride :=
  match OverrideTarget.ofParts? r.targetKind r.targetId with
  | some target =>
    .ok ⟨r.channelId, r.guildId, target, ⟨.ofStored r.allow, .ofStored r.deny⟩, r.updatedAt⟩
  | none => .error (.storage ("unknown override target type: " ++ r.targetKind))

structure AuditRecord where
  id : Snowflake
  guildId : Snowflake
  actorId : Snowflake
  action : String
  targetKind : Option String
  targetId : Option Snowflake
  channelId : Option Snowflake
  permission : Option String
  verdict : String
  changes : Option Json
  reason : Option String
  createdAt : Instant

/-- A failure to read a row, as the failure of its storage. -/
def storageFault {α : Type} (read : Except Fault α) : Except Fault α :=
  read.mapError fun cause => .storage cause.message

/-- The entry of a row. A flag that is not known any more reads as none. -/
def AuditRecord.toEntry (r : AuditRecord) : Except Fault Audit.Entry := do
  let action ← storageFault (Audit.Action.parse r.action)
  let targetKind ← match r.targetKind with
    | some kind => storageFault ((Audit.TargetKind.parse kind).map some)
    | none => .ok none
  .ok {
    id := r.id
    guildId := r.guildId
    actorId := r.actorId
    action := action
    targetKind := targetKind
    targetId := r.targetId
    channelId := r.channelId
    permission := r.permission.bind Flag.ofText?
    verdict := .ofStored r.verdict
    changes := r.changes
    reason := r.reason
    createdAt := r.createdAt }

end GuildAccess
