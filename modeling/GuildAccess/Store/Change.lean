import GuildAccess.Store

/-!
Changes of the store. A change either fails for a stated cause and leaves everything as it was, or
is carried out completely: deleting a role takes its overrides and assignments with it, deleting a
channel its overrides, and positions are moved for all listed roles or for none.
-/
namespace GuildAccess.Store

/-- One change. -/
inductive Change
  | createGuild (guild : Guild) (everyone : Role)
  | updateGuild (guild : Guild)
  | createChannel (channel : Channel)
  | updateChannel (channel : Channel)
  | deleteChannel (id : Snowflake)
  | setLockdown (channel : Channel) (everyone : Snowflake) (overwrite : Option Overwrite)
  | createRole (role : Role)
  | updateRole (role : Role)
  | deleteRole (id : Snowflake)
  | setPositions (guild : Snowflake) (positions : List (Snowflake × Int))
  | createMember (member : Member)
  | deleteMember (guild user : Snowflake)
  | assignRole (guild user role : Snowflake)
  | unassignRole (guild user role : Snowflake)
  | putOverride (row : ChannelOverride)
  | deleteOverride (channel : Snowflake) (target : OverrideTarget)
  | appendAudit (entry : Audit.Entry)

def need {α : Type} (row : Option α) (cause : Fault) : Except Fault α :=
  match row with
  | some a => .ok a
  | none => .error cause

def setRows (s : Store) (guild : Snowflake) (g : GuildRows) : Store :=
  { s with guilds := s.guilds.insert guild g }

/-- Adds a role to a guild that has neither its id nor, for an everyone role, another one. -/
def addRole (g : GuildRows) (role : Role) : Except Fault GuildRows :=
  if role.isEveryone && g.roles.rows.any (·.isEveryone) then
    .error (.invalid "guild already has an @everyone role")
  else if g.roles.contains role.id then
    .error (.invalid ("role " ++ role.id.render ++ " already exists"))
  else .ok { g with roles := g.roles.insert role.id role }

/-- Adds a guild with its everyone role. -/
def createGuild (s : Store) (guild : Guild) (everyone : Role) : Except Fault Store := do
  let g ← addRole (.new guild) everyone
  if s.guilds.contains guild.id then
    .error (.invalid ("guild " ++ guild.id.render ++ " already exists"))
  else
    .ok { s.setRows guild.id g with roleIndex := s.roleIndex.insert everyone.id guild.id }

def updateGuild (s : Store) (guild : Guild) : Except Fault Store := do
  let g ← need (s.guilds.get? guild.id) (.unknownGuild guild.id)
  let row := { g.guild with
    name := guild.name, ownerId := guild.ownerId, updatedAt := guild.updatedAt }
  .ok (s.setRows guild.id { g with guild := row })

def createChannel (s : Store) (channel : Channel) : Except Fault Store := do
  let g ← need (s.guilds.get? channel.guildId) (.unknownGuild channel.guildId)
  if g.channels.contains channel.id then
    .error (.invalid ("channel " ++ channel.id.render ++ " already exists"))
  else
    .ok { s.setRows channel.guildId { g with channels := g.channels.insert channel.id channel } with
      channelIndex := s.channelIndex.insert channel.id channel.guildId }

def locateChannel (s : Store) (id : Snowflake) :
    Except Fault (Snowflake × GuildRows × Channel) := do
  let guild ← need (s.channelIndex.get? id) (.unknownChannel id)
  let g ← need (s.guilds.get? guild) (.unknownChannel id)
  let row ← need (g.channels.get? id) (.unknownChannel id)
  .ok (guild, g, row)

def locateRole (s : Store) (id : Snowflake) : Except Fault (Snowflake × GuildRows × Role) := do
  let guild ← need (s.roleIndex.get? id) (.unknownRole id)
  let g ← need (s.guilds.get? guild) (.unknownRole id)
  let row ← need (g.roles.get? id) (.unknownRole id)
  .ok (guild, g, row)

/-- Updates a channel. Its lock changes through `setLockdown` only. -/
def updateChannel (s : Store) (channel : Channel) : Except Fault Store := do
  let (guild, g, stored) ← s.locateChannel channel.id
  let row := { stored with
    name := channel.name
    topic := channel.topic
    position := channel.position
    parentId := channel.parentId
    updatedAt := channel.updatedAt }
  .ok (s.setRows guild { g with channels := g.channels.insert channel.id row })

/-- Deletes a channel with its overrides; its children lose their parent. -/
def deleteChannel (s : Store) (id : Snowflake) : Except Fault Store := do
  let (guild, g, _) ← s.locateChannel id
  let orphaned (c : Channel) : Channel :=
    if c.parentId = some id then { c with parentId := none } else c
  .ok { s.setRows guild { g with
          channels := (g.channels.erase id).mapRows orphaned
          overrides := g.overrides.filter fun key _ => key.1 ≠ id } with
        channelIndex := s.channelIndex.erase id }

/-- Sets the lock of a channel together with the override of its guild's everyone role. -/
def setLockdown (s : Store) (channel : Channel) (everyone : Snowflake)
    (overwrite : Option Overwrite) (now : Instant) : Except Fault Store := do
  let (guild, g, stored) ← s.locateChannel channel.id
  let row := { stored with
    locked := channel.locked, preLock := channel.preLock, updatedAt := channel.updatedAt }
  let key := (channel.id, OverrideTarget.role everyone)
  let overrides := match overwrite with
    | some o => g.overrides.insert key ⟨channel.id, channel.guildId, key.2, o, now⟩
    | none => g.overrides.erase key
  .ok (s.setRows guild { g with
    channels := g.channels.insert channel.id row, overrides := overrides })

def createRole (s : Store) (role : Role) : Except Fault Store := do
  let g ← need (s.guilds.get? role.guildId) (.unknownGuild role.guildId)
  let g ← addRole g role
  .ok { s.setRows role.guildId g with roleIndex := s.roleIndex.insert role.id role.guildId }

/-- Updates a role. It stays in its guild, and an everyone role stays one. -/
def updateRole (s : Store) (role : Role) : Except Fault Store := do
  let (guild, g, stored) ← s.locateRole role.id
  let row := { role with
    guildId := stored.guildId, isEveryone := stored.isEveryone, createdAt := stored.createdAt }
  .ok (s.setRows guild { g with roles := g.roles.insert role.id row })

/-- Deletes a role with its overrides and assignments. The everyone role stays. -/
def deleteRole (s : Store) (id : Snowflake) (now : Instant) : Except Fault Store := do
  let (guild, g, stored) ← s.locateRole id
  if stored.isEveryone then .error .everyoneKept
  else
    .ok { s.setRows guild { g with
            roles := g.roles.erase id
            members := g.members.mapRows fun m => m.removeRole id now
            overrides := g.overrides.filter fun key _ => key.2 ≠ .role id } with
          roleIndex := s.roleIndex.erase id }

/-- Whether a role of the guild can be moved. -/
def isMovable (g : GuildRows) (role : Snowflake) : Bool :=
  (g.roles.get? role).any fun r => !r.isEveryone

def moveRole (now : Instant) (g : GuildRows) (move : Snowflake × Int) : GuildRows :=
  match g.roles.get? move.1 with
  | some r => { g with roles := g.roles.insert move.1 (r.setPosition move.2 now) }
  | none => g

/-- Moves the listed roles, if every one of them can be moved. -/
def setPositions (s : Store) (guild : Snowflake) (positions : List (Snowflake × Int))
    (now : Instant) : Except Fault Store := do
  let g ← need (s.guilds.get? guild) (.unknownGuild guild)
  match positions.find? fun move => !isMovable g move.1 with
  | some move => .error (.unknownRole move.1)
  | none => .ok (s.setRows guild (positions.foldl (moveRole now) g))

def createMember (s : Store) (member : Member) : Except Fault Store := do
  let g ← need (s.guilds.get? member.guildId) (.unknownGuild member.guildId)
  if g.members.contains member.userId then .error .alreadyMember
  else
    .ok (s.setRows member.guildId { g with members := g.members.insert member.userId member })

def deleteMember (s : Store) (guild user : Snowflake) : Except Fault Store := do
  let g ← need (s.guilds.get? guild) .unknownMember
  if g.members.contains user then .ok (s.setRows guild { g with members := g.members.erase user })
  else .error .unknownMember

/-- Assigns a role of the guild to a member who does not have it. -/
def assignRole (s : Store) (guild user role : Snowflake) (now : Instant) : Except Fault Store := do
  let g ← need (s.guilds.get? guild) .unknownMember
  if g.roles.contains role then
    let m ← need (g.members.get? user) .unknownMember
    if m.hasRole role then .error .alreadyHasRole
    else .ok (s.setRows guild { g with members := g.members.insert user (m.addRole role now) })
  else .error (.unknownRole role)

/-- Takes a role from a member; nothing happens where there is nothing to take. -/
def unassignRole (s : Store) (guild user role : Snowflake) (now : Instant) : Store :=
  match s.guilds.get? guild with
  | some g =>
    match g.members.get? user with
    | some m =>
      s.setRows guild { g with members := g.members.insert user (m.removeRole role now) }
    | none => s
  | none => s

def putOverride (s : Store) (row : ChannelOverride) : Except Fault Store := do
  let guild ← need (s.channelIndex.get? row.channelId) (.unknownChannel row.channelId)
  let g ← need (s.guilds.get? guild) (.unknownChannel row.channelId)
  .ok (s.setRows guild { g with
    overrides := g.overrides.insert (row.channelId, row.target) row })

/-- Removes the override of a target in a channel; nothing happens where there is none. -/
def deleteOverride (s : Store) (channel : Snowflake) (target : OverrideTarget) : Store :=
  match s.channelIndex.get? channel with
  | some guild =>
    match s.guilds.get? guild with
    | some g => s.setRows guild { g with overrides := g.overrides.erase (channel, target) }
    | none => s
  | none => s

def appendAudit (s : Store) (entry : Audit.Entry) : Except Fault Store := do
  let g ← need (s.guilds.get? entry.guildId) (.unknownGuild entry.guildId)
  .ok (s.setRows entry.guildId { g with audit := g.audit.insert entry.id entry })

def apply (s : Store) (now : Instant) : Change → Except Fault Store
  | .createGuild guild everyone => s.createGuild guild everyone
  | .updateGuild guild => s.updateGuild guild
  | .createChannel channel => s.createChannel channel
  | .updateChannel channel => s.updateChannel channel
  | .deleteChannel id => s.deleteChannel id
  | .setLockdown channel everyone overwrite => s.setLockdown channel everyone overwrite now
  | .createRole role => s.createRole role
  | .updateRole role => s.updateRole role
  | .deleteRole id => s.deleteRole id now
  | .setPositions guild positions => s.setPositions guild positions now
  | .createMember member => s.createMember member
  | .deleteMember guild user => s.deleteMember guild user
  | .assignRole guild user role => s.assignRole guild user role now
  | .unassignRole guild user role => .ok (s.unassignRole guild user role now)
  | .putOverride row => s.putOverride row
  | .deleteOverride channel target => .ok (s.deleteOverride channel target)
  | .appendAudit entry => s.appendAudit entry

/-- Carries out a change; a change that fails leaves the store as it was. -/
def commit (s : Store) (now : Instant) (change : Change) : Store × Except Fault Unit :=
  match s.apply now change with
  | .ok after => (after, .ok ())
  | .error cause => (s, .error cause)

end GuildAccess.Store
