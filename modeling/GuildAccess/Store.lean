import GuildAccess.Guild
import GuildAccess.Channel
import GuildAccess.Member
import GuildAccess.Audit
import GuildAccess.Snapshot

/-!
The store: the rows of every guild, and two indexes that lead from the id of a role or channel to
its guild. Reading never fails; a row that is not there reads as none.
-/
namespace GuildAccess

/-- Everything stored for one guild. -/
structure GuildRows where
  guild : Guild
  roles : KeyMap Snowflake Role
  channels : KeyMap Snowflake Channel
  members : KeyMap Snowflake Member
  overrides : KeyMap (Snowflake × OverrideTarget) ChannelOverride
  audit : KeyMap Snowflake Audit.Entry

namespace GuildRows

def new (guild : Guild) : GuildRows := ⟨guild, .empty, .empty, .empty, .empty, .empty⟩

def roleList (g : GuildRows) : List Role := sortRanked (fun r => (r.position, r.id)) g.roles.rows

def channelList (g : GuildRows) : List Channel :=
  sortRanked (fun c => (c.position, c.id)) g.channels.rows

/-- The everyone role, the one of lowest id if there are several. -/
def everyone? (g : GuildRows) : Option Role := g.roles.rows.find? (·.isEveryone)

def overridesOf (g : GuildRows) (channel : Snowflake) : List ChannelOverride :=
  g.overrides.rows.filter fun o => o.channelId = channel

end GuildRows

/-- The rows of all guilds with the indexes. -/
structure Store where
  guilds : KeyMap Snowflake GuildRows
  roleIndex : KeyMap Snowflake Snowflake
  channelIndex : KeyMap Snowflake Snowflake

/-- What one permission decision reads, all from the same moment. -/
structure PermissionInputs where
  guild : Guild
  member : Option Member
  roles : List Role
  channel : Option Channel
  overrides : List ChannelOverride

namespace Store

def empty : Store := ⟨.empty, .empty, .empty⟩

def guildCount (s : Store) : Nat := s.guilds.size

def guild? (s : Store) (id : Snowflake) : Option Guild := (s.guilds.get? id).map (·.guild)

/-- The rows of the guild that a role id leads to. -/
def rowsOfRole? (s : Store) (id : Snowflake) : Option GuildRows :=
  (s.roleIndex.get? id).bind s.guilds.get?

/-- The rows of the guild that a channel id leads to. -/
def rowsOfChannel? (s : Store) (id : Snowflake) : Option GuildRows :=
  (s.channelIndex.get? id).bind s.guilds.get?

def channel? (s : Store) (id : Snowflake) : Option Channel :=
  (s.rowsOfChannel? id).bind fun g => g.channels.get? id

def channelList (s : Store) (guild : Snowflake) : List Channel :=
  ((s.guilds.get? guild).map (·.channelList)).getD []

def role? (s : Store) (id : Snowflake) : Option Role :=
  (s.rowsOfRole? id).bind fun g => g.roles.get? id

def roleList (s : Store) (guild : Snowflake) : List Role :=
  ((s.guilds.get? guild).map (·.roleList)).getD []

def everyone? (s : Store) (guild : Snowflake) : Option Role :=
  (s.guilds.get? guild).bind (·.everyone?)

def member? (s : Store) (guild user : Snowflake) : Option Member :=
  (s.guilds.get? guild).bind fun g => g.members.get? user

def isMember (s : Store) (guild user : Snowflake) : Bool := (s.member? guild user).isSome

/-- The size of a page of members: between 1 and 1000. -/
def memberPageSize (limit : Int) : Nat := (max 1 (min limit 1000)).toNat

/-- A page of members by ascending user id, behind a cursor if there is one. -/
def memberPage (s : Store) (guild : Snowflake) (limit : Int) (after : Option Snowflake) :
    List Member :=
  match s.guilds.get? guild with
  | some g =>
    (g.members.rows.filter fun m => after.all fun cursor => cursor < m.userId).take
      (memberPageSize limit)
  | none => []

/-- The role ids of a member, ascending. -/
def memberRoles (s : Store) (guild user : Snowflake) : List Snowflake :=
  match s.member? guild user with
  | some m => sortRanked (fun id => (0, id)) m.roles
  | none => []

def overrideList (s : Store) (channel : Snowflake) : List ChannelOverride :=
  ((s.rowsOfChannel? channel).map fun g => g.overridesOf channel).getD []

def override? (s : Store) (channel : Snowflake) (target : OverrideTarget) :
    Option ChannelOverride :=
  (s.rowsOfChannel? channel).bind fun g => g.overrides.get? (channel, target)

/-- The inputs of a decision about a user in a guild, in one of its channels if one is named. -/
def permissionInputs? (s : Store) (guild user : Snowflake) (channel : Option Snowflake) :
    Option PermissionInputs :=
  (s.guilds.get? guild).map fun g =>
    let found := channel.bind g.channels.get?
    { guild := g.guild
      member := g.members.get? user
      roles := g.roleList
      channel := found
      overrides := match found with
        | some c => g.overridesOf c.id
        | none => [] }

/-- The entries of a log that match a query, newest first and up to its limit. -/
def auditList (s : Store) (q : Audit.Query) : List Audit.Entry :=
  match s.guilds.get? q.guildId with
  | some g => (g.audit.rows.reverse.filter q.matchesEntry).take q.limit
  | none => []

end Store
end GuildAccess
