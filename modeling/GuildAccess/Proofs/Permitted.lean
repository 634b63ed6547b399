import GuildAccess.Proofs.Plans
import GuildAccess.Proofs.Standing
import GuildAccess.Proofs.Store.Reachable

/-!
What guarded calls demand and what they may do. A call demands that its actor holds a flag, and
plans its change only behind that demand; `Permitted` says which changes these are, in terms of the
rows of the guild that the actor was judged by.
-/
namespace GuildAccess

/-- What a call demands: that its actor holds one of the flags in a guild, or in a channel of it. -/
structure Demand where
  actor : Snowflake
  guild : Snowflake
  channel : Option Snowflake
  flags : List Flag
  attempt : Audit.Attempt

namespace Demand

/-- Whether the actor holds one of the flags: in the channel if the demand is for one, and
server-wide otherwise. -/
def isMet (s : Store) (d : Demand) : Bool :=
  match Judge.snapshot s d.guild d.actor d.channel, d.channel with
  | .ok caller, some _ => d.flags.any caller.channel.has
  | .ok caller, none => d.flags.any caller.server.has
  | .error _, _ => false

/-- Whether the actor owns the guild or is a member of it. -/
def isInsider (s : Store) (d : Demand) : Bool :=
  (s.guild? d.guild).any (·.isOwner d.actor) || s.isMember d.guild d.actor

def names (d : Demand) : String := " or ".intercalate (d.flags.map Flag.name)

def gate (s : Store) (d : Demand) : Except Refusal Snapshot :=
  Judge.gate s d.guild d.channel d.actor d.flags d.attempt

end Demand

namespace Call

/-- Calls that write only what a flag allows. -/
def isGuarded : Call → Bool
  | .createRole .. | .updateRole .. | .toggleFlag .. | .deleteRole .. | .reorderRoles .. => true
  | .assignRole .. | .unassignRole .. => true
  | .setOverride .. | .deleteOverride .. => true
  | .lockChannel .. | .unlockChannel .. => true
  | _ => false

/-- What a guarded call demands. One on a channel that does not exist demands nothing. -/
def demand? (s : Store) : Call → Option Demand
  | .createRole guild actor _ => some ⟨actor, guild, none, [.manageRoles], ⟨.roleCreate, none⟩⟩
  | .updateRole guild role actor _ =>
    some ⟨actor, guild, none, [.manageRoles], ⟨.roleUpdate, some (.role, role)⟩⟩
  | .toggleFlag guild role actor _ =>
    some ⟨actor, guild, none, [.manageRoles], ⟨.roleUpdate, some (.role, role)⟩⟩
  | .deleteRole guild role actor =>
    some ⟨actor, guild, none, [.manageRoles], ⟨.roleDelete, some (.role, role)⟩⟩
  | .reorderRoles guild actor _ => some ⟨actor, guild, none, [.manageRoles], ⟨.roleReorder, none⟩⟩
  | .assignRole guild user _ actor =>
    some ⟨actor, guild, none, [.manageRoles], ⟨.memberRoleAdd, some (.member, user)⟩⟩
  | .unassignRole guild user _ actor =>
    some ⟨actor, guild, none, [.manageRoles], ⟨.memberRoleRemove, some (.member, user)⟩⟩
  | .setOverride channel target actor _ => (s.channel? channel).map fun row =>
    ⟨actor, row.guildId, some channel, [.manageRoles, .manageChannels],
      ⟨.overrideSet, some (.channelOverride, target.id)⟩⟩
  | .deleteOverride channel target actor => (s.channel? channel).map fun row =>
    ⟨actor, row.guildId, some channel, [.manageRoles, .manageChannels],
      ⟨.overrideDelete, some (.channelOverride, target.id)⟩⟩
  | .lockChannel channel actor _ => (s.channel? channel).map fun row =>
    ⟨actor, row.guildId, some channel, [.manageChannels], ⟨.channelLock, some (.channel, channel)⟩⟩
  | .unlockChannel channel actor _ => (s.channel? channel).map fun row =>
    ⟨actor, row.guildId, some channel, [.manageChannels],
      ⟨.channelUnlock, some (.channel, channel)⟩⟩
  | _ => none

end Call

namespace GuildRows

/-- Whether a user may act on a position: the owner may on any, others on those below them. -/
def MayReach (g : GuildRows) (actor : Snowflake) (position : Int) : Prop :=
  g.guild.isOwner actor = true ∨ position < g.rankOf actor

/-- Whether a user may act on another: never on the owner, else by rank. -/
def Outranks (g : GuildRows) (actor user : Snowflake) : Prop :=
  g.guild.isOwner user = false ∧ g.MayReach actor (g.rankOf user)

/-- Whether a user may write overrides of a target. -/
def MayTarget (g : GuildRows) (actor : Snowflake) : OverrideTarget → Prop
  | .role id => ∃ r, g.roles.get? id = some r ∧ (r.isEveryone = true ∨ g.MayReach actor r.position)
  | .member id => id = actor ∨ g.Outranks actor id

end GuildRows

/-- What an actor may plan in a guild. `fresh` is the identifier for a new row. -/
inductive Permitted (s : Store) (fresh guild : Snowflake) (g : GuildRows) (actor : Snowflake)
    (p : Plan) : Prop
  | createRole {role : Role} (change : p.change = .createRole role) (mints : p.mints = true)
    (new : role.id = fresh ∧ role.guildId = guild) (plain : role.isEveryone = false)
    (below : g.MayReach actor role.position)
    (covered : ∀ f, role.grants f = true → (g.serverOf actor).has f = true)
  | updateRole {role before : Role} (change : p.change = .updateRole role)
    (indexed : s.roleIndex.get? role.id = some guild) (found : g.roles.get? role.id = some before)
    (kept : role.position = before.position) (below : g.MayReach actor before.position)
    (covered : ∀ f, role.grants f = true →
      before.grants f = true ∨ (g.serverOf actor).has f = true)
  | deleteRole {id : Snowflake} {row : Role} (change : p.change = .deleteRole id)
    (indexed : s.roleIndex.get? id = some guild) (found : g.roles.get? id = some row)
    (below : g.MayReach actor row.position)
  | setPositions {positions : List (Snowflake × Int)}
    (change : p.change = .setPositions guild positions)
    (checked : ∀ move ∈ positions, ∃ row, g.roles.get? move.1 = some row ∧
      row.isEveryone = false ∧ g.MayReach actor row.position ∧ g.MayReach actor move.2)
  | assignRole {user role : Snowflake} {row : Role}
    (change : p.change = .assignRole guild user role)
    (found : g.roles.get? role = some row) (plain : row.isEveryone = false)
    (below : g.MayReach actor row.position) (outranked : user = actor ∨ g.Outranks actor user)
  | unassignRole {user role : Snowflake} {row : Role}
    (change : p.change = .unassignRole guild user role)
    (found : g.roles.get? role = some row) (plain : row.isEveryone = false)
    (below : g.MayReach actor row.position) (outranked : user = actor ∨ g.Outranks actor user)
  | putOverride {row : ChannelOverride} (change : p.change = .putOverride row)
    (indexed : s.channelIndex.get? row.channelId = some guild)
    (targeted : g.MayTarget actor row.target)
  | deleteOverride {channel : Snowflake} {target : OverrideTarget}
    (change : p.change = .deleteOverride channel target)
    (indexed : s.channelIndex.get? channel = some guild) (targeted : g.MayTarget actor target)
  | setLockdown {channel : Channel} {everyone : Role} {overwrite : Option Overwrite}
    (change : p.change = .setLockdown channel everyone.id overwrite)
    (indexed : s.channelIndex.get? channel.id = some guild)
    (found : g.roles.get? everyone.id = some everyone) (first : everyone.isEveryone = true)

namespace Judge
variable {s : Store} {g : GuildRows} {guild actor : Snowflake} {channel : Option Snowflake}

/-- Behind a gate the caller is judged by the rows of the guild. -/
theorem passes_gate_rows {flags : List Flag} {attempt : Audit.Attempt} {caller : Snapshot}
    (passed : gate s guild channel actor flags attempt = .ok caller) :
    ∃ g, s.guilds.get? guild = some g ∧ caller = g.snapshot actor channel := by
  obtain ⟨g, found, -, -, same⟩ := passes_snapshot.mp (passes_gate.mp passed).1
  exact ⟨g, found, same⟩

/-- A role found in a guild is stored there. -/
theorem role_in_rows {id : Snowflake} {row : Role} (keyed : s.Keyed) (home : s.RolesAtHome)
    (rows : s.guilds.get? row.guildId = some g) (found : s.role? id = some row) :
    row.id = id ∧ s.roleIndex.get? id = some row.guildId ∧ g.roles.get? id = some row := by
  obtain ⟨row_id, indexed, g', rows', stored⟩ := keyed.role_home home found
  cases rows.symm.trans rows'
  exact ⟨row_id, indexed, stored⟩

/-- A role of the list of a guild is stored under its identifier. -/
theorem role_listed {r : Role} (keyed : g.Keyed guild) (listed : r ∈ g.roleList) :
    g.roles.get? r.id = some r := by
  obtain ⟨id, stored⟩ := GuildRows.mem_roleList.mp listed
  rw [keyed.role_id id r stored]
  exact stored

/-- The everyone role of a caller is stored under its identifier. -/
theorem everyone_in_rows {r : Role} (keyed : g.Keyed guild)
    (first : (g.snapshot actor channel).everyone? = some r) :
    g.roles.get? r.id = some r ∧ r.isEveryone = true :=
  ⟨role_listed keyed (List.mem_of_find?_eq_some first), List.find?_some first⟩

theorem mayTarget_rows {row : Channel} {target : OverrideTarget} (keyed : g.Keyed row.guildId)
    (rows : s.guilds.get? row.guildId = some g)
    (passed : mayTarget s (g.snapshot actor channel) row target = .ok ()) :
    g.MayTarget actor target := by
  cases target with
  | role id =>
    obtain ⟨r, listed, rfl, allowed⟩ := passes_mayTarget_role passed
    refine ⟨r, role_listed keyed listed, ?_⟩
    rcases allowed with ⟨everyone, -⟩ | ⟨-, below⟩
    · exact .inl everyone
    · exact .inr below
  | member id =>
    refine (passes_mayTarget_member passed).imp_right fun outranked => ?_
    exact ((passes_outranksMember rows).mp outranked).2

theorem changeRoleOf_rows {user role : Snowflake} {action : Audit.Action} {member : Member}
    (keyed : s.Keyed) (home : s.RolesAtHome)
    (passed : changeRoleOf s guild user role actor action = .ok member) :
    ∃ caller g row,
      gate s guild none actor [.manageRoles] ⟨action, some (.member, user)⟩ = .ok caller ∧
      s.guilds.get? guild = some g ∧ g.roles.get? role = some row ∧ row.isEveryone = false ∧
      g.MayReach actor row.position ∧ (user = actor ∨ g.Outranks actor user) := by
  obtain ⟨caller, row, gated, found, rfl, plain, below, outranked, -⟩ := passes_changeRoleOf passed
  obtain ⟨g, rows, rfl⟩ := passes_gate_rows gated
  obtain ⟨-, -, stored⟩ := role_in_rows keyed home rows found
  exact ⟨_, g, row, gated, rows, stored, plain, below,
    outranked.imp_right fun outranked => ((passes_outranksMember rows).mp outranked).2⟩

end Judge

/-- A plan that was made behind the demand of its call, and that its actor may make. -/
def Call.MayPlan (s : Store) (fresh : Snowflake) (call : Call) (p : Plan) : Prop :=
  ∃ d caller g, call.demand? s = some d ∧ d.gate s = .ok caller ∧
    s.guilds.get? d.guild = some g ∧ Permitted s fresh d.guild g d.actor p

namespace Judge
variable {s : Store} {now : Instant} {fresh guild user role actor channel : Snowflake} {p : Plan}

-- Each call is read through its own plan; what is left is to find its rows in the guild.

theorem createRole_permitted {request : CreateRole}
    (planned : createRole s now fresh guild actor request = .ok (.plan p)) :
    Call.MayPlan s fresh (.createRole guild actor request) p := by
  obtain ⟨caller, passed, covered, below, change, mints⟩ := createRole_plan planned
  obtain ⟨g, rows, rfl⟩ := passes_gate_rows passed
  refine ⟨_, _, g, rfl, passed, rows, .createRole change mints ⟨rfl, rfl⟩ rfl below ?_⟩
  intro f granted
  rcases newRole_grants granted with admin | flag
  · exact GuildRows.serverOf_of_administrator (covered _ admin)
  · exact covered f flag

theorem updateRole_permitted {request : UpdateRole} (keyed : s.Keyed) (home : s.RolesAtHome)
    (planned : updateRole s now guild role actor request = .ok (.plan p)) :
    Call.MayPlan s fresh (.updateRole guild role actor request) p := by
  obtain ⟨caller, before, passed, found, rfl, below, covered, change⟩ := updateRole_plan planned
  obtain ⟨g, rows, rfl⟩ := passes_gate_rows passed
  obtain ⟨rfl, indexed, stored⟩ := role_in_rows keyed home rows found
  obtain ⟨id, position⟩ := updatedRole_kept before request now
  rw [← id] at indexed stored
  refine ⟨_, _, g, rfl, passed, rows, .updateRole change indexed stored position below ?_⟩
  intro f granted
  rcases updatedRole_grants granted with old | new | admin
  · exact .inl old
  · exact .inr (covered f new)
  · exact .inr (GuildRows.serverOf_of_administrator (covered _ admin))

theorem toggleFlag_permitted {request : ToggleFlag} (keyed : s.Keyed) (home : s.RolesAtHome)
    (planned : toggleFlag s now guild role actor request = .ok (.plan p)) :
    Call.MayPlan s fresh (.toggleFlag guild role actor request) p := by
  obtain ⟨caller, before, passed, found, rfl, below, covered, change⟩ := toggleFlag_plan planned
  obtain ⟨g, rows, rfl⟩ := passes_gate_rows passed
  obtain ⟨rfl, indexed, stored⟩ := role_in_rows keyed home rows found
  refine ⟨_, _, g, rfl, passed, rows, .updateRole change indexed stored rfl below ?_⟩
  intro f granted
  rcases toggledRole_grants granted with old | ⟨set, same | admin⟩
  · exact .inl old
  · exact .inr (same ▸ covered set)
  · exact .inr (GuildRows.serverOf_of_administrator (admin ▸ covered set))

theorem deleteRole_permitted (keyed : s.Keyed) (home : s.RolesAtHome)
    (planned : deleteRole s guild role actor = .ok (.plan p)) :
    Call.MayPlan s fresh (.deleteRole guild role actor) p := by
  obtain ⟨caller, before, passed, found, rfl, -, below, change⟩ := deleteRole_plan planned
  obtain ⟨g, rows, rfl⟩ := passes_gate_rows passed
  obtain ⟨-, indexed, stored⟩ := role_in_rows keyed home rows found
  exact ⟨_, _, g, rfl, passed, rows, .deleteRole change indexed stored below⟩

theorem reorderRoles_permitted {request : ReorderRoles} (keyed : s.Keyed)
    (planned : reorderRoles s guild actor request = .ok (.plan p)) :
    Call.MayPlan s fresh (.reorderRoles guild actor request) p := by
  obtain ⟨caller, positions, passed, checked, -, change⟩ := reorderRoles_plan planned
  obtain ⟨g, rows, rfl⟩ := passes_gate_rows passed
  refine ⟨_, _, g, rfl, passed, rows, .setPositions change fun move member => ?_⟩
  obtain ⟨row, listed, id, plain, reach⟩ := checked move member
  refine ⟨row, id ▸ role_listed (keyed guild g rows) listed, plain, ?_⟩
  rcases reach with owner | ⟨fromBelow, toBelow⟩
  · exact ⟨.inl owner, .inl owner⟩
  · exact ⟨.inr fromBelow, .inr toBelow⟩

theorem assignRole_permitted (keyed : s.Keyed) (home : s.RolesAtHome)
    (planned : assignRole s now guild user role actor = .ok (.plan p)) :
    Call.MayPlan s fresh (.assignRole guild user role actor) p := by
  obtain ⟨member, checked, change⟩ := assignRole_plan planned
  obtain ⟨caller, g, row, passed, rows, stored, plain, below, outranked⟩ :=
    changeRoleOf_rows keyed home checked
  exact ⟨_, caller, g, rfl, passed, rows, .assignRole change stored plain below outranked⟩

theorem unassignRole_permitted (keyed : s.Keyed) (home : s.RolesAtHome)
    (planned : unassignRole s now guild user role actor = .ok (.plan p)) :
    Call.MayPlan s fresh (.unassignRole guild user role actor) p := by
  obtain ⟨member, checked, -, change⟩ := unassignRole_plan planned
  obtain ⟨caller, g, row, passed, rows, stored, plain, below, outranked⟩ :=
    changeRoleOf_rows keyed home checked
  exact ⟨_, caller, g, rfl, passed, rows, .unassignRole change stored plain below outranked⟩

theorem setOverride_permitted {target : OverrideTarget} {overwrite : Overwrite} (keyed : s.Keyed)
    (planned : setOverride s now channel target actor overwrite = .ok (.plan p)) :
    Call.MayPlan s fresh (.setOverride channel target actor overwrite) p := by
  obtain ⟨row, caller, found, passed, targeted, -, change⟩ := setOverride_plan planned
  obtain ⟨rfl, indexed, -⟩ := keyed.channel_stored found
  obtain ⟨g, rows, rfl⟩ := passes_gate_rows passed
  exact ⟨_, _, g, Option.map_eq_some_iff.mpr ⟨row, found, rfl⟩, passed, rows,
    .putOverride change indexed (mayTarget_rows (keyed _ g rows) rows targeted)⟩

theorem deleteOverride_permitted {target : OverrideTarget} (keyed : s.Keyed)
    (planned : deleteOverride s channel target actor = .ok (.plan p)) :
    Call.MayPlan s fresh (.deleteOverride channel target actor) p := by
  obtain ⟨row, caller, found, passed, targeted, -, change⟩ := deleteOverride_plan planned
  obtain ⟨rfl, indexed, -⟩ := keyed.channel_stored found
  obtain ⟨g, rows, rfl⟩ := passes_gate_rows passed
  exact ⟨_, _, g, Option.map_eq_some_iff.mpr ⟨row, found, rfl⟩, passed, rows,
    .deleteOverride change indexed (mayTarget_rows (keyed _ g rows) rows targeted)⟩

/-- A lock and an unlock both write the everyone override of the channel that they are for. -/
theorem lockdown_permitted {call : Call} {row changed : Channel} {caller : Snapshot}
    {everyone : Role} {overwrite : Option Overwrite} {action : Audit.Action} (keyed : s.Keyed)
    (found : s.channel? row.id = some row)
    (demands : call.demand? s = some ⟨actor, row.guildId, some row.id, [.manageChannels],
      ⟨action, some (.channel, row.id)⟩⟩)
    (passed : manageChannel s row actor action = .ok caller)
    (first : caller.everyone? = some everyone)
    (change : p.change = .setLockdown changed everyone.id overwrite)
    (same : changed.id = row.id) : call.MayPlan s fresh p := by
  obtain ⟨-, indexed, -⟩ := keyed.channel_stored found
  obtain ⟨g, rows, rfl⟩ := passes_gate_rows passed
  obtain ⟨stored, marked⟩ := everyone_in_rows (keyed _ g rows) first
  rw [← same] at indexed
  exact ⟨_, _, g, demands, passed, rows, .setLockdown change indexed stored marked⟩

theorem lockChannel_permitted {request : Lockdown} (keyed : s.Keyed)
    (planned : lockChannel s now channel actor request = .ok (.plan p)) :
    Call.MayPlan s fresh (.lockChannel channel actor request) p := by
  obtain ⟨row, caller, everyone, found, passed, -, first, change⟩ := lockChannel_plan planned
  obtain ⟨rfl, -⟩ := keyed.channel_stored found
  refine lockdown_permitted keyed found ?_ passed first change rfl
  exact Option.map_eq_some_iff.mpr ⟨row, found, rfl⟩

theorem unlockChannel_permitted {request : Lockdown} (keyed : s.Keyed)
    (planned : unlockChannel s now channel actor request = .ok (.plan p)) :
    Call.MayPlan s fresh (.unlockChannel channel actor request) p := by
  obtain ⟨row, caller, everyone, found, passed, -, first, change⟩ := unlockChannel_plan planned
  obtain ⟨rfl, -⟩ := keyed.channel_stored found
  refine lockdown_permitted keyed found ?_ passed first change rfl
  exact Option.map_eq_some_iff.mpr ⟨row, found, rfl⟩

end Judge

/-- A guarded call plans only behind its gate, and only what its actor may. -/
theorem Call.judge_permitted {s : Store} {around : Surroundings} {fresh : Snowflake} {call : Call}
    {p : Plan} (keyed : s.Keyed) (home : s.RolesAtHome) (guarded : call.isGuarded = true)
    (planned : call.judge s around fresh = .ok (.plan p)) : call.MayPlan s fresh p := by
  cases call with
  | createRole => exact Judge.createRole_permitted planned
  | updateRole => exact Judge.updateRole_permitted keyed home planned
  | toggleFlag => exact Judge.toggleFlag_permitted keyed home planned
  | deleteRole => exact Judge.deleteRole_permitted keyed home planned
  | reorderRoles => exact Judge.reorderRoles_permitted keyed planned
  | assignRole => exact Judge.assignRole_permitted keyed home planned
  | unassignRole => exact Judge.unassignRole_permitted keyed home planned
  | setOverride => exact Judge.setOverride_permitted keyed planned
  | deleteOverride => exact Judge.deleteOverride_permitted keyed planned
  | lockChannel => exact Judge.lockChannel_permitted keyed planned
  | unlockChannel => exact Judge.unlockChannel_permitted keyed planned
  | _ => cases guarded

/-- No permitted change founds a guild. -/
theorem Permitted.not_createGuild {s : Store} {fresh guild actor : Snowflake} {g : GuildRows}
    {p : Plan} {founded : Guild} {everyone : Role} (permitted : Permitted s fresh guild g actor p) :
    p.change ≠ .createGuild founded everyone := by
  cases permitted <;> simp_all

/-- No permitted change creates or deletes a channel. -/
theorem Permitted.keeps_channels {s : Store} {fresh guild actor : Snowflake} {g : GuildRows}
    {p : Plan} (permitted : Permitted s fresh guild g actor p) :
    (∀ channel, p.change ≠ .createChannel channel) ∧ ∀ id, p.change ≠ .deleteChannel id := by
  cases permitted <;> simp_all

/-- A permitted change is about the guild that its actor was judged in. -/
theorem Permitted.home {s : Store} {fresh guild actor : Snowflake} {g : GuildRows} {p : Plan}
    (permitted : Permitted s fresh guild g actor p) : p.change.home? s = some guild := by
  cases permitted with
  | createRole change _ new =>
    rw [change, ← new.2]
    rfl
  | setPositions change | assignRole change | unassignRole change =>
    rw [change]
    rfl
  | updateRole change indexed | deleteRole change indexed | putOverride change indexed
  | deleteOverride change indexed | setLockdown change indexed =>
    rw [change]
    exact indexed

end GuildAccess
