import GuildAccess.Proofs.Outcome

/-!
What a store reads as. Reading goes through the indexes and the tables, never through a log, so two
stores that differ in logs alone read the same; and a row that a change has written is what is read
next, with the fields that the change does not touch kept from the row before.
-/
namespace GuildAccess.Store

/-- Two stores differ in nothing but logs. -/
structure ReadsAs (s after : Store) : Prop where
  tables : ∀ guild, after.tables? guild = s.tables? guild
  index : ∀ kind, after.index kind = s.index kind

variable {s after : Store} {now : Instant} {guild home id user channel : Snowflake}
  {g g' : GuildRows}

namespace ReadsAs

theorem refl (s : Store) : s.ReadsAs s := ⟨fun _ => rfl, fun _ => rfl⟩

variable {α : Type} {read : GuildRows → Option α} (same : s.ReadsAs after)
include same

/-- What does not look at the log finds the same in the rows of a guild. -/
theorem rows (bare : ∀ g, read g.withoutLog = read g) (guild : Snowflake) :
    (after.guilds.get? guild).bind read = (s.guilds.get? guild).bind read := by
  have found := congrArg (·.bind read) (same.tables guild)
  simpa [tables?, Option.bind_map, Function.comp_def, bare] using found

/-- What does not look at the log finds the same where an identifier leads. -/
theorem led (bare : ∀ g, read g.withoutLog = read g) (kind : Indexed) (id : Snowflake) :
    (((after.index kind).get? id).bind after.guilds.get?).bind read =
      (((s.index kind).get? id).bind s.guilds.get?).bind read := by
  rw [same.index kind, Option.bind_assoc, Option.bind_assoc]
  exact congrArg _ (funext (same.rows bare))

theorem role? (id : Snowflake) : after.role? id = s.role? id := same.led (fun _ => rfl) .role id

theorem channel? (id : Snowflake) : after.channel? id = s.channel? id :=
  same.led (fun _ => rfl) .channel id

theorem override? (channel : Snowflake) (target : OverrideTarget) :
    after.override? channel target = s.override? channel target :=
  same.led (fun _ => rfl) .channel channel

theorem member? (guild user : Snowflake) : after.member? guild user = s.member? guild user :=
  same.rows (fun _ => rfl) guild

theorem roleList (guild : Snowflake) : after.roleList guild = s.roleList guild := by
  have listed : (after.guilds.get? guild).bind (fun g => some g.roleList) =
      (s.guilds.get? guild).bind fun g => some g.roleList := same.rows (fun _ => rfl) guild
  unfold Store.roleList
  rw [Option.map_eq_bind, Option.map_eq_bind]
  exact congrArg (·.getD []) listed

end ReadsAs

/-- Where an identifier leads to rewritten rows, its role is read from them. -/
theorem role?_of_insert (indexed : after.roleIndex.get? id = some home)
    (rows : after.guilds = s.guilds.insert home g') : after.role? id = g'.roles.get? id := by
  simp [role?, rowsOfRole?, indexed, rows, KeyMap.get?_insert]

theorem channel?_of_insert (indexed : after.channelIndex.get? id = some home)
    (rows : after.guilds = s.guilds.insert home g') : after.channel? id = g'.channels.get? id := by
  simp [channel?, rowsOfChannel?, indexed, rows, KeyMap.get?_insert]

theorem override?_of_insert {target : OverrideTarget}
    (indexed : after.channelIndex.get? channel = some home)
    (rows : after.guilds = s.guilds.insert home g') :
    after.override? channel target = g'.overrides.get? (channel, target) := by
  simp [override?, rowsOfChannel?, indexed, rows, KeyMap.get?_insert]

theorem member?_of_insert (rows : after.guilds = s.guilds.insert home g') :
    after.member? home user = g'.members.get? user := by
  simp [member?, rows, KeyMap.get?_insert]

/-- A role is read as it was created. -/
theorem createRole_reads {role : Role} (done : s.apply now (.createRole role) = .ok after) :
    after.role? role.id = some role := by
  have written : Rewrites now s (.createRole role) after := createRole_rewrites done
  obtain ⟨home, g, g', about, -, effect, rows⟩ := written
  cases about
  have entered : after.roleIndex = s.roleIndex.insert role.id role.guildId :=
    apply_index done .role
  have indexed : after.roleIndex.get? role.id = some role.guildId := by
    rw [entered, KeyMap.get?_insert, if_pos rfl]
  cases effect
  rw [role?_of_insert indexed rows, KeyMap.get?_insert, if_pos rfl]

/-- A role is read as it was updated, but for what an update does not change. -/
theorem updateRole_reads {role : Role} (done : s.apply now (.updateRole role) = .ok after) :
    ∃ before, s.role? role.id = some before ∧ after.role? role.id = some { role with
      guildId := before.guildId, isEveryone := before.isEveryone,
      createdAt := before.createdAt } := by
  have written : Rewrites now s (.updateRole role) after := updateRole_rewrites done
  obtain ⟨home, g, g', indexed, found, effect, rows⟩ := written
  have kept : after.roleIndex = s.roleIndex := apply_index done .role
  have indexed : s.roleIndex.get? role.id = some home := indexed
  cases effect with
  | @updateRole _ before stored =>
    refine ⟨before, by simp [role?, rowsOfRole?, indexed, found, stored], ?_⟩
    rw [role?_of_insert (kept ▸ indexed) rows, KeyMap.get?_insert, if_pos rfl]

/-- A channel is read with its new lock, and otherwise as it was. -/
theorem setLockdown_reads {channel : Channel} {everyone : Snowflake} {overwrite : Option Overwrite}
    (done : s.apply now (.setLockdown channel everyone overwrite) = .ok after) :
    ∃ before, s.channel? channel.id = some before ∧ after.channel? channel.id = some { before with
      locked := channel.locked, preLock := channel.preLock, updatedAt := channel.updatedAt } := by
  have written : Rewrites now s (.setLockdown channel everyone overwrite) after :=
    setLockdown_rewrites done
  obtain ⟨home, g, g', indexed, found, effect, rows⟩ := written
  have kept : after.channelIndex = s.channelIndex := apply_index done .channel
  have indexed : s.channelIndex.get? channel.id = some home := indexed
  cases effect with
  | @setLockdown _ before _ _ stored =>
    refine ⟨before, by simp [channel?, rowsOfChannel?, indexed, found, stored], ?_⟩
    rw [channel?_of_insert (kept ▸ indexed) rows, KeyMap.get?_insert, if_pos rfl]

/-- A member is read as it was created. -/
theorem createMember_reads {member : Member}
    (done : s.apply now (.createMember member) = .ok after) :
    after.member? member.guildId member.userId = some member := by
  have written : Rewrites now s (.createMember member) after := createMember_rewrites done
  obtain ⟨home, g, g', about, -, effect, rows⟩ := written
  cases about
  cases effect
  rw [member?_of_insert rows, KeyMap.get?_insert, if_pos rfl]

/-- A member is read with the role assigned. -/
theorem assignRole_reads {role : Snowflake} {member : Member}
    (listed : s.member? guild user = some member)
    (done : s.apply now (.assignRole guild user role) = .ok after) :
    after.member? guild user = some (member.addRole role now) := by
  have written : Rewrites now s (.assignRole guild user role) after := assignRole_rewrites done
  obtain ⟨home, g, g', about, found, effect, rows⟩ := written
  cases about
  cases effect with
  | @assignRole _ _ _ stored known member' lacking =>
    have same : some stored = some member := by
      rw [← member', ← listed, Store.member?, found, Option.bind_some]
    cases same
    rw [member?_of_insert rows, KeyMap.get?_insert, if_pos rfl]

/-- A member is read without the role taken away. -/
theorem unassignRole_reads {role : Snowflake} {member : Member}
    (listed : s.member? guild user = some member)
    (done : s.apply now (.unassignRole guild user role) = .ok after) :
    after.member? guild user = some (member.removeRole role now) := by
  cases done
  have written : Rewrites now s (.unassignRole guild user role)
      (s.unassignRole guild user role now) := unassignRole_rewrites listed
  obtain ⟨home, g, g', about, found, effect, rows⟩ := written
  cases about
  cases effect with
  | @unassignRole _ _ _ stored member' =>
    have same : some stored = some member := by
      rw [← member', ← listed, Store.member?, found, Option.bind_some]
    cases same
    rw [member?_of_insert rows, KeyMap.get?_insert, if_pos rfl]

/-- An override is read as it was set. -/
theorem putOverride_reads {row : ChannelOverride}
    (done : s.apply now (.putOverride row) = .ok after) :
    after.override? row.channelId row.target = some row := by
  have written : Rewrites now s (.putOverride row) after := putOverride_rewrites done
  obtain ⟨home, g, g', indexed, -, effect, rows⟩ := written
  have kept : after.channelIndex = s.channelIndex := apply_index done .channel
  have indexed : s.channelIndex.get? row.channelId = some home := indexed
  cases effect
  rw [override?_of_insert (kept ▸ indexed) rows, KeyMap.get?_insert, if_pos rfl]

end GuildAccess.Store
