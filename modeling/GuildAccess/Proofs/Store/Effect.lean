import GuildAccess.Proofs.Store.Index

/-!
What changes do to the store. A change that succeeds rewrites the rows of one guild, and `Effect`
says how; only a new guild adds rows where there were none. All that holds after every change is
derived from these cases.
-/
namespace GuildAccess.Store

def Change.home? (s : Store) : Change → Option Snowflake
  | .createGuild guild _ => some guild.id
  | .updateGuild guild => some guild.id
  | .createChannel channel => some channel.guildId
  | .updateChannel channel => s.channelIndex.get? channel.id
  | .deleteChannel id => s.channelIndex.get? id
  | .setLockdown channel _ _ => s.channelIndex.get? channel.id
  | .createRole role => some role.guildId
  | .updateRole role => s.roleIndex.get? role.id
  | .deleteRole id => s.roleIndex.get? id
  | .setPositions guild _ => some guild
  | .createMember member => some member.guildId
  | .deleteMember guild _ => some guild
  | .assignRole guild _ _ => some guild
  | .unassignRole guild _ _ => some guild
  | .putOverride row => s.channelIndex.get? row.channelId
  | .deleteOverride channel _ => s.channelIndex.get? channel
  | .appendAudit entry => some entry.guildId

/-- How a change that succeeds rewrites the rows of its guild. -/
inductive Change.Effect (now : Instant) (g : GuildRows) : Change → GuildRows → Prop
  | updateGuild {guild : Guild} :
    Effect now g (.updateGuild guild) { g with guild := { g.guild with
      name := guild.name, ownerId := guild.ownerId, updatedAt := guild.updatedAt } }
  | createChannel {channel : Channel} :
    Effect now g (.createChannel channel)
      { g with channels := g.channels.insert channel.id channel }
  | updateChannel {channel stored : Channel} (found : g.channels.get? channel.id = some stored) :
    Effect now g (.updateChannel channel)
      { g with channels := g.channels.insert channel.id { stored with
        name := channel.name
        topic := channel.topic
        position := channel.position
        parentId := channel.parentId
        updatedAt := channel.updatedAt } }
  | deleteChannel {id : Snowflake} :
    Effect now g (.deleteChannel id) { g with
      channels := (g.channels.erase id).mapRows fun c =>
        if c.parentId = some id then { c with parentId := none } else c
      overrides := g.overrides.filter fun key _ => key.1 ≠ id }
  | setLockdown {channel stored : Channel} {everyone : Snowflake} {overwrite : Option Overwrite}
    (found : g.channels.get? channel.id = some stored) :
    Effect now g (.setLockdown channel everyone overwrite) { g with
      channels := g.channels.insert channel.id { stored with
        locked := channel.locked, preLock := channel.preLock, updatedAt := channel.updatedAt }
      overrides := match overwrite with
        | some o => g.overrides.insert (channel.id, .role everyone)
            ⟨channel.id, channel.guildId, .role everyone, o, now⟩
        | none => g.overrides.erase (channel.id, .role everyone) }
  | createRole {role : Role} (absent : g.roles.get? role.id = none) :
    Effect now g (.createRole role) { g with roles := g.roles.insert role.id role }
  | updateRole {role stored : Role} (found : g.roles.get? role.id = some stored) :
    Effect now g (.updateRole role) { g with roles := g.roles.insert role.id { role with
      guildId := stored.guildId, isEveryone := stored.isEveryone, createdAt := stored.createdAt } }
  | deleteRole {id : Snowflake} {stored : Role} (found : g.roles.get? id = some stored)
    (plain : stored.isEveryone = false) :
    Effect now g (.deleteRole id) { g with
      roles := g.roles.erase id
      members := g.members.mapRows fun m => m.removeRole id now
      overrides := g.overrides.filter fun key _ => key.2 ≠ .role id }
  | setPositions {guild : Snowflake} {positions : List (Snowflake × Int)} :
    Effect now g (.setPositions guild positions) (positions.foldl (moveRole now) g)
  | createMember {member : Member} :
    Effect now g (.createMember member)
      { g with members := g.members.insert member.userId member }
  | deleteMember {guild user : Snowflake} :
    Effect now g (.deleteMember guild user) { g with members := g.members.erase user }
  | assignRole {guild user role : Snowflake} {member : Member}
    (known : (g.roles.get? role).isSome = true) (found : g.members.get? user = some member)
    (lacking : member.hasRole role = false) :
    Effect now g (.assignRole guild user role)
      { g with members := g.members.insert user (member.addRole role now) }
  | unassignRole {guild user role : Snowflake} {member : Member}
    (found : g.members.get? user = some member) :
    Effect now g (.unassignRole guild user role)
      { g with members := g.members.insert user (member.removeRole role now) }
  | putOverride {row : ChannelOverride} :
    Effect now g (.putOverride row)
      { g with overrides := g.overrides.insert (row.channelId, row.target) row }
  | deleteOverride {channel : Snowflake} {target : OverrideTarget} :
    Effect now g (.deleteOverride channel target)
      { g with overrides := g.overrides.erase (channel, target) }
  | appendAudit {entry : Audit.Entry} :
    Effect now g (.appendAudit entry) { g with audit := g.audit.insert entry.id entry }

/-- A role after the moves that name it, each in turn. -/
def movedTo (now : Instant) (positions : List (Snowflake × Int)) (id : Snowflake) (r : Role) :
    Role :=
  positions.foldl (fun r move => if move.1 = id then r.setPosition move.2 now else r) r

theorem get?_moveRole (now : Instant) (g : GuildRows) (move : Snowflake × Int) (id : Snowflake) :
    (moveRole now g move).roles.get? id =
      (g.roles.get? id).map fun r => if move.1 = id then r.setPosition move.2 now else r := by
  unfold moveRole
  by_cases here : move.1 = id
  · subst here
    cases found : g.roles.get? move.1 with
    | none => simp [found]
    | some r => simp [KeyMap.get?_insert]
  · cases found : g.roles.get? move.1 with
    | none => simp [here]
    | some r => simp [here, KeyMap.get?_insert, Ne.symm here]

theorem get?_moveRoles (now : Instant) (positions : List (Snowflake × Int)) (g : GuildRows)
    (id : Snowflake) :
    (positions.foldl (moveRole now) g).roles.get? id =
      (g.roles.get? id).map (movedTo now positions id) := by
  induction positions generalizing g with
  | nil =>
    unfold movedTo
    simp
  | cons move rest ih =>
    rw [List.foldl_cons, ih, get?_moveRole, Option.map_map]
    rfl

/-- Moving roles leaves all other rows alone. -/
theorem moveRoles_frame (now : Instant) (positions : List (Snowflake × Int)) (g : GuildRows) :
    positions.foldl (moveRole now) g =
      { g with roles := (positions.foldl (moveRole now) g).roles } := by
  induction positions generalizing g with
  | nil => rfl
  | cons move rest ih =>
    have first : moveRole now g move = { g with roles := (moveRole now g move).roles } := by
      unfold moveRole
      split <;> rfl
    rw [List.foldl_cons, ih, first]

/-- A move changes nothing of a role but where it stands. -/
theorem movedTo_eq (now : Instant) (positions : List (Snowflake × Int)) (id : Snowflake)
    (r : Role) : ∃ position time,
      movedTo now positions id r = { r with position := position, updatedAt := time } := by
  induction positions generalizing r with
  | nil => exact ⟨r.position, r.updatedAt, rfl⟩
  | cons move rest ih =>
    unfold movedTo
    rw [List.foldl_cons]
    split
    · obtain ⟨position, time, same⟩ := ih (r.setPosition move.2 now)
      exact ⟨position, time, same⟩
    · exact ih r

/-- A role that no move names stays as it is. -/
theorem movedTo_of_not_mem {now : Instant} {positions : List (Snowflake × Int)} {id : Snowflake}
    {r : Role} (unnamed : ∀ move ∈ positions, move.1 ≠ id) : movedTo now positions id r = r := by
  induction positions with
  | nil => rfl
  | cons move rest ih =>
    have elsewhere : move.1 ≠ id := unnamed move List.mem_cons_self
    unfold movedTo
    rw [List.foldl_cons, if_neg elsewhere]
    exact ih fun later member => unnamed later (List.mem_cons_of_mem _ member)

/-- A role stays as it is, or stands where some move sends it. -/
theorem movedTo_position {now : Instant} {positions : List (Snowflake × Int)} {id : Snowflake}
    {P : Int → Prop} (sent : ∀ move ∈ positions, move.1 = id → P move.2) (r : Role) :
    movedTo now positions id r = r ∨ P (movedTo now positions id r).position := by
  induction positions generalizing r with
  | nil => exact .inl rfl
  | cons move rest ih =>
    have later := ih fun later member => sent later (List.mem_cons_of_mem _ member)
    unfold movedTo
    rw [List.foldl_cons]
    split
    · next here =>
      right
      rcases later (r.setPosition move.2 now) with same | reached
      · have arrived : P (r.setPosition move.2 now).position := sent move List.mem_cons_self here
        rwa [← same] at arrived
      · exact reached
    · exact later r

variable {s after : Store} {now : Instant}

theorem passes_locateChannel {id guild : Snowflake} {g : GuildRows} {row : Channel} :
    s.locateChannel id = .ok (guild, g, row) ↔
      s.channelIndex.get? id = some guild ∧ s.guilds.get? guild = some g ∧
        g.channels.get? id = some row := by
  unfold locateChannel
  simp only [passes_bind, passes_need]
  constructor
  · rintro ⟨_, indexed, _, found, _, stored, same⟩
    cases same
    exact ⟨indexed, found, stored⟩
  · rintro ⟨indexed, found, stored⟩
    exact ⟨guild, indexed, g, found, row, stored, rfl⟩

theorem passes_locateRole {id guild : Snowflake} {g : GuildRows} {row : Role} :
    s.locateRole id = .ok (guild, g, row) ↔
      s.roleIndex.get? id = some guild ∧ s.guilds.get? guild = some g ∧
        g.roles.get? id = some row := by
  unfold locateRole
  simp only [passes_bind, passes_need]
  constructor
  · rintro ⟨_, indexed, _, found, _, stored, same⟩
    cases same
    exact ⟨indexed, found, stored⟩
  · rintro ⟨indexed, found, stored⟩
    exact ⟨guild, indexed, g, found, row, stored, rfl⟩

theorem passes_addRole {g g' : GuildRows} {role : Role} (added : addRole g role = .ok g') :
    g.roles.get? role.id = none ∧ g' = { g with roles := g.roles.insert role.id role } := by
  unfold addRole at added
  split at added
  · cases added
  · split at added
    · cases added
    · next absent =>
      cases added
      exact ⟨by simpa [KeyMap.contains] using absent, rfl⟩

/-- The rows of one guild are rewritten as `Effect` says, and no others. -/
def Rewrites (now : Instant) (s : Store) (change : Change) (after : Store) : Prop :=
  ∃ guild g g', change.home? s = some guild ∧ s.guilds.get? guild = some g ∧
    change.Effect now g g' ∧ after.guilds = s.guilds.insert guild g'

def Founds (s : Store) (change : Change) (after : Store) : Prop :=
  ∃ guild everyone, change = .createGuild guild everyone ∧ s.guilds.get? guild.id = none ∧
    after.guilds = s.guilds.insert guild.id
      { GuildRows.new guild with roles := (KeyMap.empty).insert everyone.id everyone }

theorem createGuild_founds {guild : Guild} {everyone : Role}
    (done : s.createGuild guild everyone = .ok after) :
    Founds s (.createGuild guild everyone) after := by
  unfold createGuild at done
  rw [passes_bind] at done
  obtain ⟨g, added, done⟩ := done
  split at done
  · cases done
  · next absent =>
    cases done
    obtain ⟨-, rfl⟩ := passes_addRole added
    exact ⟨guild, everyone, rfl, by simpa [KeyMap.contains] using absent, rfl⟩

theorem updateGuild_rewrites {guild : Guild} (done : s.updateGuild guild = .ok after) :
    Rewrites now s (.updateGuild guild) after := by
  unfold updateGuild at done
  simp only [passes_bind, passes_need] at done
  obtain ⟨g, found, done⟩ := done
  cases done
  exact ⟨guild.id, g, _, rfl, found, .updateGuild, rfl⟩

theorem createChannel_rewrites {channel : Channel} (done : s.createChannel channel = .ok after) :
    Rewrites now s (.createChannel channel) after := by
  unfold createChannel at done
  simp only [passes_bind, passes_need] at done
  obtain ⟨g, found, done⟩ := done
  split at done
  · cases done
  · cases done
    exact ⟨channel.guildId, g, _, rfl, found, .createChannel, rfl⟩

theorem updateChannel_rewrites {channel : Channel} (done : s.updateChannel channel = .ok after) :
    Rewrites now s (.updateChannel channel) after := by
  unfold updateChannel at done
  rw [passes_bind] at done
  obtain ⟨⟨guild, g, stored⟩, located, done⟩ := done
  obtain ⟨indexed, found, row⟩ := passes_locateChannel.mp located
  cases done
  exact ⟨guild, g, _, indexed, found, .updateChannel row, rfl⟩

theorem deleteChannel_rewrites {id : Snowflake} (done : s.deleteChannel id = .ok after) :
    Rewrites now s (.deleteChannel id) after := by
  unfold deleteChannel at done
  rw [passes_bind] at done
  obtain ⟨⟨guild, g, stored⟩, located, done⟩ := done
  obtain ⟨indexed, found, -⟩ := passes_locateChannel.mp located
  cases done
  exact ⟨guild, g, _, indexed, found, .deleteChannel, rfl⟩

theorem setLockdown_rewrites {channel : Channel} {everyone : Snowflake}
    {overwrite : Option Overwrite}
    (done : s.setLockdown channel everyone overwrite now = .ok after) :
    Rewrites now s (.setLockdown channel everyone overwrite) after := by
  unfold setLockdown at done
  rw [passes_bind] at done
  obtain ⟨⟨guild, g, stored⟩, located, done⟩ := done
  obtain ⟨indexed, found, row⟩ := passes_locateChannel.mp located
  cases done
  exact ⟨guild, g, _, indexed, found, .setLockdown row, rfl⟩

theorem createRole_rewrites {role : Role} (done : s.createRole role = .ok after) :
    Rewrites now s (.createRole role) after := by
  unfold createRole at done
  simp only [passes_bind, passes_need] at done
  obtain ⟨g, found, _, added, done⟩ := done
  obtain ⟨absent, rfl⟩ := passes_addRole added
  cases done
  exact ⟨role.guildId, g, _, rfl, found, .createRole absent, rfl⟩

theorem updateRole_rewrites {role : Role} (done : s.updateRole role = .ok after) :
    Rewrites now s (.updateRole role) after := by
  unfold updateRole at done
  rw [passes_bind] at done
  obtain ⟨⟨guild, g, stored⟩, located, done⟩ := done
  obtain ⟨indexed, found, row⟩ := passes_locateRole.mp located
  cases done
  exact ⟨guild, g, _, indexed, found, .updateRole row, rfl⟩

theorem deleteRole_rewrites {id : Snowflake} (done : s.deleteRole id now = .ok after) :
    Rewrites now s (.deleteRole id) after := by
  unfold deleteRole at done
  rw [passes_bind] at done
  obtain ⟨⟨guild, g, stored⟩, located, done⟩ := done
  obtain ⟨indexed, found, row⟩ := passes_locateRole.mp located
  dsimp only at done
  split at done
  · cases done
  · next plain =>
    cases done
    exact ⟨guild, g, _, indexed, found, .deleteRole row (by simpa using plain), rfl⟩

theorem setPositions_rewrites {guild : Snowflake} {positions : List (Snowflake × Int)}
    (done : s.setPositions guild positions now = .ok after) :
    Rewrites now s (.setPositions guild positions) after := by
  unfold setPositions at done
  simp only [passes_bind, passes_need] at done
  obtain ⟨g, found, done⟩ := done
  split at done
  · cases done
  · cases done
    exact ⟨guild, g, _, rfl, found, .setPositions, rfl⟩

theorem createMember_rewrites {member : Member} (done : s.createMember member = .ok after) :
    Rewrites now s (.createMember member) after := by
  unfold createMember at done
  simp only [passes_bind, passes_need] at done
  obtain ⟨g, found, done⟩ := done
  split at done
  · cases done
  · cases done
    exact ⟨member.guildId, g, _, rfl, found, .createMember, rfl⟩

theorem deleteMember_rewrites {guild user : Snowflake}
    (done : s.deleteMember guild user = .ok after) :
    Rewrites now s (.deleteMember guild user) after := by
  unfold deleteMember at done
  simp only [passes_bind, passes_need] at done
  obtain ⟨g, found, done⟩ := done
  split at done
  · cases done
    exact ⟨guild, g, _, rfl, found, .deleteMember, rfl⟩
  · cases done

theorem assignRole_rewrites {guild user role : Snowflake}
    (done : s.assignRole guild user role now = .ok after) :
    Rewrites now s (.assignRole guild user role) after := by
  unfold assignRole at done
  simp only [passes_bind, passes_need] at done
  obtain ⟨g, found, done⟩ := done
  split at done
  · next known =>
    simp only [passes_bind, passes_need] at done
    obtain ⟨m, listed, done⟩ := done
    split at done
    · cases done
    · next lacking =>
      cases done
      exact ⟨guild, g, _, rfl, found, .assignRole known listed (by simpa using lacking), rfl⟩
  · cases done

theorem unassignRole_rewrites {guild user role : Snowflake} {m : Member}
    (listed : s.member? guild user = some m) :
    Rewrites now s (.unassignRole guild user role) (s.unassignRole guild user role now) := by
  obtain ⟨g, found, listed⟩ := Option.bind_eq_some_iff.mp listed
  refine ⟨guild, g, _, rfl, found, .unassignRole listed, ?_⟩
  simp only [unassignRole, found, listed]
  rfl

/-- Nothing is taken from one who is no member. -/
theorem unassignRole_idle {guild user role : Snowflake} (absent : s.member? guild user = none) :
    s.unassignRole guild user role now = s := by
  unfold unassignRole
  split
  · next g found =>
    have absent : g.members.get? user = none := by simpa [member?, found] using absent
    simp only [absent]
  · rfl

theorem putOverride_rewrites {row : ChannelOverride} (done : s.putOverride row = .ok after) :
    Rewrites now s (.putOverride row) after := by
  unfold putOverride at done
  simp only [passes_bind, passes_need] at done
  obtain ⟨guild, indexed, g, found, done⟩ := done
  cases done
  exact ⟨guild, g, _, indexed, found, .putOverride, rfl⟩

theorem deleteOverride_rewrites {channel : Snowflake} {target : OverrideTarget} {g : GuildRows}
    (located : s.rowsOfChannel? channel = some g) :
    Rewrites now s (.deleteOverride channel target) (s.deleteOverride channel target) := by
  obtain ⟨guild, indexed, found⟩ := Option.bind_eq_some_iff.mp located
  refine ⟨guild, g, _, indexed, found, .deleteOverride, ?_⟩
  simp only [deleteOverride, indexed, found]
  rfl

/-- Nothing is removed from a channel that is not there. -/
theorem deleteOverride_idle {channel : Snowflake} {target : OverrideTarget}
    (absent : s.rowsOfChannel? channel = none) : s.deleteOverride channel target = s := by
  unfold deleteOverride
  split
  · next guild indexed =>
    have absent : s.guilds.get? guild = none := by simpa [rowsOfChannel?, indexed] using absent
    simp only [absent]
  · rfl

theorem appendAudit_rewrites {entry : Audit.Entry} (done : s.appendAudit entry = .ok after) :
    Rewrites now s (.appendAudit entry) after := by
  unfold appendAudit at done
  simp only [passes_bind, passes_need] at done
  obtain ⟨g, found, done⟩ := done
  cases done
  exact ⟨entry.guildId, g, _, rfl, found, .appendAudit, rfl⟩

/-- A change that succeeds leaves the store as it was, founds a guild, or rewrites the rows of one
guild. -/
theorem apply_cases {change : Change} (done : s.apply now change = .ok after) :
    after = s ∨ Founds s change after ∨ Rewrites now s change after := by
  cases change with
  | createGuild guild everyone => exact .inr (.inl (createGuild_founds done))
  | updateGuild guild => exact .inr (.inr (updateGuild_rewrites done))
  | createChannel channel => exact .inr (.inr (createChannel_rewrites done))
  | updateChannel channel => exact .inr (.inr (updateChannel_rewrites done))
  | deleteChannel id => exact .inr (.inr (deleteChannel_rewrites done))
  | setLockdown channel everyone overwrite => exact .inr (.inr (setLockdown_rewrites done))
  | createRole role => exact .inr (.inr (createRole_rewrites done))
  | updateRole role => exact .inr (.inr (updateRole_rewrites done))
  | deleteRole id => exact .inr (.inr (deleteRole_rewrites done))
  | setPositions guild positions => exact .inr (.inr (setPositions_rewrites done))
  | createMember member => exact .inr (.inr (createMember_rewrites done))
  | deleteMember guild user => exact .inr (.inr (deleteMember_rewrites done))
  | assignRole guild user role => exact .inr (.inr (assignRole_rewrites done))
  | unassignRole guild user role =>
    cases done
    cases listed : s.member? guild user with
    | some m => exact .inr (.inr (unassignRole_rewrites listed))
    | none => exact .inl (unassignRole_idle listed)
  | putOverride row => exact .inr (.inr (putOverride_rewrites done))
  | deleteOverride channel target =>
    cases done
    cases located : s.rowsOfChannel? channel with
    | some g => exact .inr (.inr (deleteOverride_rewrites located))
    | none => exact .inl (deleteOverride_idle located)
  | appendAudit entry => exact .inr (.inr (appendAudit_rewrites done))

/-- Rows of guilds that a change is not about stay as they were. -/
theorem apply_frame {change : Change} {home guild : Snowflake} (about : change.home? s = some home)
    (done : s.apply now change = .ok after) (other : guild ≠ home) :
    after.guilds.get? guild = s.guilds.get? guild := by
  rcases apply_cases done with rfl | ⟨founded, everyone, rfl, -, rows⟩ |
    ⟨rewritten, g, g', here, -, -, rows⟩
  · rfl
  · cases about
    rw [rows, KeyMap.get?_insert, if_neg other]
  · cases about.symm.trans here
    rw [rows, KeyMap.get?_insert, if_neg other]

end GuildAccess.Store
