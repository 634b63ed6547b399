import GuildAccess.Proofs.Store.Effect

/-!
Stores that changes can build. In each of them every row is stored under its own identifier, and
channels and members under their own guild.
-/
namespace GuildAccess

/-- The stores that changes lead to from the empty one, changes that fail included. -/
inductive Store.Reachable : Store → Prop
  | start : Reachable .empty
  | step {s : Store} (reach : Reachable s) (now : Instant) (change : Store.Change) :
    Reachable (s.commit now change).1

/-- Rows stored under the identifiers they carry. -/
structure GuildRows.Keyed (guild : Snowflake) (g : GuildRows) : Prop where
  guild_id : g.guild.id = guild
  role_id : ∀ id r, g.roles.get? id = some r → r.id = id
  channel_id : ∀ id c, g.channels.get? id = some c → c.id = id ∧ c.guildId = guild
  member_id : ∀ id m, g.members.get? id = some m → m.userId = id ∧ m.guildId = guild
  override_id : ∀ key o, g.overrides.get? key = some o → (o.channelId, o.target) = key
  entry_id : ∀ id e, g.audit.get? id = some e → e.id = id ∧ e.guildId = guild

def Store.Keyed (s : Store) : Prop := ∀ guild g, s.guilds.get? guild = some g → g.Keyed guild

theorem Member.addRole_ids (m : Member) (role : Snowflake) (now : Instant) :
    (m.addRole role now).userId = m.userId ∧ (m.addRole role now).guildId = m.guildId := by
  unfold addRole
  split <;> exact ⟨rfl, rfl⟩

theorem Member.removeRole_ids (m : Member) (role : Snowflake) (now : Instant) :
    (m.removeRole role now).userId = m.userId ∧ (m.removeRole role now).guildId = m.guildId := by
  unfold removeRole
  split <;> exact ⟨rfl, rfl⟩

theorem GuildRows.new_keyed (guild : Guild) : (GuildRows.new guild).Keyed guild.id where
  guild_id := rfl
  role_id := by intro id r found; cases found
  channel_id := by intro id c found; cases found
  member_id := by intro id m found; cases found
  override_id := by intro key o found; cases found
  entry_id := by intro id e found; cases found

namespace Store
variable {s after : Store} {now : Instant} {change : Change} {guild : Snowflake} {g g' : GuildRows}

/-- Each rewriting keeps rows under the identifiers they carry. -/
theorem Change.Effect.keyed (effect : change.Effect now g g') (keyed : g.Keyed guild)
    (home : change.home? s = some guild) : g'.Keyed guild := by
  cases effect with
  | updateGuild => exact { keyed with guild_id := keyed.guild_id }
  | createChannel =>
    exact { keyed with
      channel_id := KeyMap.insert_all keyed.channel_id ⟨rfl, Option.some.inj home⟩ }
  | updateChannel found =>
    have stored := keyed.channel_id _ _ found
    exact { keyed with channel_id := KeyMap.insert_all keyed.channel_id stored }
  | deleteChannel =>
    refine { keyed with
      channel_id := KeyMap.mapRows_all fun id c found => ?_
      override_id := KeyMap.filter_all keyed.override_id }
    have stored := KeyMap.filter_all keyed.channel_id id c found
    split <;> exact stored
  | setLockdown found =>
    have stored := keyed.channel_id _ _ found
    refine { keyed with
      channel_id := KeyMap.insert_all keyed.channel_id stored
      override_id := ?_ }
    split
    · exact KeyMap.insert_all keyed.override_id rfl
    · exact KeyMap.filter_all keyed.override_id
  | createRole => exact { keyed with role_id := KeyMap.insert_all keyed.role_id rfl }
  | updateRole => exact { keyed with role_id := KeyMap.insert_all keyed.role_id rfl }
  | deleteRole =>
    refine { keyed with
      role_id := KeyMap.filter_all keyed.role_id
      member_id := KeyMap.mapRows_all fun id m found => ?_
      override_id := KeyMap.filter_all keyed.override_id }
    rw [(m.removeRole_ids _ _).1, (m.removeRole_ids _ _).2]
    exact keyed.member_id id m found
  | setPositions =>
    rw [moveRoles_frame]
    refine { keyed with role_id := fun id r found => ?_ }
    rw [get?_moveRoles] at found
    obtain ⟨old, stored, rfl⟩ := Option.map_eq_some_iff.mp found
    obtain ⟨position, time, moved⟩ := movedTo_eq now _ id old
    rw [moved]
    exact keyed.role_id id old stored
  | createMember =>
    exact { keyed with
      member_id := KeyMap.insert_all keyed.member_id ⟨rfl, Option.some.inj home⟩ }
  | deleteMember => exact { keyed with member_id := KeyMap.filter_all keyed.member_id }
  | @assignRole _ _ role m _ found _ =>
    refine { keyed with member_id := KeyMap.insert_all keyed.member_id ?_ }
    rw [(m.addRole_ids role now).1, (m.addRole_ids role now).2]
    exact keyed.member_id _ m found
  | @unassignRole _ _ role m found =>
    refine { keyed with member_id := KeyMap.insert_all keyed.member_id ?_ }
    rw [(m.removeRole_ids role now).1, (m.removeRole_ids role now).2]
    exact keyed.member_id _ m found
  | putOverride => exact { keyed with override_id := KeyMap.insert_all keyed.override_id rfl }
  | deleteOverride => exact { keyed with override_id := KeyMap.filter_all keyed.override_id }
  | appendAudit =>
    exact { keyed with
      entry_id := KeyMap.insert_all keyed.entry_id ⟨rfl, Option.some.inj home⟩ }

theorem apply_keyed (keyed : s.Keyed) (done : s.apply now change = .ok after) : after.Keyed := by
  rcases apply_cases done with rfl | ⟨guild, everyone, -, -, rows⟩ |
    ⟨guild, g, g', home, found, effect, rows⟩
  · exact keyed
  · unfold Keyed
    rw [rows]
    have blank := GuildRows.new_keyed guild
    exact KeyMap.insert_all keyed
      { blank with role_id := KeyMap.insert_all blank.role_id rfl }
  · unfold Keyed
    rw [rows]
    exact KeyMap.insert_all keyed (effect.keyed (keyed guild g found) home)

/-- In every store that changes can build, rows are stored under the identifiers they carry. -/
theorem Reachable.keyed (reach : s.Reachable) : s.Keyed := by
  induction reach with
  | start =>
    intro guild g found
    cases found
  | @step s _ now change keyed =>
    unfold Store.commit
    cases done : s.apply now change with
    | ok after => exact apply_keyed keyed done
    | error cause => exact keyed

theorem Reachable.apply (reach : s.Reachable) (done : s.apply now change = .ok after) :
    after.Reachable := by
  have next := reach.step now change
  unfold Store.commit at next
  rwa [done] at next

/-- Role rows carry the identifier of the guild that they are stored under. -/
def RolesAtHome (s : Store) : Prop :=
  ∀ guild g id r, s.guilds.get? guild = some g → g.roles.get? id = some r → r.guildId = guild

/-- Each rewriting keeps roles at home. -/
theorem Change.Effect.atHome (effect : change.Effect now g g') (home : change.home? s = some guild)
    (all : ∀ id r, g.roles.get? id = some r → r.guildId = guild) :
    ∀ id r, g'.roles.get? id = some r → r.guildId = guild := by
  cases effect with
  | createRole absent => exact KeyMap.insert_all all (Option.some.inj home)
  | updateRole found =>
    have stored := all _ _ found
    exact KeyMap.insert_all all stored
  | deleteRole found plain => exact KeyMap.filter_all all
  | setPositions =>
    intro id r found
    rw [get?_moveRoles] at found
    obtain ⟨old, stored, rfl⟩ := Option.map_eq_some_iff.mp found
    obtain ⟨position, time, moved⟩ := movedTo_eq now _ id old
    rw [moved]
    exact all id old stored
  | _ => exact all

/-- Only a new guild can bring a role that is not at home. -/
theorem apply_rolesAtHome (home : s.RolesAtHome) (done : s.apply now change = .ok after)
    (founded : ∀ guild everyone, change ≠ .createGuild guild everyone) : after.RolesAtHome := by
  rcases apply_cases done with rfl | ⟨guild, everyone, same, -⟩ |
    ⟨guild, g, g', about, found, effect, rows⟩
  · exact home
  · exact absurd same (founded guild everyone)
  · have all : ∀ guild g, s.guilds.get? guild = some g →
        ∀ id r, g.roles.get? id = some r → r.guildId = guild :=
      fun guild g rows id r => home guild g id r rows
    have written := effect.atHome about (all guild g found)
    intro guild' g'' id r rows'
    rw [rows] at rows'
    exact KeyMap.insert_all all written guild' g'' rows' id r

/-- Roles are at home if every listed one is. -/
theorem rolesAtHome_of_all
    (all : s.guilds.entries.all
      (fun e => e.2.roles.entries.all fun r => r.2.guildId = e.1) = true) :
    s.RolesAtHome := by
  intro guild g id r found stored
  simp only [List.all_eq_true, decide_eq_true_eq] at all
  exact all _ (KeyMap.mem_of_get? found) _ (KeyMap.mem_of_get? stored)

/-- A channel that is found is stored in the guild that it names. -/
theorem Keyed.channel_stored {id : Snowflake} {row : Channel} (keyed : s.Keyed)
    (found : s.channel? id = some row) :
    row.id = id ∧ s.channelIndex.get? id = some row.guildId ∧
      ∃ g, s.guilds.get? row.guildId = some g ∧ g.channels.get? id = some row := by
  unfold channel? rowsOfChannel? at found
  obtain ⟨g, located, stored⟩ := Option.bind_eq_some_iff.mp found
  obtain ⟨guild, indexed, rows⟩ := Option.bind_eq_some_iff.mp located
  obtain ⟨row_id, row_guild⟩ := (keyed guild g rows).channel_id id row stored
  subst row_guild
  exact ⟨row_id, indexed, g, rows, stored⟩

/-- A role that is found is stored under its identifier in the guild that the index names. -/
theorem Keyed.role_stored {id : Snowflake} {row : Role} (keyed : s.Keyed)
    (found : s.role? id = some row) :
    row.id = id ∧ ∃ guild g, s.roleIndex.get? id = some guild ∧ s.guilds.get? guild = some g ∧
      g.roles.get? id = some row := by
  unfold role? rowsOfRole? at found
  obtain ⟨g, located, stored⟩ := Option.bind_eq_some_iff.mp found
  obtain ⟨guild, indexed, rows⟩ := Option.bind_eq_some_iff.mp located
  exact ⟨(keyed guild g rows).role_id id row stored, guild, g, indexed, rows, stored⟩

/-- Where roles are at home, a role that is found is stored in the guild that it names. -/
theorem Keyed.role_home {id : Snowflake} {row : Role} (keyed : s.Keyed) (home : s.RolesAtHome)
    (found : s.role? id = some row) :
    row.id = id ∧ s.roleIndex.get? id = some row.guildId ∧
      ∃ g, s.guilds.get? row.guildId = some g ∧ g.roles.get? id = some row := by
  obtain ⟨row_id, guild, g, indexed, rows, stored⟩ := keyed.role_stored found
  have row_guild := home guild g id row rows stored
  subst row_guild
  exact ⟨row_id, indexed, g, rows, stored⟩

/-- The store after changes in turn, each carried out or not. -/
def commitAll (s : Store) (now : Instant) (changes : List Change) : Store :=
  changes.foldl (fun s change => (s.commit now change).1) s

theorem Reachable.commitAll (reach : s.Reachable) (now : Instant) (changes : List Change) :
    (s.commitAll now changes).Reachable := by
  induction changes generalizing s with
  | nil => exact reach
  | cons change rest ih => exact ih (reach.step now change)

/-- A small store: user 1 owns guild 1, user 2 moderates it through role 10 at position 10 and may
manage roles, and role 11 below lets its holders ban. -/
def sample : Store :=
  let now : Instant := ⟨0, 0⟩
  let id := Snowflake.wrap
  empty.commitAll now [
    .createGuild (.new (id 1) "guild" (id 1) now) (.everyone (id 1) (id 1) now),
    .createRole { Role.new (id 10) (id 1) "mod" (.only .manageRoles) now with position := 10 },
    .createRole { Role.new (id 11) (id 1) "warden" (.only .banMembers) now with position := 5 },
    .createMember ((Member.new (id 1) (id 2) now).addRole (id 10) now),
    .createMember (.new (id 1) (id 3) now)]

def sampleRows : GuildRows := (sample.guilds.get? (.wrap 1)).get (by decide)

theorem sample_reachable : sample.Reachable := Reachable.start.commitAll _ _

theorem sample_rolesAtHome : sample.RolesAtHome := rolesAtHome_of_all (by decide)

/-- The small store with a text channel, 20, in which user 2 may not send. -/
def channelSample : Store :=
  let now : Instant := ⟨0, 0⟩
  let id := Snowflake.wrap
  sample.commitAll now [
    .createChannel (.new (id 20) (id 1) "hall" .text now),
    .putOverride ⟨id 20, id 1, .member (id 2), ⟨∅, .only .sendMessages⟩, now⟩]

theorem channelSample_reachable : channelSample.Reachable := sample_reachable.commitAll _ _

theorem channelSample_rolesAtHome : channelSample.RolesAtHome := rolesAtHome_of_all (by decide)

end Store
end GuildAccess
