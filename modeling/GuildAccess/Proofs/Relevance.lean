import GuildAccess.Proofs.Layers
import GuildAccess.Proofs.Outcome

/-!
What a permission decision depends on. Two stores that agree on the rows that concern a user give
the same answers about that user, whatever else they hold: roles the user does not have, other
members and their overrides, other channels and guilds, the times of rows, and the logs.
-/
namespace GuildAccess

/-- Roles with the same permissions and mark grant the same. -/
theorem Role.grants_congr {r r' : Role} (permissions : r'.permissions = r.permissions)
    (mark : r'.isAdmin = r.isAdmin) (f : Flag) : r'.grants f = r.grants f := by
  unfold grants grantsAdministrator
  rw [permissions, mark]

/-- Ranks that are each at most the other are the same. -/
theorem Rank.atMost_antisymm {a b : Rank} (below : a.atMost b = true) (above : b.atMost a = true) :
    a = b := by
  rw [Rank.atMost_iff] at below above
  have position : a.1 = b.1 := by omega
  have id : a.2.toInt = b.2.toInt := by omega
  exact Prod.ext position (Snowflake.ext id)

namespace GuildRows
variable {g g' : GuildRows} {guild guild' channel user : Snowflake} {f : Flag}

/-- Whose overrides concern a user: those of the everyone role, of the roles the user holds, and
the user's own. -/
def Concerns (g : GuildRows) (user : Snowflake) : OverrideTarget → Prop
  | .role id => g.IsEveryone id ∨ ∃ r, g.HasRole user id r
  | .member id => id = user

/-- Agreement on the rows that concern a user in a channel. -/
structure AlikeFor (g g' : GuildRows) (channel user : Snowflake) : Prop where
  owner : g'.guild.isOwner user = g.guild.isOwner user
  member : (g'.members.get? user).map (·.roles) = (g.members.get? user).map (·.roles)
  everyone : g'.everyone?.map (fun r => (r.id, r.permissions, r.isAdmin)) =
    g.everyone?.map fun r => (r.id, r.permissions, r.isAdmin)
  roles : ∀ id standing, (∃ r, g'.HasRole user id r ∧ r.standing = standing) ↔
    ∃ r, g.HasRole user id r ∧ r.standing = standing
  overrides : ∀ target, g.Concerns user target →
    g'.overwrite? channel target = g.overwrite? channel target

/-- A flag is held as the owner, through the everyone role, or through a role that is held. -/
theorem Keyed.serverOf_iff (keyed : g.Keyed guild) (one : g.OneEveryone) :
    (g.serverOf user).has f = true ↔ g.guild.isOwner user = true ∨
      (∃ r, g.everyone? = some r ∧ r.grants f = true) ∨
      ∃ id r, g.HasRole user id r ∧ r.grants f = true := by
  rw [serverOf_has]
  refine or_congr_right ?_
  constructor
  · rintro ⟨id, r, stored, counts, granted⟩
    cases everyone : r.isEveryone with
    | true => exact .inl ⟨r, (everyone?_eq_some one).mp ⟨⟨id, stored⟩, everyone⟩, granted⟩
    | false =>
      have held : id ∈ g.heldBy user := by
        simpa [everyone] using (keyed.contributes_iff stored).mp counts
      exact .inr ⟨id, r, keyed.hasRole_iff.mpr ⟨stored, everyone, held⟩, granted⟩
  · rintro (⟨r, first, granted⟩ | ⟨id, r, holds, granted⟩)
    · obtain ⟨⟨id, stored⟩, everyone⟩ := (everyone?_eq_some one).mpr first
      exact ⟨id, r, stored, (keyed.contributes_iff stored).mpr (.inl everyone), granted⟩
    · obtain ⟨stored, -, held⟩ := keyed.hasRole_iff.mp holds
      exact ⟨id, r, stored, (keyed.contributes_iff stored).mpr (.inr held), granted⟩

namespace AlikeFor

theorem hasInsider (alike : g.AlikeFor g' channel user) :
    g'.hasInsider user = g.hasInsider user := by
  unfold GuildRows.hasInsider
  have present := congrArg Option.isSome alike.member
  rw [Option.isSome_map, Option.isSome_map] at present
  rw [alike.owner, present]

/-- Alike rows have alike everyone roles. -/
theorem everyone_grants (alike : g.AlikeFor g' channel user) :
    (∃ r, g'.everyone? = some r ∧ r.grants f = true) ↔
      ∃ r, g.everyone? = some r ∧ r.grants f = true := by
  have same := alike.everyone
  cases here : g.everyone? with
  | none =>
    rw [here, Option.map_none, Option.map_eq_none_iff] at same
    simp [same]
  | some r =>
    rw [here, Option.map_some] at same
    obtain ⟨r', there, equal⟩ := Option.map_eq_some_iff.mp same
    obtain ⟨-, permissions, mark⟩ := by simpa using equal
    simp [there, Role.grants_congr permissions mark]

/-- Alike rows have alike held roles. -/
theorem role_grants (alike : g.AlikeFor g' channel user) :
    (∃ id r, g'.HasRole user id r ∧ r.grants f = true) ↔
      ∃ id r, g.HasRole user id r ∧ r.grants f = true := by
  constructor
  · rintro ⟨id, r', holds', granted⟩
    obtain ⟨r, holds, same⟩ := (alike.roles id r'.standing).mp ⟨r', holds', rfl⟩
    obtain ⟨-, -, permissions, mark⟩ := Role.standing_eq_iff.mp same
    exact ⟨id, r, holds, (Role.grants_congr permissions mark f).trans granted⟩
  · rintro ⟨id, r, holds, granted⟩
    obtain ⟨r', holds', same⟩ := (alike.roles id r.standing).mpr ⟨r, holds, rfl⟩
    obtain ⟨-, -, permissions, mark⟩ := Role.standing_eq_iff.mp same
    exact ⟨id, r', holds', (Role.grants_congr permissions mark f).trans granted⟩

section
variable (alike : g.AlikeFor g' channel user) (keyed : g.Keyed guild) (keyed' : g'.Keyed guild')
include alike keyed keyed'

theorem serverOf_eq (one : g.OneEveryone) (one' : g'.OneEveryone) :
    g'.serverOf user = g.serverOf user := by
  apply Permissions.ext_has
  intro f
  rw [Bool.eq_iff_iff, keyed'.serverOf_iff one', keyed.serverOf_iff one, alike.owner,
    alike.everyone_grants, alike.role_grants]

/-- Held roles are ranked the same: their ranks are the same set, and there is one way to list it in
ascending order. -/
theorem heldRanks_eq : (g'.heldRoles user).map (fun r => (r.position, r.id)) =
    (g.heldRoles user).map fun r => (r.position, r.id) := by
  have listed : ∀ {h h' : GuildRows} {rank : Rank},
      (∀ id standing, (∃ r, h.HasRole user id r ∧ r.standing = standing) →
        ∃ r, h'.HasRole user id r ∧ r.standing = standing) →
      rank ∈ (h.heldRoles user).map (fun r => (r.position, r.id)) →
      rank ∈ (h'.heldRoles user).map fun r => (r.position, r.id) := by
    intro h h' rank transfer member
    obtain ⟨r, held, rfl⟩ := List.mem_map.mp member
    obtain ⟨id, holds⟩ := mem_heldRoles.mp held
    obtain ⟨r', holds', same⟩ := transfer id r.standing ⟨r, holds, rfl⟩
    obtain ⟨named, position, -, -⟩ := Role.standing_eq_iff.mp same
    refine List.mem_map.mpr ⟨r', mem_heldRoles.mpr ⟨id, holds'⟩, ?_⟩
    rw [position, named]
  have distinct : ∀ {h : GuildRows} {home : Snowflake}, h.Keyed home →
      ((h.heldRoles user).map fun r => ((r.position, r.id) : Rank)).Nodup := by
    intro h home keyed
    have ids : ((h.heldRoles user).map (·.id)).Nodup := keyed.heldRoles_nodup
    rw [List.nodup_iff_pairwise_ne, List.pairwise_map] at ids ⊢
    exact ids.imp fun apart same => apart (congrArg Prod.snd same)
  have permuted := (List.perm_ext_iff_of_nodup (distinct keyed') (distinct keyed)).mpr fun rank =>
    ⟨listed fun id standing => (alike.roles id standing).mp,
      listed fun id standing => (alike.roles id standing).mpr⟩
  exact permuted.eq_of_pairwise (fun _ _ _ _ => Rank.atMost_antisymm)
    (List.pairwise_map.mpr heldRoles_sorted) (List.pairwise_map.mpr heldRoles_sorted)

/-- The same overrides concern a user, in the same order. -/
theorem layersOf_eq : g'.layersOf user = g.layersOf user := by
  have everyone : g'.everyone?.map (·.id) = g.everyone?.map (·.id) := by
    have ids := congrArg (Option.map Prod.fst) alike.everyone
    simpa [Function.comp_def] using ids
  have first : g'.everyone?.toList.map (fun r => OverrideTarget.role r.id) =
      g.everyone?.toList.map fun r => .role r.id := by
    have targets := congrArg (fun id => (id.map OverrideTarget.role).toList) everyone
    cases here : g.everyone? <;> cases there : g'.everyone? <;> simp_all
  have held : (g'.heldRoles user).map (fun r => OverrideTarget.role r.id) =
      (g.heldRoles user).map fun r => .role r.id := by
    have targets := congrArg (List.map fun rank => OverrideTarget.role rank.2)
      (alike.heldRanks_eq keyed keyed')
    simpa [Function.comp_def] using targets
  unfold layersOf
  rw [first, held]

end

end AlikeFor

/-- The overrides that concern a user are those that are applied. -/
theorem Keyed.mem_layersOf (keyed : g.Keyed guild) (one : g.OneEveryone)
    {target : OverrideTarget} : target ∈ g.layersOf user ↔ g.Concerns user target := by
  simp only [layersOf, List.mem_append, List.mem_map, Option.mem_toList, List.mem_singleton]
  constructor
  · rintro ((⟨r, first, rfl⟩ | ⟨r, held, rfl⟩) | rfl)
    · obtain ⟨⟨id, stored⟩, everyone⟩ := (everyone?_eq_some one).mpr first
      exact .inl ⟨r, (keyed.role_id id r stored).symm ▸ stored, everyone⟩
    · obtain ⟨id, holds⟩ := mem_heldRoles.mp held
      exact .inr ⟨r, (keyed.role_id id r holds.1).symm ▸ holds⟩
    · rfl
  · intro concerns
    cases target with
    | member id => exact .inr (congrArg _ concerns)
    | role id =>
      rcases concerns with ⟨r, stored, everyone⟩ | ⟨r, holds⟩
      · have first := (everyone?_eq_some one).mp ⟨⟨id, stored⟩, everyone⟩
        exact .inl (.inl ⟨r, first, congrArg _ (keyed.role_id id r stored)⟩)
      · have held := mem_heldRoles.mpr ⟨id, holds⟩
        exact .inl (.inr ⟨r, held, congrArg _ (keyed.role_id id r holds.1)⟩)

/-- Agreement can be read off the roles that are held and the overrides that are applied. -/
theorem AlikeFor.of_lists (keyed : g.Keyed guild) (keyed' : g'.Keyed guild')
    (one : g.OneEveryone) (owner : g'.guild.isOwner user = g.guild.isOwner user)
    (member : (g'.members.get? user).map (·.roles) = (g.members.get? user).map (·.roles))
    (everyone : g'.everyone?.map (fun r => (r.id, r.permissions, r.isAdmin)) =
      g.everyone?.map fun r => (r.id, r.permissions, r.isAdmin))
    (roles : (g'.heldRoles user).map Role.standing = (g.heldRoles user).map Role.standing)
    (overrides : ∀ target ∈ g.layersOf user,
      g'.overwrite? channel target = g.overwrite? channel target) :
    g.AlikeFor g' channel user := by
  have listed : ∀ {h : GuildRows} {home : Snowflake} (_ : h.Keyed home) (id standing),
      (∃ r, h.HasRole user id r ∧ r.standing = standing) ↔
        standing ∈ (h.heldRoles user).map Role.standing ∧ standing.1 = id := by
    intro h home keyed id standing
    rw [List.mem_map]
    constructor
    · rintro ⟨r, holds, rfl⟩
      exact ⟨⟨r, mem_heldRoles.mpr ⟨id, holds⟩, rfl⟩, keyed.role_id id r holds.1⟩
    · rintro ⟨⟨r, held, rfl⟩, rfl⟩
      obtain ⟨id, holds⟩ := mem_heldRoles.mp held
      have here : id = r.standing.1 := (keyed.role_id id r holds.1).symm
      exact ⟨r, here ▸ holds, rfl⟩
  refine ⟨owner, member, everyone, fun id standing => ?_, fun target concerns => ?_⟩
  · rw [listed keyed', listed keyed, roles]
  · exact overrides target ((keyed.mem_layersOf one).mpr concerns)

/-- Alike rows give a user the same permissions in the channel. -/
theorem AlikeFor.channelOf_eq (alike : g.AlikeFor g' channel user) (keyed : g.Keyed guild)
    (keyed' : g'.Keyed guild') (one : g.OneEveryone) (one' : g'.OneEveryone)
    (known : (g.channels.get? channel).isSome = true)
    (known' : (g'.channels.get? channel).isSome = true) :
    g'.channelOf channel user = g.channelOf channel user := by
  rw [keyed'.channelOf_eq known' one', keyed.channelOf_eq known one,
    alike.serverOf_eq keyed keyed' one one', alike.layersOf_eq keyed keyed',
    Resolver.stack_congr fun target layer =>
      alike.overrides target ((keyed.mem_layersOf one).mp layer)]

end GuildRows

/-- What a user is found to hold in a guild, or in a channel of it if one is named. -/
def Store.held (s : Store) (guild : Snowflake) (scope : Option Snowflake) (user : Snowflake) :
    Except CallError Permissions :=
  (Judge.snapshot s guild user scope).map fun taken => Judge.resolved taken scope

/-- Agreement of two stores on all that concerns a user in a channel of a guild. -/
structure Store.AlikeFor (s s' : Store) (guild channel user : Snowflake) : Prop where
  rows : ∃ g g', s.guilds.get? guild = some g ∧ s'.guilds.get? guild = some g' ∧
    g.AlikeFor g' channel user
  inGuild : (s.channel? channel).map (·.guildId) = some guild
  inGuild' : (s'.channel? channel).map (·.guildId) = some guild

/-- A channel of a guild is among its rows. -/
theorem Store.Keyed.channel_known {s : Store} {guild channel : Snowflake} {g : GuildRows}
    (keyed : s.Keyed) (rows : s.guilds.get? guild = some g)
    (inGuild : (s.channel? channel).map (·.guildId) = some guild) :
    (g.channels.get? channel).isSome = true := by
  obtain ⟨row, found, rfl⟩ := Option.map_eq_some_iff.mp inGuild
  obtain ⟨-, -, g', rows', stored⟩ := keyed.channel_stored found
  cases rows.symm.trans rows'
  rw [stored]
  rfl

/-- Calls that ask what a user may do in a guild or in one channel of it. -/
def Call.asksAbout (guild channel user : Snowflake) : Call → Bool
  | .guildPermissions guild' user' => guild' = guild ∧ user' = user
  | .channelPermissions channel' user' => channel' = channel ∧ user' = user
  | .effectivePermissions guild' scope user' =>
    guild' = guild ∧ (scope = none ∨ scope = some channel) ∧ user' = user
  | .check guild' scope user' _ =>
    guild' = guild ∧ (scope = none ∨ scope = some channel) ∧ user' = user
  | _ => false

/-- A snapshot is refused to outsiders and holds what the rows say for everybody else. -/
theorem Judge.snapshot_of_rows {s : Store} {guild user : Snowflake} {scope : Option Snowflake}
    {g : GuildRows} (rows : s.guilds.get? guild = some g)
    (known : ∀ id, scope = some id → (g.channels.get? id).isSome = true) :
    Judge.snapshot s guild user scope =
      if g.hasInsider user then .ok (g.snapshot user scope)
      else .error (.fault .unknownMember) := by
  cases inside : g.hasInsider user with
  | true => exact passes_snapshot.mpr ⟨g, rows, inside, known, rfl⟩
  | false =>
    have stopped : ((g.members.get? user).isNone && !g.guild.isOwner user) = true := by
      unfold GuildRows.hasInsider at inside
      cases member : g.members.get? user <;> simp_all
    simp [Judge.snapshot, Store.permissionInputs?, rows, stopped]

/-- What a user is found to hold in alike stores is the same, or both times it is refused for the
same cause. -/
theorem Store.AlikeFor.held_eq {s s' : Store} {guild channel user : Snowflake}
    {scope : Option Snowflake} (alike : s.AlikeFor s' guild channel user) (reach : s.Reachable)
    (reach' : s'.Reachable) (within : scope = none ∨ scope = some channel) :
    s'.held guild scope user = s.held guild scope user := by
  obtain ⟨g, g', rows, rows', same⟩ := alike.rows
  have keyed := reach.keyed guild g rows
  have keyed' := reach'.keyed guild g' rows'
  have one := reach.oneEveryone guild g rows
  have one' := reach'.oneEveryone guild g' rows'
  rcases within with rfl | rfl
  · unfold held
    rw [Judge.snapshot_of_rows rows' (fun _ none => by cases none),
      Judge.snapshot_of_rows rows (fun _ none => by cases none), same.hasInsider]
    cases g.hasInsider user with
    | false => rfl
    | true => exact congrArg Except.ok (same.serverOf_eq keyed keyed' one one')
  · have known := reach.keyed.channel_known rows alike.inGuild
    have known' := reach'.keyed.channel_known rows' alike.inGuild'
    unfold held
    rw [Judge.snapshot_of_rows rows' (fun id here => Option.some.inj here ▸ known'),
      Judge.snapshot_of_rows rows (fun id here => Option.some.inj here ▸ known), same.hasInsider]
    cases g.hasInsider user with
    | false => rfl
    | true => exact congrArg Except.ok (same.channelOf_eq keyed keyed' one one' known known')

namespace Service
variable {service : Service} {around : Surroundings} {guild channel user : Snowflake}
  {scope : Option Snowflake}

theorem handle_guildPermissions :
    (service.handle around (.guildPermissions guild user)).2 =
      (service.store.held guild none user).map .permissions := by
  simp only [handle, Call.enter, takeLock, Call.judge, Judge.guildPermissions, Store.held]
  cases Judge.snapshot service.store guild user none <;> rfl

theorem handle_channelPermissions {row : Channel}
    (found : service.store.channel? channel = some row) :
    (service.handle around (.channelPermissions channel user)).2 =
      (service.store.held row.guildId (some channel) user).map .permissions := by
  simp only [handle, Call.enter, takeLock, Call.judge, Judge.channelPermissions, Store.held,
    Judge.findChannel_bind found]
  cases Judge.snapshot service.store row.guildId user (some channel) <;> rfl

theorem handle_effectivePermissions :
    (service.handle around (.effectivePermissions guild scope user)).2 =
      (service.store.held guild scope user).map fun p => .effective ⟨guild, scope, user, p⟩ := by
  simp only [handle, Call.enter, takeLock, Call.judge, Judge.effectivePermissions, Store.held]
  cases Judge.snapshot service.store guild user scope <;> rfl

theorem handle_check {flag : Flag} :
    (service.handle around (.check guild scope user flag)).2 =
      (service.store.held guild scope user).map fun p => .truth (p.has flag) := by
  simp only [handle, Call.enter, takeLock, Call.judge, Judge.check, Store.held]
  cases Judge.snapshot service.store guild user scope <;> rfl

/-- Two services give the same answers to whatever is asked about a user in whose rows their stores
agree. -/
theorem answers_depend_on_concerning_rows (service service' : Service)
    (around around' : Surroundings) (call : Call) (guild channel user : Snowflake)
    (reach : service.store.Reachable) (reach' : service'.store.Reachable)
    (alike : service.store.AlikeFor service'.store guild channel user)
    (asks : call.asksAbout guild channel user = true) :
    (service'.handle around' call).2 = (service.handle around call).2 := by
  cases call with
  | guildPermissions guild' user' =>
    obtain ⟨rfl, rfl⟩ : guild' = guild ∧ user' = user := by simpa [Call.asksAbout] using asks
    rw [handle_guildPermissions, handle_guildPermissions, alike.held_eq reach reach' (.inl rfl)]
  | channelPermissions channel' user' =>
    obtain ⟨rfl, rfl⟩ : channel' = channel ∧ user' = user := by simpa [Call.asksAbout] using asks
    obtain ⟨row, found, here⟩ := Option.map_eq_some_iff.mp alike.inGuild
    obtain ⟨row', found', here'⟩ := Option.map_eq_some_iff.mp alike.inGuild'
    rw [handle_channelPermissions found, handle_channelPermissions found', here, here',
      alike.held_eq reach reach' (.inr rfl)]
  | effectivePermissions guild' scope user' =>
    obtain ⟨rfl, within, rfl⟩ :
        guild' = guild ∧ (scope = none ∨ scope = some channel) ∧ user' = user := by
      simpa [Call.asksAbout] using asks
    rw [handle_effectivePermissions, handle_effectivePermissions, alike.held_eq reach reach' within]
  | check guild' scope user' flag =>
    obtain ⟨rfl, within, rfl⟩ :
        guild' = guild ∧ (scope = none ∨ scope = some channel) ∧ user' = user := by
      simpa [Call.asksAbout] using asks
    rw [handle_check, handle_check, alike.held_eq reach reach' within]
  | _ => cases asks

/-- The small store with a channel after changes that do not concern user 2: another member joins, a
third one gets a role, an override and a higher place, and another guild is founded. -/
def changedSample : Service where
  store :=
    let now : Instant := ⟨1, 0⟩
    let id := Snowflake.wrap
    Store.channelSample.commitAll now [
      .createMember (.new (id 1) (id 4) now),
      .assignRole (id 1) (id 3) (id 11),
      .putOverride ⟨id 20, id 1, .role (id 11), ⟨.only .sendMessages, ∅⟩, now⟩,
      .putOverride ⟨id 20, id 1, .member (id 3), ⟨∅, .only .viewChannel⟩, now⟩,
      .setPositions (id 1) [(id 11, 30)],
      .createGuild (.new (id 2) "annex" (id 2) now) (.everyone (id 2) (id 2) now)]
  issued := 7
  locked := .empty

theorem answers_depend_on_concerning_rows_sample :
    (changedSample.handle .sample (.channelPermissions (.wrap 20) (.wrap 2))).2 =
      (channelSample.handle .sample (.channelPermissions (.wrap 20) (.wrap 2))).2 := by
  have reach : channelSample.store.Reachable := Store.channelSample_reachable
  have reach' : changedSample.store.Reachable := reach.commitAll _ _
  have rows : channelSample.store.guilds.get? (.wrap 1) = some
      ((channelSample.store.guilds.get? (.wrap 1)).get (by decide +kernel)) := by simp
  have rows' : changedSample.store.guilds.get? (.wrap 1) = some
      ((changedSample.store.guilds.get? (.wrap 1)).get (by decide +kernel)) := by simp
  have alike : channelSample.store.AlikeFor changedSample.store (.wrap 1) (.wrap 20) (.wrap 2) :=
    ⟨⟨_, _, rows, rows', .of_lists (reach.keyed _ _ rows) (reach'.keyed _ _ rows')
      (reach.oneEveryone _ _ rows) (by decide +kernel) (by decide +kernel) (by decide +kernel)
      (by decide +kernel) (by decide +kernel)⟩, by decide +kernel, by decide +kernel⟩
  exact answers_depend_on_concerning_rows channelSample changedSample .sample .sample
    (.channelPermissions (.wrap 20) (.wrap 2)) (.wrap 1) (.wrap 20) (.wrap 2) reach reach' alike rfl

end Service
end GuildAccess
