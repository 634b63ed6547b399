import GuildAccess.Proofs.Store.Everyone
import GuildAccess.Proofs.Store.Routing

/-!
What the tables of a guild keep to, whatever changes are tried: rows stand under their own
identifiers, members list a role once, overrides belong to a channel that is there, and the guild
keeps the everyone role it was founded with. Deleting a role takes it off each list once, which is
enough only because lists have no repeats.
-/
namespace GuildAccess

/-- A member that lists the roles it was given in turn. -/
def Member.Assembled (m : Member) : Prop :=
  ∃ guild user joined roles now,
    m.roles = ((Member.new guild user joined).withRoles roles now).roles

theorem Member.addRole_nodup {m : Member} (distinct : m.roles.Nodup) (role : Snowflake)
    (now : Instant) : (m.addRole role now).roles.Nodup := by
  unfold addRole
  split
  · exact distinct
  · next lacking =>
    have unlisted : role ∉ m.roles := by simpa [hasRole] using lacking
    refine List.nodup_append.mpr ⟨distinct, by simp, ?_⟩
    rintro held listed added last rfl
    cases List.mem_singleton.mp last
    exact unlisted listed

theorem Member.removeRole_nodup {m : Member} (distinct : m.roles.Nodup) (role : Snowflake)
    (now : Instant) : (m.removeRole role now).roles.Nodup := by
  unfold removeRole
  split
  · exact distinct.erase role
  · exact distinct

theorem Member.Assembled.nodup {m : Member} (assembled : m.Assembled) : m.roles.Nodup := by
  obtain ⟨guild, user, joined, roles, now, same⟩ := assembled
  have kept : ∀ (roles : List Snowflake) (m : Member), m.roles.Nodup →
      (m.withRoles roles now).roles.Nodup := by
    intro roles
    induction roles with
    | nil => exact fun m distinct => distinct
    | cons role rest ih => exact fun m distinct => ih _ (addRole_nodup distinct role now)
  rw [same]
  exact kept roles _ List.nodup_nil

namespace GuildRows

/-- Members list each role once. -/
def Distinct (g : GuildRows) : Prop := ∀ user m, g.members.get? user = some m → m.roles.Nodup

/-- Overrides belong to channels of the guild. -/
def Housed (g : GuildRows) : Prop :=
  ∀ key o, g.overrides.get? key = some o → g.has key.1 .channel = true

/-- What the rows of a guild keep to. -/
structure WellFormed (guild : Snowflake) (g : GuildRows) : Prop where
  keyed : g.Keyed guild
  distinct : g.Distinct
  housed : g.Housed
  oneEveryone : g.OneEveryone

end GuildRows

namespace Store
variable {s after : Store} {now : Instant} {change : Change} {guild : Snowflake} {g g' : GuildRows}

/-- Members keep listing each role once if a member that is added does. -/
theorem Change.Effect.distinct (effect : change.Effect now g g') (distinct : g.Distinct)
    (assembled : ∀ m, change = .createMember m → m.Assembled) : g'.Distinct := by
  cases effect with
  | createMember => exact KeyMap.insert_all distinct (assembled _ rfl).nodup
  | deleteMember => exact KeyMap.filter_all distinct
  | deleteRole =>
    exact KeyMap.mapRows_all fun user m found => Member.removeRole_nodup (distinct user m found) _ _
  | assignRole known found lacking =>
    exact KeyMap.insert_all distinct (Member.addRole_nodup (distinct _ _ found) _ _)
  | unassignRole found =>
    exact KeyMap.insert_all distinct (Member.removeRole_nodup (distinct _ _ found) _ _)
  | setPositions =>
    rw [moveRoles_frame]
    exact distinct
  | _ => exact distinct

/-- Overrides stay in channels of the guild if one that is put is. -/
theorem Change.Effect.housed (effect : change.Effect now g g') (housed : g.Housed)
    (into : ∀ row, change = .putOverride row → g.has row.channelId .channel = true) :
    g'.Housed := by
  have grown (id : Snowflake) (c : Channel) : ∀ key o, g.overrides.get? key = some o →
      (g.channels.insert id c).contains key.1 = true := by
    intro key o found
    have here : g.channels.contains key.1 = true := housed key o found
    rw [KeyMap.contains_insert, here, Bool.or_true]
  cases effect with
  | createChannel => exact grown _ _
  | updateChannel => exact grown _ _
  | deleteChannel =>
    intro key o found
    rw [KeyMap.get?_filter] at found
    obtain ⟨stored, other⟩ := Option.filter_eq_some_iff.mp found
    have here : g.channels.contains key.1 = true := housed key o stored
    simpa [GuildRows.has, KeyMap.contains_erase, here] using other
  | @setLockdown channel stored everyone overwrite found =>
    have grown := grown channel.id { stored with
      locked := channel.locked, preLock := channel.preLock, updatedAt := channel.updatedAt }
    unfold GuildRows.Housed
    cases overwrite with
    | some o =>
      exact KeyMap.insert_all grown (by simp [GuildRows.has, KeyMap.contains_insert])
    | none => exact KeyMap.filter_all grown
  | deleteRole => exact KeyMap.filter_all housed
  | setPositions =>
    rw [moveRoles_frame]
    exact housed
  | putOverride => exact KeyMap.insert_all housed (into _ rfl)
  | deleteOverride => exact KeyMap.filter_all housed
  | _ => exact housed

def WellFormed (s : Store) : Prop := ∀ guild g, s.guilds.get? guild = some g → g.WellFormed guild

theorem apply_wellFormed (reach : s.Reachable) (formed : s.WellFormed)
    (done : s.apply now change = .ok after)
    (assembled : ∀ m, change = .createMember m → m.Assembled) : after.WellFormed := by
  have reach' := reach.apply done
  have tables : ∀ guild g, after.guilds.get? guild = some g → g.Distinct ∧ g.Housed := by
    have before : ∀ guild g, s.guilds.get? guild = some g → g.Distinct ∧ g.Housed :=
      fun guild g found => ⟨(formed guild g found).distinct, (formed guild g found).housed⟩
    rcases apply_cases done with rfl | ⟨guild, everyone, -, -, rows⟩ |
      ⟨guild, g, g', home, found, effect, rows⟩
    · exact before
    · rw [rows]
      refine KeyMap.insert_all before ⟨?_, ?_⟩
      · intro user m listed
        cases listed
      · intro key o stored
        cases stored
    · obtain ⟨distinct, housed⟩ := before guild g found
      rw [rows]
      refine KeyMap.insert_all before ⟨effect.distinct distinct assembled, ?_⟩
      refine effect.housed housed ?_
      rintro row rfl
      -- The index led the override to this guild, and it does not lead astray.
      obtain ⟨g₀, found₀, holds⟩ := has_iff.mp (reach.leads .channel row.channelId guild home)
      cases found.symm.trans found₀
      exact holds
  intro guild g found
  exact ⟨reach'.keyed guild g found, (tables guild g found).1, (tables guild g found).2,
    reach'.oneEveryone guild g found⟩

/-- Stores that changes can build out of members that were assembled. -/
inductive Built : Store → Prop
  | start : Built .empty
  | step {s : Store} (built : Built s) (now : Instant) (change : Change)
    (assembled : ∀ m, change = .createMember m → m.Assembled) : Built (s.commit now change).1

theorem Built.reachable (built : s.Built) : s.Reachable := by
  induction built with
  | start => exact .start
  | step _ now change _ reach => exact reach.step now change

theorem Built.wellFormed (built : s.Built) : s.WellFormed := by
  induction built with
  | start =>
    intro guild g found
    cases found
  | @step s built now change assembled formed =>
    cases done : s.apply now change with
    | ok after =>
      rw [commit_of_ok done]
      exact apply_wellFormed built.reachable formed done assembled
    | error cause =>
      rw [commit_of_error done]
      exact formed

theorem Built.replay (built : s.Built) {changes : Changes}
    (assembled : ∀ now m, (now, .createMember m) ∈ changes → m.Assembled) :
    (s.replay changes).Built := by
  induction changes generalizing s with
  | nil => exact built
  | cons step rest ih =>
    obtain ⟨now, change⟩ := step
    refine ih (built.step now change ?_) fun now m member => assembled now m (.tail _ member)
    rintro m rfl
    exact assembled now m (.head _)

/-- A guild has an everyone role with the origin of a given one. -/
def KeepsEveryone (s : Store) (guild : Snowflake) (everyone : Role) : Prop :=
  ∃ g r, s.guilds.get? guild = some g ∧ g.roles.get? everyone.id = some r ∧ r.isEveryone = true ∧
    r.guildId = everyone.guildId ∧ r.createdAt = everyone.createdAt

/-- Neither an update nor a deletion makes anything else of an everyone role. -/
theorem Change.Effect.everyone_stays {id : Snowflake} {r : Role}
    (effect : change.Effect now g g') (stored : g.roles.get? id = some r)
    (everyone : r.isEveryone = true) :
    ∃ r', g'.roles.get? id = some r' ∧ r'.isEveryone = true ∧ r'.guildId = r.guildId ∧
      r'.createdAt = r.createdAt := by
  cases effect with
  | @createRole role absent =>
    have other : id ≠ role.id := by
      rintro rfl
      cases stored.symm.trans absent
    exact ⟨r, by rw [KeyMap.get?_insert, if_neg other, stored], everyone, rfl, rfl⟩
  | @updateRole role old found =>
    by_cases here : id = role.id
    · subst here
      cases found.symm.trans stored
      exact ⟨_, (KeyMap.get?_insert ..).trans (if_pos rfl), everyone, rfl, rfl⟩
    · exact ⟨r, by rw [KeyMap.get?_insert, if_neg here, stored], everyone, rfl, rfl⟩
  | @deleteRole gone old found plain =>
    have other : id ≠ gone := by
      rintro rfl
      cases found.symm.trans stored
      rw [plain] at everyone
      cases everyone
    exact ⟨r, by rw [KeyMap.get?_erase, if_neg other, stored], everyone, rfl, rfl⟩
  | setPositions =>
    obtain ⟨position, time, moved⟩ := movedTo_eq now _ id r
    exact ⟨{ r with position := position, updatedAt := time },
      by rw [get?_moveRoles, stored, Option.map_some, moved], everyone, rfl, rfl⟩
  | _ => exact ⟨r, stored, everyone, rfl, rfl⟩

theorem apply_keepsEveryone {everyone : Role} (kept : s.KeepsEveryone guild everyone)
    (done : s.apply now change = .ok after) : after.KeepsEveryone guild everyone := by
  obtain ⟨g, r, found, stored, marked, home, created⟩ := kept
  rcases apply_cases done with rfl | ⟨founded, _, -, absent, rows⟩ |
    ⟨about, g₀, g', -, found₀, effect, rows⟩
  · exact ⟨g, r, found, stored, marked, home, created⟩
  · have other : guild ≠ founded.id := by
      rintro rfl
      cases absent.symm.trans found
    exact ⟨g, r, by rw [rows, KeyMap.get?_insert, if_neg other, found], stored, marked, home,
      created⟩
  · by_cases here : guild = about
    · subst here
      cases found₀.symm.trans found
      obtain ⟨r', stored', marked', home', created'⟩ := effect.everyone_stays stored marked
      exact ⟨g', r', by rw [rows, KeyMap.get?_insert, if_pos rfl], stored', marked',
        home'.trans home, created'.trans created⟩
    · exact ⟨g, r, by rw [rows, KeyMap.get?_insert, if_neg here, found], stored, marked, home,
        created⟩

theorem replay_keepsEveryone {everyone : Role} (kept : s.KeepsEveryone guild everyone)
    (changes : Changes) : (s.replay changes).KeepsEveryone guild everyone := by
  induction changes generalizing s with
  | nil => exact kept
  | cons step rest ih =>
    obtain ⟨now, change⟩ := step
    refine ih ?_
    dsimp only
    cases done : s.apply now change with
    | ok after =>
      rw [commit_of_ok done]
      exact apply_keepsEveryone kept done
    | error cause =>
      rw [commit_of_error done]
      exact kept

theorem createGuild_keepsEveryone {founded : Guild} {everyone : Role}
    (done : s.apply now (.createGuild founded everyone) = .ok after)
    (marked : everyone.isEveryone = true) : after.KeepsEveryone founded.id everyone := by
  obtain ⟨_, _, same, absent, rows⟩ := createGuild_founds done
  cases same
  refine ⟨_, everyone, by rw [rows, KeyMap.get?_insert, if_pos rfl], ?_, marked, rfl, rfl⟩
  rw [KeyMap.get?_insert, if_pos rfl]

/-- Whatever changes are tried on the empty store, every guild stays well formed, and one that was
founded with an everyone role has that one for ever: its guild and its time of creation never
change, and no other role of the guild is one. -/
theorem guilds_stay_well_formed (changes : Changes)
    (assembled : ∀ now m, (now, .createMember m) ∈ changes → m.Assembled) :
    (empty.replay changes).WellFormed ∧
    ∀ before now founded everyone later after,
      changes = before ++ (now, .createGuild founded everyone) :: later →
      (empty.replay before).apply now (.createGuild founded everyone) = .ok after →
      everyone.isEveryone = true →
      ∃ g r, (empty.replay changes).guilds.get? founded.id = some g ∧
        g.roles.get? everyone.id = some r ∧ r.isEveryone = true ∧
        r.guildId = everyone.guildId ∧ r.createdAt = everyone.createdAt ∧
        ∀ id, g.IsEveryone id → id = everyone.id := by
  have formed := (Built.start.replay assembled).wellFormed
  refine ⟨formed, ?_⟩
  rintro before now founded everyone later after rfl done marked
  have kept := replay_keepsEveryone (createGuild_keepsEveryone done marked) later
  rw [replay_after done] at formed ⊢
  obtain ⟨g, r, found, stored, everyone', home, created⟩ := kept
  exact ⟨g, r, found, stored, everyone', home, created, fun id other =>
    (formed _ g found).oneEveryone id everyone.id other ⟨r, stored, everyone'⟩⟩

/-- A guild whose member 2 holds role 10, which is denied sending in channel 20 until it is deleted.
An update that claims another origin for the everyone role comes last. -/
def busyGuild : Changes :=
  let now : Instant := ⟨0, 0⟩
  let id := Snowflake.wrap
  [(now, .createGuild (.new (id 1) "guild" (id 1) now) (.everyone (id 1) (id 1) now)),
    (now, .createRole (.new (id 10) (id 1) "mod" (.only .manageRoles) now)),
    (now, .createMember ((Member.new (id 1) (id 2) now).withRoles [id 10, id 10] now)),
    (now, .createChannel (.new (id 20) (id 1) "hall" .text now)),
    (now, .putOverride ⟨id 20, id 1, .role (id 10), ⟨∅, .only .sendMessages⟩, now⟩),
    (now, .deleteRole (id 10)),
    (now, .updateRole (.new (id 1) (id 3) "renamed" ∅ ⟨9, 0⟩))]

theorem guilds_stay_well_formed_sample :
    ∃ g r, (empty.replay busyGuild).guilds.get? (.wrap 1) = some g ∧ g.WellFormed (.wrap 1) ∧
      g.roles.get? (.wrap 1) = some r ∧ r.isEveryone = true ∧ r.guildId = .wrap 1 ∧
      r.createdAt = ⟨0, 0⟩ ∧ ∀ id, g.IsEveryone id → id = .wrap 1 := by
  have assembled : ∀ now m, (now, Change.createMember m) ∈ busyGuild → m.Assembled := by
    intro now m listed
    simp only [busyGuild, List.mem_cons, Prod.mk.injEq, Change.createMember.injEq, reduceCtorEq,
      and_false, false_or, or_false, List.not_mem_nil] at listed
    obtain ⟨-, rfl⟩ := listed
    exact ⟨_, _, _, _, _, rfl⟩
  obtain ⟨formed, everyone⟩ := guilds_stay_well_formed busyGuild assembled
  obtain ⟨g, r, found, stored, marked, home, created, only⟩ :=
    everyone [] _ _ _ _ _ rfl rfl rfl
  exact ⟨g, r, found, formed _ g found, stored, marked, home, created, only⟩

end Store
end GuildAccess
