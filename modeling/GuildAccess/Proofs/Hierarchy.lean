import GuildAccess.Proofs.Steps
import GuildAccess.Proofs.Reach

/-!
Hierarchy safety. One who does not own a guild cannot rise in it, and cannot touch what stands at
their rank or above: roles, who holds them, and the overrides for such roles and users. This holds
over runs of any calls, from a rank that only ever falls.
-/
namespace GuildAccess

/-- What separates two states of a guild if an actor of at most a rank made the difference. -/
structure Confined (actor : Snowflake) (h : Int) (g g' : GuildRows) : Prop where
  owner : g'.guild.ownerId = g.guild.ownerId
  rank : g'.rankOf actor ≤ h
  kept : ∀ id r, g.roles.get? id = some r → h ≤ r.position → g'.roles.get? id = some r
  below : ∀ id r, g'.roles.get? id = some r → h ≤ r.position → g.roles.get? id = some r
  holders : ∀ id r, g.roles.get? id = some r → h ≤ r.position →
    ∀ user, id ∈ g'.heldBy user ↔ id ∈ g.heldBy user
  peers : ∀ user, user ≠ actor → h ≤ g.rankOf user → h ≤ g'.rankOf user
  roleOverrides : ∀ id r, g.roles.get? id = some r → h ≤ r.position → r.isEveryone = false →
    ∀ channel, g'.overrides.get? (channel, .role id) = g.overrides.get? (channel, .role id)
  userOverrides : ∀ user, user ≠ actor → g.guild.isOwner user = true ∨ h ≤ g.rankOf user →
    ∀ channel, g'.overrides.get? (channel, .member user) = g.overrides.get? (channel, .member user)

namespace Confined
variable {actor : Snowflake} {h : Int} {g g' g'' : GuildRows}

theorem isOwner_eq (confined : Confined actor h g g') (user : Snowflake) :
    g'.guild.isOwner user = g.guild.isOwner user := by
  unfold Guild.isOwner
  rw [confined.owner]

/-- Rows that read the same but for members without roles. -/
theorem of_same (rank : g.rankOf actor ≤ h) (guild : g'.guild = g.guild)
    (roles : g'.roles = g.roles) (held : ∀ user, g'.heldBy user = g.heldBy user)
    (overrides : g'.overrides = g.overrides) : Confined actor h g g' := by
  have ranks : ∀ user, g'.rankOf user = g.rankOf user := by
    intro user
    unfold GuildRows.rankOf GuildRows.roleList
    rw [roles, held]
  constructor
  · rw [guild]
  · rwa [ranks]
  · rw [roles]
    exact fun id r stored _ => stored
  · rw [roles]
    exact fun id r stored _ => stored
  · intro id r _ _ user
    rw [held]
  · intro user _ above
    rwa [ranks]
  · rw [overrides]
    exact fun _ _ _ _ _ _ => rfl
  · rw [overrides]
    exact fun _ _ _ _ => rfl

theorem trans (first : Confined actor h g g') (second : Confined actor h g' g'') :
    Confined actor h g g'' where
  owner := second.owner.trans first.owner
  rank := second.rank
  kept id r stored high := second.kept id r (first.kept id r stored high) high
  below id r stored high := first.below id r (second.below id r stored high) high
  holders id r stored high user :=
    (second.holders id r (first.kept id r stored high) high user).trans
      (first.holders id r stored high user)
  peers user other high := second.peers user other (first.peers user other high)
  roleOverrides id r stored high plain channel :=
    (second.roleOverrides id r (first.kept id r stored high) high plain channel).trans
      (first.roleOverrides id r stored high plain channel)
  userOverrides user other high channel := by
    have high' : g'.guild.isOwner user = true ∨ h ≤ g'.rankOf user :=
      high.imp (fun owner => (first.isOwner_eq user).trans owner) (first.peers user other)
    exact (second.userOverrides user other high' channel).trans
      (first.userOverrides user other high channel)

end Confined

namespace Permitted
variable {s : Store} {fresh guild actor : Snowflake} {g g' : GuildRows} {p : Plan} {now : Instant}
  {h : Int}

/-- One who does not own the guild reaches only below their rank. -/
theorem reach_below {position : Int} (notOwner : g.guild.isOwner actor = false)
    (rank : g.rankOf actor ≤ h) (reach : g.MayReach actor position) : position < h := by
  rcases reach with owner | below
  · rw [notOwner] at owner
    cases owner
  · omega

section
variable (permitted : Permitted s fresh guild g actor p) (keyed : g.Keyed guild)
  (effect : p.change.Effect now g g') (notOwner : g.guild.isOwner actor = false)
  (rank : g.rankOf actor ≤ h)
include permitted effect notOwner rank

/-- Roles at the rank or above are held by the same users. -/
theorem high_holders {id : Snowflake} {r : Role} (stored : g.roles.get? id = some r)
    (high : h ≤ r.position) (user : Snowflake) : id ∈ g'.heldBy user ↔ id ∈ g.heldBy user := by
  have unreached : ¬ ∃ r', g.roles.get? id = some r' ∧ g.MayReach actor r'.position := by
    rintro ⟨r', found, reach⟩
    cases stored.symm.trans found
    have := reach_below notOwner rank reach
    omega
  constructor
  · intro held
    rcases permitted.held_after effect held with before | ⟨-, -, reached⟩
    · exact before
    · exact absurd reached unreached
  · exact fun held => (permitted.held_kept effect held).resolve_right unreached

theorem high_kept {id : Snowflake} {r : Role} (stored : g.roles.get? id = some r)
    (high : h ≤ r.position) : g'.roles.get? id = some r := by
  refine permitted.role_kept effect stored fun reach => ?_
  have := reach_below notOwner rank reach
  omega

theorem high_before {id : Snowflake} {r : Role} (stored : g'.roles.get? id = some r)
    (high : h ≤ r.position) : g.roles.get? id = some r := by
  have unreached : ¬ g.MayReach actor r.position := fun reach => by
    have := reach_below notOwner rank reach
    omega
  rcases permitted.role_after effect stored with ⟨-, -, reach, -⟩ | ⟨_, found, -, rfl | reach, -⟩
  · exact absurd reach unreached
  · exact found
  · exact absurd reach unreached

include keyed

/-- A role at the rank or above is held afterwards by who held it before. -/
theorem high_hasRole {id user : Snowflake} {r : Role} (high : h ≤ r.position) :
    g'.HasRole user id r ↔ g.HasRole user id r := by
  have keyed' : g'.Keyed guild := effect.keyed keyed permitted.home
  rw [keyed.hasRole_iff, keyed'.hasRole_iff]
  constructor
  · rintro ⟨stored, plain, held⟩
    have found := permitted.high_before effect notOwner rank stored high
    exact ⟨found, plain, (permitted.high_holders effect notOwner rank found high user).mp held⟩
  · rintro ⟨stored, plain, held⟩
    have found := permitted.high_kept effect notOwner rank stored high
    exact ⟨found, plain, (permitted.high_holders effect notOwner rank stored high user).mpr held⟩

/-- The actor does not rise: no role above is given to them, and a top role is not taken away, so
that they never fall back on the rank of who holds none. -/
theorem rank_falls : g'.rankOf actor ≤ h := by
  refine GuildRows.rankOf_le.mpr ⟨?_, ?_⟩
  · intro id r holds
    refine Int.not_lt.mp fun above => ?_
    have before := (permitted.high_hasRole keyed effect notOwner rank (Int.le_of_lt above)).mp holds
    have low := (GuildRows.rankOf_le.mp rank).1 id r before
    omega
  · intro none
    -- An actor whose top role has a negative position would rise to 0 by losing it.
    rcases GuildRows.rankOf_cases g actor with ⟨-, zero⟩ | ⟨top, r, holds, here, -⟩
    · omega
    · have high : g.rankOf actor ≤ r.position := Int.le_of_eq here
      have after := (permitted.high_hasRole keyed effect notOwner (Int.le_refl _) high).mpr holds
      exact absurd after (none top r)

/-- Whoever stands as high as the actor or higher still does: they keep the role that puts them
there, or they hold none and get none. -/
theorem peers_stay (unused : p.mints = true → ∀ user, fresh ∉ g.heldBy user) {user : Snowflake}
    (other : user ≠ actor) (high : h ≤ g.rankOf user) : h ≤ g'.rankOf user := by
  have keyed' : g'.Keyed guild := effect.keyed keyed permitted.home
  rcases GuildRows.le_rankOf.mp high with ⟨id, r, holds, above⟩ | ⟨none, low⟩
  · have after := (permitted.high_hasRole keyed effect notOwner rank above).mpr holds
    exact GuildRows.le_rankOf.mpr (.inl ⟨id, r, after, above⟩)
  · refine GuildRows.le_rankOf.mpr (.inr ⟨fun id r' holds => ?_, low⟩)
    obtain ⟨stored, plain, held⟩ := keyed'.hasRole_iff.mp holds
    have before : id ∈ g.heldBy user := by
      rcases permitted.held_after effect held with before | ⟨-, self | ⟨-, outranked⟩, -⟩
      · exact before
      · exact absurd self other
      · have := reach_below notOwner rank outranked
        omega
    -- A list may name roles that do not exist; only a fresh identifier brings one to life.
    rcases permitted.role_after effect stored with ⟨mints, rfl, -⟩ | ⟨r, found, everyone, -⟩
    · exact unused mints user before
    · exact none id r (keyed.hasRole_iff.mpr ⟨found, everyone ▸ plain, before⟩)

/-- One permitted change keeps to what is below the actor. -/
theorem confined (unused : p.mints = true → ∀ user, fresh ∉ g.heldBy user) :
    Confined actor h g g' where
  owner := by rw [permitted.guild_kept effect]
  rank := permitted.rank_falls keyed effect notOwner rank
  kept id r stored high := permitted.high_kept effect notOwner rank stored high
  below id r stored high := permitted.high_before effect notOwner rank stored high
  holders id r stored high := permitted.high_holders effect notOwner rank stored high
  peers user other high := permitted.peers_stay keyed effect notOwner rank unused other high
  roleOverrides id r stored high plain channel := by
    refine (permitted.override_kept effect channel (.role id)).resolve_right ?_
    rintro ⟨r', found, reach⟩
    cases stored.symm.trans found
    rcases reach with everyone | reach
    · rw [plain] at everyone
      cases everyone
    · have := reach_below notOwner rank reach
      omega
  userOverrides user other high channel := by
    refine (permitted.override_kept effect channel (.member user)).resolve_right ?_
    rintro (self | ⟨plain, outranked⟩)
    · exact other self
    · have low := reach_below notOwner rank outranked
      rcases high with owner | high
      · rw [plain] at owner
        cases owner
      · omega

end

end Permitted

/-- Identifiers made between two counts that are all different, of which none is mentioned in the
rows of a guild. -/
structure Unused (ids : Nat → Snowflake) (g : GuildRows) (low high : Nat) : Prop where
  distinct : ∀ n m, low < n → n ≤ high → low < m → m ≤ high → ids n = ids m → n = m
  unstored : ∀ n, low < n → n ≤ high → g.roles.get? (ids n) = none
  unheld : ∀ n, low < n → n ≤ high → ∀ user, ids n ∉ g.heldBy user

namespace Unused
variable {ids : Nat → Snowflake} {g g' : GuildRows} {low low' high : Nat}

theorem of_same (unused : Unused ids g low high) (later : low ≤ low') (roles : g'.roles = g.roles)
    (held : ∀ user, g'.heldBy user = g.heldBy user) : Unused ids g' low' high where
  distinct n m n_low n_high m_low m_high same :=
    unused.distinct n m (by omega) n_high (by omega) m_high same
  unstored n n_low n_high := by
    rw [roles]
    exact unused.unstored n (by omega) n_high
  unheld n n_low n_high user := by
    rw [held]
    exact unused.unheld n (by omega) n_high user

/-- What is to be looked at to see that identifiers are unused. -/
theorem of_lists (distinct : ∀ n ≤ high, ∀ m ≤ high, low < n → low < m → ids n = ids m → n = m)
    (unstored : ∀ n ≤ high, low < n → g.roles.get? (ids n) = none)
    (unheld : ∀ n ≤ high, low < n → ∀ m ∈ g.members.rows, ids n ∉ m.roles) :
    Unused ids g low high where
  distinct n m n_low n_high m_low m_high := distinct n n_high m m_high n_low m_low
  unstored n n_low n_high := unstored n n_high n_low
  unheld n n_low n_high user held := by
    unfold GuildRows.heldBy at held
    cases listed : g.members.get? user with
    | none => simp [listed] at held
    | some m =>
      refine unheld n n_high n_low m (KeyMap.mem_rows.mpr ⟨user, listed⟩) ?_
      simpa [listed] using held

/-- Only the identifier that a change has used is mentioned afterwards. -/
theorem step {s : Store} {guild actor : Snowflake} {p : Plan} {now : Instant}
    (unused : Unused ids g low high)
    (permitted : Permitted s (ids (low + 1)) guild g actor p) (effect : p.change.Effect now g g')
    (later : low ≤ low') (counted : p.mints = true → low < low') :
    Unused ids g' low' high where
  distinct n m n_low n_high m_low m_high same :=
    unused.distinct n m (by omega) n_high (by omega) m_high same
  unstored n n_low n_high := by
    have before := unused.unstored n (by omega) n_high
    cases stored : g'.roles.get? (ids n) with
    | none => rfl
    | some r =>
      rcases permitted.role_after effect stored with ⟨mints, same, -⟩ | ⟨r', found, -⟩
      · have := counted mints
        have := unused.distinct n (low + 1) (by omega) n_high (by omega) (by omega) same
        omega
      · rw [before] at found
        cases found
  unheld n n_low n_high user held := by
    rcases permitted.held_after effect held with before | ⟨-, -, r, found, -⟩
    · exact unused.unheld n (by omega) n_high user before
    · rw [unused.unstored n (by omega) n_high] at found
      cases found

end Unused
/-- Who makes a call that writes. -/
def Call.writer? : Call → Option Snowflake
  | .createRole _ actor _ => some actor
  | .updateRole _ _ actor _ => some actor
  | .toggleFlag _ _ actor _ => some actor
  | .deleteRole _ _ actor => some actor
  | .reorderRoles _ actor _ => some actor
  | .join _ user => some user
  | .assignRole _ _ _ actor => some actor
  | .unassignRole _ _ _ actor => some actor
  | .setOverride _ _ actor _ => some actor
  | .deleteOverride _ _ actor => some actor
  | .lockChannel _ actor _ => some actor
  | .unlockChannel _ actor _ => some actor
  | _ => none

theorem Call.writer_of_demand {s : Store} {call : Call} {d : Demand}
    (demands : call.demand? s = some d) : call.writer? = some d.actor := by
  cases call with
  | setOverride | deleteOverride | lockChannel | unlockChannel =>
    obtain ⟨row, -, rfl⟩ := Option.map_eq_some_iff.mp demands
    rfl
  | createRole | updateRole | toggleFlag | deleteRole | reorderRoles | assignRole | unassignRole =>
    cases demands
    rfl
  | _ => cases demands

/-- Rows that are stored are known up to their log. -/
theorem Store.rows_of_tables {s : Store} {guild : Snowflake} {g : GuildRows}
    (known : s.tables? guild = some g.withoutLog) :
    ∃ g', s.guilds.get? guild = some g' ∧ g'.guild = g.guild ∧ g'.roles = g.roles ∧
      (∀ user, g'.heldBy user = g.heldBy user) ∧ g'.overrides = g.overrides := by
  obtain ⟨g', rows, same⟩ := Option.map_eq_some_iff.mp known
  obtain ⟨guild_row, roles, -, members, overrides, -⟩ := GuildRows.mk.inj same
  refine ⟨g', rows, guild_row, roles, fun user => ?_, overrides⟩
  unfold GuildRows.heldBy
  rw [members]

namespace Service
variable {service : Service} {around : Surroundings} {call : Call} {guild actor : Snowflake}
  {ids : Nat → Snowflake} {g : GuildRows} {h : Int} {high : Nat}

/-- One call of an actor who does not own the guild, or any call that only asks, keeps to what is
below the actor. -/
theorem handle_confined (keyed : service.store.Keyed) (home : service.store.RolesAtHome)
    (rows : service.store.guilds.get? guild = some g) (notOwner : g.guild.isOwner actor = false)
    (rank : g.rankOf actor ≤ h) (named : around.idAt = ids)
    (own : call.writer?.all (· = actor) = true) (unused : Unused ids g service.issued high)
    (last : (service.handle around call).1.issued ≤ high) :
    ∃ g', (service.handle around call).1.store.guilds.get? guild = some g' ∧
      Confined actor h g g' ∧ Unused ids g' (service.handle around call).1.issued high := by
  have later := handle_issued service around call
  have untouched :
      (service.handle around call).1.store.tables? guild = service.store.tables? guild →
      ∃ g', (service.handle around call).1.store.guilds.get? guild = some g' ∧
        Confined actor h g g' ∧ Unused ids g' (service.handle around call).1.issued high := by
    intro same
    rw [Store.tables?, Store.tables?, rows] at same
    obtain ⟨g', rows', guild_row, roles, held, overrides⟩ := Store.rows_of_tables same
    exact ⟨g', rows', .of_same rank guild_row roles held overrides,
      unused.of_same later roles held⟩
  rcases handle_rows service around call keyed home with same |
    ⟨-, d, p, g₀, g₁, writes⟩ | ⟨joined, user, rfl, joins⟩
  · exact untouched (same guild)
  · by_cases here : guild = d.guild
    · subst here
      cases rows.symm.trans writes.before
      have actor_d : d.actor = actor := by
        rw [Call.writer_of_demand writes.demands] at own
        simpa using own
      subst actor_d
      subst named
      have fresh : p.mints = true → ∀ user, around.idAt (service.issued + 1) ∉ g.heldBy user := by
        intro mints user
        have := writes.counted mints
        exact unused.unheld _ (by omega) (by omega) user
      have confined := writes.permitted.confined (keyed _ g rows) writes.effect notOwner rank fresh
      have unused' := unused.step writes.permitted writes.effect later writes.counted
      obtain ⟨g', rows', guild_row, roles, held, overrides⟩ := Store.rows_of_tables writes.rewritten
      exact ⟨g', rows', confined.trans (.of_same confined.rank guild_row roles held overrides),
        unused'.of_same (Nat.le_refl _) roles held⟩
    · exact untouched (writes.others guild here)
  · by_cases here : guild = joined
    · subst here
      obtain ⟨g₀, rows₀, absent, after⟩ := joins.rows
      cases rows.symm.trans rows₀
      obtain ⟨g', rows', guild_row, roles, held, overrides⟩ := Store.rows_of_tables after
      have listless : ∀ other, g'.heldBy other = g.heldBy other := by
        intro other
        rw [held, GuildRows.heldBy_insert rfl]
        split
        · next same =>
          rw [same, GuildRows.heldBy, absent]
          rfl
        · rfl
      exact ⟨g', rows', .of_same rank guild_row roles listless overrides,
        unused.of_same later roles listless⟩
    · exact untouched (joins.others guild here)

/-- Hierarchy safety. Whatever an actor who does not own a guild does in a run, with identifiers
that were not in use, they never rise above the rank they start at, and all that stands there or
above stays as it was. -/
theorem hierarchy_is_safe (service : Service) (guild actor : Snowflake) (ids : Nat → Snowflake)
    (g : GuildRows) (steps : List (Surroundings × Call)) (reach : service.store.Reachable)
    (home : service.store.RolesAtHome) (rows : service.store.guilds.get? guild = some g)
    (notOwner : g.guild.isOwner actor = false)
    (named : ∀ step ∈ steps, step.1.idAt = ids)
    (unused : Unused ids g service.issued (service.run steps).issued)
    (own : ∀ step ∈ steps, step.2.writer?.all (· = actor) = true) :
    ∃ g', (service.run steps).store.guilds.get? guild = some g' ∧
      Confined actor (g.rankOf actor) g g' := by
  -- The rank may fall along the run, so the induction is on the calls for any bound on it.
  suffices all : ∀ h, g.rankOf actor ≤ h → ∃ g',
      (service.run steps).store.guilds.get? guild = some g' ∧ Confined actor h g g' from
    all _ (Int.le_refl _)
  intro h rank
  induction steps generalizing service g with
  | nil => exact ⟨g, rows, .of_same rank rfl rfl (fun _ => rfl) rfl⟩
  | cons step rest ih =>
    have last := run_issued (service.handle step.1 step.2).1 rest
    obtain ⟨g₁, rows₁, confined, unused₁⟩ := handle_confined reach.keyed home rows notOwner rank
      (named step List.mem_cons_self) (own step List.mem_cons_self) unused last
    obtain ⟨g₂, rows₂, confined₂⟩ := ih (service.handle step.1 step.2).1 g₁
      (handle_reachable reach) (handle_rolesAtHome reach.keyed home) rows₁
      ((confined.isOwner_eq actor).trans notOwner)
      (fun later member => named later (List.mem_cons_of_mem _ member)) unused₁
      (fun later member => own later (List.mem_cons_of_mem _ member)) confined.rank
    exact ⟨g₂, rows₂, confined.trans confined₂⟩

/-- What the moderator of the small store does: make a role, assign one and delete it. -/
def sampleSteps : List (Surroundings × Call) := [
  (.sample, .createRole (.wrap 1) (.wrap 2) { name := "aide", position := some 9 }),
  (.sample, .assignRole (.wrap 1) (.wrap 3) (.wrap 11) (.wrap 2)),
  (.sample, .deleteRole (.wrap 1) (.wrap 11) (.wrap 2))]

theorem hierarchy_is_safe_sample :
    ∃ g', (sample.run sampleSteps).store.guilds.get? (.wrap 1) = some g' ∧
      g'.rankOf (.wrap 2) ≤ 10 ∧
      g'.roles.get? (.wrap 10) = Store.sampleRows.roles.get? (.wrap 10) := by
  have unused : Unused Surroundings.sample.idAt Store.sampleRows sample.issued 4 :=
    .of_lists (by decide) (by decide) (by decide)
  have counted : (sample.run sampleSteps).issued = 4 := by decide
  obtain ⟨g', rows, confined⟩ := hierarchy_is_safe sample (.wrap 1) (.wrap 2)
    Surroundings.sample.idAt Store.sampleRows sampleSteps Store.sample_reachable
    Store.sample_rolesAtHome (Option.some_get _).symm (by decide) (by simp [sampleSteps])
    (counted ▸ unused) (by decide)
  refine ⟨g', rows, confined.rank, ?_⟩
  obtain ⟨r, stored, high⟩ : ∃ r, Store.sampleRows.roles.get? (.wrap 10) = some r ∧
    Store.sampleRows.rankOf (.wrap 2) ≤ r.position := ⟨_, rfl, by decide⟩
  rw [stored]
  exact confined.kept _ r stored high

end Service
end GuildAccess
