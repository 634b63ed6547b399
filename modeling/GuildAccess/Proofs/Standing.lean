import GuildAccess.Proofs.RoleEdits
import GuildAccess.Proofs.Store.Reachable

/-!
What a user may do in a guild and how high they stand, read off the rows without the order in which
roles are listed: a flag is held through some role that grants it, and a rank is the position of
some role that no other held role tops, 0 for who holds none.
-/
namespace GuildAccess

theorem Member.removeRole_roles (m : Member) (role : Snowflake) (now : Instant) :
    (m.removeRole role now).roles = m.roles.erase role := by
  unfold removeRole
  split
  · rfl
  · next absent =>
    rw [List.erase_of_not_mem]
    simpa [hasRole] using absent

theorem Member.addRole_roles {m : Member} {role : Snowflake} (lacking : m.hasRole role = false)
    (now : Instant) : (m.addRole role now).roles = m.roles ++ [role] := by
  simp [addRole, lacking]

namespace Resolver

/-- Uniting roles adds the flags that some role grants. -/
theorem unite_has (start : Permissions) (roles : List Role) (f : Flag) :
    (unite start roles).has f = (start.has f || roles.any fun r => r.grants f) := by
  induction roles generalizing start with
  | nil => simp [unite]
  | cons r rest ih =>
    unfold unite
    -- The fold stops at an administrator role; that one grants what the rest could have added.
    split
    · next admin => simp [Role.grants, admin]
    · next plain =>
      rw [ih, Permissions.has_union, List.any_cons, Role.grants, Bool.eq_false_iff.mpr plain,
        Bool.false_or, Bool.or_assoc]

/-- Whoever does not own the guild holds a flag through a role that contributes and grants it. -/
theorem server_has (roles : List Role) (held : List Snowflake) (isOwner : Bool) (f : Flag) :
    (server roles held isOwner).has f =
      (isOwner || roles.any fun r => r.contributes held && r.grants f) := by
  unfold server
  cases isOwner with
  | true => simp
  | false => simp [unite_has, List.any_filter]

/-- The highest position is 0 without a held role, else that of a held role that none tops. -/
theorem highest_cases (roles : List Role) (held : List Snowflake) :
    ((∀ r ∈ roles, r.isHeld held = false) ∧ highest roles held = 0) ∨
      ∃ top ∈ roles, top.isHeld held = true ∧ highest roles held = top.position ∧
        ∀ r ∈ roles, r.isHeld held = true → r.position ≤ top.position := by
  unfold highest
  cases largest : ((roles.filter (Role.isHeld held)).map (·.position)).max? with
  | none =>
    refine .inl ⟨?_, rfl⟩
    rw [List.max?_eq_none_iff, List.map_eq_nil_iff, List.filter_eq_nil_iff] at largest
    exact fun r member => by simpa using largest r member
  | some position =>
    obtain ⟨reached, above⟩ := List.max?_eq_some_iff.mp largest
    obtain ⟨top, member, rfl⟩ := List.mem_map.mp reached
    obtain ⟨listed, holds⟩ := List.mem_filter.mp member
    refine .inr ⟨top, listed, holds, rfl, fun r listed holds => above _ ?_⟩
    exact List.mem_map.mpr ⟨r, List.mem_filter.mpr ⟨listed, holds⟩, rfl⟩

end Resolver

namespace GuildRows
variable {g : GuildRows} {user : Snowflake} {f : Flag} {h : Int}

/-- The listed roles are the stored ones. -/
theorem mem_roleList {r : Role} : r ∈ g.roleList ↔ ∃ id, g.roles.get? id = some r := by
  unfold roleList
  rw [(sortRanked_perm _ _).mem_iff, KeyMap.mem_rows]

def serverOf (g : GuildRows) (user : Snowflake) : Permissions := (g.snapshot user none).server

theorem serverOf_has : (g.serverOf user).has f = true ↔ g.guild.isOwner user = true ∨
    ∃ id r, g.roles.get? id = some r ∧ r.contributes (g.heldBy user) = true ∧
      r.grants f = true := by
  unfold serverOf Snapshot.server
  rw [Resolver.server_has, Bool.or_eq_true, List.any_eq_true]
  refine or_congr_right ?_
  simp only [snapshot, mem_roleList, Bool.and_eq_true]
  constructor
  · rintro ⟨r, ⟨id, stored⟩, counts, granted⟩
    exact ⟨id, r, stored, counts, granted⟩
  · rintro ⟨id, r, stored, counts, granted⟩
    exact ⟨r, ⟨id, stored⟩, counts, granted⟩

/-- Who holds ADMINISTRATOR holds every flag. -/
theorem serverOf_of_administrator (admin : (g.serverOf user).has .administrator = true) :
    (g.serverOf user).has f = true := by
  rw [serverOf_has] at admin ⊢
  refine admin.imp_right ?_
  rintro ⟨id, r, stored, counts, granted⟩
  exact ⟨id, r, stored, counts, Role.grants_of_administrator granted⟩

/-- A role that a user explicitly holds, the everyone role aside. -/
def HasRole (g : GuildRows) (user id : Snowflake) (r : Role) : Prop :=
  g.roles.get? id = some r ∧ r.isEveryone = false ∧ r.id ∈ g.heldBy user

/-- How high a user stands: at 0 without a role, else at the position of a held role that none
tops. -/
def StandsAt (g : GuildRows) (user : Snowflake) (height : Int) : Prop :=
  ((∀ id r, ¬ g.HasRole user id r) ∧ height = 0) ∨
    ∃ top r, g.HasRole user top r ∧ height = r.position ∧
      ∀ id r', g.HasRole user id r' → r'.position ≤ r.position

theorem hasRole_iff_isHeld {id : Snowflake} {r : Role} : g.HasRole user id r ↔
    g.roles.get? id = some r ∧ r.isHeld (g.heldBy user) = true := by
  simp [HasRole, Role.isHeld]

/-- A user stands at their rank. -/
theorem rankOf_cases (g : GuildRows) (user : Snowflake) : g.StandsAt user (g.rankOf user) := by
  unfold rankOf
  rcases Resolver.highest_cases g.roleList (g.heldBy user) with ⟨none, zero⟩ |
    ⟨r, listed, holds, here, above⟩
  · refine .inl ⟨fun id r holds => ?_, zero⟩
    obtain ⟨stored, held⟩ := hasRole_iff_isHeld.mp holds
    rw [none r (mem_roleList.mpr ⟨id, stored⟩)] at held
    cases held
  · obtain ⟨top, stored⟩ := mem_roleList.mp listed
    refine .inr ⟨top, r, hasRole_iff_isHeld.mpr ⟨stored, holds⟩, here, fun id r' holds' => ?_⟩
    obtain ⟨stored', held⟩ := hasRole_iff_isHeld.mp holds'
    exact above r' (mem_roleList.mpr ⟨id, stored'⟩) held

/-- A rank is at most a bound if all held roles are, and the bound is not below 0 where no role is
held. -/
theorem rankOf_le : g.rankOf user ≤ h ↔ (∀ id r, g.HasRole user id r → r.position ≤ h) ∧
    ((∀ id r, ¬ g.HasRole user id r) → 0 ≤ h) := by
  rcases rankOf_cases g user with ⟨none, zero⟩ | ⟨top, r, holds, here, above⟩
  · rw [zero]
    exact ⟨fun le => ⟨fun id r holds => absurd holds (none id r), fun _ => le⟩,
      fun parts => parts.2 none⟩
  · rw [here]
    refine ⟨fun le => ⟨fun id r' holds' => Int.le_trans (above id r' holds') le, ?_⟩,
      fun parts => parts.1 top r holds⟩
    exact fun none => absurd holds (none top r)

/-- A rank reaches a bound if some held role does, or none is held and the bound is not above 0. -/
theorem le_rankOf : h ≤ g.rankOf user ↔ (∃ id r, g.HasRole user id r ∧ h ≤ r.position) ∨
    ((∀ id r, ¬ g.HasRole user id r) ∧ h ≤ 0) := by
  rcases rankOf_cases g user with ⟨none, zero⟩ | ⟨top, r, holds, here, above⟩
  · rw [zero]
    refine ⟨fun le => .inr ⟨none, le⟩, ?_⟩
    rintro (⟨id, r, holds, -⟩ | ⟨-, le⟩)
    · exact absurd holds (none id r)
    · exact le
  · rw [here]
    refine ⟨fun le => .inl ⟨top, r, holds, le⟩, ?_⟩
    rintro (⟨id, r', holds', le⟩ | ⟨none, -⟩)
    · exact Int.le_trans le (above id r' holds')
    · exact absurd holds (none top r)

/-- Only the list of the member written changes. -/
theorem heldBy_insert {g' : GuildRows} {m : Member}
    (written : g'.members = g.members.insert user m) (other : Snowflake) :
    g'.heldBy other = if other = user then m.roles else g.heldBy other := by
  unfold heldBy
  rw [written, KeyMap.get?_insert]
  split <;> rfl

/-- A role taken from everyone leaves every list. -/
theorem heldBy_removeAll {g' : GuildRows} {role : Snowflake} {now : Instant}
    (written : g'.members = g.members.mapRows fun m => m.removeRole role now) (user : Snowflake) :
    g'.heldBy user = (g.heldBy user).erase role := by
  unfold heldBy
  rw [written, KeyMap.get?_mapRows]
  cases g.members.get? user with
  | none => rfl
  | some m => exact m.removeRole_roles role now

/-- A stored role counts for everyone or for who lists its identifier. -/
theorem Keyed.contributes_iff {guild id : Snowflake} {r : Role} {held : List Snowflake}
    (keyed : g.Keyed guild) (stored : g.roles.get? id = some r) :
    r.contributes held = true ↔ r.isEveryone = true ∨ id ∈ held := by
  rw [← keyed.role_id id r stored]
  simp [Role.contributes]

/-- A role is held by who lists its identifier, the everyone role by nobody. -/
theorem Keyed.hasRole_iff {guild id : Snowflake} {r : Role} (keyed : g.Keyed guild) :
    g.HasRole user id r ↔
      g.roles.get? id = some r ∧ r.isEveryone = false ∧ id ∈ g.heldBy user := by
  refine and_congr_right fun stored => ?_
  rw [keyed.role_id id r stored]

end GuildRows
end GuildAccess
