import GuildAccess.Proofs.Permitted

/-!
How far a permitted change reaches. What the actor does not outrank stays as it is: roles, who holds
them, and the overrides for roles and users.
-/
namespace GuildAccess.Permitted
variable {s : Store} {fresh guild actor user id : Snowflake} {g g' : GuildRows} {p : Plan}
  {now : Instant} {r r' : Role}

/-- The row of the guild itself is not touched. -/
theorem guild_kept (permitted : Permitted s fresh guild g actor p)
    (effect : p.change.Effect now g g') : g'.guild = g.guild := by
  cases permitted with
  | setPositions change =>
    rw [change] at effect
    cases effect
    rw [Store.moveRoles_frame]
  | createRole change | updateRole change | deleteRole change | assignRole change
  | unassignRole change | putOverride change | deleteOverride change | setLockdown change =>
    rw [change] at effect
    cases effect
    rfl

/-- A role that the actor does not outrank stays as it is. -/
theorem role_kept (permitted : Permitted s fresh guild g actor p)
    (effect : p.change.Effect now g g') (stored : g.roles.get? id = some r)
    (above : ¬ g.MayReach actor r.position) : g'.roles.get? id = some r := by
  cases permitted with
  | createRole change =>
    rw [change] at effect
    cases effect with
    | createRole absent =>
      rw [KeyMap.get?_insert, if_neg, stored]
      intro same
      rw [same, absent] at stored
      cases stored
  | updateRole change _ found _ below =>
    rw [change] at effect
    cases effect
    rw [KeyMap.get?_insert, if_neg, stored]
    intro same
    rw [same, found] at stored
    cases stored
    exact above below
  | deleteRole change _ found below =>
    rw [change] at effect
    cases effect
    rw [KeyMap.get?_erase, if_neg, stored]
    intro same
    rw [same, found] at stored
    cases stored
    exact above below
  | setPositions change checked =>
    rw [change] at effect
    cases effect
    rw [Store.get?_moveRoles, stored, Option.map_some, Store.movedTo_of_not_mem]
    intro move member same
    obtain ⟨row, found, -, below, -⟩ := checked move member
    rw [same, stored] at found
    cases found
    exact above below
  | assignRole change | unassignRole change | putOverride change | deleteOverride change
  | setLockdown change =>
    rw [change] at effect
    cases effect
    exact stored

/-- A role that is there afterwards is new, below the actor and grants what the actor has, or it was
there before: then it is as it was or was moved below the actor, and what it grants it granted
before or the actor has. -/
theorem role_after (permitted : Permitted s fresh guild g actor p)
    (effect : p.change.Effect now g g') (stored : g'.roles.get? id = some r') :
    (p.mints = true ∧ id = fresh ∧ g.MayReach actor r'.position ∧
        ∀ f, r'.grants f = true → (g.serverOf actor).has f = true) ∨
      ∃ r, g.roles.get? id = some r ∧ r'.isEveryone = r.isEveryone ∧
        (r' = r ∨ g.MayReach actor r'.position) ∧
        ∀ f, r'.grants f = true → r.grants f = true ∨ (g.serverOf actor).has f = true := by
  have same_role : g.roles.get? id = some r' → ∃ r, g.roles.get? id = some r ∧
      r'.isEveryone = r.isEveryone ∧ (r' = r ∨ g.MayReach actor r'.position) ∧
      ∀ f, r'.grants f = true → r.grants f = true ∨ (g.serverOf actor).has f = true :=
    fun stored => ⟨r', stored, rfl, .inl rfl, fun _ granted => .inl granted⟩
  cases permitted with
  | createRole change mints new _ below covered =>
    rw [change] at effect
    cases effect
    rw [KeyMap.get?_insert] at stored
    split at stored
    · next here =>
      cases stored
      exact .inl ⟨mints, here.trans new.1, below, covered⟩
    · exact .inr (same_role stored)
  | @updateRole role before change _ found kept below covered =>
    rw [change] at effect
    cases effect with
    | updateRole found' =>
      cases found.symm.trans found'
      rw [KeyMap.get?_insert] at stored
      split at stored
      · next here =>
        cases stored
        rw [← here] at found
        refine .inr ⟨before, found, rfl, .inr ?_, covered⟩
        rw [← kept] at below
        exact below
      · exact .inr (same_role stored)
  | deleteRole change =>
    rw [change] at effect
    cases effect
    rw [KeyMap.get?_erase] at stored
    split at stored
    · cases stored
    · exact .inr (same_role stored)
  | setPositions change checked =>
    rw [change] at effect
    cases effect
    rw [Store.get?_moveRoles] at stored
    obtain ⟨old, found, rfl⟩ := Option.map_eq_some_iff.mp stored
    obtain ⟨position, time, moved⟩ := Store.movedTo_eq now _ id old
    refine .inr ⟨old, found, by rw [moved], ?_, fun f granted => .inl (by rwa [moved] at granted)⟩
    refine Store.movedTo_position (fun move member _ => ?_) old
    obtain ⟨_, -, -, -, toBelow⟩ := checked move member
    exact toBelow
  | assignRole change | unassignRole change | putOverride change | deleteOverride change
  | setLockdown change =>
    rw [change] at effect
    cases effect
    exact .inr (same_role stored)

/-- Nobody joins or leaves. -/
theorem insider_kept (permitted : Permitted s fresh guild g actor p)
    (effect : p.change.Effect now g g') : g'.hasInsider user = g.hasInsider user := by
  have listed : (g'.members.get? user).isSome = (g.members.get? user).isSome := by
    cases permitted with
    | deleteRole change =>
      rw [change] at effect
      cases effect
      simp
    | setPositions change =>
      rw [change] at effect
      cases effect
      rw [Store.moveRoles_frame]
    | assignRole change | unassignRole change =>
      rw [change] at effect
      cases effect
      rw [KeyMap.get?_insert]
      split
      · next here => simp_all
      · rfl
    | createRole change | updateRole change | putOverride change | deleteOverride change
    | setLockdown change =>
      rw [change] at effect
      cases effect
      rfl
  unfold GuildRows.hasInsider
  rw [listed, permitted.guild_kept effect]

/-- A role held afterwards was held before or is assigned: by an actor who outranks it, and to the
actor or a user that the actor outranks. -/
theorem held_after (permitted : Permitted s fresh guild g actor p)
    (effect : p.change.Effect now g g') (held : id ∈ g'.heldBy user) :
    id ∈ g.heldBy user ∨ p.change = .assignRole guild user id ∧
      (user = actor ∨ g.Outranks actor user) ∧
      ∃ r, g.roles.get? id = some r ∧ g.MayReach actor r.position := by
  cases permitted with
  | deleteRole change =>
    rw [change] at effect
    cases effect
    rw [GuildRows.heldBy_removeAll rfl] at held
    exact .inl (List.mem_of_mem_erase held)
  | setPositions change =>
    rw [change] at effect
    cases effect
    rw [Store.moveRoles_frame] at held
    exact .inl held
  | @assignRole assignee role row change found _ below outranked =>
    rw [change] at effect
    cases effect with
    | assignRole _ listed lacking =>
      rw [GuildRows.heldBy_insert rfl] at held
      split at held
      · next here =>
        subst here
        rw [Member.addRole_roles lacking, List.mem_append, List.mem_singleton] at held
        rcases held with old | rfl
        · exact .inl (by simpa [GuildRows.heldBy, listed] using old)
        · exact .inr ⟨change, outranked, row, found, below⟩
      · exact .inl held
  | unassignRole change =>
    rw [change] at effect
    cases effect with
    | unassignRole listed =>
      rw [GuildRows.heldBy_insert rfl] at held
      split at held
      · next here =>
        subst here
        rw [Member.removeRole_roles] at held
        exact .inl (by simpa [GuildRows.heldBy, listed] using List.mem_of_mem_erase held)
      · exact .inl held
  | createRole change | updateRole change | putOverride change | deleteOverride change
  | setLockdown change =>
    rw [change] at effect
    cases effect
    exact .inl held

/-- A role held before is still held, unless the actor outranks it. -/
theorem held_kept (permitted : Permitted s fresh guild g actor p)
    (effect : p.change.Effect now g g') (held : id ∈ g.heldBy user) :
    id ∈ g'.heldBy user ∨ ∃ r, g.roles.get? id = some r ∧ g.MayReach actor r.position := by
  cases permitted with
  | @deleteRole role row change _ found below =>
    rw [change] at effect
    cases effect
    rw [GuildRows.heldBy_removeAll rfl]
    by_cases here : id = role
    · subst here
      exact .inr ⟨row, found, below⟩
    · exact .inl ((List.mem_erase_of_ne here).mpr held)
  | setPositions change =>
    rw [change] at effect
    cases effect
    rw [Store.moveRoles_frame]
    exact .inl held
  | assignRole change =>
    rw [change] at effect
    cases effect with
    | assignRole _ listed lacking =>
      left
      rw [GuildRows.heldBy_insert rfl]
      split
      · next here =>
        subst here
        rw [Member.addRole_roles lacking]
        exact List.mem_append_left _ (by simpa [GuildRows.heldBy, listed] using held)
      · exact held
  | @unassignRole assignee role row change found _ below =>
    rw [change] at effect
    cases effect with
    | unassignRole listed =>
      rw [GuildRows.heldBy_insert rfl]
      split
      · next here =>
        subst here
        rw [Member.removeRole_roles]
        by_cases taken : id = role
        · subst taken
          exact .inr ⟨row, found, below⟩
        · refine .inl ((List.mem_erase_of_ne taken).mpr ?_)
          simpa [GuildRows.heldBy, listed] using held
      · exact .inl held
  | createRole change | updateRole change | putOverride change | deleteOverride change
  | setLockdown change =>
    rw [change] at effect
    cases effect
    exact .inl held

/-- An override stays as it is, unless the actor may write overrides of its target. -/
theorem override_kept (permitted : Permitted s fresh guild g actor p)
    (effect : p.change.Effect now g g') (channel : Snowflake) (target : OverrideTarget) :
    g'.overrides.get? (channel, target) = g.overrides.get? (channel, target) ∨
      g.MayTarget actor target := by
  cases permitted with
  | @deleteRole role row change _ found below =>
    rw [change] at effect
    cases effect
    by_cases here : target = .role role
    · subst here
      exact .inr ⟨row, found, .inr below⟩
    · left
      rw [KeyMap.get?_filter_keys]
      simp [here]
  | setPositions change =>
    rw [change] at effect
    cases effect
    rw [Store.moveRoles_frame]
    exact .inl rfl
  | putOverride change _ targeted =>
    rw [change] at effect
    cases effect
    rw [KeyMap.get?_insert]
    split
    · next here =>
      cases here
      exact .inr targeted
    · exact .inl rfl
  | deleteOverride change _ targeted =>
    rw [change] at effect
    cases effect
    rw [KeyMap.get?_erase]
    split
    · next here =>
      cases here
      exact .inr targeted
    · exact .inl rfl
  | @setLockdown locked everyone overwrite change _ found first =>
    rw [change] at effect
    cases effect
    by_cases here : (channel, target) = (locked.id, .role everyone.id)
    · cases here
      exact .inr ⟨everyone, found, .inl first⟩
    · left
      cases overwrite with
      | none => exact (KeyMap.get?_erase ..).trans (if_neg here)
      | some o => exact (KeyMap.get?_insert ..).trans (if_neg here)
  | createRole change | updateRole change | assignRole change | unassignRole change =>
    rw [change] at effect
    cases effect
    exact .inl rfl

end GuildAccess.Permitted
