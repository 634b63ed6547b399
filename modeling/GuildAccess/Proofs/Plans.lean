import GuildAccess.Proofs.Judgement

/-!
What each call that writes may plan. A plan was judged on one caller, who passed the gate; the rest
says which checks stand between the gate and the one change that is planned.
-/
namespace GuildAccess.Judge
variable {s : Store} {now : Instant} {guild id user role actor fresh channel : Snowflake}
  {p : Plan}

/-- A new role grants only what the caller has and stands below the caller. -/
theorem createRole_plan {request : CreateRole}
    (planned : createRole s now fresh guild actor request = .ok (.plan p)) :
    ∃ caller, manageRoles s guild actor ⟨.roleCreate, none⟩ = .ok caller ∧
      (∀ f, (requestedPermissions request).has f = true → caller.server.has f = true) ∧
      (caller.isOwner = true ∨ request.position.getD newRolePosition < caller.highest) ∧
      p.change = .createRole (newRole guild fresh request now) ∧ p.mints = true := by
  unfold createRole at planned
  simp only [passes_bind, passes_must, passes_outranksPosition, Except.ok.injEq,
    Ruling.plan.injEq] at planned
  obtain ⟨caller, passed, _, covered, _, above, rfl⟩ := planned
  exact ⟨caller, passed, Resolver.passes_checkGrant.mp covered, above, rfl, rfl⟩

/-- An edited role is a role of the guild below the caller, and gains only flags of the caller. -/
theorem updateRole_plan {request : UpdateRole}
    (planned : updateRole s now guild id actor request = .ok (.plan p)) :
    ∃ caller before, manageRoles s guild actor (onRole .roleUpdate id) = .ok caller ∧
      s.role? id = some before ∧ before.guildId = guild ∧
      (caller.isOwner = true ∨ before.position < caller.highest) ∧
      (∀ f, ((updatedRole before request now).permissions \ before.permissions).has f = true →
        caller.server.has f = true) ∧
      p.change = .updateRole (updatedRole before request now) := by
  unfold updateRole at planned
  simp only [passes_bind, passes_must, passes_mustCall, passes_findRole, passes_refuseIf,
    passes_outranksPosition] at planned
  obtain ⟨caller, passed, before, ⟨found, home⟩, _, above, _, _, _, covered, planned⟩ := planned
  split at planned
  · cases planned
  · cases planned
    exact ⟨caller, before, passed, found, home, above, Resolver.passes_checkGrant.mp covered, rfl⟩

/-- A flag set on a role is a flag of the caller; a flag cleared need not be. -/
theorem toggleFlag_plan {request : ToggleFlag}
    (planned : toggleFlag s now guild id actor request = .ok (.plan p)) :
    ∃ caller before, manageRoles s guild actor (onRole .roleUpdate id) = .ok caller ∧
      s.role? id = some before ∧ before.guildId = guild ∧
      (caller.isOwner = true ∨ before.position < caller.highest) ∧
      (request.enabled = true → caller.server.has request.flag = true) ∧
      p.change = .updateRole (before.setPermissions
        (before.permissions.set request.flag request.enabled) now) := by
  unfold toggleFlag at planned
  simp only [passes_bind, passes_must, passes_mustCall, passes_findRole,
    passes_outranksPosition] at planned
  obtain ⟨caller, passed, before, ⟨found, home⟩, _, above, _, covered, planned⟩ := planned
  have held : request.enabled = true → caller.server.has request.flag = true := by
    intro enabled
    rw [if_pos enabled] at covered
    exact Resolver.passes_checkGrant.mp covered request.flag (by simp)
  split at planned
  · cases planned
  · cases planned
    exact ⟨caller, before, passed, found, home, above, held, rfl⟩

/-- A deleted role is a role of the guild below the caller, and not the everyone role. -/
theorem deleteRole_plan (planned : deleteRole s guild id actor = .ok (.plan p)) :
    ∃ caller before, manageRoles s guild actor (onRole .roleDelete id) = .ok caller ∧
      s.role? id = some before ∧ before.guildId = guild ∧ before.isEveryone = false ∧
      (caller.isOwner = true ∨ before.position < caller.highest) ∧
      p.change = .deleteRole id := by
  unfold deleteRole at planned
  simp only [passes_bind, passes_mustCall, passes_findRole, passes_refuseIf,
    passes_outranksPosition, Except.ok.injEq, Ruling.plan.injEq] at planned
  obtain ⟨caller, passed, before, ⟨found, home⟩, _, plain, _, above, rfl⟩ := planned
  exact ⟨caller, before, passed, found, home, plain, above, rfl⟩

/-- What is checked of a role that is to move: it is no everyone role, and both where it is and
where it goes lie below the caller. -/
def mayMove (caller : Snapshot) (move : Snowflake × Int) : Prop :=
  ∃ row, row ∈ caller.roles ∧ row.id = move.1 ∧ row.isEveryone = false ∧
    (caller.isOwner = true ∨ row.position < caller.highest ∧ move.2 < caller.highest)

/-- Positions that a list of moves asks for, no role twice. -/
structure AskedFor (asked : List RoleMove) (positions : List (Snowflake × Int)) : Prop where
  same : asked.map (fun m => (Snowflake.parse? m.id, m.position)) =
    positions.map fun m => (some m.1, m.2)
  distinct : (positions.map (·.1)).Nodup

/-- Every move that is let through was asked for and checked, and names a role not named before. -/
theorem passes_moves {caller : Snapshot} {seen : List Snowflake} {asked : List RoleMove}
    {given : List Move} (passed : moves caller seen asked = .ok given) :
    (∀ move ∈ given, mayMove caller (move.role, move.new) ∧ move.role ∉ seen) ∧
      AskedFor asked (given.map fun m => (m.role, m.new)) := by
  induction asked generalizing seen given with
  | nil =>
    cases passed
    exact ⟨by simp, rfl, .nil⟩
  | cons move rest ih =>
    unfold moves at passed
    rw [passes_bind] at passed
    obtain ⟨id, parsed, passed⟩ := passed
    have parsed : Snowflake.parse? move.id = some id := by
      rw [passes_mustCall] at parsed
      cases read : Snowflake.parse? move.id with
      | none =>
        rw [read] at parsed
        cases parsed
      | some id' =>
        rw [read] at parsed
        cases parsed
        rfl
    split at passed
    · cases passed
    · next new =>
      simp only [passes_bind, passes_must, passes_refuseIf, passes_outranksPosition,
        Store.passes_need] at passed
      obtain ⟨row, found, _, plain, _, fromBelow, _, toBelow, later, passed, same⟩ := passed
      cases same
      obtain ⟨checked, asks⟩ := ih passed
      refine ⟨fun moved member => ?_, ?_, ?_⟩
      · rcases List.mem_cons.mp member with rfl | member
        · have named : row.id = id := by simpa using List.find?_some found
          refine ⟨⟨row, List.mem_of_find?_eq_some found, named, plain, ?_⟩, by simpa using new⟩
          rcases fromBelow with owner | fromBelow
          · exact .inl owner
          · exact toBelow.imp_right fun toBelow => ⟨fromBelow, toBelow⟩
        · obtain ⟨may, fresh⟩ := checked moved member
          exact ⟨may, fun earlier => fresh (List.mem_cons_of_mem _ earlier)⟩
      · rw [List.map_cons, List.map_cons, List.map_cons, asks.same, parsed]
      · rw [List.map_cons, List.map_cons, List.nodup_cons]
        refine ⟨fun again => ?_, asks.distinct⟩
        obtain ⟨m, listed, rfl⟩ := by simpa using again
        exact (checked m listed).2 List.mem_cons_self

/-- Roles are moved all at once, where they are asked to and each of them checked. -/
theorem reorderRoles_plan {request : ReorderRoles}
    (planned : reorderRoles s guild actor request = .ok (.plan p)) :
    ∃ caller positions, manageRoles s guild actor ⟨.roleReorder, none⟩ = .ok caller ∧
      (∀ move ∈ positions, mayMove caller move) ∧ AskedFor request.positions positions ∧
      p.change = .setPositions guild positions := by
  unfold reorderRoles at planned
  simp only [passes_bind, Except.ok.injEq, Ruling.plan.injEq] at planned
  obtain ⟨caller, passed, given, checked, rfl⟩ := planned
  obtain ⟨may, asks⟩ := passes_moves checked
  refine ⟨caller, given.map fun m => (m.role, m.new), passed, ?_, asks, rfl⟩
  intro move member
  obtain ⟨m, listed, rfl⟩ := List.mem_map.mp member
  exact (may m listed).1

/-- A user who joins was no member and becomes one without roles. -/
theorem join_plan (planned : join s now guild user = .ok (.plan p)) :
    s.isMember guild user = false ∧ p.change = .createMember (.new guild user now) := by
  unfold join at planned
  simp only [passes_bind, passes_refuseIf, Except.ok.injEq, Ruling.plan.injEq] at planned
  obtain ⟨_, _, _, absent, rfl⟩ := planned
  exact ⟨absent, rfl⟩

/-- Whose roles may be changed and by which role: a role below the caller that is no everyone role,
and the caller or an insider below the caller. -/
theorem passes_changeRoleOf {action : Audit.Action} {member : Member}
    (passed : changeRoleOf s guild user role actor action = .ok member) :
    ∃ caller row,
      gate s guild none actor [.manageRoles] ⟨action, some (.member, user)⟩ = .ok caller ∧
      s.role? role = some row ∧ row.guildId = guild ∧ row.isEveryone = false ∧
      (caller.isOwner = true ∨ row.position < caller.highest) ∧
      (user = actor ∨ outranksMember s caller guild user = .ok ()) ∧
      s.member? guild user = some member := by
  unfold changeRoleOf at passed
  simp only [passes_bind, passes_must, passes_mustCall, passes_findRole, passes_refuseIf,
    passes_outranksPosition, Store.passes_need] at passed
  obtain ⟨caller, passed, row, ⟨found, home⟩, _, plain, _, above, _, outranked, listed⟩ := passed
  refine ⟨caller, row, passed, found, home, plain, above, ?_, listed⟩
  split at outranked
  · next self => exact .inl self
  · exact .inr outranked

theorem assignRole_plan (planned : assignRole s now guild user role actor = .ok (.plan p)) :
    ∃ member, changeRoleOf s guild user role actor .memberRoleAdd = .ok member ∧
      p.change = .assignRole guild user role := by
  unfold assignRole at planned
  simp only [passes_bind, Except.ok.injEq, Ruling.plan.injEq] at planned
  obtain ⟨member, passed, _, _, rfl⟩ := planned
  exact ⟨member, passed, rfl⟩

theorem unassignRole_plan (planned : unassignRole s now guild user role actor = .ok (.plan p)) :
    ∃ member, changeRoleOf s guild user role actor .memberRoleRemove = .ok member ∧
      member.hasRole role = true ∧ p.change = .unassignRole guild user role := by
  unfold unassignRole at planned
  rw [passes_bind] at planned
  obtain ⟨member, passed, planned⟩ := planned
  split at planned
  · next held =>
    cases planned
    exact ⟨member, passed, held, rfl⟩
  · cases planned

/-- An override for a role is written for the everyone role of an unlocked channel, or for another
role below the caller. -/
theorem passes_mayTarget_role {caller : Snapshot} {row : Channel}
    (passed : mayTarget s caller row (.role id) = .ok ()) :
    ∃ r, r ∈ caller.roles ∧ r.id = id ∧
      ((r.isEveryone = true ∧ row.locked = false) ∨
        (r.isEveryone = false ∧ (caller.isOwner = true ∨ r.position < caller.highest))) := by
  unfold mayTarget at passed
  simp only [passes_bind, passes_must, Store.passes_need] at passed
  obtain ⟨r, found, passed⟩ := passed
  refine ⟨r, List.mem_of_find?_eq_some found, by simpa using List.find?_some found, ?_⟩
  split at passed
  · next everyone => exact .inl ⟨everyone, passes_refuseIf.mp passed⟩
  · next plain => exact .inr ⟨by simpa using plain, passes_outranksPosition.mp passed⟩

/-- An override for a user is written for the caller, or for an insider below the caller. -/
theorem passes_mayTarget_member {caller : Snapshot} {row : Channel}
    (passed : mayTarget s caller row (.member id) = .ok ()) :
    id = caller.userId ∨ outranksMember s caller row.guildId id = .ok () := by
  simp only [mayTarget] at passed
  split at passed
  · next self => exact .inl self
  · exact .inr (passes_mustCall.mp passed)

/-- An override is written for a target that the caller may write for, with flags of the caller. -/
theorem setOverride_plan {target : OverrideTarget} {overwrite : Overwrite}
    (planned : setOverride s now channel target actor overwrite = .ok (.plan p)) :
    ∃ row caller, s.channel? channel = some row ∧
      manageOverrides s row actor ⟨.overrideSet, some (.channelOverride, target.id)⟩ = .ok caller ∧
      mayTarget s caller row target = .ok () ∧
      (∀ f, (overwrite.allow ∪ overwrite.deny).has f = true → caller.channel.has f = true) ∧
      p.change = .putOverride ⟨channel, row.guildId, target, overwrite, now⟩ := by
  unfold setOverride at planned
  simp only [passes_bind, passes_must, passes_mustCall, passes_findChannel, Except.ok.injEq,
    Ruling.plan.injEq] at planned
  obtain ⟨row, found, caller, passed, _, targeted, _, covered, rfl⟩ := planned
  exact ⟨row, caller, found, passed, targeted, Resolver.passes_checkGrant.mp covered, rfl⟩

/-- An override that is there is removed for a target that the caller may write for. -/
theorem deleteOverride_plan {target : OverrideTarget}
    (planned : deleteOverride s channel target actor = .ok (.plan p)) :
    ∃ row caller, s.channel? channel = some row ∧
      manageOverrides s row actor ⟨.overrideDelete, some (.channelOverride, target.id)⟩ =
        .ok caller ∧
      mayTarget s caller row target = .ok () ∧ (s.override? channel target).isSome = true ∧
      p.change = .deleteOverride channel target := by
  unfold deleteOverride at planned
  simp only [passes_bind, passes_mustCall, passes_findChannel, passes_refuseIf, Except.ok.injEq,
    Ruling.plan.injEq] at planned
  obtain ⟨row, found, caller, passed, _, _, _, targeted, _, stored, rfl⟩ := planned
  exact ⟨row, caller, found, passed, targeted, by simpa using stored, rfl⟩

/-- A lock takes an unlocked channel and keeps the everyone override that it replaces. -/
theorem lockChannel_plan {request : Lockdown}
    (planned : lockChannel s now channel actor request = .ok (.plan p)) :
    ∃ row caller everyone, s.channel? channel = some row ∧
      manageChannel s row actor .channelLock = .ok caller ∧ row.locked = false ∧
      caller.everyone? = some everyone ∧
      p.change = .setLockdown (row.lock (caller.overwriteOf? (.role everyone.id)) now) everyone.id
        (some (Overwrite.lockdown (caller.overwriteOf? (.role everyone.id)))) := by
  unfold lockChannel at planned
  simp only [passes_bind, passes_must, passes_mustCall, passes_findChannel, passes_refuseIf,
    Store.passes_need, Except.ok.injEq, Ruling.plan.injEq] at planned
  obtain ⟨row, found, caller, passed, _, unlocked, everyone, first, rfl⟩ := planned
  exact ⟨row, caller, everyone, found, passed, unlocked, first, rfl⟩

/-- An unlock takes a locked channel and puts back the everyone override that the lock kept. -/
theorem unlockChannel_plan {request : Lockdown}
    (planned : unlockChannel s now channel actor request = .ok (.plan p)) :
    ∃ row caller everyone, s.channel? channel = some row ∧
      manageChannel s row actor .channelUnlock = .ok caller ∧ row.locked = true ∧
      caller.everyone? = some everyone ∧
      p.change = .setLockdown (row.unlock now) everyone.id row.preLock := by
  unfold unlockChannel at planned
  simp only [passes_bind, passes_must, passes_mustCall, passes_findChannel, passes_refuseIf,
    Store.passes_need, Except.ok.injEq, Ruling.plan.injEq, Bool.not_eq_false'] at planned
  obtain ⟨row, found, caller, passed, _, locked, everyone, first, rfl⟩ := planned
  exact ⟨row, caller, everyone, found, passed, locked, first, rfl⟩

end GuildAccess.Judge
