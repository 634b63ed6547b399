import GuildAccess.Proofs.Steps

/-!
Complete mediation. Calls that write roles, assignments, overrides or locks demand a flag of an
insider, and no row changes unless the demand was met in the state before the call.
-/
namespace GuildAccess

namespace Call

/-- Whether the request of a call keeps the limits that are looked at before anything else. -/
def isValid : Call → Prop
  | .createRole _ _ request => request.validate = .ok ()
  | .updateRole _ _ _ request => request.validate = .ok ()
  | .reorderRoles _ _ request => request.validate = .ok ()
  | .setOverride _ _ _ overwrite => overwrite.validate = .ok ()
  | .lockChannel _ _ request => request.validate = .ok ()
  | .unlockChannel _ _ request => request.validate = .ok ()
  | _ => True

end Call

theorem Demand.isInsider_eq {s : Store} {d : Demand} {g : GuildRows}
    (found : s.guilds.get? d.guild = some g) : d.isInsider s = g.hasInsider d.actor := by
  simp [isInsider, Store.guild?, Store.isMember, Store.member?, found, GuildRows.hasInsider]

/-- A demand is met by what its actor may do where the gate looks. -/
theorem Demand.isMet_of_snapshot {s : Store} {d : Demand} {caller : Snapshot}
    (loaded : Judge.snapshot s d.guild d.actor d.channel = .ok caller) :
    d.isMet s = d.flags.any (Judge.resolved caller d.channel).has := by
  unfold isMet
  rw [loaded]
  cases d.channel <;> rfl

/-- Whoever passes the gate is an insider and meets the demand. -/
theorem Demand.gate_passes {s : Store} {d : Demand} {caller : Snapshot} (some_flag : d.flags ≠ [])
    (passed : d.gate s = .ok caller) : d.isInsider s = true ∧ d.isMet s = true := by
  obtain ⟨loaded, none | held⟩ := Judge.passes_gate.mp passed
  · exact absurd none some_flag
  · obtain ⟨g, found, inside, -, -⟩ := Judge.passes_snapshot.mp loaded
    exact ⟨(d.isInsider_eq found).trans inside, (d.isMet_of_snapshot loaded).trans held⟩

namespace Judge

@[simp] theorem denies_moves {caller : Snapshot} {seen : List Snowflake} {asked : List RoleMove}
    {flags : String} : ¬ Denies (moves caller seen asked) flags := by
  induction asked generalizing seen with
  | nil => simp [moves]
  | cons move rest ih =>
    unfold moves
    cases Snowflake.parse? move.id <;> simp [Refusal.cause, ih]

@[simp] theorem denies_mayTarget {s : Store} {caller : Snapshot} {row : Channel}
    {target : OverrideTarget} {flags : String} :
    ¬ Denies (mayTarget s caller row target) flags := by
  cases target <;> simp [mayTarget]

theorem denies_changeRoleOf {s : Store} {guild user role actor : Snowflake} {action : Audit.Action}
    {flags : String} : Denies (changeRoleOf s guild user role actor action) flags ↔
      Denies (gate s guild none actor [.manageRoles] ⟨action, some (.member, user)⟩) flags := by
  unfold changeRoleOf
  by_cases self : user = actor <;> simp [self]

end Judge

namespace Call
variable {s : Store} {around : Surroundings} {fresh : Snowflake} {call : Call}

/-- A guarded call is denied exactly if its gate denies: no check behind the gate can. -/
theorem denies_judge {d : Demand} {flags : String} (keyed : s.Keyed)
    (demands : call.demand? s = some d) :
    Judge.Denies (call.judge s around fresh) flags ↔ Judge.Denies (d.gate s) flags := by
  cases call with
  | createRole | updateRole | toggleFlag | deleteRole | reorderRoles =>
    cases demands
    simp [judge, Judge.createRole, Judge.updateRole, Judge.toggleFlag, Judge.deleteRole,
      Judge.reorderRoles, Judge.manageRoles, Judge.onRole, Demand.gate]
  | assignRole guild user role actor =>
    cases demands
    simp [judge, Judge.assignRole, Judge.denies_changeRoleOf, Demand.gate]
  | unassignRole guild user role actor =>
    cases demands
    simp [judge, Judge.unassignRole, Judge.denies_changeRoleOf, Refusal.cause, Demand.gate]
  | setOverride channel target actor overwrite =>
    obtain ⟨row, found, rfl⟩ := Option.map_eq_some_iff.mp demands
    have row_id := (keyed.channel_stored found).1
    simp [judge, Judge.setOverride, Judge.findChannel_bind found, Judge.manageOverrides,
      Judge.overrideFlags, row_id, Demand.gate]
  | deleteOverride channel target actor =>
    obtain ⟨row, found, rfl⟩ := Option.map_eq_some_iff.mp demands
    have row_id := (keyed.channel_stored found).1
    simp [judge, Judge.deleteOverride, Judge.findChannel_bind found, Judge.manageOverrides,
      Judge.overrideFlags, row_id, Demand.gate]
  | lockChannel channel actor request =>
    obtain ⟨row, found, rfl⟩ := Option.map_eq_some_iff.mp demands
    have row_id := (keyed.channel_stored found).1
    simp [judge, Judge.lockChannel, Judge.findChannel_bind found, Judge.manageChannel, row_id,
      Demand.gate]
  | unlockChannel channel actor request =>
    obtain ⟨row, found, rfl⟩ := Option.map_eq_some_iff.mp demands
    have row_id := (keyed.channel_stored found).1
    simp [judge, Judge.unlockChannel, Judge.findChannel_bind found, Judge.manageChannel, row_id,
      Demand.gate]
  | _ => cases demands

theorem demand_flags {d : Demand} (demands : call.demand? s = some d) : d.flags ≠ [] := by
  cases call with
  | setOverride | deleteOverride | lockChannel | unlockChannel =>
    obtain ⟨row, -, rfl⟩ := Option.map_eq_some_iff.mp demands
    simp
  | createRole | updateRole | toggleFlag | deleteRole | reorderRoles | assignRole | unassignRole =>
    cases demands
    simp
  | _ => cases demands

/-- The channel of a demand is a channel of its guild. -/
theorem demand_channel {d : Demand} {id : Snowflake} (keyed : s.Keyed)
    (demands : call.demand? s = some d) (inChannel : d.channel = some id) :
    ∃ g, s.guilds.get? d.guild = some g ∧ (g.channels.get? id).isSome = true := by
  cases call with
  | setOverride | deleteOverride | lockChannel | unlockChannel =>
    obtain ⟨row, found, rfl⟩ := Option.map_eq_some_iff.mp demands
    cases inChannel
    obtain ⟨-, -, g, rows, stored⟩ := keyed.channel_stored found
    exact ⟨g, rows, by rw [stored]; rfl⟩
  | createRole | updateRole | toggleFlag | deleteRole | reorderRoles | assignRole | unassignRole =>
    cases demands
    cases inChannel
  | _ => cases demands

/-- What a demand is decided on can be read for every insider. -/
theorem demand_loads {d : Demand} (keyed : s.Keyed) (demands : call.demand? s = some d)
    (inside : d.isInsider s = true) :
    ∃ caller, Judge.snapshot s d.guild d.actor d.channel = .ok caller := by
  cases found : s.guilds.get? d.guild with
  | none => simp [Demand.isInsider, Store.guild?, Store.isMember, Store.member?, found] at inside
  | some g =>
    rw [d.isInsider_eq found] at inside
    refine ⟨_, Judge.passes_snapshot.mpr ⟨g, found, inside, fun id inChannel => ?_, rfl⟩⟩
    obtain ⟨g', found', present⟩ := demand_channel keyed demands inChannel
    cases found.symm.trans found'
    exact present

/-- A guarded call with a valid request is admitted. -/
theorem enter_ok {d : Demand} (demands : call.demand? s = some d) (valid : call.isValid) :
    ∃ lock, call.enter s = .ok lock := by
  have located : ∀ {id row}, s.channel? id = some row →
      channelLock s id = .ok (some row.guildId) := by
    intro id row found
    unfold channelLock
    rw [Judge.passes_findChannel.mpr found]
    rfl
  cases call with
  | setOverride channel target actor overwrite =>
    obtain ⟨row, found, rfl⟩ := Option.map_eq_some_iff.mp demands
    have valid : overwrite.validate = .ok () := valid
    exact ⟨some row.guildId, by rw [enter, valid, located found]; rfl⟩
  | deleteOverride channel target actor =>
    obtain ⟨row, found, rfl⟩ := Option.map_eq_some_iff.mp demands
    exact ⟨some row.guildId, located found⟩
  | lockChannel channel actor request | unlockChannel channel actor request =>
    obtain ⟨row, found, rfl⟩ := Option.map_eq_some_iff.mp demands
    have valid : request.validate = .ok () := valid
    exact ⟨some row.guildId, by rw [enter, valid, located found]; rfl⟩
  | createRole guild actor request | updateRole guild role actor request
  | reorderRoles guild actor request =>
    have valid : request.validate = .ok () := valid
    exact ⟨some guild, by rw [enter, valid]; rfl⟩
  | toggleFlag guild | deleteRole guild | assignRole guild | unassignRole guild => exact ⟨_, rfl⟩
  | _ => cases demands

end Call

namespace Service
variable {service : Service} {around : Surroundings} {call : Call}

/-- Rows change only in the guild of a call's demand, and only if that was met. -/
theorem changed_met {guild : Snowflake} (keyed : service.store.Keyed)
    (home : service.store.RolesAtHome) (guarded : call.isGuarded = true)
    (changed : (service.handle around call).1.store.tables? guild ≠ service.store.tables? guild) :
    ∃ d, call.demand? service.store = some d ∧ d.guild = guild ∧
      d.isInsider service.store = true ∧ d.isMet service.store = true := by
  rcases handle_guarded keyed home guarded with same | ⟨d, p, g, g', writes⟩
  · exact absurd (same guild) changed
  · obtain ⟨caller, passed⟩ := writes.passed
    refine ⟨d, writes.demands, ?_, d.gate_passes (Call.demand_flags writes.demands) passed⟩
    -- The guild of the demand is the only one whose rows are written.
    exact Classical.byContradiction fun elsewhere =>
      changed (writes.others guild (Ne.symm elsewhere))

/-- An insider's valid call is denied under the names of the flags exactly if they hold none. -/
theorem handle_denies {d : Demand} {flags : String} (keyed : service.store.Keyed)
    (demands : call.demand? service.store = some d) (valid : call.isValid)
    (inside : d.isInsider service.store = true) :
    (service.handle around call).2 = .error (.denied flags) ↔
      d.isMet service.store = false ∧ d.names = flags := by
  obtain ⟨lock, entered⟩ := Call.enter_ok demands valid
  obtain ⟨caller, loaded⟩ := Call.demand_loads keyed demands inside
  rw [handle_denied entered, Call.denies_judge keyed demands, Demand.gate, Judge.denies_gate,
    d.isMet_of_snapshot loaded, loaded]
  constructor
  · rintro ⟨_, same, -, missing, named⟩
    cases same
    exact ⟨missing, named⟩
  · rintro ⟨missing, named⟩
    exact ⟨caller, rfl, Call.demand_flags demands, missing, named⟩

/-- Complete mediation. A guarded call changes rows of the guild it demands a flag in, and only if
the caller is an insider who holds the flag in the state before; an insider who does not is denied,
and no row changes. -/
theorem complete_mediation (service : Service) (around : Surroundings) (call : Call)
    (reach : service.store.Reachable) (home : service.store.RolesAtHome)
    (guarded : call.isGuarded = true) :
    (∀ guild, (service.handle around call).1.store.tables? guild ≠ service.store.tables? guild →
      ∃ d, call.demand? service.store = some d ∧ d.guild = guild ∧
        d.isInsider service.store = true ∧ d.isMet service.store = true) ∧
    ∀ d, call.demand? service.store = some d → call.isValid → d.isInsider service.store = true →
      (d.isMet service.store = false →
        (service.handle around call).2 = .error (.denied d.names) ∧
        ∀ guild, (service.handle around call).1.store.tables? guild =
          service.store.tables? guild) ∧
      (d.isMet service.store = true →
        ∀ flags, (service.handle around call).2 ≠ .error (.denied flags)) := by
  have keyed := reach.keyed
  refine ⟨fun guild changed => changed_met keyed home guarded changed, ?_⟩
  intro d demands valid inside
  refine ⟨fun missing => ⟨(handle_denies keyed demands valid inside).mpr ⟨missing, rfl⟩, ?_⟩, ?_⟩
  · intro guild
    refine Classical.byContradiction fun changed => ?_
    obtain ⟨d', demands', -, -, met⟩ := changed_met keyed home guarded changed
    cases demands.symm.trans demands'
    rw [missing] at met
    cases met
  · intro met flags denied
    rw [((handle_denies keyed demands valid inside).mp denied).1] at met
    cases met

theorem complete_mediation_sample :
    (∃ d, Call.demand? Store.sample (.deleteRole (.wrap 1) (.wrap 11) (.wrap 2)) = some d ∧
      d.isMet Store.sample = true) ∧
    (Service.sample.handle .sample (.deleteRole (.wrap 1) (.wrap 11) (.wrap 3))).2 =
      .error (.denied "MANAGE_ROLES") := by
  constructor
  · have guarded := (complete_mediation .sample .sample (.deleteRole (.wrap 1) (.wrap 11) (.wrap 2))
      Store.sample_reachable Store.sample_rolesAtHome rfl).1 (.wrap 1)
    obtain ⟨d, demands, -, -, met⟩ := guarded fun same => by
      have kept := congrArg (Option.any fun g => g.roles.contains (.wrap 11)) same
      exact absurd kept (by decide)
    exact ⟨d, demands, met⟩
  · have denied := (complete_mediation .sample .sample (.deleteRole (.wrap 1) (.wrap 11) (.wrap 3))
      Store.sample_reachable Store.sample_rolesAtHome rfl).2 _ rfl trivial (by decide)
    exact (denied.1 (by decide)).1

end Service
end GuildAccess
