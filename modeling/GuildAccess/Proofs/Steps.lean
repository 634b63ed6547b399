import GuildAccess.Proofs.Permitted
import GuildAccess.Proofs.Outcome

/-!
One call on the rows of guilds, and many calls in turn. A guarded call leaves all rows as they were
or carries out one permitted change on the guild of its demand; besides, only a user who joins
changes a row.
-/
namespace GuildAccess

/-- A guarded call that was carried out: what it demanded, planned and made of the rows. -/
structure Service.Writes (service after : Service) (around : Surroundings) (call : Call)
    (d : Demand) (p : Plan) (g g' : GuildRows) : Prop where
  demands : call.demand? service.store = some d
  passed : ∃ caller, d.gate service.store = .ok caller
  planned : call.judge service.store around (around.idAt (service.issued + 1)) = .ok (.plan p)
  permitted : Permitted service.store (around.idAt (service.issued + 1)) d.guild g d.actor p
  before : service.store.guilds.get? d.guild = some g
  effect : p.change.Effect around.now g g'
  rewritten : after.store.tables? d.guild = some g'.withoutLog
  others : ∀ guild, guild ≠ d.guild → after.store.tables? guild = service.store.tables? guild
  counted : p.mints = true → service.issued < after.issued

/-- A user who joined: the rows of the guild have one more member, without roles. -/
structure Service.Joins (service after : Service) (around : Surroundings) (guild user : Snowflake) :
    Prop where
  rows : ∃ g, service.store.guilds.get? guild = some g ∧ g.members.get? user = none ∧
    after.store.tables? guild = some ({ g with
      members := g.members.insert user (.new guild user around.now) } : GuildRows).withoutLog
  others : ∀ other, other ≠ guild → after.store.tables? other = service.store.tables? other

/-- Whoever writes is an insider of the guild. -/
theorem Service.Writes.insider {service after : Service} {around : Surroundings} {call : Call}
    {d : Demand} {p : Plan} {g g' : GuildRows}
    (writes : service.Writes after around call d p g g') : g.hasInsider d.actor = true := by
  obtain ⟨caller, passed⟩ := writes.passed
  obtain ⟨g₀, rows, inside, -, -⟩ := Judge.passes_snapshot.mp (Judge.passes_gate.mp passed).1
  cases rows.symm.trans writes.before
  exact inside

/-- Only guarded calls and joining plan a change. -/
theorem Call.judge_plans {s : Store} {around : Surroundings} {fresh : Snowflake} {call : Call}
    {p : Plan} (planned : call.judge s around fresh = .ok (.plan p)) :
    call.isGuarded = true ∨ ∃ guild user, call = .join guild user := by
  cases call with
  | join guild user => exact .inr ⟨guild, user, rfl⟩
  | createRole | updateRole | toggleFlag | deleteRole | reorderRoles => exact .inl rfl
  | assignRole | unassignRole | setOverride | deleteOverride => exact .inl rfl
  | lockChannel | unlockChannel => exact .inl rfl
  | isOwner guild user =>
    simp only [judge, Judge.isOwner] at planned
    split at planned <;> simp at planned
  | canManageMember guild actor target =>
    simp only [judge, Judge.canManageMember, passes_bind] at planned
    obtain ⟨caller, -, planned⟩ := planned
    split at planned
    · simp at planned
    · split at planned <;> simp at planned
    · simp at planned
  | getRole | listRoles => simp [judge, Judge.getRole, Judge.listRoles, passes_bind] at planned
  | getMember => simp [judge, Judge.getMember, passes_bind] at planned
  | listOverrides => simp [judge, Judge.listOverrides, passes_bind] at planned
  | getChannel => simp [judge, Judge.getChannel, passes_bind] at planned
  | guildPermissions => simp [judge, Judge.guildPermissions, passes_bind] at planned
  | channelPermissions => simp [judge, Judge.channelPermissions, passes_bind] at planned
  | effectivePermissions => simp [judge, Judge.effectivePermissions, passes_bind] at planned
  | check => simp [judge, Judge.check, passes_bind] at planned
  | listAudit => simp [judge, Judge.listAudit, passes_bind] at planned
  | loadSnapshot | requireAny | ensureManages | findChannel | findRole =>
    simp [judge, passes_bind] at planned
  | record | recordAfter | recordDenied => simp [judge] at planned

namespace Service
variable {service : Service} {around : Surroundings} {call : Call}

/-- The state after many calls in turn. -/
def run (service : Service) (steps : List (Surroundings × Call)) : Service :=
  steps.foldl (fun service step => (service.handle step.1 step.2).1) service

theorem changed_issued (service : Service) (p : Plan) (store : Store) :
    service.issued ≤ (service.changed p store).issued ∧
      (p.mints = true → service.issued < (service.changed p store).issued) := by
  unfold changed
  cases p.mints <;> simp

/-- The rows of a guild after the change of a plan, where nothing but logs was touched since. -/
theorem changed_tables {after : Service} {p : Plan} {store : Store} {guild : Snowflake}
    (quiet : Quiet (service.changed p store) after) :
    after.store.tables? guild = store.tables? guild := quiet.tables guild

/-- Carrying out a permitted plan rewrites the rows of its guild and no others. -/
theorem writes_of_plan {d : Demand} {caller : Snapshot} {p : Plan} {g : GuildRows} {store : Store}
    (demands : call.demand? service.store = some d) (passed : d.gate service.store = .ok caller)
    (planned : call.judge service.store around (around.idAt (service.issued + 1)) = .ok (.plan p))
    (before : service.store.guilds.get? d.guild = some g)
    (permitted : Permitted service.store (around.idAt (service.issued + 1)) d.guild g d.actor p)
    (done : service.store.apply around.now p.change = .ok store)
    (quiet : Quiet (service.changed p store) (service.handle around call).1) :
    (∀ guild, (service.handle around call).1.store.tables? guild = service.store.tables? guild) ∨
      ∃ g', service.Writes (service.handle around call).1 around call d p g g' := by
  have others : ∀ guild, guild ≠ d.guild →
      (service.handle around call).1.store.tables? guild = service.store.tables? guild := by
    intro guild other
    rw [changed_tables quiet, Store.tables?, Store.apply_frame permitted.home done other]
    rfl
  rcases Store.apply_cases done with rfl | ⟨_, _, change, -⟩ |
    ⟨guild, g₀, g', home, rows, effect, after⟩
  · exact .inl quiet.tables
  · exact absurd change permitted.not_createGuild
  · cases home.symm.trans permitted.home
    cases before.symm.trans rows
    refine .inr ⟨g', demands, ⟨caller, passed⟩, planned, permitted, before, effect, ?_, others, ?_⟩
    · rw [changed_tables quiet, Store.tables?, after, KeyMap.get?_insert, if_pos rfl]
      rfl
    · intro mints
      exact Nat.lt_of_lt_of_le ((changed_issued service p store).2 mints) quiet.issued

/-- The rows after a user joined. -/
theorem joins_of_plan {guild user : Snowflake} {p : Plan} {store : Store}
    (planned : Judge.join service.store around.now guild user = .ok (.plan p))
    (done : service.store.apply around.now p.change = .ok store)
    (quiet : Quiet (service.changed p store) (service.handle around call).1) :
    service.Joins (service.handle around call).1 around guild user := by
  obtain ⟨absent, change⟩ := Judge.join_plan planned
  rw [change] at done
  have written : Store.Rewrites around.now service.store
      (.createMember (.new guild user around.now)) store := Store.createMember_rewrites done
  obtain ⟨home, g, g', about, rows, effect, after⟩ := written
  cases about
  cases effect
  have rows : service.store.guilds.get? guild = some g := rows
  refine ⟨⟨g, rows, ?_, ?_⟩, fun other elsewhere => ?_⟩
  · simpa [Store.isMember, Store.member?, rows] using absent
  · rw [changed_tables quiet, Store.tables?, after]
    show (KeyMap.get? (KeyMap.insert _ guild _) guild).map _ = _
    rw [KeyMap.get?_insert, if_pos rfl]
    rfl
  · rw [changed_tables quiet, Store.tables?, after]
    show (KeyMap.get? (KeyMap.insert _ guild _) other).map _ = _
    rw [KeyMap.get?_insert, if_neg elsewhere]
    rfl

/-- A call leaves all rows as they were, carries out one permitted change, or lets a user join. -/
theorem handle_rows (service : Service) (around : Surroundings) (call : Call)
    (keyed : service.store.Keyed) (home : service.store.RolesAtHome) :
    (∀ guild, (service.handle around call).1.store.tables? guild = service.store.tables? guild) ∨
      (call.isGuarded = true ∧
        ∃ d p g g', service.Writes (service.handle around call).1 around call d p g g') ∨
      ∃ guild user, call = .join guild user ∧
        service.Joins (service.handle around call).1 around guild user := by
  rcases handle_cases service around call with ⟨-, quiet⟩ | ⟨_, -, -, quiet⟩ |
    ⟨p, store, planned, done, -, quiet⟩
  · exact .inl quiet.tables
  · exact .inl quiet.tables
  · rcases Call.judge_plans planned with guarded | ⟨guild, user, rfl⟩
    · obtain ⟨d, caller, g, demands, passed, before, permitted⟩ :=
        Call.judge_permitted keyed home guarded planned
      rcases writes_of_plan demands passed planned before permitted done quiet with
        same | ⟨g', writes⟩
      · exact .inl same
      · exact .inr (.inl ⟨guarded, d, p, g, g', writes⟩)
    · exact .inr (.inr ⟨guild, user, rfl, joins_of_plan planned done quiet⟩)

/-- A guarded call leaves all rows as they were or carries out one permitted change. -/
theorem handle_guarded (keyed : service.store.Keyed) (home : service.store.RolesAtHome)
    (guarded : call.isGuarded = true) :
    (∀ guild, (service.handle around call).1.store.tables? guild = service.store.tables? guild) ∨
      ∃ d p g g', service.Writes (service.handle around call).1 around call d p g g' := by
  rcases handle_rows service around call keyed home with same | ⟨-, writes⟩ | ⟨_, _, rfl, -⟩
  · exact .inl same
  · exact .inr writes
  · cases guarded

/-- Identifiers are only ever counted up. -/
theorem handle_issued (service : Service) (around : Surroundings) (call : Call) :
    service.issued ≤ (service.handle around call).1.issued := by
  rcases handle_cases service around call with ⟨-, quiet⟩ | ⟨_, -, -, quiet⟩ |
    ⟨p, store, -, -, -, quiet⟩
  · exact quiet.issued
  · exact quiet.issued
  · exact Nat.le_trans (changed_issued service p store).1 quiet.issued

theorem run_issued (service : Service) (steps : List (Surroundings × Call)) :
    service.issued ≤ (service.run steps).issued := by
  induction steps generalizing service with
  | nil => exact Nat.le_refl _
  | cons step rest ih => exact Nat.le_trans (handle_issued service step.1 step.2) (ih _)

/-- Calls keep roles at home. -/
theorem handle_rolesAtHome (keyed : service.store.Keyed) (home : service.store.RolesAtHome) :
    (service.handle around call).1.store.RolesAtHome := by
  rcases handle_cases service around call with ⟨-, quiet⟩ | ⟨_, -, -, quiet⟩ |
    ⟨p, store, planned, done, -, quiet⟩
  · exact Store.rolesAtHome_of_tables home quiet.tables
  · exact Store.rolesAtHome_of_tables home quiet.tables
  · have kept : store.RolesAtHome := by
      refine Store.apply_rolesAtHome home done ?_
      rcases Call.judge_plans planned with guarded | ⟨guild, user, rfl⟩
      · obtain ⟨d, _, g, -, -, -, permitted⟩ := Call.judge_permitted keyed home guarded planned
        exact fun _ _ => permitted.not_createGuild
      · rw [(Judge.join_plan planned).2]
        exact fun _ _ => nofun
    exact Store.rolesAtHome_of_tables kept quiet.tables

/-- Whatever is called, the store stays one that changes can build, with its roles at home. -/
theorem run_kept (service : Service) (steps : List (Surroundings × Call))
    (reach : service.store.Reachable) (home : service.store.RolesAtHome) :
    (service.run steps).store.Reachable ∧ (service.run steps).store.RolesAtHome := by
  induction steps generalizing service with
  | nil => exact ⟨reach, home⟩
  | cons step rest ih =>
    exact ih _ (handle_reachable reach) (handle_rolesAtHome reach.keyed home)

/-- Calls neither create nor delete channels, so a channel stays where its id leads. -/
theorem handle_channelIndex (keyed : service.store.Keyed) (home : service.store.RolesAtHome) :
    (service.handle around call).1.store.channelIndex = service.store.channelIndex := by
  rcases handle_cases service around call with ⟨-, quiet⟩ | ⟨_, -, -, quiet⟩ |
    ⟨p, store, planned, done, -, quiet⟩
  · exact quiet.channels
  · exact quiet.channels
  · rw [quiet.channels]
    rcases Call.judge_plans planned with guarded | ⟨guild, user, rfl⟩
    · obtain ⟨d, _, g, -, -, -, permitted⟩ := Call.judge_permitted keyed home guarded planned
      exact Store.apply_channelIndex done permitted.keeps_channels.1 permitted.keeps_channels.2
    · rw [(Judge.join_plan planned).2] at done
      exact Store.apply_channelIndex done (fun _ => nofun) (fun _ => nofun)

end Service
end GuildAccess
