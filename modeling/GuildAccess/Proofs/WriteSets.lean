import GuildAccess.Proofs.Layers
import GuildAccess.Proofs.Steps

/-!
Write sets. A call that fails leaves every row as it was, whatever it had checked before. One that
succeeds makes of the rows of one guild what its kind says, and leaves all other guilds alone. Logs
are not counted among the rows.
-/
namespace GuildAccess

/-- Calls that write rows; all others only ask or write to a log. -/
def Call.writes : Call → Bool
  | .join .. => true
  | call => call.isGuarded

def Call.home? (s : Store) : Call → Option Snowflake
  | .createRole guild .. | .updateRole guild .. | .toggleFlag guild .. | .deleteRole guild .. =>
    some guild
  | .reorderRoles guild .. | .join guild .. | .assignRole guild .. | .unassignRole guild .. =>
    some guild
  | .setOverride channel .. | .deleteOverride channel .. | .lockChannel channel ..
  | .unlockChannel channel .. => s.channelIndex.get? channel
  | _ => none

/-- Calls that write a role, unless the role is already as they want it. -/
def Call.mayIdle : Call → Bool
  | .updateRole .. | .toggleFlag .. => true
  | _ => false

/-- An override in a channel of the guild, and not the one that belongs to a lock. -/
def GuildRows.SparesLock (g : GuildRows) (channel : Snowflake) (target : OverrideTarget) : Prop :=
  ∃ row, g.channels.get? channel = some row ∧
    (row.locked = true → ∀ id, target = .role id → ¬ g.IsEveryone id)

/-- What a successful call makes of the rows of its guild. `fresh` is the identifier of a new
row. -/
inductive Call.WriteSet (now : Instant) (fresh guild : Snowflake) (g : GuildRows) :
    Call → GuildRows → Prop
  | createRole {actor : Snowflake} {request : CreateRole} {granted : Permissions}
    (unused : g.roles.get? fresh = none)
    (asked : granted = if request.isAdmin then request.permissions ∪ .only .administrator
      else request.permissions) :
    WriteSet now fresh guild g (.createRole guild actor request) { g with
      roles := g.roles.insert fresh {
        id := fresh
        guildId := guild
        name := request.name
        color := request.color
        hoist := request.hoist
        position := request.position.getD 1
        permissions := granted
        isAdmin := granted.has .administrator
        mentionable := request.mentionable
        showTag := request.showTag
        tagStyle := request.tagStyle
        isEveryone := false
        createdAt := now
        updatedAt := now } }
  | updateRole {role actor : Snowflake} {request : UpdateRole} {row : Role} {stamp : Instant}
    (found : g.roles.get? role = some row) :
    WriteSet now fresh guild g (.updateRole guild role actor request)
      { g with roles := g.roles.insert role (request.askedOf row stamp) }
  | updateRole_idle {role actor : Snowflake} {request : UpdateRole} {row : Role}
    (found : g.roles.get? role = some row) (same : request.askedOf row row.updatedAt = row) :
    WriteSet now fresh guild g (.updateRole guild role actor request) g
  | toggleFlag {role actor : Snowflake} {request : ToggleFlag} {row : Role}
    {granted : Permissions} (found : g.roles.get? role = some row)
    (asked : granted = row.permissions.set request.flag request.enabled) :
    WriteSet now fresh guild g (.toggleFlag guild role actor request) { g with
      roles := g.roles.insert role { row with
        permissions := granted, isAdmin := granted.has .administrator, updatedAt := now } }
  | toggleFlag_idle {role actor : Snowflake} {request : ToggleFlag} {row : Role}
    (found : g.roles.get? role = some row)
    (same : row.permissions.set request.flag request.enabled = row.permissions) :
    WriteSet now fresh guild g (.toggleFlag guild role actor request) g
  | deleteRole {role actor : Snowflake} {row : Role} (found : g.roles.get? role = some row)
    (plain : row.isEveryone = false) :
    WriteSet now fresh guild g (.deleteRole guild role actor) { g with
      roles := g.roles.erase role
      members := g.members.mapRows fun m =>
        if role ∈ m.roles then { m with roles := m.roles.erase role, updatedAt := now } else m
      overrides := g.overrides.filter fun key _ => key.2 ≠ .role role }
  | reorderRoles {actor : Snowflake} {request : ReorderRoles} {roles : KeyMap Snowflake Role}
    {positions : List (Snowflake × Int)} (asked : Judge.AskedFor request.positions positions)
    (moved : ∀ move ∈ positions, ∃ row, g.roles.get? move.1 = some row ∧
      roles.get? move.1 = some { row with position := move.2, updatedAt := now })
    (others : ∀ id, (∀ move ∈ positions, move.1 ≠ id) → roles.get? id = g.roles.get? id) :
    WriteSet now fresh guild g (.reorderRoles guild actor request) { g with roles := roles }
  | join {user : Snowflake} (absent : g.members.get? user = none) :
    WriteSet now fresh guild g (.join guild user) { g with
      members := g.members.insert user {
        guildId := guild
        userId := user
        nickname := none
        roles := []
        joinedAt := now
        updatedAt := now } }
  | assignRole {user role actor : Snowflake} {m : Member} (found : g.members.get? user = some m)
    (lacking : role ∉ m.roles) :
    WriteSet now fresh guild g (.assignRole guild user role actor) { g with
      members := g.members.insert user { m with roles := m.roles ++ [role], updatedAt := now } }
  | unassignRole {user role actor : Snowflake} {m : Member} (found : g.members.get? user = some m)
    (held : role ∈ m.roles) :
    WriteSet now fresh guild g (.unassignRole guild user role actor) { g with
      members := g.members.insert user { m with roles := m.roles.erase role, updatedAt := now } }
  | setOverride {channel actor : Snowflake} {target : OverrideTarget} {overwrite : Overwrite}
    (spared : g.SparesLock channel target) :
    WriteSet now fresh guild g (.setOverride channel target actor overwrite) { g with
      overrides := g.withOverwrite channel guild target now (some overwrite) }
  | deleteOverride {channel actor : Snowflake} {target : OverrideTarget}
    (spared : g.SparesLock channel target)
    (stored : (g.overrides.get? (channel, target)).isSome = true) :
    WriteSet now fresh guild g (.deleteOverride channel target actor) { g with
      overrides := g.withOverwrite channel guild target now none }
  | lockChannel {channel actor everyone : Snowflake} {request : Lockdown} {row : Channel}
    {old : Option Overwrite} {new : Overwrite} (found : g.channels.get? channel = some row)
    (unlocked : row.locked = false) (marked : g.IsEveryone everyone)
    (replaced : g.overwrite? channel (.role everyone) = old)
    (form : new.IsLockdownOf (old.getD {})) :
    WriteSet now fresh guild g (.lockChannel channel actor request) { g with
      channels := g.channels.insert channel
        { row with locked := true, preLock := old, updatedAt := now }
      overrides := g.withOverwrite channel guild (.role everyone) now (some new) }
  | unlockChannel {channel actor everyone : Snowflake} {request : Lockdown} {row : Channel}
    (found : g.channels.get? channel = some row) (locked : row.locked = true)
    (marked : g.IsEveryone everyone) :
    WriteSet now fresh guild g (.unlockChannel channel actor request) { g with
      channels := g.channels.insert channel
        { row with locked := false, preLock := none, updatedAt := now }
      overrides := g.withOverwrite channel guild (.role everyone) now row.preLock }

theorem Member.removeRole_eq (m : Member) (role : Snowflake) (now : Instant) :
    m.removeRole role now =
      if role ∈ m.roles then { m with roles := m.roles.erase role, updatedAt := now } else m := by
  simp [removeRole, hasRole]

/-- The everyone role that a guild is found to have is stored under its identifier. -/
theorem GuildRows.Keyed.everyone_stored {guild : Snowflake} {g : GuildRows} {everyone : Role}
    (keyed : g.Keyed guild) (one : g.OneEveryone) (first : g.everyone? = some everyone) :
    g.roles.get? everyone.id = some everyone ∧ everyone.isEveryone = true := by
  obtain ⟨⟨id, stored⟩, marked⟩ := (GuildRows.everyone?_eq_some one).mpr first
  rw [keyed.role_id id everyone stored]
  exact ⟨stored, marked⟩

/-- The role that is marked in a guild is the one that is found. -/
theorem GuildRows.Keyed.everyone_found {guild everyone : Snowflake} {g : GuildRows}
    (keyed : g.Keyed guild) (one : g.OneEveryone) (marked : g.IsEveryone everyone) :
    ∃ r, g.everyone? = some r ∧ r.id = everyone := by
  obtain ⟨r, stored, isEveryone⟩ := marked
  exact ⟨r, (GuildRows.everyone?_eq_some one).mp ⟨⟨everyone, stored⟩, isEveryone⟩,
    keyed.role_id everyone r stored⟩

/-- A role that one move alone names stands where it sends it. -/
theorem Store.movedTo_of_mem {now : Instant} {positions : List (Snowflake × Int)}
    {move : Snowflake × Int} (distinct : (positions.map (·.1)).Nodup) (listed : move ∈ positions)
    (r : Role) : movedTo now positions move.1 r = r.setPosition move.2 now := by
  induction positions generalizing r with
  | nil => cases listed
  | cons first rest ih =>
    obtain ⟨single, distinct⟩ := List.nodup_cons.mp distinct
    unfold movedTo
    rw [List.foldl_cons]
    rcases List.mem_cons.mp listed with rfl | later
    · rw [if_pos rfl]
      refine movedTo_of_not_mem fun other member same => single ?_
      exact List.mem_map.mpr ⟨other, member, same⟩
    · have elsewhere : first.1 ≠ move.1 := fun same =>
        single (List.mem_map.mpr ⟨move, later, same.symm⟩)
      rw [if_neg elsewhere]
      exact ih distinct later r

/-- A change that wrote what a call may write in one guild. -/
def Call.Wrote (s after : Store) (now : Instant) (fresh : Snowflake) (call : Call) : Prop :=
  ∃ guild g g', call.home? s = some guild ∧ s.guilds.get? guild = some g ∧
    call.WriteSet now fresh guild g g' ∧ after.guilds = s.guilds.insert guild g'

namespace Judge
variable {s after : Store} {now : Instant} {guild user id role actor fresh channel : Snowflake}
  {p : Plan}

/-- A role row that the store was told to update is the row of the role and no other. -/
theorem role_written {before row : Role} (keyed : s.Keyed) (home : s.RolesAtHome)
    (found : s.role? id = some before) (same : row.id = before.id)
    (fixed : { row with guildId := before.guildId, isEveryone := before.isEveryone,
                        createdAt := before.createdAt } = row)
    (done : s.apply now (.updateRole row) = .ok after) :
    ∃ g, s.guilds.get? before.guildId = some g ∧ g.roles.get? id = some before ∧
      after.guilds = s.guilds.insert before.guildId { g with roles := g.roles.insert id row } := by
  obtain ⟨named, indexed, g, rows, stored⟩ := keyed.role_home home found
  have written : Store.Rewrites now s (.updateRole row) after := Store.updateRole_rewrites done
  obtain ⟨guild, g₀, g', about, rows₀, effect, insert⟩ := written
  have here : row.id = id := same.trans named
  have about : s.roleIndex.get? row.id = some guild := about
  rw [here, indexed] at about
  cases about
  cases rows.symm.trans rows₀
  cases effect with
  | updateRole stored₀ =>
    rw [here, stored] at stored₀
    cases stored₀
    rw [fixed, here] at insert
    exact ⟨g, rows, stored, insert⟩

/-- A lock that the store was told to set is set on the row of the channel and no other. -/
theorem lock_written {row changed : Channel} {everyone : Snowflake} {overwrite : Option Overwrite}
    (keyed : s.Keyed) (found : s.channel? channel = some row)
    (kept : { row with locked := changed.locked, preLock := changed.preLock,
                       updatedAt := changed.updatedAt } = changed)
    (done : s.apply now (.setLockdown changed everyone overwrite) = .ok after) :
    ∃ g, s.guilds.get? row.guildId = some g ∧ g.channels.get? channel = some row ∧
      after.guilds = s.guilds.insert row.guildId { g with
        channels := g.channels.insert channel changed
        overrides := g.withOverwrite channel row.guildId (.role everyone) now overwrite } := by
  obtain ⟨named, indexed, g, rows, stored⟩ := keyed.channel_stored found
  have written : Store.Rewrites now s (.setLockdown changed everyone overwrite) after :=
    Store.setLockdown_rewrites done
  obtain ⟨guild, g₀, g', about, rows₀, effect, insert⟩ := written
  have here : changed.id = channel := by rw [← kept]; exact named
  have home : changed.guildId = row.guildId := by rw [← kept]
  have about : s.channelIndex.get? changed.id = some guild := about
  rw [here, indexed] at about
  cases about
  cases rows.symm.trans rows₀
  cases effect with
  | setLockdown stored₀ =>
    rw [here, stored] at stored₀
    cases stored₀
    rw [here, home, kept] at insert
    refine ⟨g, rows, stored, ?_⟩
    cases overwrite <;> exact insert

/-- Where a guild is rewritten, its rows are those found there. -/
theorem rows_written {change : Store.Change} {g : GuildRows}
    (written : Store.Rewrites now s change after) (about : change.home? s = some guild)
    (rows : s.guilds.get? guild = some g) :
    ∃ g', change.Effect now g g' ∧ after.guilds = s.guilds.insert guild g' := by
  obtain ⟨guild', g₀, g', here, rows₀, effect, insert⟩ := written
  cases about.symm.trans here
  cases rows.symm.trans rows₀
  exact ⟨g', effect, insert⟩

theorem createRole_wrote {request : CreateRole}
    (planned : createRole s now fresh guild actor request = .ok (.plan p))
    (done : s.apply now p.change = .ok after) :
    Call.Wrote s after now fresh (.createRole guild actor request) := by
  obtain ⟨_, _, _, _, change, _⟩ := createRole_plan planned
  rw [change] at done
  have written : Store.Rewrites now s (.createRole (newRole guild fresh request now)) after :=
    Store.createRole_rewrites done
  obtain ⟨_, g, g', about, rows, effect, insert⟩ := written
  cases about
  cases effect with
  | createRole absent => exact ⟨guild, g, _, rfl, rows, .createRole absent rfl, insert⟩

theorem deleteRole_wrote (keyed : s.Keyed) (home : s.RolesAtHome)
    (planned : deleteRole s guild id actor = .ok (.plan p))
    (done : s.apply now p.change = .ok after) :
    Call.Wrote s after now fresh (.deleteRole guild id actor) := by
  obtain ⟨_, row, _, found, rfl, _, _, change⟩ := deleteRole_plan planned
  obtain ⟨-, indexed, g, rows, -⟩ := keyed.role_home home found
  rw [change] at done
  obtain ⟨g', effect, insert⟩ := rows_written (Store.deleteRole_rewrites done) indexed rows
  cases effect with
  | deleteRole stored plain =>
    simp only [Member.removeRole_eq] at insert
    exact ⟨row.guildId, g, _, rfl, rows, .deleteRole stored plain, insert⟩

theorem reorderRoles_wrote {request : ReorderRoles} (keyed : s.Keyed)
    (planned : reorderRoles s guild actor request = .ok (.plan p))
    (done : s.apply now p.change = .ok after) :
    Call.Wrote s after now fresh (.reorderRoles guild actor request) := by
  obtain ⟨caller, positions, passed, checked, asked, change⟩ := reorderRoles_plan planned
  obtain ⟨g₀, rows₀, rfl⟩ := passes_gate_rows passed
  rw [change] at done
  obtain ⟨g', effect, insert⟩ := rows_written (Store.setPositions_rewrites done) rfl rows₀
  cases effect with
  | setPositions =>
    rw [Store.moveRoles_frame] at insert
    refine ⟨guild, g₀, _, rfl, rows₀, .reorderRoles asked (fun move listed => ?_) ?_, insert⟩
    · obtain ⟨row, member, named, -⟩ := checked move listed
      have stored : g₀.roles.get? move.1 = some row :=
        named ▸ role_listed (keyed guild g₀ rows₀) member
      refine ⟨row, stored, ?_⟩
      rw [Store.get?_moveRoles, stored, Option.map_some, Store.movedTo_of_mem asked.distinct listed]
      rfl
    · intro id unnamed
      rw [Store.get?_moveRoles]
      cases g₀.roles.get? id with
      | none => rfl
      | some r => exact congrArg some (Store.movedTo_of_not_mem unnamed)

theorem join_wrote (planned : join s now guild user = .ok (.plan p))
    (done : s.apply now p.change = .ok after) :
    Call.Wrote s after now fresh (.join guild user) := by
  obtain ⟨absent, change⟩ := join_plan planned
  rw [change] at done
  have written : Store.Rewrites now s (.createMember (.new guild user now)) after :=
    Store.createMember_rewrites done
  obtain ⟨_, g, g', about, rows, effect, insert⟩ := written
  cases about
  cases effect with
  | createMember =>
    have absent : g.members.get? user = none := by
      have rows : s.guilds.get? guild = some g := rows
      simpa [Store.isMember, Store.member?, rows] using absent
    exact ⟨guild, g, _, rfl, rows, .join absent, insert⟩

theorem assignRole_wrote (planned : assignRole s now guild user role actor = .ok (.plan p))
    (done : s.apply now p.change = .ok after) :
    Call.Wrote s after now fresh (.assignRole guild user role actor) := by
  obtain ⟨_, _, change⟩ := assignRole_plan planned
  rw [change] at done
  have written : Store.Rewrites now s (.assignRole guild user role) after :=
    Store.assignRole_rewrites done
  obtain ⟨_, g, g', about, rows, effect, insert⟩ := written
  cases about
  cases effect with
  | @assignRole _ _ _ m known found lacking =>
    have added : m.addRole role now = { m with roles := m.roles ++ [role], updatedAt := now } := by
      simp [Member.addRole, lacking]
    have lacks : role ∉ m.roles := by simpa [Member.hasRole] using lacking
    rw [added] at insert
    exact ⟨guild, g, _, rfl, rows, .assignRole found lacks, insert⟩

theorem unassignRole_wrote (planned : unassignRole s now guild user role actor = .ok (.plan p))
    (done : s.apply now p.change = .ok after) :
    Call.Wrote s after now fresh (.unassignRole guild user role actor) := by
  obtain ⟨member, passed, held, change⟩ := unassignRole_plan planned
  obtain ⟨_, _, _, _, _, _, _, _, listed⟩ := passes_changeRoleOf passed
  rw [change] at done
  cases done
  have written : Store.Rewrites now s (.unassignRole guild user role)
      (s.unassignRole guild user role now) := Store.unassignRole_rewrites listed
  obtain ⟨g, rows, listed⟩ := Option.bind_eq_some_iff.mp listed
  obtain ⟨g', effect, insert⟩ := rows_written written rfl rows
  cases effect with
  | unassignRole found =>
    cases listed.symm.trans found
    have removed : member.removeRole role now =
        { member with roles := member.roles.erase role, updatedAt := now } := by
      simp [Member.removeRole, held]
    have holds : role ∈ member.roles := by simpa [Member.hasRole] using held
    rw [removed] at insert
    exact ⟨guild, g, _, rfl, rows, .unassignRole found holds, insert⟩

/-- While a channel is locked nobody may write the override of its everyone role. -/
theorem mayTarget_spares {row : Channel} {caller : Snapshot} {attempt : Audit.Attempt}
    {target : OverrideTarget} {g : GuildRows} (keyed : s.Keyed)
    (passed : manageOverrides s row actor attempt = .ok caller)
    (targeted : mayTarget s caller row target = .ok ()) (rows : s.guilds.get? row.guildId = some g)
    (stored : g.channels.get? channel = some row) : g.SparesLock channel target := by
  refine ⟨row, stored, ?_⟩
  rintro locked id rfl ⟨r', stored', everyone⟩
  obtain ⟨g₀, rows₀, rfl⟩ := passes_gate_rows passed
  cases rows.symm.trans rows₀
  obtain ⟨r, listed, rfl, allowed⟩ := passes_mayTarget_role targeted
  cases (role_listed (keyed _ g rows) listed).symm.trans stored'
  rcases allowed with ⟨-, unlocked⟩ | ⟨plain, -⟩
  · cases locked.symm.trans unlocked
  · cases everyone.symm.trans plain

theorem setOverride_wrote {target : OverrideTarget} {overwrite : Overwrite} (keyed : s.Keyed)
    (planned : setOverride s now channel target actor overwrite = .ok (.plan p))
    (done : s.apply now p.change = .ok after) :
    Call.Wrote s after now fresh (.setOverride channel target actor overwrite) := by
  obtain ⟨row, _, found, passed, targeted, _, change⟩ := setOverride_plan planned
  obtain ⟨-, indexed, g, rows, stored⟩ := keyed.channel_stored found
  rw [change] at done
  have written : Store.Rewrites now s
      (.putOverride ⟨channel, row.guildId, target, overwrite, now⟩) after :=
    Store.putOverride_rewrites done
  obtain ⟨g', effect, insert⟩ := rows_written written indexed rows
  cases effect with
  | putOverride =>
    have spared := mayTarget_spares keyed passed targeted rows stored
    exact ⟨row.guildId, g, _, indexed, rows, .setOverride spared, insert⟩

theorem deleteOverride_wrote {target : OverrideTarget} (keyed : s.Keyed)
    (planned : deleteOverride s channel target actor = .ok (.plan p))
    (done : s.apply now p.change = .ok after) :
    Call.Wrote s after now fresh (.deleteOverride channel target actor) := by
  obtain ⟨row, _, found, passed, targeted, there, change⟩ := deleteOverride_plan planned
  obtain ⟨-, indexed, g, rows, stored⟩ := keyed.channel_stored found
  have located : s.rowsOfChannel? channel = some g := by simp [Store.rowsOfChannel?, indexed, rows]
  rw [change] at done
  cases done
  have written : Store.Rewrites now s (.deleteOverride channel target)
      (s.deleteOverride channel target) := Store.deleteOverride_rewrites located
  obtain ⟨g', effect, insert⟩ := rows_written written indexed rows
  cases effect with
  | deleteOverride =>
    have spared := mayTarget_spares keyed passed targeted rows stored
    have there : (g.overrides.get? (channel, target)).isSome = true := by
      simpa [Store.override?, located] using there
    exact ⟨row.guildId, g, _, indexed, rows, .deleteOverride spared there, insert⟩

/-- Behind the gate of a channel the everyone role is the one that the rows mark, and its override is
that of the rows. -/
theorem everyone_behind_gate {row : Channel} {caller : Snapshot} {action : Audit.Action}
    {everyone : Role} {g : GuildRows} (keyed : s.Keyed) (one : s.OneEveryone)
    (passed : manageChannel s row actor action = .ok caller)
    (first : caller.everyone? = some everyone) (rows : s.guilds.get? row.guildId = some g)
    (stored : g.channels.get? row.id = some row) :
    g.IsEveryone everyone.id ∧
      caller.overwriteOf? (.role everyone.id) = g.overwrite? row.id (.role everyone.id) := by
  obtain ⟨g₀, rows₀, rfl⟩ := passes_gate_rows passed
  cases rows.symm.trans rows₀
  have known : (g.channels.get? row.id).isSome = true := by rw [stored]; rfl
  rw [GuildRows.snapshot_everyone? (one _ g rows)] at first
  exact ⟨⟨everyone, (keyed _ g rows).everyone_stored (one _ g rows) first⟩,
    (keyed _ g rows).overwriteOf?_eq known _⟩

theorem lockChannel_wrote {request : Lockdown} (keyed : s.Keyed) (one : s.OneEveryone)
    (planned : lockChannel s now channel actor request = .ok (.plan p))
    (done : s.apply now p.change = .ok after) :
    Call.Wrote s after now fresh (.lockChannel channel actor request) := by
  obtain ⟨row, caller, everyone, found, passed, unlocked, first, change⟩ := lockChannel_plan planned
  obtain ⟨rfl, indexed, -⟩ := keyed.channel_stored found
  rw [change] at done
  obtain ⟨g, rows, stored, insert⟩ := lock_written keyed found rfl done
  obtain ⟨marked, replaced⟩ := everyone_behind_gate keyed one passed first rows stored
  have form := Overwrite.lockdown_isLockdownOf (caller.overwriteOf? (.role everyone.id))
  exact ⟨row.guildId, g, _, indexed, rows,
    .lockChannel stored unlocked marked replaced.symm form, insert⟩

theorem unlockChannel_wrote {request : Lockdown} (keyed : s.Keyed) (one : s.OneEveryone)
    (planned : unlockChannel s now channel actor request = .ok (.plan p))
    (done : s.apply now p.change = .ok after) :
    Call.Wrote s after now fresh (.unlockChannel channel actor request) := by
  obtain ⟨row, caller, everyone, found, passed, locked, first, change⟩ := unlockChannel_plan planned
  obtain ⟨rfl, indexed, -⟩ := keyed.channel_stored found
  rw [change] at done
  obtain ⟨g, rows, stored, insert⟩ := lock_written keyed found rfl done
  obtain ⟨marked, -⟩ := everyone_behind_gate keyed one passed first rows stored
  exact ⟨row.guildId, g, _, indexed, rows, .unlockChannel stored locked marked, insert⟩

end Judge

namespace Call
variable {s after : Store} {around : Surroundings} {fresh : Snowflake} {call : Call} {p : Plan}

/-- A plan that is carried out writes what its call may write. -/
theorem plan_wrote (keyed : s.Keyed) (home : s.RolesAtHome) (one : s.OneEveryone)
    (planned : call.judge s around fresh = .ok (.plan p))
    (done : s.apply around.now p.change = .ok after) :
    call.writes = true ∧ call.Wrote s after around.now fresh := by
  -- One lemma a call; whatever is no write plans nothing.
  cases call with
  | createRole => exact ⟨rfl, Judge.createRole_wrote planned done⟩
  | updateRole guild role actor request =>
    obtain ⟨_, before, _, found, rfl, _, _, change⟩ := Judge.updateRole_plan planned
    rw [change] at done
    have fixed := Judge.updatedRole_fixed before request around.now
    obtain ⟨id, -⟩ := Judge.updatedRole_kept before request around.now
    obtain ⟨g, rows, stored, insert⟩ := Judge.role_written keyed home found id fixed done
    obtain ⟨stamp, asked⟩ := Judge.updatedRole_eq before request around.now
    rw [asked] at insert
    exact ⟨rfl, _, g, _, rfl, rows, .updateRole stored, insert⟩
  | toggleFlag guild role actor request =>
    obtain ⟨_, before, _, found, rfl, _, _, change⟩ := Judge.toggleFlag_plan planned
    rw [change] at done
    have id : (before.setPermissions (before.permissions.set request.flag request.enabled)
        around.now).id = before.id := rfl
    obtain ⟨g, rows, stored, insert⟩ := Judge.role_written keyed home found id rfl done
    exact ⟨rfl, _, g, _, rfl, rows, .toggleFlag stored rfl, insert⟩
  | deleteRole => exact ⟨rfl, Judge.deleteRole_wrote keyed home planned done⟩
  | reorderRoles => exact ⟨rfl, Judge.reorderRoles_wrote keyed planned done⟩
  | join => exact ⟨rfl, Judge.join_wrote planned done⟩
  | assignRole => exact ⟨rfl, Judge.assignRole_wrote planned done⟩
  | unassignRole => exact ⟨rfl, Judge.unassignRole_wrote planned done⟩
  | setOverride => exact ⟨rfl, Judge.setOverride_wrote keyed planned done⟩
  | deleteOverride => exact ⟨rfl, Judge.deleteOverride_wrote keyed planned done⟩
  | lockChannel => exact ⟨rfl, Judge.lockChannel_wrote keyed one planned done⟩
  | unlockChannel => exact ⟨rfl, Judge.unlockChannel_wrote keyed one planned done⟩
  | _ =>
    rcases judge_plans planned with guarded | ⟨_, _, joins⟩
    · cases guarded
    · cases joins

/-- A judgement that gives a plan whenever it passes. -/
def OnlyPlans (check : Except Refusal Ruling) : Prop :=
  ∀ ruling, check = .ok ruling → ∃ p, ruling = .plan p

@[simp] theorem onlyPlans_plan : OnlyPlans (.ok (.plan p)) := by simp [OnlyPlans]

@[simp] theorem onlyPlans_error {refusal : Refusal} : OnlyPlans (.error refusal) := by
  simp [OnlyPlans]

@[simp] theorem onlyPlans_bind {α : Type} {step : Except Refusal α}
    {next : α → Except Refusal Ruling} :
    OnlyPlans (step >>= next) ↔ ∀ given, step = .ok given → OnlyPlans (next given) := by
  simp only [OnlyPlans, passes_bind]
  exact ⟨fun all given passed ruling judged => all ruling ⟨given, passed, judged⟩,
    fun all ruling ⟨given, passed, judged⟩ => all given passed ruling judged⟩

/-- Calls that write, and not only if there is something to change, plan whenever they pass. -/
theorem judge_onlyPlans (writes : call.writes = true) (busy : call.mayIdle = false) :
    OnlyPlans (call.judge s around fresh) := by
  cases call with
  | updateRole | toggleFlag => cases busy
  | createRole => simp [judge, Judge.createRole]
  | deleteRole => simp [judge, Judge.deleteRole]
  | reorderRoles => simp [judge, Judge.reorderRoles]
  | join => simp [judge, Judge.join]
  | assignRole => simp [judge, Judge.assignRole]
  | unassignRole =>
    simp only [judge, Judge.unassignRole, onlyPlans_bind]
    intro member _
    split <;> simp
  | setOverride => simp [judge, Judge.setOverride]
  | deleteOverride => simp [judge, Judge.deleteOverride]
  | lockChannel => simp [judge, Judge.lockChannel]
  | unlockChannel => simp [judge, Judge.unlockChannel]
  | _ => cases writes

/-- A call that writes but plans nothing would have left a role as it is. -/
theorem answer_idle {ruling : Ruling} (keyed : s.Keyed) (home : s.RolesAtHome)
    (writes : call.writes = true) (judged : call.judge s around fresh = .ok ruling)
    (unplanned : ∀ p, ruling ≠ .plan p) :
    ∃ guild g, call.home? s = some guild ∧ s.guilds.get? guild = some g ∧
      call.WriteSet around.now fresh guild g g := by
  cases call with
  | updateRole guild role actor request =>
    simp only [judge, Judge.updateRole, passes_bind, Judge.passes_mustCall,
      Judge.passes_findRole] at judged
    obtain ⟨_, _, row, ⟨found, rfl⟩, _, _, _, _, _, _, judged⟩ := judged
    obtain ⟨-, -, g, rows, stored⟩ := keyed.role_home home found
    split at judged
    · next same =>
      have kept := Judge.askedOf_of_unchanged (List.isEmpty_iff.mp same)
      exact ⟨row.guildId, g, rfl, rows, .updateRole_idle stored kept⟩
    · cases judged
      exact absurd rfl (unplanned _)
  | toggleFlag guild role actor request =>
    simp only [judge, Judge.toggleFlag, passes_bind, Judge.passes_mustCall,
      Judge.passes_findRole] at judged
    obtain ⟨_, _, row, ⟨found, rfl⟩, _, _, _, _, judged⟩ := judged
    obtain ⟨-, -, g, rows, stored⟩ := keyed.role_home home found
    split at judged
    · next same => exact ⟨row.guildId, g, rfl, rows, .toggleFlag_idle stored same⟩
    · cases judged
      exact absurd rfl (unplanned _)
  | _ =>
    obtain ⟨p, rfl⟩ := judge_onlyPlans writes rfl ruling judged
    exact absurd rfl (unplanned p)

end Call

/-- The rows of one guild are made anew, and those of no other. -/
structure Service.Remakes (service after : Service) (guild : Snowflake) (g g' : GuildRows) :
    Prop where
  before : service.store.guilds.get? guild = some g
  rewritten : after.store.tables? guild = some g'.withoutLog
  others : ∀ other, other ≠ guild → after.store.tables? other = service.store.tables? other

namespace Service
variable {service : Service} {around : Surroundings} {call : Call}

/-- Where a change wrote the rows of one guild and logs at most were touched since, these rows are
made anew. -/
theorem remakes_of_insert {after : Service} {store : Store} {guild : Snowflake} {g g' : GuildRows}
    (rows : service.store.guilds.get? guild = some g)
    (insert : store.guilds = service.store.guilds.insert guild g')
    (since : ∀ other, after.store.tables? other = store.tables? other) :
    service.Remakes after guild g g' where
  before := rows
  rewritten := by
    rw [since]
    apply Store.tables?_of_rows
    rw [insert, KeyMap.get?_insert, if_pos rfl]
  others other elsewhere := by
    rw [since, Store.tables?, insert, KeyMap.get?_insert, if_neg elsewhere]
    rfl

/-- A successful call that writes makes of one guild what its kind says. -/
theorem handle_writes {answer : Answer} (keyed : service.store.Keyed)
    (home : service.store.RolesAtHome) (one : service.store.OneEveryone)
    (writes : call.writes = true) (done : (service.handle around call).2 = .ok answer) :
    ∃ guild g g', call.home? service.store = some guild ∧
      service.Remakes (service.handle around call).1 guild g g' ∧
      call.WriteSet around.now (around.idAt (service.issued + 1)) guild g g' := by
  rcases handle_cases service around call with ⟨⟨cause, failed⟩, -⟩ |
    ⟨ruling, judged, unplanned, quiet⟩ | ⟨p, store, planned, applied, -, quiet⟩
  · cases failed.symm.trans done
  · obtain ⟨guild, g, about, rows, idle⟩ := Call.answer_idle keyed home writes judged unplanned
    have known := (quiet.tables guild).trans (Store.tables?_of_rows rows)
    exact ⟨guild, g, g, about, ⟨rows, known, fun other _ => quiet.tables other⟩, idle⟩
  · obtain ⟨-, guild, g, g', about, rows, written, insert⟩ :=
      Call.plan_wrote keyed home one planned applied
    exact ⟨guild, g, g', about, remakes_of_insert rows insert quiet.tables, written⟩

/-- A call that only asks, and one that fails, leaves all rows as they were. -/
theorem handle_idle (keyed : service.store.Keyed) (home : service.store.RolesAtHome)
    (one : service.store.OneEveryone)
    (idle : call.writes = false ∨ ∃ cause, (service.handle around call).2 = .error cause)
    (guild : Snowflake) :
    (service.handle around call).1.store.tables? guild = service.store.tables? guild := by
  rcases handle_cases service around call with ⟨-, quiet⟩ | ⟨_, -, -, quiet⟩ |
    ⟨p, store, planned, applied, answered, -⟩
  · exact quiet.tables guild
  · exact quiet.tables guild
  · rcases idle with asks | ⟨cause, failed⟩
    · obtain ⟨writes, -⟩ := Call.plan_wrote keyed home one planned applied
      cases asks.symm.trans writes
    · cases failed.symm.trans answered

/-- A call that fails leaves every row of every guild as it was. One that succeeds changes no row if
it only asks, and else makes of the rows of one guild exactly what its kind says. -/
theorem calls_write_their_rows_only (service : Service) (around : Surroundings) (call : Call)
    (reach : service.store.Reachable) (home : service.store.RolesAtHome) :
    (∀ cause, (service.handle around call).2 = .error cause →
      ∀ guild, (service.handle around call).1.store.tables? guild = service.store.tables? guild) ∧
    ∀ answer, (service.handle around call).2 = .ok answer →
      (call.writes = false ∧ ∀ guild,
        (service.handle around call).1.store.tables? guild = service.store.tables? guild) ∨
      (call.writes = true ∧ ∃ guild g g', call.home? service.store = some guild ∧
        service.Remakes (service.handle around call).1 guild g g' ∧
          call.WriteSet around.now (around.idAt (service.issued + 1)) guild g g') := by
  refine ⟨fun cause failed => handle_idle reach.keyed home reach.oneEveryone (.inr ⟨cause, failed⟩),
    fun answer done => ?_⟩
  cases writes : call.writes with
  | false => exact .inl ⟨rfl, handle_idle reach.keyed home reach.oneEveryone (.inl writes)⟩
  | true => exact .inr ⟨rfl, handle_writes reach.keyed home reach.oneEveryone writes done⟩

theorem calls_write_their_rows_only_sample :
    (∃ guild g g',
      (Call.deleteRole (.wrap 1) (.wrap 10) (.wrap 1)).home? sample.store = some guild ∧
      sample.Remakes (sample.handle .sample (.deleteRole (.wrap 1) (.wrap 10) (.wrap 1))).1 guild
        g g' ∧
      (Call.deleteRole (.wrap 1) (.wrap 10) (.wrap 1)).WriteSet ⟨0, 0⟩ (.wrap 101) guild g g') ∧
    ∀ guild, (sample.handle .sample
      (.deleteRole (.wrap 1) (.wrap 10) (.wrap 2))).1.store.tables? guild =
        sample.store.tables? guild := by
  constructor
  · rcases (calls_write_their_rows_only sample .sample (.deleteRole (.wrap 1) (.wrap 10) (.wrap 1))
      Store.sample_reachable Store.sample_rolesAtHome).2 _ rfl with ⟨asks, -⟩ | ⟨-, written⟩
    · cases asks
    · exact written
  · exact (calls_write_their_rows_only sample .sample (.deleteRole (.wrap 1) (.wrap 10) (.wrap 2))
      Store.sample_reachable Store.sample_rolesAtHome).1 _ rfl

end Service
end GuildAccess
