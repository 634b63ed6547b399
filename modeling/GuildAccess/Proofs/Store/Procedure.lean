import GuildAccess.Proofs.Store.Agreement

/-!
Changes as sequences of writes. A change of the store touches several tables and an index, one after
the other. Here it is spelled out in that order, on a store that keeps what was written when a later
step fails. Each procedure is shown to do what the change does in one go: every refusal comes before
the first write that makes a difference.
-/
namespace GuildAccess

namespace KeyMap
variable {κ ν : Type} [Key κ] {m m' : KeyMap κ ν} {k : κ} {v w : ν}

/-- Maps with the same rows are the same map. -/
theorem ext_get? (same : ∀ k, m.get? k = m'.get? k) : m = m' := by
  have distinct : ∀ m : KeyMap κ ν, m.entries.Nodup := fun m =>
    (List.pairwise_map.mp m.keys_nodup).imp fun apart same => apart (congrArg Prod.fst same)
  have listed : ∀ e, e ∈ m.entries ↔ e ∈ m'.entries := by
    rintro ⟨k, v⟩
    exact ⟨fun here => mem_of_get? (same k ▸ get?_of_mem here),
      fun here => mem_of_get? ((same k).symm ▸ get?_of_mem here)⟩
  have permuted := (List.perm_ext_iff_of_nodup (distinct m) (distinct m')).mpr listed
  have equal : m.entries = m'.entries := by
    refine permuted.eq_of_pairwise (fun a b _ _ below above => ?_) m.ascending m'.ascending
    have around := Key.trans below above
    rw [Key.irrefl] at around
    cases around
  cases m
  cases m'
  cases equal
  rfl

/-- The last of two rows set for one key counts. -/
theorem insert_insert : (m.insert k v).insert k w = m.insert k w := by
  refine ext_get? fun q => ?_
  simp only [get?_insert]
  split <;> rfl

/-- Setting the row that is there changes nothing. -/
theorem insert_of_get? (stored : m.get? k = some v) : m.insert k v = m := by
  refine ext_get? fun q => ?_
  rw [get?_insert]
  split
  · next here => rw [here, stored]
  · rfl

/-- Dropping a row that is not there changes nothing. -/
theorem erase_of_absent (absent : m.get? k = none) : m.erase k = m := by
  refine ext_get? fun q => ?_
  rw [get?_erase]
  split
  · next here => rw [here, absent]
  · rfl

end KeyMap

namespace Store

/-- Steps on a store. What a step wrote stays written when a later one fails. -/
abbrev Procedure := EStateM Fault Store

def setIndex (s : Store) (kind : Indexed) (index : KeyMap Snowflake Snowflake) : Store :=
  match kind with
  | .role => { s with roleIndex := index }
  | .channel => { s with channelIndex := index }

namespace Procedure

def check {α : Type} : Except Fault α → Procedure α
  | .ok a => pure a
  | .error cause => throw cause

def refuse (bad : Bool) (cause : Fault) : Procedure Unit := if bad then throw cause else pure ()

def rowsOf (guild : Snowflake) (cause : Fault) : Procedure GuildRows := do
  check (need ((← get).guilds.get? guild) cause)

def ledTo (kind : Indexed) (id : Snowflake) (cause : Fault) : Procedure Snowflake := do
  check (need (((← get).index kind).get? id) cause)

def write (guild : Snowflake) (f : GuildRows → GuildRows) : Procedure Unit :=
  modify fun s =>
    match s.guilds.get? guild with
    | some g => s.setRows guild (f g)
    | none => s

def enter (kind : Indexed) (id guild : Snowflake) : Procedure Unit :=
  modify fun s => s.setIndex kind ((s.index kind).insert id guild)

def strike (kind : Indexed) (id : Snowflake) : Procedure Unit :=
  modify fun s => s.setIndex kind ((s.index kind).erase id)

/-- The rows of a new guild are made apart from the store, which then gets them all at once. -/
def createGuild (guild : Guild) (everyone : Role) : Procedure Unit := do
  let g ← check (addRole (.new guild) everyone)
  refuse ((← get).guilds.contains guild.id)
    (.invalid ("guild " ++ guild.id.render ++ " already exists"))
  modify fun s => s.setRows guild.id g
  enter .role everyone.id guild.id

def updateGuild (guild : Guild) : Procedure Unit := do
  let _ ← rowsOf guild.id (.unknownGuild guild.id)
  write guild.id fun g => { g with guild := { g.guild with
    name := guild.name, ownerId := guild.ownerId, updatedAt := guild.updatedAt } }

def createChannel (channel : Channel) : Procedure Unit := do
  let g ← rowsOf channel.guildId (.unknownGuild channel.guildId)
  refuse (g.channels.contains channel.id)
    (.invalid ("channel " ++ channel.id.render ++ " already exists"))
  write channel.guildId fun g => { g with channels := g.channels.insert channel.id channel }
  enter .channel channel.id channel.guildId

def updateChannel (channel : Channel) : Procedure Unit := do
  let guild ← ledTo .channel channel.id (.unknownChannel channel.id)
  let g ← rowsOf guild (.unknownChannel channel.id)
  let stored ← check (need (g.channels.get? channel.id) (.unknownChannel channel.id))
  write guild fun g => { g with channels := g.channels.insert channel.id { stored with
    name := channel.name, topic := channel.topic, position := channel.position,
    parentId := channel.parentId, updatedAt := channel.updatedAt } }

def orphaned (id : Snowflake) (c : Channel) : Channel :=
  if c.parentId = some id then { c with parentId := none } else c

/-- The channel is removed before it is known whether there was one. -/
def deleteChannel (id : Snowflake) : Procedure Unit := do
  let guild ← ledTo .channel id (.unknownChannel id)
  let g ← rowsOf guild (.unknownChannel id)
  write guild fun g => { g with channels := g.channels.erase id }
  refuse (!g.channels.contains id) (.unknownChannel id)
  write guild fun g => { g with overrides := g.overrides.filter fun key _ => key.1 ≠ id }
  write guild fun g => { g with channels := g.channels.mapRows (orphaned id) }
  strike .channel id

/-- The lock is written first and the override of the everyone role after it. -/
def setLockdown (channel : Channel) (everyone : Snowflake) (overwrite : Option Overwrite)
    (now : Instant) : Procedure Unit := do
  let guild ← ledTo .channel channel.id (.unknownChannel channel.id)
  let g ← rowsOf guild (.unknownChannel channel.id)
  let stored ← check (need (g.channels.get? channel.id) (.unknownChannel channel.id))
  write guild fun g => { g with channels := g.channels.insert channel.id { stored with
    locked := channel.locked, preLock := channel.preLock, updatedAt := channel.updatedAt } }
  let key := (channel.id, OverrideTarget.role everyone)
  match overwrite with
  | some o => write guild fun g => { g with
      overrides := g.overrides.insert key ⟨channel.id, channel.guildId, key.2, o, now⟩ }
  | none => write guild fun g => { g with overrides := g.overrides.erase key }

def createRole (role : Role) : Procedure Unit := do
  let g ← rowsOf role.guildId (.unknownGuild role.guildId)
  let g' ← check (addRole g role)
  write role.guildId fun _ => g'
  enter .role role.id role.guildId

def updateRole (role : Role) : Procedure Unit := do
  let guild ← ledTo .role role.id (.unknownRole role.id)
  let g ← rowsOf guild (.unknownRole role.id)
  let stored ← check (need (g.roles.get? role.id) (.unknownRole role.id))
  write guild fun g => { g with roles := g.roles.insert role.id { role with
    guildId := stored.guildId, isEveryone := stored.isEveryone, createdAt := stored.createdAt } }

/-- Overrides and assignments of a role go before the role itself does. -/
def deleteRole (id : Snowflake) (now : Instant) : Procedure Unit := do
  let guild ← ledTo .role id (.unknownRole id)
  let g ← rowsOf guild (.unknownRole id)
  let stored ← check (need (g.roles.get? id) (.unknownRole id))
  refuse stored.isEveryone .everyoneKept
  write guild fun g => { g with overrides := g.overrides.filter fun key _ => key.2 ≠ .role id }
  write guild fun g => { g with members := g.members.mapRows fun m => m.removeRole id now }
  write guild fun g => { g with roles := g.roles.erase id }
  strike .role id

/-- Fails at the first listed role that cannot be moved. -/
def checkMoves (g : GuildRows) : List (Snowflake × Int) → Procedure Unit
  | [] => pure ()
  | move :: rest => do
    refuse (!isMovable g move.1) (.unknownRole move.1)
    checkMoves g rest

def makeMoves (guild : Snowflake) (now : Instant) : List (Snowflake × Int) → Procedure Unit
  | [] => pure ()
  | move :: rest => do
    write guild fun g => moveRole now g move
    makeMoves guild now rest

def setPositions (guild : Snowflake) (positions : List (Snowflake × Int)) (now : Instant) :
    Procedure Unit := do
  let g ← rowsOf guild (.unknownGuild guild)
  checkMoves g positions
  makeMoves guild now positions

def createMember (member : Member) : Procedure Unit := do
  let g ← rowsOf member.guildId (.unknownGuild member.guildId)
  refuse (g.members.contains member.userId) .alreadyMember
  write member.guildId fun g => { g with members := g.members.insert member.userId member }

/-- The member is removed before it is known whether there was one. -/
def deleteMember (guild user : Snowflake) : Procedure Unit := do
  let g ← rowsOf guild .unknownMember
  write guild fun g => { g with members := g.members.erase user }
  refuse (!g.members.contains user) .unknownMember

/-- The role is added before it is known whether the member had it. -/
def assignRole (guild user role : Snowflake) (now : Instant) : Procedure Unit := do
  let g ← rowsOf guild .unknownMember
  refuse (!g.roles.contains role) (.unknownRole role)
  let m ← check (need (g.members.get? user) .unknownMember)
  write guild fun g => { g with members := g.members.insert user (m.addRole role now) }
  refuse (m.hasRole role) .alreadyHasRole

def unassignRole (guild user role : Snowflake) (now : Instant) : Procedure Unit :=
  write guild fun g =>
    match g.members.get? user with
    | some m => { g with members := g.members.insert user (m.removeRole role now) }
    | none => g

def putOverride (row : ChannelOverride) : Procedure Unit := do
  let guild ← ledTo .channel row.channelId (.unknownChannel row.channelId)
  let _ ← rowsOf guild (.unknownChannel row.channelId)
  write guild fun g => { g with overrides := g.overrides.insert (row.channelId, row.target) row }

def deleteOverride (channel : Snowflake) (target : OverrideTarget) : Procedure Unit := do
  match (← get).channelIndex.get? channel with
  | some guild => write guild fun g => { g with overrides := g.overrides.erase (channel, target) }
  | none => pure ()

def appendAudit (entry : Audit.Entry) : Procedure Unit := do
  let _ ← rowsOf entry.guildId (.unknownGuild entry.guildId)
  write entry.guildId fun g => { g with audit := g.audit.insert entry.id entry }

end Procedure

/-- The writes of a change, in the order in which they are made. -/
def Change.procedure (now : Instant) : Change → Procedure Unit
  | .createGuild guild everyone => .createGuild guild everyone
  | .updateGuild guild => .updateGuild guild
  | .createChannel channel => .createChannel channel
  | .updateChannel channel => .updateChannel channel
  | .deleteChannel id => .deleteChannel id
  | .setLockdown channel everyone overwrite => .setLockdown channel everyone overwrite now
  | .createRole role => .createRole role
  | .updateRole role => .updateRole role
  | .deleteRole id => .deleteRole id now
  | .setPositions guild positions => .setPositions guild positions now
  | .createMember member => .createMember member
  | .deleteMember guild user => .deleteMember guild user
  | .assignRole guild user role => .assignRole guild user role now
  | .unassignRole guild user role => .unassignRole guild user role now
  | .putOverride row => .putOverride row
  | .deleteOverride channel target => .deleteOverride channel target
  | .appendAudit entry => .appendAudit entry

variable {s : Store} {now : Instant} {guild id user : Snowflake} {g g' : GuildRows}

@[simp] theorem setRows_setRows : (s.setRows guild g).setRows guild g' = s.setRows guild g' := by
  simp [setRows, KeyMap.insert_insert]

theorem setRows_of_get? (rows : s.guilds.get? guild = some g) : s.setRows guild g = s := by
  unfold setRows
  rw [KeyMap.insert_of_get? rows]

namespace Procedure
variable {α : Type} {cause : Fault}

/-- What steps that write nothing end in. -/
def unwritten (s : Store) : Except Fault α → EStateM.Result Fault Store α
  | .ok a => .ok a s
  | .error cause => .error cause s

/-- What steps that make a change as a whole or not at all end in. -/
def whole (s : Store) : Except Fault Store → EStateM.Result Fault Store Unit
  | .ok after => .ok () after
  | .error cause => .error cause s

theorem check_run (checked : Except Fault α) : (check checked).run s = unwritten s checked := by
  cases checked <;> rfl

theorem rowsOf_run : (rowsOf guild cause).run s = unwritten s (need (s.guilds.get? guild) cause) :=
  check_run _

theorem ledTo_run {kind : Indexed} :
    (ledTo kind id cause).run s = unwritten s (need ((s.index kind).get? id) cause) := check_run _

/-- A step that writes nothing, before steps that make a change as a whole. -/
theorem bind_whole {step : Procedure α} {checked : Except Fault α} {next : α → Procedure Unit}
    {rest : α → Except Fault Store} (first : step.run s = unwritten s checked)
    (passed : ∀ a, checked = .ok a → (next a).run s = whole s (rest a)) :
    (step >>= next).run s = whole s (checked >>= rest) := by
  rw [EStateM.run_bind, first]
  cases checked with
  | error cause => rfl
  | ok a => exact passed a rfl

theorem refuse_whole {bad : Bool} {next : Unit → Procedure Unit} {rest : Except Fault Store}
    (passed : bad = false → (next ()).run s = whole s rest) :
    (refuse bad cause >>= next).run s = whole s (if bad then .error cause else rest) := by
  cases bad with
  | true => rfl
  | false => exact passed rfl

theorem refuse_false {next : Unit → Procedure Unit} :
    (refuse false cause >>= next).run s = (next ()).run s := rfl

theorem write_run {f : GuildRows → GuildRows} (rows : s.guilds.get? guild = some g) :
    (write guild f).run s = .ok () (s.setRows guild (f g)) := by
  unfold write
  rw [EStateM.run_modify, rows]

theorem write_bind {f : GuildRows → GuildRows} {next : Unit → Procedure Unit}
    (rows : s.guilds.get? guild = some g) :
    (write guild f >>= next).run s = (next ()).run (s.setRows guild (f g)) := by
  rw [EStateM.run_bind, write_run rows]

/-- Writes to the rows of one guild, one after the other, are one write. -/
theorem write_write {f f' : GuildRows → GuildRows} {next : Unit → Procedure Unit}
    (rows : s.guilds.get? guild = some g) :
    (write guild f >>= fun _ => write guild f' >>= next).run s =
      (write guild (f' ∘ f) >>= next).run s := by
  rw [write_bind rows, write_bind (rows_setRows s guild (f g)), write_bind rows, setRows_setRows]
  rfl

theorem createGuild_run (founded : Guild) (everyone : Role) :
    (createGuild founded everyone).run s = whole s (s.createGuild founded everyone) :=
  bind_whole (check_run _) fun _ _ => refuse_whole fun _ => rfl

theorem updateGuild_run (renamed : Guild) :
    (updateGuild renamed).run s = whole s (s.updateGuild renamed) :=
  bind_whole rowsOf_run fun _ found => write_run (passes_need.mp found)

theorem createChannel_run (channel : Channel) :
    (createChannel channel).run s = whole s (s.createChannel channel) := by
  refine bind_whole rowsOf_run fun g found => refuse_whole fun _ => ?_
  rw [write_bind (passes_need.mp found)]
  rfl

theorem updateChannel_run (channel : Channel) :
    (updateChannel channel).run s = whole s (s.updateChannel channel) := by
  unfold Store.updateChannel locateChannel
  simp only [bind_assoc]
  refine bind_whole ledTo_run fun home _ => bind_whole rowsOf_run fun g found => ?_
  exact bind_whole (check_run _) fun stored _ => write_run (passes_need.mp found)

theorem deleteChannel_run : (deleteChannel id).run s = whole s (s.deleteChannel id) := by
  unfold Store.deleteChannel locateChannel
  simp only [bind_assoc]
  refine bind_whole ledTo_run fun home _ => bind_whole rowsOf_run fun g found => ?_
  have rows := passes_need.mp found
  rw [write_bind rows]
  cases stored : g.channels.get? id with
  | none =>
    -- The removal found nothing to remove, so it left the store as it was.
    have absent : g.channels.contains id = false := by simp [KeyMap.contains, stored]
    rw [KeyMap.erase_of_absent stored, setRows_of_get? rows, absent]
    rfl
  | some row =>
    have known : g.channels.contains id = true := by simp [KeyMap.contains, stored]
    have rows' := rows_setRows s home { g with channels := g.channels.erase id }
    rw [known, Bool.not_true, refuse_false, write_write rows', write_bind rows', setRows_setRows]
    rfl

theorem setLockdown_run (channel : Channel) (everyone : Snowflake) (overwrite : Option Overwrite) :
    (setLockdown channel everyone overwrite now).run s =
      whole s (s.setLockdown channel everyone overwrite now) := by
  unfold Store.setLockdown locateChannel
  simp only [bind_assoc]
  refine bind_whole ledTo_run fun home _ => bind_whole rowsOf_run fun g found => ?_
  refine bind_whole (check_run _) fun stored _ => ?_
  rw [write_bind (passes_need.mp found)]
  cases overwrite with
  | none | some =>
    rw [write_run (rows_setRows ..), setRows_setRows]
    rfl

theorem createRole_run (role : Role) : (createRole role).run s = whole s (s.createRole role) := by
  refine bind_whole rowsOf_run fun g found => bind_whole (check_run _) fun g' _ => ?_
  rw [write_bind (passes_need.mp found)]
  rfl

theorem updateRole_run (role : Role) : (updateRole role).run s = whole s (s.updateRole role) := by
  unfold Store.updateRole locateRole
  simp only [bind_assoc]
  refine bind_whole ledTo_run fun home _ => bind_whole rowsOf_run fun g found => ?_
  exact bind_whole (check_run _) fun stored _ => write_run (passes_need.mp found)

theorem deleteRole_run : (deleteRole id now).run s = whole s (s.deleteRole id now) := by
  unfold Store.deleteRole locateRole
  simp only [bind_assoc]
  refine bind_whole ledTo_run fun home _ => bind_whole rowsOf_run fun g found => ?_
  refine bind_whole (check_run _) fun stored _ => refuse_whole fun _ => ?_
  have rows := passes_need.mp found
  rw [write_write rows, write_write rows, write_bind rows]
  rfl

/-- The moves are checked in turn, against rows that no check changes. -/
theorem checkMoves_run (positions : List (Snowflake × Int)) :
    (checkMoves g positions).run s = unwritten s
      (match positions.find? fun move => !isMovable g move.1 with
        | some move => .error (.unknownRole move.1)
        | none => .ok ()) := by
  induction positions with
  | nil => rfl
  | cons move rest ih =>
    unfold checkMoves
    cases movable : isMovable g move.1 with
    | false =>
      rw [List.find?_cons_of_pos (by simp [movable])]
      rfl
    | true =>
      rw [List.find?_cons_of_neg (by simp [movable])]
      exact ih

/-- The moves add up to the fold of the moves over the rows. -/
theorem makeMoves_run (positions : List (Snowflake × Int)) (rows : s.guilds.get? guild = some g) :
    (makeMoves guild now positions).run s =
      .ok () (s.setRows guild (positions.foldl (moveRole now) g)) := by
  induction positions generalizing s g with
  | nil => rw [List.foldl_nil, setRows_of_get? rows]; rfl
  | cons move rest ih =>
    unfold makeMoves
    rw [write_bind rows, ih (rows_setRows ..), setRows_setRows, List.foldl_cons]

theorem setPositions_run (positions : List (Snowflake × Int)) :
    (setPositions guild positions now).run s = whole s (s.setPositions guild positions now) := by
  refine bind_whole rowsOf_run fun g found => ?_
  rw [EStateM.run_bind, checkMoves_run]
  cases positions.find? fun move => !isMovable g move.1 with
  | some move => rfl
  | none => exact makeMoves_run positions (passes_need.mp found)

theorem createMember_run (member : Member) :
    (createMember member).run s = whole s (s.createMember member) :=
  bind_whole rowsOf_run fun _ found => refuse_whole fun _ => write_run (passes_need.mp found)

theorem deleteMember_run :
    (deleteMember guild user).run s = whole s (s.deleteMember guild user) := by
  refine bind_whole rowsOf_run fun g found => ?_
  have rows := passes_need.mp found
  rw [write_bind rows]
  cases known : g.members.contains user with
  | false =>
    have absent : g.members.get? user = none := by simpa [KeyMap.contains] using known
    rw [KeyMap.erase_of_absent absent, setRows_of_get? rows]
    rfl
  | true => rfl

/-- A member who has the role is left alone by the write that comes before the refusal. -/
theorem assignRole_run (role : Snowflake) :
    (assignRole guild user role now).run s = whole s (s.assignRole guild user role now) := by
  refine bind_whole rowsOf_run fun g found => ?_
  have rows := passes_need.mp found
  cases g.roles.contains role with
  | false => rfl
  | true =>
    refine bind_whole (check_run _) fun m member => ?_
    rw [write_bind rows]
    cases held : m.hasRole role with
    | true =>
      have same : m.addRole role now = m := if_pos held
      rw [same, KeyMap.insert_of_get? (passes_need.mp member), setRows_of_get? rows]
      rfl
    | false => rfl

theorem unassignRole_run (role : Snowflake) :
    (unassignRole guild user role now).run s =
      whole s (.ok (s.unassignRole guild user role now)) := by
  unfold unassignRole Store.unassignRole
  cases rows : s.guilds.get? guild with
  | none => simp only [write, EStateM.run_modify, rows]; rfl
  | some g =>
    rw [write_run rows]
    dsimp only
    cases g.members.get? user with
    | none => exact congrArg (EStateM.Result.ok ()) (setRows_of_get? rows)
    | some m => rfl

theorem putOverride_run (row : ChannelOverride) :
    (putOverride row).run s = whole s (s.putOverride row) :=
  bind_whole ledTo_run fun _ _ => bind_whole rowsOf_run fun _ found =>
    write_run (passes_need.mp found)

theorem deleteOverride_run (channel : Snowflake) (target : OverrideTarget) :
    (deleteOverride channel target).run s = whole s (.ok (s.deleteOverride channel target)) := by
  unfold deleteOverride Store.deleteOverride
  rw [EStateM.run_bind, EStateM.run_get]
  dsimp only
  cases s.channelIndex.get? channel with
  | none => rfl
  | some home =>
    dsimp only
    cases rows : s.guilds.get? home with
    | none => simp only [write, EStateM.run_modify, rows]; rfl
    | some g => exact write_run rows

theorem appendAudit_run (entry : Audit.Entry) :
    (appendAudit entry).run s = whole s (s.appendAudit entry) :=
  bind_whole rowsOf_run fun _ found => write_run (passes_need.mp found)

end Procedure

/-- Write by write a change comes to what it does in one go. A change that fails has written
nothing that makes a difference. -/
theorem Change.procedure_run (s : Store) (now : Instant) (change : Change) :
    (change.procedure now).run s = Procedure.whole s (s.apply now change) := by
  cases change with
  | createGuild guild everyone => exact Procedure.createGuild_run guild everyone
  | updateGuild guild => exact Procedure.updateGuild_run guild
  | createChannel channel => exact Procedure.createChannel_run channel
  | updateChannel channel => exact Procedure.updateChannel_run channel
  | deleteChannel id => exact Procedure.deleteChannel_run
  | setLockdown channel everyone overwrite =>
    exact Procedure.setLockdown_run channel everyone overwrite
  | createRole role => exact Procedure.createRole_run role
  | updateRole role => exact Procedure.updateRole_run role
  | deleteRole id => exact Procedure.deleteRole_run
  | setPositions guild positions => exact Procedure.setPositions_run positions
  | createMember member => exact Procedure.createMember_run member
  | deleteMember guild user => exact Procedure.deleteMember_run
  | assignRole guild user role => exact Procedure.assignRole_run role
  | unassignRole guild user role => exact Procedure.unassignRole_run role
  | putOverride row => exact Procedure.putOverride_run row
  | deleteOverride channel target => exact Procedure.deleteOverride_run channel target
  | appendAudit entry => exact Procedure.appendAudit_run entry

end Store
end GuildAccess
