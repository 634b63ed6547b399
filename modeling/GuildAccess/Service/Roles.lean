import GuildAccess.Service.Judgement

/-!
Judging calls on roles. A caller needs MANAGE_ROLES. One who is not the owner may only act on roles
strictly below the highest role they hold, and may not grant flags they lack.
-/
namespace GuildAccess.Judge

/-- Position of a new role when the request names none: just above the everyone role. -/
def newRolePosition : Int := 1

/-- Lets a caller pass who may manage roles. -/
def manageRoles (s : Store) (guild actor : Snowflake) (attempt : Audit.Attempt) :
    Except Refusal Snapshot :=
  gate s guild none actor [.manageRoles] attempt

/-- An attempt on a role. -/
def onRole (action : Audit.Action) (role : Snowflake) : Audit.Attempt :=
  ⟨action, some (.role, role)⟩

def roleSummary (r : Role) : Json :=
  .obj [("name", .str r.name), ("permissions", logged r.permissions),
    ("position", .int r.position)]

def requestedPermissions (request : CreateRole) : Permissions :=
  if request.isAdmin then request.permissions ∪ .only .administrator else request.permissions

def newRole (guild id : Snowflake) (request : CreateRole) (now : Instant) : Role :=
  { Role.new id guild request.name (requestedPermissions request) now with
    position := request.position.getD newRolePosition
    color := request.color
    hoist := request.hoist
    mentionable := request.mentionable
    showTag := request.showTag
    tagStyle := request.tagStyle }

def createRole (s : Store) (now : Instant) (fresh guild actor : Snowflake) (request : CreateRole) :
    Except Refusal Ruling := do
  let caller ← manageRoles s guild actor ⟨.roleCreate, none⟩
  must (Resolver.checkGrant caller.server (requestedPermissions request))
  outranksPosition caller (request.position.getD newRolePosition)
  let role := newRole guild fresh request now
  .ok (.plan {
    change := .createRole role
    note := some {
      guildId := guild, actorId := actor, attempt := onRole .roleCreate fresh
      changes := roleSummary role }
    answer := fun _ => .role role.view
    mints := true })

/-- The fields in which two states of a role differ, with both values. -/
def roleChanges (before after : Role) : List (String × Json) :=
  let field {α : Type} [DecidableEq α] (name : String) (write : α → Json) (read : Role → α) :=
    if read before = read after then []
    else [(name, moved (write (read before)) (write (read after)))]
  field "name" Json.str (·.name) ++ field "color" Json.int (·.color) ++
    field "hoist" Json.bool (·.hoist) ++ field "mentionable" Json.bool (·.mentionable) ++
    field "show_tag" Json.bool (·.showTag) ++ field "tag_style" Json.optStr (·.tagStyle) ++
    field "permissions" logged (·.permissions) ++ field "is_admin" Json.bool (·.isAdmin)

/-- Applies a value to a role, if there is one. -/
def setOpt {α : Type} (r : Role) (value : Option α) (set : Role → α → Role) : Role :=
  match value with
  | some a => set r a
  | none => r

/-- The role with the new values of a request. The administrator mark is set last. -/
def updatedRole (r : Role) (request : UpdateRole) (now : Instant) : Role :=
  let r := setOpt r request.name fun r a => r.setName a now
  let r := setOpt r request.color fun r a => r.setColor a now
  let r := setOpt r request.hoist fun r a => r.setHoist a now
  let r := setOpt r request.mentionable fun r a => r.setMentionable a now
  let r :=
    if request.showTag.isSome || request.tagStyle.isSome then
      r.setTag (request.showTag.getD r.showTag) (request.tagStyle <|> r.tagStyle) now
    else r
  let r := setOpt r request.permissions fun r a => r.setPermissions a now
  setOpt r request.isAdmin fun r a => r.setAdmin a now

/-- Updates a role. Only flags the role did not have count as granted, and a request that changes
nothing leaves no trace. -/
def updateRole (s : Store) (now : Instant) (guild id actor : Snowflake) (request : UpdateRole) :
    Except Refusal Ruling := do
  let caller ← manageRoles s guild actor (onRole .roleUpdate id)
  let before ← mustCall (findRole s guild id)
  outranksPosition caller before.position
  refuseIf (before.isEveryone && request.name.isSome) .everyoneFixed
  let after := updatedRole before request now
  must (Resolver.checkGrant caller.server (after.permissions \ before.permissions))
  let changes := roleChanges before after
  if changes.isEmpty then .ok (.answer (.role after.view))
  else
    .ok (.plan {
      change := .updateRole after
      note := some {
        guildId := guild, actorId := actor, attempt := onRole .roleUpdate after.id
        changes := .obj changes }
      answer := fun _ => .role after.view })

/-- Sets or clears one flag of a role. -/
def toggleFlag (s : Store) (now : Instant) (guild id actor : Snowflake) (request : ToggleFlag) :
    Except Refusal Ruling := do
  let caller ← manageRoles s guild actor (onRole .roleUpdate id)
  let role ← mustCall (findRole s guild id)
  outranksPosition caller role.position
  must (if request.enabled then Resolver.checkGrant caller.server (.only request.flag) else .ok ())
  let after := role.permissions.set request.flag request.enabled
  if after = role.permissions then .ok (.answer (.role role.view))
  else
    let updated := role.setPermissions after now
    .ok (.plan {
      change := .updateRole updated
      note := some {
        guildId := guild, actorId := actor, attempt := onRole .roleUpdate role.id
        changes := .obj [("flag", .str request.flag.name), ("enabled", .bool request.enabled),
          ("permissions", moved (logged role.permissions) (logged after))] }
      answer := fun _ => .role updated.view })

def deleteRole (s : Store) (guild id actor : Snowflake) : Except Refusal Ruling := do
  let caller ← manageRoles s guild actor (onRole .roleDelete id)
  let role ← mustCall (findRole s guild id)
  refuseIf role.isEveryone .everyoneKept
  outranksPosition caller role.position
  .ok (.plan {
    change := .deleteRole id
    note := some {
      guildId := guild, actorId := actor, attempt := onRole .roleDelete id
      changes := roleSummary role }
    answer := fun _ => .done })

/-- One role to move, from its position to another. -/
structure Move where
  role : Snowflake
  old : Int
  new : Int

/-- Checks the listed moves in turn, against the ids of those before. Both where a role is and where
it goes has to be below the caller. -/
def moves (caller : Snapshot) : List Snowflake → List RoleMove → Except Refusal (List Move)
  | _, [] => .ok []
  | seen, move :: rest => do
    let id ← mustCall (match Snowflake.parse? move.id with
      | some id => .ok id
      | none => .error (.invalid "Invalid role ID format"))
    if seen.contains id then
      .error (.error (.invalid ("Role " ++ id.render ++ " listed twice")))
    else
      let role ← must (Store.need (caller.roles.find? fun r => r.id = id) (.unknownRole id))
      refuseIf role.isEveryone .everyoneFixed
      outranksPosition caller role.position
      outranksPosition caller move.position
      let later ← moves caller (id :: seen) rest
      .ok (⟨id, role.position, move.position⟩ :: later)

def reorderRoles (s : Store) (guild actor : Snowflake) (request : ReorderRoles) :
    Except Refusal Ruling := do
  let caller ← manageRoles s guild actor ⟨.roleReorder, none⟩
  let moves ← moves caller [] request.positions
  let logMove (m : Move) : Json :=
    .obj [("id", .str m.role.render), ("old", .int m.old), ("new", .int m.new)]
  .ok (.plan {
    change := .setPositions guild (moves.map fun m => (m.role, m.new))
    note := some {
      guildId := guild, actorId := actor, attempt := ⟨.roleReorder, none⟩
      changes := .obj [("positions", .arr (moves.map logMove))] }
    answer := fun after => .roles ((after.roleList guild).map Role.view) })

def getRole (s : Store) (guild id : Snowflake) : Except Refusal Ruling := do
  let role ← mustCall (findRole s guild id)
  .ok (.answer (.role role.view))

def listRoles (s : Store) (guild user : Snowflake) : Except Refusal Ruling := do
  let snapshot ← mustCall (snapshot s guild user none)
  .ok (.answer (.roles (snapshot.roles.map Role.view)))

end GuildAccess.Judge
