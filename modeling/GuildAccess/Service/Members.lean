import GuildAccess.Service.Judgement

/-!
Judging calls on members. Assigning a role and taking it away need MANAGE_ROLES, a role below the
caller and, for someone else, a member below the caller.
-/
namespace GuildAccess.Judge

/-- Adds a user to a guild, without roles. -/
def join (s : Store) (now : Instant) (guild user : Snowflake) : Except Refusal Ruling := do
  let _ ← mustCall (match s.guild? guild with
    | some g => .ok g
    | none => .error (.unknown "Guild" guild.render))
  refuseIf (s.isMember guild user) .alreadyMember
  let member := Member.new guild user now
  .ok (.plan {
    change := .createMember member, note := none, answer := fun _ => .member member.view })

def getMember (s : Store) (guild user requester : Snowflake) : Except Refusal Ruling := do
  let _ ← mustCall (snapshot s guild requester none)
  let member ← must (Store.need (s.member? guild user) .unknownMember)
  .ok (.answer (.member member.view))

/-- Lets a caller pass who may assign a role to a member and take it away, and gives the member. -/
def changeRoleOf (s : Store) (guild user role actor : Snowflake) (action : Audit.Action) :
    Except Refusal Member := do
  let caller ← gate s guild none actor [.manageRoles] ⟨action, some (.member, user)⟩
  let row ← mustCall (findRole s guild role)
  refuseIf row.isEveryone .everyoneFixed
  outranksPosition caller row.position
  mustCall (if user = actor then .ok () else outranksMember s caller guild user)
  must (Store.need (s.member? guild user) .unknownMember)

/-- The note of a role assigned or taken away. -/
def roleNote (guild user role actor : Snowflake) (action : Audit.Action) : Note where
  guildId := guild
  actorId := actor
  attempt := ⟨action, some (.member, user)⟩
  changes := .obj [("role_id", .str role.render)]

def assignRole (s : Store) (now : Instant) (guild user role actor : Snowflake) :
    Except Refusal Ruling := do
  let member ← changeRoleOf s guild user role actor .memberRoleAdd
  refuseIf (member.hasRole role) .alreadyHasRole
  .ok (.plan {
    change := .assignRole guild user role
    note := some (roleNote guild user role actor .memberRoleAdd)
    answer := fun _ => .member (member.addRole role now).view })

def unassignRole (s : Store) (now : Instant) (guild user role actor : Snowflake) :
    Except Refusal Ruling := do
  let member ← changeRoleOf s guild user role actor .memberRoleRemove
  if member.hasRole role then
    .ok (.plan {
      change := .unassignRole guild user role
      note := some (roleNote guild user role actor .memberRoleRemove)
      answer := fun _ => .member (member.removeRole role now).view })
  else .error (.error (.unknown "Member role" role.render))

end GuildAccess.Judge
