import GuildAccess.Paging
import GuildAccess.Service.Request
import GuildAccess.Service.View
import GuildAccess.Store.Change
import GuildAccess.Permissions.Text

/-!
How a service call is judged. A call is judged on the store alone: it is refused, answered, or
turned into a plan, which is the one change it makes with the note for the log. What is judged here
is carried out elsewhere, so nothing is written while a call is still being checked.
-/
namespace GuildAccess

/-- A refusal to be written to the log. -/
structure Denial where
  guildId : Snowflake
  actorId : Snowflake
  attempt : Audit.Attempt
  flag : Flag
  channelId : Option Snowflake
  reason : Option String

/-- The entry of a refusal. -/
def Denial.entry (d : Denial) (id : Snowflake) (now : Instant) : Audit.Entry :=
  { Audit.Entry.denied id d.guildId d.actorId d.attempt d.flag d.channelId now with
    reason := d.reason }

/-- An action carried out, to be written to the log. -/
structure Note where
  guildId : Snowflake
  actorId : Snowflake
  attempt : Audit.Attempt
  channelId : Option Snowflake := none
  changes : Json
  reason : Option String := none

/-- The entry of an action carried out. -/
def Note.entry (n : Note) (id : Snowflake) (now : Instant) : Audit.Entry :=
  { Audit.Entry.allowed id n.guildId n.actorId n.attempt now with
    channelId := n.channelId, changes := some n.changes, reason := n.reason }

/-- What a successful call gives back. -/
inductive Answer
  | done
  | role (view : RoleView)
  | roles (views : List RoleView)
  | member (view : MemberView)
  | override (view : OverrideView)
  | overrides (views : List OverrideView)
  | channel (view : ChannelView)
  | permissions (p : Permissions)
  | effective (e : EffectivePermissions)
  | truth (b : Bool)
  | snapshot (s : Snapshot)
  | auditPage (page : AuditPage)
  | channelRow (row : Channel)
  | roleRow (row : Role)

/-- Why a call is not carried out. A call that lacks a permission is denied and leaves a trace. -/
inductive Refusal
  | error (cause : CallError)
  | denied (denial : Denial) (flags : String)

/-- What the caller of a refused call is told. -/
def Refusal.cause : Refusal → CallError
  | .error cause => cause
  | .denied _ flags => .denied flags

/-- A change to make, the note it leaves, and the answer, which is read off the store afterwards. A
plan that makes a new row has used the next identifier for it. -/
structure Plan where
  change : Store.Change
  note : Option Note
  answer : Store → Answer
  mints : Bool := false

/-- The outcome of a call that is not refused. An entry that is only offered to the log may be lost
without the call failing. -/
inductive Ruling
  | answer (a : Answer)
  | plan (p : Plan)
  | append (entry : Audit.Entry)
  | offer (entry : Audit.Entry)
  | report (denial : Denial)

namespace Judge

/-- Refuses for the cause that a check gives. -/
def must {α : Type} (check : Except Fault α) : Except Refusal α :=
  check.mapError fun cause => .error (.fault cause)

def mustCall {α : Type} (check : Except CallError α) : Except Refusal α :=
  check.mapError .error

def refuseIf (bad : Bool) (cause : Fault) : Except Refusal Unit :=
  if bad then .error (.error (.fault cause)) else .ok ()

/-- The inputs of a decision about a member or the owner of a guild, with the overrides of a channel
of that guild if one is named. -/
def snapshot (s : Store) (guild user : Snowflake) (channel : Option Snowflake) :
    Except CallError Snapshot :=
  match s.permissionInputs? guild user channel with
  | none => .error (.unknown "Guild" guild.render)
  | some inputs =>
    let isOwner := inputs.guild.isOwner user
    if inputs.member.isNone && !isOwner then .error (.fault .unknownMember)
    else
      let held := (inputs.member.map (·.roles)).getD []
      match channel, inputs.channel with
      | none, _ => .ok ⟨user, inputs.roles, held, isOwner, []⟩
      | some _, some _ => .ok ⟨user, inputs.roles, held, isOwner, inputs.overrides⟩
      | some id, none => .error (.fault (.unknownChannel id))

/-- What the user of a snapshot may do: in the channel if one is named, else server-wide. -/
def resolved (snapshot : Snapshot) (channel : Option Snowflake) : Permissions :=
  match channel with
  | some _ => snapshot.channel
  | none => snapshot.server

/-- Lets a user pass who holds one of the flags, and gives the snapshot for further checks. A user
who does not is denied under the first flag. -/
def gate (s : Store) (guild : Snowflake) (channel : Option Snowflake) (user : Snowflake)
    (flags : List Flag) (attempt : Audit.Attempt) : Except Refusal Snapshot := do
  let snapshot ← mustCall (snapshot s guild user channel)
  if flags.any (resolved snapshot channel).has then .ok snapshot
  else
    match flags with
    | [] => .ok snapshot
    | first :: others =>
      let names := " or ".intercalate (flags.map Flag.name)
      let reason := if others.isEmpty then none else some ("requires " ++ names)
      .error (.denied ⟨guild, user, attempt, first, channel, reason⟩ names)

/-- A channel, by its id alone. -/
def findChannel (s : Store) (id : Snowflake) : Except CallError Channel :=
  match s.channel? id with
  | some c => .ok c
  | none => .error (.fault (.unknownChannel id))

/-- A role of a guild; a role of another guild is unknown. -/
def findRole (s : Store) (guild id : Snowflake) : Except CallError Role :=
  match s.role? id with
  | some r => if r.guildId = guild then .ok r else .error (.fault (.unknownRole id))
  | none => .error (.fault (.unknownRole id))

/-- Lets an actor pass who outranks a member. The member is ranked by the roles that the actor was
judged on. -/
def outranksMember (s : Store) (actor : Snapshot) (guild target : Snowflake) :
    Except CallError Unit := do
  let other ← snapshot s guild target none
  (Resolver.checkMember actor.isOwner actor.highest other.isOwner
    (Resolver.highest actor.roles other.held)).mapError .fault

/-- Lets an actor pass who may act on roles at a position. -/
def outranksPosition (actor : Snapshot) (position : Int) : Except Refusal Unit :=
  must (Resolver.checkPosition actor.isOwner actor.highest position)

/-- An old and a new value, for the log. -/
def moved (old new : Json) : Json := .obj [("old", old), ("new", new)]

def logged (p : Permissions) : Json := .str p.render

end Judge
end GuildAccess
