import GuildAccess.Snowflake
import GuildAccess.Instant
import GuildAccess.Flag
import GuildAccess.Fault
import GuildAccess.Json

/-!
The audit log of a guild: one entry for each privileged action that was carried out and for each one
that was refused for lack of a permission.
-/
namespace GuildAccess.Audit

/-- What an actor did or tried to do. -/
inductive Action
  | roleCreate
  | roleUpdate
  | roleDelete
  | roleReorder
  | memberRoleAdd
  | memberRoleRemove
  | overrideSet
  | overrideDelete
  | channelLock
  | channelUnlock
  | channelView
  | overrideList
  | auditLogView
deriving DecidableEq

namespace Action

def all : List Action := [
  .roleCreate, .roleUpdate, .roleDelete, .roleReorder, .memberRoleAdd, .memberRoleRemove,
  .overrideSet, .overrideDelete, .channelLock, .channelUnlock, .channelView, .overrideList,
  .auditLogView]

def name : Action → String
  | .roleCreate => "ROLE_CREATE"
  | .roleUpdate => "ROLE_UPDATE"
  | .roleDelete => "ROLE_DELETE"
  | .roleReorder => "ROLE_REORDER"
  | .memberRoleAdd => "MEMBER_ROLE_ADD"
  | .memberRoleRemove => "MEMBER_ROLE_REMOVE"
  | .overrideSet => "OVERRIDE_SET"
  | .overrideDelete => "OVERRIDE_DELETE"
  | .channelLock => "CHANNEL_LOCK"
  | .channelUnlock => "CHANNEL_UNLOCK"
  | .channelView => "CHANNEL_VIEW"
  | .overrideList => "OVERRIDE_LIST"
  | .auditLogView => "AUDIT_LOG_VIEW"

def ofName? (s : String) : Option Action := all.find? fun a => a.name = s

def parse (s : String) : Except Fault Action :=
  match ofName? s with
  | some a => .ok a
  | none => .error (.invalid ("unknown audit action: " ++ s))

end Action

/-- The kinds of object an entry can point at. -/
inductive TargetKind
  | role
  | member
  | channel
  | channelOverride
deriving DecidableEq

namespace TargetKind

def all : List TargetKind := [.role, .member, .channel, .channelOverride]

def name : TargetKind → String
  | .role => "role"
  | .member => "member"
  | .channel => "channel"
  | .channelOverride => "channel_override"

def ofName? (s : String) : Option TargetKind := all.find? fun k => k.name = s

def parse (s : String) : Except Fault TargetKind :=
  match ofName? s with
  | some k => .ok k
  | none => .error (.invalid ("unknown audit target type: " ++ s))

end TargetKind

/-- Whether the action was carried out. -/
inductive Verdict
  | allowed
  | denied
deriving DecidableEq

namespace Verdict

def name : Verdict → String
  | .allowed => "allowed"
  | .denied => "denied"

/-- Reads a stored name; all but `denied` stand for an allowed action. -/
def ofStored (s : String) : Verdict := if s = "denied" then .denied else .allowed

end Verdict

/-- What a permission check guards, for the entry if the check fails. -/
structure Attempt where
  action : Action
  target : Option (TargetKind × Snowflake) := none
deriving DecidableEq

structure Entry where
  id : Snowflake
  guildId : Snowflake
  actorId : Snowflake
  action : Action
  targetKind : Option TargetKind
  targetId : Option Snowflake
  channelId : Option Snowflake
  permission : Option Flag
  verdict : Verdict
  changes : Option Json
  reason : Option String
  createdAt : Instant

namespace Entry

def isDenied (e : Entry) : Bool := e.verdict = .denied

/-- The entry of an action carried out. -/
def allowed (id guildId actorId : Snowflake) (attempt : Attempt) (now : Instant) : Entry where
  id := id
  guildId := guildId
  actorId := actorId
  action := attempt.action
  targetKind := attempt.target.map (·.1)
  targetId := attempt.target.map (·.2)
  channelId := none
  permission := none
  verdict := .allowed
  changes := none
  reason := none
  createdAt := now

/-- The entry of an action refused for lack of a flag, in a channel if the check was made there. -/
def denied (id guildId actorId : Snowflake) (attempt : Attempt) (flag : Flag)
    (channel : Option Snowflake) (now : Instant) : Entry :=
  { allowed id guildId actorId attempt now with
    permission := some flag, channelId := channel, verdict := .denied }

end Entry

/-- Which entries of a guild's log to read, and at most how many, newest first. -/
structure Query where
  guildId : Snowflake
  limit : Nat
  actorId : Option Snowflake := none
  action : Option Action := none
  targetKind : Option TargetKind := none
  after : Option Instant := none
  before : Option Instant := none
  beforeId : Option Snowflake := none

namespace Query

/-- Whether an entry passes all filters; the limit is not one. -/
def matchesEntry (q : Query) (e : Entry) : Bool :=
  e.guildId = q.guildId &&
    q.actorId.all (fun id => e.actorId = id) &&
    q.action.all (fun a => e.action = a) &&
    q.targetKind.all (fun k => e.targetKind = some k) &&
    q.after.all (fun t => t < e.createdAt) &&
    q.before.all (fun t => e.createdAt < t) &&
    q.beforeId.all (fun id => e.id < id)

end Query
end GuildAccess.Audit
