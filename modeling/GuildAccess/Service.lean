import GuildAccess.Service.Roles
import GuildAccess.Service.Members
import GuildAccess.Service.Overrides
import GuildAccess.Service.Channels
import GuildAccess.Service.Queries

/-!
The running service. A call is first admitted, which checks the request alone and finds the guild
whose lock it takes, then judged on the store, and then carried out: the change is made, and the
note or the denial goes to the log under a fresh identifier. A log that cannot be written does not
undo anything.
-/
namespace GuildAccess

/-- Every call of the service, with its arguments. -/
inductive Call
  | createRole (guild actor : Snowflake) (request : CreateRole)
  | getRole (guild role : Snowflake)
  | updateRole (guild role actor : Snowflake) (request : UpdateRole)
  | toggleFlag (guild role actor : Snowflake) (request : ToggleFlag)
  | deleteRole (guild role actor : Snowflake)
  | listRoles (guild user : Snowflake)
  | reorderRoles (guild actor : Snowflake) (request : ReorderRoles)
  | join (guild user : Snowflake)
  | getMember (guild user requester : Snowflake)
  | assignRole (guild user role actor : Snowflake)
  | unassignRole (guild user role actor : Snowflake)
  | listOverrides (channel user : Snowflake)
  | setOverride (channel : Snowflake) (target : OverrideTarget) (actor : Snowflake)
      (overwrite : Overwrite)
  | deleteOverride (channel : Snowflake) (target : OverrideTarget) (actor : Snowflake)
  | getChannel (channel user : Snowflake)
  | lockChannel (channel actor : Snowflake) (request : Lockdown)
  | unlockChannel (channel actor : Snowflake) (request : Lockdown)
  | loadSnapshot (guild user : Snowflake) (channel : Option Snowflake)
  | guildPermissions (guild user : Snowflake)
  | channelPermissions (channel user : Snowflake)
  | effectivePermissions (guild : Snowflake) (channel : Option Snowflake) (user : Snowflake)
  | check (guild : Snowflake) (channel : Option Snowflake) (user : Snowflake) (flag : Flag)
  | requireAny (guild : Snowflake) (channel : Option Snowflake) (user : Snowflake)
      (flags : List Flag) (attempt : Audit.Attempt)
  | isOwner (guild user : Snowflake)
  | canManageMember (guild actor target : Snowflake)
  | ensureManages (actor : Snapshot) (guild target : Snowflake)
  | listAudit (guild user : Snowflake) (params : AuditParams)
  | record (entry : Audit.Entry)
  | recordAfter (entry : Audit.Entry)
  | recordDenied (denial : Denial)
  | findChannel (channel : Snowflake)
  | findRole (guild role : Snowflake)

/-- What the service finds around it: the clock, the identifiers it makes (counted from 1), its page
sizes, and whether the log can be written. -/
structure Surroundings where
  now : Instant
  idAt : Nat → Snowflake
  paging : Paging
  logWritable : Bool

/-- The state of the service: the store, how many identifiers were made, and the guilds locked at
least once. -/
structure Service where
  store : Store
  issued : Nat
  locked : KeyMap Snowflake Unit

namespace Call

/-- The guild whose lock a call on a channel takes. -/
def channelLock (s : Store) (channel : Snowflake) : Except CallError (Option Snowflake) :=
  (Judge.findChannel s channel).map fun c => some c.guildId

/-- Checks a request on its own, and gives the guild to lock; calls that change nothing lock
none. -/
def enter (s : Store) : Call → Except CallError (Option Snowflake)
  | .createRole guild _ request => request.validate.map fun _ => some guild
  | .updateRole guild _ _ request => request.validate.map fun _ => some guild
  | .toggleFlag guild _ _ _ => .ok (some guild)
  | .deleteRole guild _ _ => .ok (some guild)
  | .reorderRoles guild _ request => request.validate.map fun _ => some guild
  | .join guild _ => .ok (some guild)
  | .assignRole guild _ _ _ => .ok (some guild)
  | .unassignRole guild _ _ _ => .ok (some guild)
  | .setOverride channel _ _ overwrite => do
    overwrite.validate.mapError .fault
    channelLock s channel
  | .deleteOverride channel _ _ => channelLock s channel
  | .lockChannel channel _ request => do
    request.validate
    channelLock s channel
  | .unlockChannel channel _ request => do
    request.validate
    channelLock s channel
  | _ => .ok none

/-- Judges a call that was admitted. `fresh` is the identifier of a row that the call may make. -/
def judge (s : Store) (around : Surroundings) (fresh : Snowflake) : Call → Except Refusal Ruling
  | .createRole guild actor request => Judge.createRole s around.now fresh guild actor request
  | .getRole guild role => Judge.getRole s guild role
  | .updateRole guild role actor request => Judge.updateRole s around.now guild role actor request
  | .toggleFlag guild role actor request => Judge.toggleFlag s around.now guild role actor request
  | .deleteRole guild role actor => Judge.deleteRole s guild role actor
  | .listRoles guild user => Judge.listRoles s guild user
  | .reorderRoles guild actor request => Judge.reorderRoles s guild actor request
  | .join guild user => Judge.join s around.now guild user
  | .getMember guild user requester => Judge.getMember s guild user requester
  | .assignRole guild user role actor => Judge.assignRole s around.now guild user role actor
  | .unassignRole guild user role actor => Judge.unassignRole s around.now guild user role actor
  | .listOverrides channel user => Judge.listOverrides s channel user
  | .setOverride channel target actor overwrite =>
    Judge.setOverride s around.now channel target actor overwrite
  | .deleteOverride channel target actor => Judge.deleteOverride s channel target actor
  | .getChannel channel user => Judge.getChannel s channel user
  | .lockChannel channel actor request => Judge.lockChannel s around.now channel actor request
  | .unlockChannel channel actor request => Judge.unlockChannel s around.now channel actor request
  | .loadSnapshot guild user channel => do
    let snapshot ← Judge.mustCall (Judge.snapshot s guild user channel)
    .ok (.answer (.snapshot snapshot))
  | .guildPermissions guild user => Judge.guildPermissions s guild user
  | .channelPermissions channel user => Judge.channelPermissions s channel user
  | .effectivePermissions guild channel user => Judge.effectivePermissions s guild channel user
  | .check guild channel user flag => Judge.check s guild channel user flag
  | .requireAny guild channel user flags attempt => do
    let snapshot ← Judge.gate s guild channel user flags attempt
    .ok (.answer (.snapshot snapshot))
  | .isOwner guild user => Judge.isOwner s guild user
  | .canManageMember guild actor target => Judge.canManageMember s guild actor target
  | .ensureManages actor guild target => do
    Judge.mustCall (Judge.outranksMember s actor guild target)
    .ok (.answer .done)
  | .listAudit guild user params => Judge.listAudit s around.paging guild user params
  | .record entry => .ok (.append entry)
  | .recordAfter entry => .ok (.offer entry)
  | .recordDenied denial => .ok (.report denial)
  | .findChannel channel => do
    let row ← Judge.mustCall (Judge.findChannel s channel)
    .ok (.answer (.channelRow row))
  | .findRole guild role => do
    let row ← Judge.mustCall (Judge.findRole s guild role)
    .ok (.answer (.roleRow row))

end Call

namespace Service

/-- The service at its start. -/
def new : Service := ⟨.empty, 0, .empty⟩

def append (around : Surroundings) (service : Service) (entry : Audit.Entry) :
    Except CallError Service :=
  if around.logWritable then
    match service.store.appendAudit entry with
    | .ok store => .ok { service with store := store }
    | .error cause => .error (.fault cause)
  else .error (.fault (.storage "audit log unavailable"))

/-- Writes an entry under a fresh identifier. If that fails, only the identifier is gone. -/
def log (around : Surroundings) (service : Service) (draft : Snowflake → Instant → Audit.Entry) :
    Service :=
  let service := { service with issued := service.issued + 1 }
  match service.append around (draft (around.idAt service.issued) around.now) with
  | .ok after => after
  | .error _ => service

def execute (around : Surroundings) (service : Service) (plan : Plan) :
    Service × Except CallError Answer :=
  let service := if plan.mints then { service with issued := service.issued + 1 } else service
  match service.store.apply around.now plan.change with
  | .error cause => (service, .error (.fault cause))
  | .ok store =>
    let changed := { service with store := store }
    let logged := match plan.note with
      | some note => changed.log around note.entry
      | none => changed
    (logged, .ok (plan.answer store))

def settle (around : Surroundings) (service : Service) :
    Except Refusal Ruling → Service × Except CallError Answer
  | .error (.error cause) => (service, .error cause)
  | .error (.denied denial flags) => (service.log around denial.entry, .error (.denied flags))
  | .ok (.answer a) => (service, .ok a)
  | .ok (.plan p) => service.execute around p
  | .ok (.append entry) =>
    match service.append around entry with
    | .ok after => (after, .ok .done)
    | .error cause => (service, .error cause)
  | .ok (.offer entry) =>
    match service.append around entry with
    | .ok after => (after, .ok .done)
    | .error _ => (service, .ok .done)
  | .ok (.report denial) => (service.log around denial.entry, .ok .done)

/-- Remembers that a guild was locked. -/
def takeLock (service : Service) : Option Snowflake → Service
  | some guild => { service with locked := service.locked.insert guild () }
  | none => service

def handle (around : Surroundings) (service : Service) (call : Call) :
    Service × Except CallError Answer :=
  match call.enter service.store with
  | .error cause => (service, .error cause)
  | .ok lock =>
    let service := service.takeLock lock
    service.settle around (call.judge service.store around (around.idAt (service.issued + 1)))

def lockCount (service : Service) : Nat := service.locked.size

end Service
end GuildAccess
