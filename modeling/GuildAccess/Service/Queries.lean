import GuildAccess.Service.Judgement

/-!
Judging calls that only ask: what a user may do, who owns a guild, who outranks whom, and what the
log of a guild holds.
-/
namespace GuildAccess.Judge

def guildPermissions (s : Store) (guild user : Snowflake) : Except Refusal Ruling := do
  let snapshot ← mustCall (snapshot s guild user none)
  .ok (.answer (.permissions snapshot.server))

def channelPermissions (s : Store) (channel user : Snowflake) : Except Refusal Ruling := do
  let row ← mustCall (findChannel s channel)
  let snapshot ← mustCall (snapshot s row.guildId user (some channel))
  .ok (.answer (.permissions snapshot.channel))

def effectivePermissions (s : Store) (guild : Snowflake) (channel : Option Snowflake)
    (user : Snowflake) : Except Refusal Ruling := do
  let snapshot ← mustCall (snapshot s guild user channel)
  .ok (.answer (.effective ⟨guild, channel, user, resolved snapshot channel⟩))

def check (s : Store) (guild : Snowflake) (channel : Option Snowflake) (user : Snowflake)
    (flag : Flag) : Except Refusal Ruling := do
  let snapshot ← mustCall (snapshot s guild user channel)
  .ok (.answer (.truth ((resolved snapshot channel).has flag)))

def isOwner (s : Store) (guild user : Snowflake) : Except Refusal Ruling :=
  match s.guild? guild with
  | some g => .ok (.answer (.truth (g.isOwner user)))
  | none => .error (.error (.unknown "Guild" guild.render))

/-- Whether one user may manage another. -/
def canManageMember (s : Store) (guild actor target : Snowflake) : Except Refusal Ruling := do
  let caller ← mustCall (snapshot s guild actor none)
  match outranksMember s caller guild target with
  | .ok () => .ok (.answer (.truth true))
  | .error (.fault cause) =>
    if cause.kind = .forbidden then .ok (.answer (.truth false))
    else .error (.error (.fault cause))
  | .error cause => .error (.error cause)

def filterId (field : String) : Option String → Except CallError (Option Snowflake)
  | none => .ok none
  | some text =>
    match Snowflake.parse? text with
    | some id => .ok (some id)
    | none => .error (.invalid ("Invalid " ++ field ++ " format"))

def filterName {α : Type} (parse : String → Except Fault α) :
    Option String → Except CallError (Option α)
  | none => .ok none
  | some text => ((parse text).map some).mapError .fault

/-- The query that the filters of a request stand for, with one entry more than the page holds. -/
def auditQuery (guild : Snowflake) (size : Nat) (params : AuditParams) :
    Except CallError Audit.Query := do
  let actor ← filterId "actor_id" params.actorId
  let beforeId ← filterId "before_id" params.beforeId
  let action ← filterName Audit.Action.parse params.action
  let target ← filterName Audit.TargetKind.parse params.targetType
  .ok {
    guildId := guild
    limit := min (size + 1) (0xFFFFFFFF)
    actorId := actor
    action := action
    targetKind := target
    after := params.after
    before := params.before
    beforeId := beforeId }

/-- The page made of the entries found, of which one too many tells that there are more. -/
def auditPage (size : Nat) (found : List Audit.Entry) : AuditPage :=
  let hasMore := size < found.length
  let entries := found.take size
  ⟨entries, if hasMore then entries.getLast?.map (·.id) else none, hasMore, size⟩

def listAudit (s : Store) (paging : Paging) (guild user : Snowflake) (params : AuditParams) :
    Except Refusal Ruling := do
  mustCall params.validate
  let _ ← gate s guild none user [.viewAuditLog] ⟨.auditLogView, none⟩
  let size := paging.size params.limit
  let query ← mustCall (auditQuery guild size params)
  .ok (.answer (.auditPage (auditPage size (s.auditList query))))

end GuildAccess.Judge
