import GuildAccess.Service.Judgement

/-!
Judging calls on overrides. A caller needs MANAGE_ROLES or MANAGE_CHANNELS in the channel, has to
outrank the target, and may only allow or deny flags they hold in the channel themselves. While a
channel is locked its everyone override belongs to the lock.
-/
namespace GuildAccess.Judge

/-- The flags of which one is needed. -/
def overrideFlags : List Flag := [.manageRoles, .manageChannels]

/-- Lets a caller pass who may handle the overrides of a channel. -/
def manageOverrides (s : Store) (channel : Channel) (user : Snowflake) (attempt : Audit.Attempt) :
    Except Refusal Snapshot :=
  gate s channel.guildId (some channel.id) user overrideFlags attempt

/-- Lets a caller pass who may write an override of this target: a role of the guild below the
caller, the everyone role unless the channel is locked, the caller, or a member below the caller. -/
def mayTarget (s : Store) (caller : Snapshot) (channel : Channel) :
    OverrideTarget → Except Refusal Unit
  | .role id => do
    let role ← must (Store.need (caller.roles.find? fun r => r.id = id) (.unknownRole id))
    if role.isEveryone then refuseIf channel.locked .alreadyLocked
    else outranksPosition caller role.position
  | .member id =>
    if id = caller.userId then .ok ()
    else mustCall (outranksMember s caller channel.guildId id)

def listOverrides (s : Store) (channel user : Snowflake) : Except Refusal Ruling := do
  let row ← mustCall (findChannel s channel)
  let caller ← manageOverrides s row user ⟨.overrideList, none⟩
  .ok (.answer (.overrides (caller.overrides.map ChannelOverride.view)))

def overrideNote (channel : Channel) (target : OverrideTarget) (actor : Snowflake)
    (action : Audit.Action) (id : Snowflake) (old : Overwrite) (allow deny : Json) : Note where
  guildId := channel.guildId
  actorId := actor
  attempt := ⟨action, some (.channelOverride, target.id)⟩
  channelId := some id
  changes := .obj [("type", .str target.kind), ("allow", moved (logged old.allow) allow),
    ("deny", moved (logged old.deny) deny)]

def setOverride (s : Store) (now : Instant) (channel : Snowflake) (target : OverrideTarget)
    (actor : Snowflake) (overwrite : Overwrite) : Except Refusal Ruling := do
  let row ← mustCall (findChannel s channel)
  let caller ← manageOverrides s row actor ⟨.overrideSet, some (.channelOverride, target.id)⟩
  mayTarget s caller row target
  must (Resolver.checkGrant caller.channel (overwrite.allow ∪ overwrite.deny))
  let old := (caller.overwriteOf? target).getD {}
  let written : ChannelOverride := ⟨channel, row.guildId, target, overwrite, now⟩
  .ok (.plan {
    change := .putOverride written
    note := some (overrideNote row target actor .overrideSet channel old
      (logged overwrite.allow) (logged overwrite.deny))
    answer := fun _ => .override written.view })

def deleteOverride (s : Store) (channel : Snowflake) (target : OverrideTarget)
    (actor : Snowflake) : Except Refusal Ruling := do
  let row ← mustCall (findChannel s channel)
  let caller ← manageOverrides s row actor ⟨.overrideDelete, some (.channelOverride, target.id)⟩
  let old ← must (Store.need (caller.overwriteOf? target) .unknownOverride)
  mayTarget s caller row target
  refuseIf (s.override? channel target).isNone .unknownOverride
  .ok (.plan {
    change := .deleteOverride channel target
    note := some (overrideNote row target actor .overrideDelete channel old .null .null)
    answer := fun _ => .done })

end GuildAccess.Judge
