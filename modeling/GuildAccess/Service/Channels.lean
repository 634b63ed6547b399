import GuildAccess.Service.Judgement

/-!
Judging calls on channels. A lock takes the lockdown flags from the everyone role by rewriting its
override, and keeps the override it replaced on the channel; unlocking puts that one back, or
removes the override if there was none.
-/
namespace GuildAccess

/-- What the everyone role loses while a channel is locked. -/
def lockdownFlags : Permissions := .ofFlags [.sendMessages, .addReactions]

/-- The everyone override during a lock. All else that the previous one allowed or denied stays. -/
def Overwrite.lockdown (previous : Option Overwrite) : Overwrite :=
  let before := previous.getD {}
  ⟨before.allow \ lockdownFlags, before.deny ∪ lockdownFlags⟩

namespace Judge

/-- Shows a channel to a user who may view it. -/
def getChannel (s : Store) (channel user : Snowflake) : Except Refusal Ruling := do
  let row ← mustCall (findChannel s channel)
  let _ ← gate s row.guildId (some channel) user [.viewChannel]
    ⟨.channelView, some (.channel, channel)⟩
  .ok (.answer (.channel row.view))

/-- Lets a caller pass who may lock and unlock a channel. -/
def manageChannel (s : Store) (channel : Channel) (actor : Snowflake) (action : Audit.Action) :
    Except Refusal Snapshot :=
  gate s channel.guildId (some channel.id) actor [.manageChannels]
    ⟨action, some (.channel, channel.id)⟩

/-- An overwrite in the log, null if there is none. -/
def loggedOverwrite : Option Overwrite → Json
  | some o => .obj [("allow", logged o.allow), ("deny", logged o.deny)]
  | none => .null

/-- The note of a channel locked or unlocked. -/
def lockNote (channel : Channel) (id actor : Snowflake) (action : Audit.Action)
    (reason : Option String) (old new : Option Overwrite) : Note where
  guildId := channel.guildId
  actorId := actor
  attempt := ⟨action, some (.channel, id)⟩
  channelId := some id
  changes := .obj [("everyone_override", moved (loggedOverwrite old) (loggedOverwrite new))]
  reason := reason

def lockChannel (s : Store) (now : Instant) (channel actor : Snowflake) (request : Lockdown) :
    Except Refusal Ruling := do
  let row ← mustCall (findChannel s channel)
  let caller ← manageChannel s row actor .channelLock
  refuseIf row.locked .alreadyLocked
  let everyone ← must (Store.need caller.everyone? (.unknownRole row.guildId))
  let old := caller.overwriteOf? (.role everyone.id)
  let new := Overwrite.lockdown old
  let locked := row.lock old now
  .ok (.plan {
    change := .setLockdown locked everyone.id (some new)
    note := some (lockNote row channel actor .channelLock request.reason old (some new))
    answer := fun _ => .channel locked.view })

def unlockChannel (s : Store) (now : Instant) (channel actor : Snowflake) (request : Lockdown) :
    Except Refusal Ruling := do
  let row ← mustCall (findChannel s channel)
  let caller ← manageChannel s row actor .channelUnlock
  refuseIf (!row.locked) .notLocked
  let everyone ← must (Store.need caller.everyone? (.unknownRole row.guildId))
  let old := caller.overwriteOf? (.role everyone.id)
  let unlocked := row.unlock now
  .ok (.plan {
    change := .setLockdown unlocked everyone.id row.preLock
    note := some (lockNote row channel actor .channelUnlock request.reason old row.preLock)
    answer := fun _ => .channel unlocked.view })

end Judge
end GuildAccess
