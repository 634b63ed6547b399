import GuildAccess.Proofs.Relevance
import GuildAccess.Proofs.WriteSets

/-!
What edits of overrides hand out. The flags of a new override are held to those of the actor, but
the flags of the override that it replaces are not looked at, and neither are those of one that is
removed. So for the flags that the actor lacks an edit acts like a removal, and what had been denied
comes back.
-/
namespace GuildAccess

/-- Permissions of an insider in a channel; none for anybody else. -/
def Store.channelOf (s : Store) (channel user : Snowflake) : Permissions :=
  ((s.channel? channel).bind fun row =>
    (s.held row.guildId (some channel) user).toOption).getD ∅

/-- Calls of an actor that write or remove the override of a target in a channel. -/
def Call.editsOverride (channel : Snowflake) (target : OverrideTarget) (actor : Snowflake) :
    Call → Bool
  | .setOverride channel' target' actor' _ =>
    channel' = channel ∧ target' = target ∧ actor' = actor
  | .deleteOverride channel' target' actor' =>
    channel' = channel ∧ target' = target ∧ actor' = actor
  | _ => false

/-- Whether an overwrite is there and allows a flag. -/
def Overwrite.grants (o : Option Overwrite) (f : Flag) : Bool := o.any fun o => o.allow.has f

/-- Whether an overwrite is there and denies a flag. -/
def Overwrite.withholds (o : Option Overwrite) (f : Flag) : Bool := o.any fun o => o.deny.has f

/-- A layer that allows no less and denies no more lets a flag through that another let through. -/
theorem Resolver.applyOpt_carries {o o' : Option Overwrite} {q q' : Permissions} {f : Flag}
    (allows : Overwrite.grants o f = true → Overwrite.grants o' f = true)
    (denies : Overwrite.withholds o' f = true → Overwrite.withholds o f = true)
    (carried : q.has f = true → q'.has f = true) (has : (applyOpt o q).has f = true) :
    (applyOpt o' q').has f = true := by
  rw [applyOpt_has] at has ⊢
  simp only [Bool.or_eq_true, Bool.and_eq_true, Bool.not_eq_true'] at has ⊢
  rcases has with ⟨below, free⟩ | allowed
  · refine .inl ⟨carried below, Bool.eq_false_iff.mpr fun denied => ?_⟩
    have withheld : Overwrite.withholds o f = true := denies denied
    unfold Overwrite.withholds at withheld
    rw [free] at withheld
    cases withheld
  · exact .inr (allows allowed)

namespace GuildRows
variable {g : GuildRows} {guild channel user : Snowflake} {target : OverrideTarget} {f : Flag}
  {now : Instant}

/-- The rows of a guild with the override of one target in a channel written anew or removed. -/
def edit (g : GuildRows) (channel guild : Snowflake) (target : OverrideTarget) (now : Instant)
    (new : Option Overwrite) : GuildRows :=
  { g with overrides := g.withOverwrite channel guild target now new }

theorem edit_overwrite? {new : Option Overwrite} (other : OverrideTarget) :
    (g.edit channel guild target now new).overwrite? channel other =
      if other = target then new else g.overwrite? channel other := by
  unfold edit
  rw [overwrite?_withOverwrite]
  simp

theorem Keyed.edit (keyed : g.Keyed guild) (new : Option Overwrite) :
    (g.edit channel guild target now new).Keyed guild where
  guild_id := keyed.guild_id
  role_id := keyed.role_id
  channel_id := keyed.channel_id
  member_id := keyed.member_id
  entry_id := keyed.entry_id
  override_id := by
    cases new with
    | some o => exact KeyMap.insert_all keyed.override_id rfl
    | none => exact KeyMap.filter_all keyed.override_id

section
variable {new new' : Option Overwrite} (keyed : g.Keyed guild) (one : g.OneEveryone)
  (inGuild : (g.channels.get? channel).isSome = true)
include keyed one inGuild

/-- An edit changes what the layers of a user read, and not which layers there are. -/
theorem Keyed.edit_channelOf : (g.edit channel guild target now new).channelOf channel user =
    if (g.serverOf user).has .administrator then .all
    else Resolver.stack (fun other => if other = target then new else g.overwrite? channel other)
      (g.layersOf user) (g.serverOf user) := by
  rw [(keyed.edit new).channelOf_eq inGuild one,
    Resolver.stack_congr fun other _ => edit_overwrite? other]
  rfl

/-- An edit that writes what is there changes nothing. -/
theorem Keyed.edit_same :
    (g.edit channel guild target now (g.overwrite? channel target)).channelOf channel user =
      g.channelOf channel user := by
  rw [keyed.edit_channelOf one inGuild, keyed.channelOf_eq inGuild one]
  have same : ∀ other, (if other = target then g.overwrite? channel target
      else g.overwrite? channel other) = g.overwrite? channel other := by
    intro other
    split
    · next here => rw [here]
    · rfl
  simp only [same]

/-- Of two edits, one that allows no less of a flag and denies no more of it leaves it to whoever
the other one does. -/
theorem Keyed.edit_carries
    (allows : Overwrite.grants new f = true → Overwrite.grants new' f = true)
    (denies : Overwrite.withholds new' f = true → Overwrite.withholds new f = true)
    (has : ((g.edit channel guild target now new).channelOf channel user).has f = true) :
    ((g.edit channel guild target now new').channelOf channel user).has f = true := by
  rw [keyed.edit_channelOf one inGuild] at has ⊢
  cases admin : (g.serverOf user).has .administrator with
  | true => simp
  | false =>
    simp only [admin, Bool.false_eq_true, if_false] at has ⊢
    refine Resolver.stack_carries (fun other _ q q' carried layered => ?_) id has
    by_cases here : other = target
    · simp only [here, if_true] at layered ⊢
      exact Resolver.applyOpt_carries allows denies carried layered
    · simp only [here, if_false] at layered ⊢
      exact Resolver.applyOpt_carries id id carried layered

end

end GuildRows

/-- Permissions in a channel of a guild by the rows of the guild. -/
theorem Store.channelOf_rows {s : Store} {guild channel user : Snowflake} {g : GuildRows}
    {row : Channel} (indexed : s.channelIndex.get? channel = some guild)
    (known : s.tables? guild = some g.withoutLog) (stored : g.channels.get? channel = some row)
    (home : row.guildId = guild) :
    s.channelOf channel user =
      if g.hasInsider user then g.channelOf channel user else ∅ := by
  obtain ⟨found, -, -⟩ := reads_rows indexed known
  obtain ⟨g', rows, same⟩ := Option.map_eq_some_iff.mp known
  -- None of what is read here is in the log, so rows that agree without it read the same.
  have inside : g'.withoutLog.hasInsider user = g.withoutLog.hasInsider user := by rw [same]
  have inside : g'.hasInsider user = g.hasInsider user := inside
  have resolved : g'.withoutLog.channelOf channel user = g.withoutLog.channelOf channel user := by
    rw [same]
  have resolved : g'.channelOf channel user = g.channelOf channel user := resolved
  have channels : g'.withoutLog.channels = g.withoutLog.channels := by rw [same]
  have channels : g'.channels = g.channels := channels
  have stored' : (g'.channels.get? channel).isSome = true := by
    rw [channels, stored]
    rfl
  unfold channelOf held
  rw [found, stored, Option.bind_some, home,
    Judge.snapshot_of_rows rows (fun id here => Option.some.inj here ▸ stored'), inside]
  cases g.hasInsider user with
  | false => rfl
  | true => exact resolved

/-- Permissions in a channel once the override of one target is gone. -/
theorem Store.channelOf_deleteOverride {s : Store} {channel user : Snowflake}
    {target : OverrideTarget} {g : GuildRows} {row : Channel} (now : Instant)
    (indexed : s.channelIndex.get? channel = some row.guildId)
    (rows : s.guilds.get? row.guildId = some g) (stored : g.channels.get? channel = some row) :
    (s.deleteOverride channel target).channelOf channel user =
      if g.hasInsider user then
        (g.edit channel row.guildId target now none).channelOf channel user
      else ∅ := by
  have written : s.deleteOverride channel target =
      s.setRows row.guildId (g.edit channel row.guildId target now none) := by
    simp only [deleteOverride, indexed, rows]
    rfl
  have known : (s.deleteOverride channel target).tables? row.guildId =
      some (g.edit channel row.guildId target now none).withoutLog := by
    rw [written, tables?, setRows, KeyMap.get?_insert, if_pos rfl]
    rfl
  have indexed : (s.deleteOverride channel target).channelIndex.get? channel =
      some row.guildId := by
    rw [written]
    exact indexed
  exact channelOf_rows indexed known stored rfl

/-- A successful edit of an override: the actor is an insider of the channel's guild, holds all that
the new overwrite allows or denies, and the one override is written or removed. -/
structure Service.EditsOverride (service after : Service) (now : Instant) (channel : Snowflake)
    (target : OverrideTarget) (actor : Snowflake) (row : Channel) (g : GuildRows)
    (new : Option Overwrite) : Prop where
  indexed : service.store.channelIndex.get? channel = some row.guildId
  stored : g.channels.get? channel = some row
  inside : g.hasInsider actor = true
  covered : ∀ f, Overwrite.grants new f = true ∨ Overwrite.withholds new f = true →
    (g.channelOf channel actor).has f = true
  indexed' : after.store.channelIndex.get? channel = some row.guildId
  remade : service.Remakes after row.guildId g (g.edit channel row.guildId target now new)

namespace Service
variable {service after : Service} {around : Surroundings} {call : Call} {p : Plan} {store : Store}
  {channel actor user fresh : Snowflake} {target : OverrideTarget} {now : Instant} {row : Channel}
  {g : GuildRows} {new : Option Overwrite} {f : Flag}

/-- Whoever handles the overrides of a channel is an insider judged in that channel. -/
theorem passes_manageOverrides {s : Store} {attempt : Audit.Attempt} {caller : Snapshot}
    (passed : Judge.manageOverrides s row actor attempt = .ok caller)
    (rows : s.guilds.get? row.guildId = some g) :
    g.hasInsider actor = true ∧ caller = g.snapshot actor (some row.id) := by
  obtain ⟨g₀, rows₀, inside, -, same⟩ := Judge.passes_snapshot.mp (Judge.passes_gate.mp passed).1
  cases rows.symm.trans rows₀
  exact ⟨inside, same⟩

theorem setOverride_edits {overwrite : Overwrite} (keyed : service.store.Keyed)
    (planned : Judge.setOverride service.store now channel target actor overwrite = .ok (.plan p))
    (applied : service.store.apply now p.change = .ok store)
    (quiet : Quiet (service.changed p store) after) :
    ∃ row g, service.EditsOverride after now channel target actor row g (some overwrite) := by
  obtain ⟨row, caller, found, passed, -, covered, change⟩ := Judge.setOverride_plan planned
  obtain ⟨rfl, indexed, g, rows, stored⟩ := keyed.channel_stored found
  obtain ⟨inside, rfl⟩ := passes_manageOverrides passed rows
  rw [change] at applied
  have kept : store.channelIndex = service.store.channelIndex :=
    Store.apply_channelIndex applied (fun _ => nofun) (fun _ => nofun)
  have written : Store.Rewrites now service.store
      (.putOverride ⟨row.id, row.guildId, target, overwrite, now⟩) store :=
    Store.putOverride_rewrites applied
  obtain ⟨g', effect, insert⟩ := Judge.rows_written written indexed rows
  cases effect with
  | putOverride =>
    refine ⟨row, g, indexed, stored, inside, fun f gives => ?_, ?_,
      remakes_of_insert rows insert quiet.tables⟩
    · refine covered f ?_
      rw [Permissions.has_union, Bool.or_eq_true]
      exact gives
    · rw [quiet.channels]
      exact kept ▸ indexed

theorem deleteOverride_edits (keyed : service.store.Keyed)
    (planned : Judge.deleteOverride service.store channel target actor = .ok (.plan p))
    (applied : service.store.apply now p.change = .ok store)
    (quiet : Quiet (service.changed p store) after) :
    ∃ row g, service.EditsOverride after now channel target actor row g none := by
  obtain ⟨row, caller, found, passed, -, -, change⟩ := Judge.deleteOverride_plan planned
  obtain ⟨rfl, indexed, g, rows, stored⟩ := keyed.channel_stored found
  obtain ⟨inside, -⟩ := passes_manageOverrides passed rows
  rw [change] at applied
  have kept : store.channelIndex = service.store.channelIndex :=
    Store.apply_channelIndex applied (fun _ => nofun) (fun _ => nofun)
  cases applied
  have located : service.store.rowsOfChannel? row.id = some g := by
    simp [Store.rowsOfChannel?, indexed, rows]
  have written : Store.Rewrites now service.store (.deleteOverride row.id target)
      (service.store.deleteOverride row.id target) := Store.deleteOverride_rewrites located
  obtain ⟨g', effect, insert⟩ := Judge.rows_written written indexed rows
  cases effect with
  | deleteOverride =>
    refine ⟨row, g, indexed, stored, inside, ?_, ?_, remakes_of_insert rows insert quiet.tables⟩
    · rintro f (gives | withheld)
      · cases gives
      · cases withheld
    · rw [quiet.channels]
      exact kept ▸ indexed

theorem handle_editsOverride {answer : Answer} (keyed : service.store.Keyed)
    (edit : call.editsOverride channel target actor = true)
    (done : (service.handle around call).2 = .ok answer) :
    ∃ row g new, service.EditsOverride (service.handle around call).1 around.now channel target
      actor row g new := by
  rcases handle_cases service around call with ⟨⟨cause, failed⟩, -⟩ |
    ⟨ruling, judged, unplanned, -⟩ | ⟨p, store, planned, applied, -, quiet⟩
  · cases failed.symm.trans done
  · have plans : Call.OnlyPlans (call.judge service.store around
        (around.idAt (service.issued + 1))) := by
      cases call with
      | setOverride | deleteOverride => exact Call.judge_onlyPlans rfl rfl
      | _ => cases edit
    obtain ⟨p, rfl⟩ := plans ruling judged
    exact absurd rfl (unplanned p)
  · cases call with
    | setOverride channel' target' actor' overwrite =>
      obtain ⟨rfl, rfl, rfl⟩ : channel' = channel ∧ target' = target ∧ actor' = actor := by
        simpa [Call.editsOverride] using edit
      obtain ⟨row, g, edited⟩ := setOverride_edits keyed planned applied quiet
      exact ⟨row, g, _, edited⟩
    | deleteOverride channel' target' actor' =>
      obtain ⟨rfl, rfl, rfl⟩ : channel' = channel ∧ target' = target ∧ actor' = actor := by
        simpa [Call.editsOverride] using edit
      obtain ⟨row, g, edited⟩ := deleteOverride_edits keyed planned applied quiet
      exact ⟨row, g, _, edited⟩
    | _ => cases edit

section
variable (edited : service.EditsOverride after now channel target actor row g new)
include edited

/-- What users hold before an edit. -/
theorem EditsOverride.channelOf_before : service.store.channelOf channel user =
    if g.hasInsider user then g.channelOf channel user else ∅ :=
  Store.channelOf_rows edited.indexed (Store.tables?_of_rows edited.remade.before) edited.stored rfl

/-- What users hold after it. -/
theorem EditsOverride.channelOf_after : after.store.channelOf channel user =
    if g.hasInsider user then (g.edit channel row.guildId target now new).channelOf channel user
    else ∅ :=
  Store.channelOf_rows edited.indexed' edited.remade.rewritten edited.stored rfl

theorem EditsOverride.channelOf_actor :
    service.store.channelOf channel actor = g.channelOf channel actor := by
  rw [edited.channelOf_before, if_pos edited.inside]

/-- The new overwrite leaves alone what the actor lacks. -/
theorem EditsOverride.spares (lacking : (service.store.channelOf channel actor).has f = false) :
    ¬ (Overwrite.grants new f = true ∨ Overwrite.withholds new f = true) := by
  intro gives
  rw [edited.channelOf_actor, edited.covered f gives] at lacking
  cases lacking

/-- For a flag that the actor lacks an edit does what a mere removal does. -/
theorem EditsOverride.acts_like_removal (reach : service.store.Reachable)
    (lacking : (service.store.channelOf channel actor).has f = false) :
    (after.store.channelOf channel user).has f =
      ((service.store.deleteOverride channel target).channelOf channel user).has f := by
  have keyed := reach.keyed _ g edited.remade.before
  have one := reach.oneEveryone _ g edited.remade.before
  have inGuild : (g.channels.get? channel).isSome = true := by simp [edited.stored]
  have spares := edited.spares lacking
  rw [edited.channelOf_after,
    Store.channelOf_deleteOverride now edited.indexed edited.remade.before edited.stored]
  cases g.hasInsider user with
  | false => rfl
  | true =>
    rw [Bool.eq_iff_iff]
    exact ⟨keyed.edit_carries one inGuild (fun gives => absurd (.inl gives) spares) nofun,
      keyed.edit_carries one inGuild nofun (fun withheld => absurd (.inr withheld) spares)⟩

/-- A flag that is new to somebody is one that the actor holds or that was denied before. -/
theorem EditsOverride.gains (reach : service.store.Reachable)
    (has : (after.store.channelOf channel user).has f = true) :
    (service.store.channelOf channel user).has f = true ∨
      (service.store.channelOf channel actor).has f = true ∨
      Overwrite.withholds ((service.store.override? channel target).map (·.overwrite)) f =
        true := by
  have keyed := reach.keyed _ g edited.remade.before
  have one := reach.oneEveryone _ g edited.remade.before
  have inGuild : (g.channels.get? channel).isSome = true := by simp [edited.stored]
  obtain ⟨-, -, read⟩ :=
    Store.reads_rows edited.indexed (Store.tables?_of_rows edited.remade.before)
  rw [edited.channelOf_after] at has
  cases inside : g.hasInsider user with
  | false => simp [inside] at has
  | true =>
    rw [inside, if_pos rfl] at has
    rw [edited.channelOf_before, if_pos inside, edited.channelOf_actor, read]
    by_cases gives : Overwrite.grants new f = true
    · exact .inr (.inl (edited.covered f (.inl gives)))
    · by_cases withheld : Overwrite.withholds (g.overwrite? channel target) f = true
      · exact .inr (.inr withheld)
      · have kept := keyed.edit_carries one inGuild (fun given => absurd given gives)
          (fun denied => absurd denied withheld) has
        rw [keyed.edit_same one inGuild] at kept
        exact .inl kept

end

/-- For flags that the actor lacks an edit of an override acts like its removal. Whoever gains a
flag held it back by the override that was there, or the actor holds it; so nobody is given what
they and the actor lacked exactly if a mere removal gives nobody that. -/
theorem override_edit_acts_like_removal (service : Service) (around : Surroundings) (call : Call)
    (channel : Snowflake) (target : OverrideTarget) (actor : Snowflake) (answer : Answer)
    (reach : service.store.Reachable) (edit : call.editsOverride channel target actor = true)
    (done : (service.handle around call).2 = .ok answer) :
    (∀ user f, (service.store.channelOf channel actor).has f = false →
      ((service.handle around call).1.store.channelOf channel user).has f =
        ((service.store.deleteOverride channel target).channelOf channel user).has f) ∧
    (∀ user f, ((service.handle around call).1.store.channelOf channel user).has f = true →
      (service.store.channelOf channel user).has f = true ∨
        (service.store.channelOf channel actor).has f = true ∨
        Overwrite.withholds ((service.store.override? channel target).map (·.overwrite)) f =
          true) ∧
    ((∀ user f, ((service.handle around call).1.store.channelOf channel user).has f = true →
        (service.store.channelOf channel user).has f = true ∨
          (service.store.channelOf channel actor).has f = true) ↔
      ∀ user f,
        ((service.store.deleteOverride channel target).channelOf channel user).has f = true →
        (service.store.channelOf channel user).has f = true ∨
          (service.store.channelOf channel actor).has f = true) := by
  obtain ⟨row, g, new, edited⟩ := handle_editsOverride reach.keyed edit done
  have alike : ∀ user f, (service.store.channelOf channel actor).has f = false →
      ((service.handle around call).1.store.channelOf channel user).has f =
        ((service.store.deleteOverride channel target).channelOf channel user).has f :=
    fun _ _ lacking => edited.acts_like_removal reach lacking
  refine ⟨alike, fun _ _ has => edited.gains reach has, fun bounded user f has => ?_,
    fun bounded user f has => ?_⟩
  · cases lacking : (service.store.channelOf channel actor).has f with
    | true => exact .inr rfl
    | false =>
      rw [← alike user f lacking] at has
      simpa [lacking] using bounded user f has
  · cases lacking : (service.store.channelOf channel actor).has f with
    | true => exact .inr rfl
    | false =>
      rw [alike user f lacking] at has
      simpa [lacking] using bounded user f has

theorem override_edit_acts_like_removal_sample :
    ((channelSample.handle .sample (.setOverride (.wrap 20) (.member (.wrap 2)) (.wrap 2)
        {})).1.store.channelOf (.wrap 20) (.wrap 2)).has .sendMessages =
      ((Store.channelSample.deleteOverride (.wrap 20) (.member (.wrap 2))).channelOf (.wrap 20)
        (.wrap 2)).has .sendMessages := by
  obtain ⟨answer, done⟩ := answer_of_isOk channelSample .sample
    (.setOverride (.wrap 20) (.member (.wrap 2)) (.wrap 2) {}) (by decide +kernel)
  exact (override_edit_acts_like_removal channelSample .sample _ (.wrap 20) (.member (.wrap 2))
    (.wrap 2) answer Store.channelSample_reachable (by decide) (congrArg Prod.snd done)).1
    (.wrap 2) .sendMessages (by decide +kernel)

/-- The moderator of the small store, who is not its owner and may not send in the channel, removes
the override that denies it to them and may send. -/
theorem override_removal_escalates :
    Store.channelSample.Reachable ∧
    (Store.channelSample.guild? (.wrap 1)).any (·.isOwner (.wrap 2)) = false ∧
    (Store.channelSample.channelOf (.wrap 20) (.wrap 2)).has .sendMessages = false ∧
    (channelSample.handle .sample
      (.deleteOverride (.wrap 20) (.member (.wrap 2)) (.wrap 2))).2.isOk = true ∧
    ((channelSample.handle .sample
      (.deleteOverride (.wrap 20) (.member (.wrap 2)) (.wrap 2))).1.store.channelOf (.wrap 20)
        (.wrap 2)).has .sendMessages = true :=
  ⟨Store.channelSample_reachable, by decide, by decide +kernel, by decide +kernel,
    by decide +kernel⟩

end Service
end GuildAccess
