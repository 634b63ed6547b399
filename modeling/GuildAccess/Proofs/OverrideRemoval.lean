import GuildAccess.Proofs.Management
import GuildAccess.Proofs.OverrideEdits
import GuildAccess.Proofs.ReadBack

/-!
Clearing the overrides of a channel. The owner of a guild is shown every override of an unlocked
channel and may act on all targets, but on none that is not there. So a removal succeeds exactly for
a role that the guild still has or a user who still belongs to it, and then that one row is gone;
the override of one who left stays and is shown still.
-/
namespace GuildAccess

/-- Whether a target is there: a role of the guild, or the owner or a member of it. -/
def GuildRows.hasTarget (g : GuildRows) : OverrideTarget → Bool
  | .role id => (g.roles.get? id).isSome
  | .member id => g.hasInsider id

def OverrideTarget.missing : OverrideTarget → Fault
  | .role id => .unknownRole id
  | .member _ => .unknownMember

namespace GuildRows
variable {g : GuildRows} {guild owner channel : Snowflake}

/-- The owner holds every flag in every channel. -/
theorem channelOf_of_owner (owns : g.guild.isOwner owner = true) :
    g.channelOf channel owner = .all := by
  have server : (g.snapshot owner (some channel)).server = .all := if_pos owns
  unfold channelOf Snapshot.channel Resolver.channel
  rw [server, if_pos (by decide)]

/-- The role of an identifier is found among the roles by rank. -/
theorem Keyed.find?_roleList (keyed : g.Keyed guild) (id : Snowflake) :
    g.roleList.find? (fun r => r.id = id) = g.roles.get? id := by
  cases found : g.roleList.find? (fun r => r.id = id) with
  | some r =>
    have named : r.id = id := by simpa using List.find?_some found
    rw [← named, Judge.role_listed keyed (List.mem_of_find?_eq_some found)]
  | none =>
    cases stored : g.roles.get? id with
    | none => rfl
    | some r =>
      have other := List.find?_eq_none.mp found r (mem_roleList.mpr ⟨id, stored⟩)
      exact absurd (keyed.role_id id r stored) (by simpa using other)

/-- Without the override of one target, the other ones of the channel are left. -/
theorem Keyed.overridesOf_erase (keyed : g.Keyed guild) (target : OverrideTarget) :
    overridesOf { g with overrides := g.overrides.erase (channel, target) } channel =
      (g.overridesOf channel).filter (·.target ≠ target) := by
  unfold overridesOf KeyMap.rows KeyMap.erase KeyMap.filter
  rw [List.filter_filter, List.filter_map, List.filter_map, List.filter_filter]
  refine congrArg (List.map Prod.snd) (List.filter_congr ?_)
  rintro ⟨key, o⟩ listed
  have key_eq := keyed.override_id key o (KeyMap.get?_of_mem listed)
  by_cases here : o.channelId = channel <;> simp [← key_eq, here]

end GuildRows

namespace Judge
variable {s : Store} {g : GuildRows} {owner channel : Snowflake} {row : Channel}
  {target : OverrideTarget}

/-- The owner may write the override of a target that is there, in an unlocked channel of any. -/
theorem mayTarget_of_owner {scope : Option Snowflake} (keyed : g.Keyed row.guildId)
    (rows : s.guilds.get? row.guildId = some g) (owns : g.guild.isOwner owner = true)
    (unlocked : row.locked = false) (target : OverrideTarget) :
    mayTarget s (g.snapshot owner scope) row target =
      if g.hasTarget target then .ok () else .error (.error (.fault target.missing)) := by
  cases target with
  | role id =>
    show (must (Store.need (g.roleList.find? fun r => r.id = id) (.unknownRole id)) >>= _) =
      if (g.roles.get? id).isSome then _ else _
    rw [keyed.find?_roleList]
    cases g.roles.get? id with
    | none => rfl
    | some r =>
      show (if r.isEveryone then refuseIf row.locked .alreadyLocked
        else outranksPosition (g.snapshot owner scope) r.position) = .ok ()
      split
      · exact passes_refuseIf.mpr unlocked
      · exact passes_outranksPosition.mpr (.inl owns)
  | member id =>
    show (if id = owner then .ok ()
      else mustCall (outranksMember s (g.snapshot owner scope) row.guildId id)) =
      if g.hasInsider id then _ else _
    cases inside : g.hasInsider id with
    | false =>
      have other : id ≠ owner := by
        rintro rfl
        unfold GuildRows.hasInsider at inside
        rw [owns] at inside
        cases inside
      rw [if_neg other]
      unfold outranksMember
      rw [guildSnapshot_of_rows rows, inside]
      rfl
    | true =>
      split
      · rfl
      · next other =>
        exact passes_mustCall.mpr ((passes_outranksMember rows).mpr
          ⟨inside, g.outranks_of_owner owns other⟩)

end Judge

namespace Service

/-- A user owns the guild of a channel that is not locked; the guild has these rows. -/
structure OwnsUnlocked (service : Service) (channel owner : Snowflake) (row : Channel)
    (g : GuildRows) : Prop where
  reach : service.store.Reachable
  indexed : service.store.channelIndex.get? channel = some row.guildId
  rows : service.store.guilds.get? row.guildId = some g
  stored : g.channels.get? channel = some row
  unlocked : row.locked = false
  owns : g.guild.isOwner owner = true

/-- What the removal of an override comes to when the owner asks for it. -/
def removal (row : Channel) (g : GuildRows) (channel owner : Snowflake) (target : OverrideTarget) :
    Except Refusal Ruling :=
  match g.overwrite? channel target with
  | none => .error (.error (.fault .unknownOverride))
  | some old =>
    if g.hasTarget target then
      .ok (.plan {
        change := .deleteOverride channel target
        note := some (Judge.overrideNote row target owner .overrideDelete channel old .null .null)
        answer := fun _ => .done })
    else .error (.error (.fault target.missing))

/-- The owner asks to remove the overrides of some targets, one after the other. -/
def clear (service : Service) (around : Surroundings) (channel owner : Snowflake)
    (targets : List OverrideTarget) : Service :=
  targets.foldl
    (fun service target => (service.handle around (.deleteOverride channel target owner)).1) service

namespace OwnsUnlocked
variable {service after : Service} {channel owner : Snowflake} {row : Channel} {g : GuildRows}
  {target : OverrideTarget} (owned : service.OwnsUnlocked channel owner row g)

theorem of_found (reach : service.store.Reachable)
    (found : service.store.channel? channel = some row) (unlocked : row.locked = false)
    (owns : (service.store.guild? row.guildId).any (·.isOwner owner) = true) :
    ∃ g, service.OwnsUnlocked channel owner row g := by
  obtain ⟨-, indexed, g, rows, stored⟩ := reach.keyed.channel_stored found
  refine ⟨g, reach, indexed, rows, stored, unlocked, ?_⟩
  simpa [Store.guild?, rows] using owns

include owned

theorem keyed : g.Keyed row.guildId := owned.reach.keyed _ g owned.rows

theorem found : service.store.channel? channel = some row := by
  simp [Store.channel?, Store.rowsOfChannel?, owned.indexed, owned.rows, owned.stored]

theorem holds : service.store.HoldsIn channel owner Judge.overrideFlags := by
  refine ⟨row, g, owned.found, owned.rows, ?_, ?_⟩
  · unfold GuildRows.hasInsider
    rw [owned.owns, Bool.true_or]
  · rw [GuildRows.channelOf_of_owner owned.owns]
    decide

/-- The owner is shown the overrides that the guild has for the channel. -/
theorem shows : service.Replies (.listOverrides channel owner)
    (.overrides ((g.overridesOf channel).map ChannelOverride.view)) := by
  obtain ⟨home, g', indexed, rows, shown⟩ := replies_overridesOf owned.reach.keyed owned.holds
  cases indexed.symm.trans owned.indexed
  cases rows.symm.trans owned.rows
  exact shown

theorem enters : (Call.deleteOverride channel target owner).enter service.store =
    .ok (some row.guildId) := by
  show Call.channelLock service.store channel = _
  unfold Call.channelLock
  rw [Judge.passes_findChannel.mpr owned.found]
  rfl

theorem passes (attempt : Audit.Attempt) :
    Judge.manageOverrides service.store row owner attempt =
      .ok (g.snapshot owner (some channel)) := by
  have named : row.id = channel := (owned.keyed.channel_id channel row owned.stored).1
  obtain ⟨g', rows, -, passed⟩ := gate_of_holdsIn owned.reach.keyed owned.found owned.holds
  cases rows.symm.trans owned.rows
  unfold Judge.manageOverrides
  rw [named]
  exact passed

/-- The owner is judged by what is stored for the target and by whether it is there. -/
theorem judged : Judge.deleteOverride service.store channel target owner =
    removal row g channel owner target := by
  have inGuild : (g.channels.get? channel).isSome = true := by rw [owned.stored]; rfl
  have read : service.store.override? channel target = g.overrides.get? (channel, target) := by
    simp [Store.override?, Store.rowsOfChannel?, owned.indexed, owned.rows]
  unfold Judge.deleteOverride removal
  rw [Judge.findChannel_bind owned.found, owned.passes, read]
  show (Judge.must (Store.need ((g.snapshot owner (some channel)).overwriteOf? target) _) >>= _) = _
  rw [owned.keyed.overwriteOf?_eq inGuild]
  unfold GuildRows.overwrite?
  cases g.overrides.get? (channel, target) with
  | none => rfl
  | some o =>
    show (Judge.mayTarget service.store (g.snapshot owner (some channel)) row target >>= _) = _
    rw [Judge.mayTarget_of_owner owned.keyed owned.rows owned.owns owned.unlocked]
    cases g.hasTarget target <;> rfl

/-- Where the override is stored and its target is there, it is taken from the rows of the guild,
and nothing else is. -/
theorem removes (around : Surroundings) {old : Overwrite}
    (written : g.overwrite? channel target = some old) (there : g.hasTarget target = true) :
    ∃ after, service.handle around (.deleteOverride channel target owner) = (after, .ok .done) ∧
      service.Remakes after row.guildId g
        { g with overrides := g.overrides.erase (channel, target) } ∧
      ∀ kind, after.store.index kind = service.store.index kind := by
  obtain ⟨p, planned, change, answer⟩ : ∃ p, removal row g channel owner target =
      .ok (.plan p) ∧ p.change = .deleteOverride channel target ∧ p.answer = fun _ => .done := by
    unfold removal
    rw [written, there]
    exact ⟨_, rfl, rfl, rfl⟩
  have made : service.store.apply around.now p.change =
      .ok (service.store.deleteOverride channel target) := by
    rw [change]
    rfl
  obtain ⟨after, handled, same⟩ := handle_made owned.enters (owned.judged.trans planned) made
  have erased : service.store.deleteOverride channel target = service.store.setRows row.guildId
      { g with overrides := g.overrides.erase (channel, target) } := by
    simp only [Store.deleteOverride, owned.indexed, owned.rows]
  rw [erased] at same
  refine ⟨after, ?_, remakes_of_insert owned.rows rfl same.tables, fun kind => ?_⟩
  · rw [handled, answer]
  · rw [same.index]
    cases kind <;> rfl

/-- Where no override is stored or its target is not there, the store stays as it is. -/
theorem refuses (around : Surroundings) {cause : CallError}
    (refused : removal row g channel owner target = .error (.error cause)) :
    ∃ after, service.handle around (.deleteOverride channel target owner) =
      (after, .error cause) ∧ after.store = service.store :=
  ⟨_, handle_refusal owned.enters (owned.judged.trans refused), takeLock_store _⟩

/-- An owner stays one while the overrides of the guild are written. -/
theorem remade {overrides : KeyMap (Snowflake × OverrideTarget) ChannelOverride}
    (reach : after.store.Reachable)
    (remakes : service.Remakes after row.guildId g { g with overrides := overrides })
    (index : ∀ kind, after.store.index kind = service.store.index kind) :
    ∃ g', after.OwnsUnlocked channel owner row g' ∧
      g'.withoutLog = GuildRows.withoutLog { g with overrides := overrides } := by
  obtain ⟨g', rows, same⟩ := Option.map_eq_some_iff.mp remakes.rewritten
  have indexed : after.store.channelIndex = service.store.channelIndex := index .channel
  refine ⟨g', ⟨reach, indexed ▸ owned.indexed, rows, ?_, owned.unlocked, ?_⟩, same⟩
  · have channels : g'.channels = g.channels := (GuildRows.mk.inj same).2.2.1
    rw [channels, owned.stored]
  · have guild : g'.guild = g.guild := (GuildRows.mk.inj same).1
    rw [guild, owned.owns]

/-- An owner stays one while the store stays as it is. -/
theorem of_same (same : after.store = service.store) : after.OwnsUnlocked channel owner row g where
  reach := same ▸ owned.reach
  indexed := same ▸ owned.indexed
  rows := same ▸ owned.rows
  stored := owned.stored
  unlocked := owned.unlocked
  owns := owned.owns

/-- One removal leaves all overrides of the channel but that of the target, and that one too if the
target is not there. -/
theorem step (around : Surroundings) (target : OverrideTarget) :
    ∃ g', (service.handle around (.deleteOverride channel target owner)).1.OwnsUnlocked channel
        owner row g' ∧ g'.hasTarget = g.hasTarget ∧
      g'.overridesOf channel =
        (g.overridesOf channel).filter fun o => !(g.hasTarget target && o.target = target) := by
  cases there : g.hasTarget target with
  | false =>
    obtain ⟨cause, refused⟩ : ∃ cause, removal row g channel owner target =
        .error (.error cause) := by
      unfold removal
      rw [there]
      cases g.overwrite? channel target <;> exact ⟨_, rfl⟩
    obtain ⟨after, handled, same⟩ := owned.refuses around refused
    rw [handled]
    exact ⟨g, owned.of_same same, rfl, (List.filter_eq_self.mpr fun _ _ => rfl).symm⟩
  | true =>
    cases written : g.overwrite? channel target with
    | none =>
      have refused : removal row g channel owner target =
          .error (.error (.fault .unknownOverride)) := by
        unfold removal
        rw [written]
      obtain ⟨after, handled, same⟩ := owned.refuses around refused
      rw [handled]
      refine ⟨g, owned.of_same same, rfl, (List.filter_eq_self.mpr fun o listed => ?_).symm⟩
      have other : o.target ≠ target := by
        rintro rfl
        rw [GuildRows.overwrite?, owned.keyed.mem_overridesOf.mp listed] at written
        cases written
      simp [other]
    | some old =>
      obtain ⟨after, handled, remakes, index⟩ := owned.removes around written there
      have reach : after.store.Reachable := by
        have led := congrArg (·.1.store.Reachable) handled
        exact led ▸ handle_reachable owned.reach
      rw [handled]
      obtain ⟨g', owned', same⟩ := owned.remade reach remakes index
      have left : g'.overridesOf channel = GuildRows.overridesOf
          { g with overrides := g.overrides.erase (channel, target) } channel :=
        congrArg (fun rows => rows.overridesOf channel) same
      have there' : g'.withoutLog.hasTarget = g.hasTarget := by
        rw [same]
        rfl
      refine ⟨g', owned', there', ?_⟩
      rw [left, owned.keyed.overridesOf_erase target]
      simp

/-- Removals in turn leave all overrides of the channel but those of the targets that are there. -/
theorem clears (around : Surroundings) (targets : List OverrideTarget) :
    ∃ g', (service.clear around channel owner targets).OwnsUnlocked channel owner row g' ∧
      g'.overridesOf channel = (g.overridesOf channel).filter fun o =>
        !(g.hasTarget o.target && targets.contains o.target) := by
  -- One call after the other, each on the rows that those before it left.
  induction targets generalizing service g with
  | nil => exact ⟨g, owned, (List.filter_eq_self.mpr fun o _ => by simp).symm⟩
  | cons target rest ih =>
    obtain ⟨g₁, owned₁, there, left₁⟩ := owned.step around target
    obtain ⟨g', owned', left⟩ := ih owned₁
    refine ⟨g', owned', ?_⟩
    rw [left, left₁, there, List.filter_filter]
    refine List.filter_congr fun o _ => ?_
    by_cases here : o.target = target
    · subst here
      cases g.hasTarget o.target <;> simp
    · simp [here]

/-- Once the removal of all that is shown was asked for, one after the other, the overrides are
shown whose targets are not there. -/
theorem clear_keeps_the_missing (around : Surroundings) :
    (service.clear around channel owner
        (((g.overridesOf channel).map ChannelOverride.view).map (·.target))).Replies
      (.listOverrides channel owner) (.overrides
        (((g.overridesOf channel).map ChannelOverride.view).filter
          fun view => !g.hasTarget view.target)) := by
  obtain ⟨g', owned', left⟩ := owned.clears around
    (((g.overridesOf channel).map ChannelOverride.view).map (·.target))
  have kept : (g'.overridesOf channel).map ChannelOverride.view =
      ((g.overridesOf channel).map ChannelOverride.view).filter
        fun view => !g.hasTarget view.target := by
    rw [left, List.filter_map]
    refine congrArg (List.map _) (List.filter_congr fun o listed => ?_)
    have named : o.target ∈ ((g.overridesOf channel).map ChannelOverride.view).map (·.target) :=
      List.mem_map_of_mem (List.mem_map_of_mem listed)
    rw [List.contains_iff_mem.mpr named, Bool.and_true]
    rfl
  exact kept ▸ owned'.shows

end OwnsUnlocked

/-- The owner removes what can be removed. Whoever owns the guild of an unlocked channel is shown
exactly the overrides that are stored for it. Asking for the removal of one that is shown succeeds
if its target is a role of the guild, a member or the owner: then that override is gone, and no
other row of any guild has changed. If the target is not there, that is what the owner is told, and
the override stays and is shown still. So asking for the removal of all that is shown, one after the
other, leaves the overrides whose targets are not there. -/
theorem owner_removes_what_is_there (service : Service) (around : Surroundings)
    (channel owner : Snowflake) (row : Channel) (reach : service.store.Reachable)
    (found : service.store.channel? channel = some row) (unlocked : row.locked = false)
    (owns : (service.store.guild? row.guildId).any (·.isOwner owner) = true) :
    ∃ g views, service.store.guilds.get? row.guildId = some g ∧
      service.Replies (.listOverrides channel owner) (.overrides views) ∧
      (∀ view, view ∈ views ↔
        ∃ o, g.overrides.get? (channel, view.target) = some o ∧ o.view = view) ∧
      (service.clear around channel owner (views.map (·.target))).Replies
        (.listOverrides channel owner)
        (.overrides (views.filter fun view => !g.hasTarget view.target)) ∧
      ∀ view ∈ views,
        (g.hasTarget view.target = true → ∃ after,
          service.handle around (.deleteOverride channel view.target owner) = (after, .ok .done) ∧
          service.Remakes after row.guildId g
            { g with overrides := g.overrides.erase (channel, view.target) } ∧
          (∀ kind, after.store.index kind = service.store.index kind) ∧
          after.Replies (.listOverrides channel owner)
            (.overrides (views.filter (·.target ≠ view.target)))) ∧
        (g.hasTarget view.target = false → ∃ after,
          service.handle around (.deleteOverride channel view.target owner) =
            (after, .error (.fault view.target.missing)) ∧
          after.store = service.store ∧
          after.Replies (.listOverrides channel owner) (.overrides views)) := by
  obtain ⟨g, owned⟩ := OwnsUnlocked.of_found reach found unlocked owns
  refine ⟨g, _, owned.rows, owned.shows, fun view => ?_, owned.clear_keeps_the_missing around,
    fun view shown => ?_⟩
  · rw [List.mem_map]
    constructor
    · rintro ⟨o, listed, rfl⟩
      exact ⟨o, owned.keyed.mem_overridesOf.mp listed, rfl⟩
    · rintro ⟨o, stored, rfl⟩
      exact ⟨o, owned.keyed.mem_overridesOf.mpr stored, rfl⟩
  obtain ⟨o, listed, rfl⟩ := List.mem_map.mp shown
  have written : g.overwrite? channel o.view.target = some o.overwrite :=
    congrArg (Option.map _) (owned.keyed.mem_overridesOf.mp listed)
  constructor
  · intro there
    obtain ⟨after, handled, remakes, index⟩ := owned.removes around written there
    obtain ⟨g', owned', -, left⟩ := owned.step around o.view.target
    rw [handled] at owned'
    refine ⟨after, handled, remakes, index, ?_⟩
    have left : (g'.overridesOf channel).map ChannelOverride.view =
        ((g.overridesOf channel).map ChannelOverride.view).filter (·.target ≠ o.view.target) := by
      rw [left, there, List.filter_map]
      refine congrArg (List.map _) (List.filter_congr fun o' _ => ?_)
      by_cases here : o'.target = o.target <;> simp [ChannelOverride.view, here]
    exact left ▸ owned'.shows
  · intro gone
    have refused : removal row g channel owner o.view.target =
        .error (.error (.fault o.view.target.missing)) := by
      unfold removal
      rw [written, gone]
      rfl
    obtain ⟨after, handled, same⟩ := owned.refuses around refused
    exact ⟨after, handled, same, (owned.of_same same).shows⟩

/-- A channel with an override for role 10 and one for user 2, who has left the guild since. -/
def departed : Service :=
  let id := Snowflake.wrap
  let now : Instant := ⟨0, 0⟩
  ⟨Store.channelSample.commitAll now [
    .putOverride ⟨id 20, id 1, .role (id 10), ⟨.only .speak, ∅⟩, now⟩,
    .deleteMember (id 1) (id 2)], 0, .empty⟩

theorem departed_reachable : departed.store.Reachable :=
  Store.channelSample_reachable.commitAll _ _

/-- The owner removes the override of the role, and not the one of the user. -/
theorem owner_removes_what_is_there_sample :
    let list := Call.listOverrides (.wrap 20) (.wrap 1)
    departed.store.Reachable ∧
      ∃ views, departed.Replies list (.overrides views) ∧
        views.map (·.target) = [.member (.wrap 2), .role (.wrap 10)] ∧
        (∃ after, departed.handle .sample
            (.deleteOverride (.wrap 20) (.role (.wrap 10)) (.wrap 1)) = (after, .ok .done) ∧
          after.Replies list (.overrides (views.filter (·.target ≠ .role (.wrap 10))))) ∧
        ∃ after, departed.handle .sample
            (.deleteOverride (.wrap 20) (.member (.wrap 2)) (.wrap 1)) =
              (after, .error (.fault .unknownMember)) ∧
          after.Replies list (.overrides views) := by
  intro list
  obtain ⟨g, views, rows, shown, -, -, removals⟩ := owner_removes_what_is_there departed .sample
    (.wrap 20) (.wrap 1) (.new (.wrap 20) (.wrap 1) "hall" .text ⟨0, 0⟩) departed_reachable
    (by decide +kernel) rfl (by decide +kernel)
  have there : (departed.store.guilds.get? (.wrap 1)).all (fun g =>
      g.hasTarget (.role (.wrap 10)) && !g.hasTarget (.member (.wrap 2))) = true := by
    decide +kernel
  rw [show departed.store.guilds.get? (.wrap 1) = some g from rows, Option.all_some,
    Bool.and_eq_true, Bool.not_eq_true'] at there
  have told : views = [⟨.wrap 20, .member (.wrap 2), ⟨∅, .only .sendMessages⟩, ⟨0, 0⟩⟩,
      ⟨.wrap 20, .role (.wrap 10), ⟨.only .speak, ∅⟩, ⟨0, 0⟩⟩] := by
    have listed := (shown .sample).symm.trans rfl
    cases listed
    rfl
  subst told
  obtain ⟨removed, -⟩ := removals _ (List.mem_cons_of_mem _ List.mem_cons_self)
  obtain ⟨-, refused⟩ := removals _ List.mem_cons_self
  obtain ⟨after, done, -, -, left⟩ := removed there.1
  obtain ⟨after', failed, -, same⟩ := refused there.2
  exact ⟨departed_reachable, _, shown, rfl, ⟨after, done, left⟩, after', failed, same⟩

/-- User 2 has left the guild, and the owner is shown the override that is for them in a channel
that is not locked, but cannot remove it. -/
theorem departed_member_override_stays :
    let gone : OverrideView := ⟨.wrap 20, .member (.wrap 2), ⟨∅, .only .sendMessages⟩, ⟨0, 0⟩⟩
    let remove := Call.deleteOverride (.wrap 20) gone.target (.wrap 1)
    departed.store.Reachable ∧
      (departed.store.channel? (.wrap 20)).any (fun c => c.guildId = .wrap 1 ∧ ¬ c.locked) = true ∧
      (departed.store.guild? (.wrap 1)).any (·.isOwner (.wrap 1)) = true ∧
      (∃ views, departed.Replies (.listOverrides (.wrap 20) (.wrap 1)) (.overrides views) ∧
        gone ∈ views) ∧
      (departed.handle .sample remove).2 = .error (.fault .unknownMember) ∧
      ∃ o, (departed.handle .sample remove).1.store.override? (.wrap 20) gone.target = some o ∧
        o.view = gone :=
  ⟨departed_reachable, by decide +kernel, by decide +kernel,
    ⟨_, fun _ => rfl, List.mem_cons_self⟩, rfl, _, rfl, rfl⟩

end Service
end GuildAccess
