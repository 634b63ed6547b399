import GuildAccess.Proofs.Layers
import GuildAccess.Proofs.RoleFields
import GuildAccess.Proofs.Success

/-!
Callers read what they wrote. A call answers from its own copy of the row that it changes, while the
store keeps some fields and rewrites others; the answer is nevertheless what everyone who may look
at the row is shown next, field by field. That holds for calls that found nothing to change too.
-/
namespace GuildAccess

def Store.HasInsider (s : Store) (guild user : Snowflake) : Prop :=
  ∃ g, s.guilds.get? guild = some g ∧ g.hasInsider user = true

/-- Whether an insider holds one of the flags in a channel. -/
def Store.HoldsIn (s : Store) (channel user : Snowflake) (flags : List Flag) : Prop :=
  ∃ row g, s.channel? channel = some row ∧ s.guilds.get? row.guildId = some g ∧
    g.hasInsider user = true ∧ flags.any (g.channelOf channel user).has = true

/-- A call succeeds with an answer, whatever it finds around it. -/
def Service.Replies (service : Service) (call : Call) (answer : Answer) : Prop :=
  ∀ around, (service.handle around call).2 = .ok answer

/-- What readers are shown after a call that succeeded with an answer. Members and the roles of a
guild are shown to insiders, a channel to those who may view it, and its overrides to those who may
edit them. A call that answers with no row is read back by nobody. -/
def Call.ReadBack (after : Service) (answer : Answer) : Call → Prop
  | .createRole guild _ _ =>
    ∃ view, answer = .role view ∧ after.Replies (.getRole guild view.id) answer
  | .updateRole guild role _ _ => after.Replies (.getRole guild role) answer
  | .toggleFlag guild role _ _ => after.Replies (.getRole guild role) answer
  | .reorderRoles guild _ _ => ∀ reader, after.store.HasInsider guild reader →
    after.Replies (.listRoles guild reader) answer
  | .join guild user => ∀ reader, after.store.HasInsider guild reader →
    after.Replies (.getMember guild user reader) answer
  | .assignRole guild user _ _ => ∀ reader, after.store.HasInsider guild reader →
    after.Replies (.getMember guild user reader) answer
  | .unassignRole guild user _ _ => ∀ reader, after.store.HasInsider guild reader →
    after.Replies (.getMember guild user reader) answer
  | .setOverride channel target _ _ => ∃ view, answer = .override view ∧ view.target = target ∧
    ∀ reader, after.store.HoldsIn channel reader Judge.overrideFlags →
      ∃ views, after.Replies (.listOverrides channel reader) (.overrides views) ∧
        views.filter (·.target = target) = [view]
  | .lockChannel channel _ _ => ∀ reader, after.store.HoldsIn channel reader [.viewChannel] →
    after.Replies (.getChannel channel reader) answer
  | .unlockChannel channel _ _ => ∀ reader, after.store.HoldsIn channel reader [.viewChannel] →
    after.Replies (.getChannel channel reader) answer
  | _ => True

section Rows
variable {α : Type} {p : α → Bool} {xs : List α} {a : α}

/-- A test that one item of a list without repetitions passes leaves that item. -/
theorem filter_eq_singleton (distinct : xs.Nodup) (only : ∀ x, x ∈ xs ∧ p x = true ↔ x = a) :
    xs.filter p = [a] := by
  refine List.perm_singleton.mp ((List.perm_ext_iff_of_nodup (distinct.filter p) (by simp)).mpr ?_)
  intro x
  rw [List.mem_filter, only, List.mem_singleton]

end Rows

/-- No override is listed twice. -/
theorem GuildRows.Keyed.overridesOf_nodup {guild : Snowflake} {g : GuildRows}
    (keyed : g.Keyed guild) (channel : Snowflake) : (g.overridesOf channel).Nodup := by
  have apart : (g.overrides.rows.map fun o => (o.channelId, o.target)).Nodup :=
    g.overrides.rows_distinct keyed.override_id
  have distinct : g.overrides.rows.Nodup := (List.pairwise_map.mp apart).imp fun apart same =>
    apart (congrArg (fun o : ChannelOverride => (o.channelId, o.target)) same)
  exact List.Pairwise.filter _ distinct

namespace Service
variable {service : Service} {guild id user channel reader : Snowflake}

/-- A call that asks replies as it is judged. -/
theorem replies_of_judge {call : Call} {answer : Answer}
    (asks : call.enter service.store = .ok none)
    (judged : ∀ around fresh, call.judge service.store around fresh = .ok (.answer answer)) :
    service.Replies call answer := by
  intro around
  unfold handle
  rw [asks]
  show (service.settle around (call.judge service.store around _)).2 = _
  rw [judged]
  rfl

theorem replies_getRole {r : Role} (found : service.store.role? id = some r)
    (home : r.guildId = guild) : service.Replies (.getRole guild id) (.role r.view) :=
  replies_of_judge rfl fun _ _ => passes_bind.mpr
    ⟨r, Judge.passes_mustCall.mpr (Judge.passes_findRole.mpr ⟨found, home⟩), rfl⟩

/-- An insider is judged on the rows of the guild. -/
theorem snapshot_of_insider (inside : service.store.HasInsider guild reader) :
    ∃ g, service.store.guilds.get? guild = some g ∧
      Judge.mustCall (Judge.snapshot service.store guild reader none) =
        .ok (g.snapshot reader none) := by
  obtain ⟨g, rows, inside⟩ := inside
  exact ⟨g, rows, Judge.passes_mustCall.mpr (Judge.passes_snapshot.mpr
    ⟨g, rows, inside, by simp, rfl⟩)⟩

theorem replies_listRoles (inside : service.store.HasInsider guild reader) :
    service.Replies (.listRoles guild reader)
      (.roles ((service.store.roleList guild).map Role.view)) := by
  obtain ⟨g, rows, taken⟩ := snapshot_of_insider inside
  have listed : service.store.roleList guild = g.roleList := by simp [Store.roleList, rows]
  rw [listed]
  exact replies_of_judge rfl fun _ _ => passes_bind.mpr ⟨_, taken, rfl⟩

theorem replies_getMember {m : Member} (listed : service.store.member? guild user = some m)
    (inside : service.store.HasInsider guild reader) :
    service.Replies (.getMember guild user reader) (.member m.view) := by
  obtain ⟨g, rows, taken⟩ := snapshot_of_insider inside
  exact replies_of_judge rfl fun _ _ => passes_bind.mpr ⟨_, taken, passes_bind.mpr
    ⟨m, Judge.passes_must.mpr (Store.passes_need.mpr listed), rfl⟩⟩

/-- Who holds one of the flags in a channel passes its gate, judged on the rows of the guild. -/
theorem gate_of_holdsIn {flags : List Flag} {row : Channel} {attempt : Audit.Attempt}
    (keyed : service.store.Keyed) (found : service.store.channel? channel = some row)
    (holds : service.store.HoldsIn channel reader flags) :
    ∃ g, service.store.guilds.get? row.guildId = some g ∧ g.channels.get? channel = some row ∧
      Judge.gate service.store row.guildId (some channel) reader flags attempt =
        .ok (g.snapshot reader (some channel)) := by
  obtain ⟨row', g, found', rows, inside, held⟩ := holds
  cases found.symm.trans found'
  obtain ⟨-, -, g', rows', stored⟩ := keyed.channel_stored found
  cases rows.symm.trans rows'
  refine ⟨g, rows, stored, Judge.passes_gate.mpr ⟨Judge.passes_snapshot.mpr
    ⟨g, rows, inside, ?_, rfl⟩, .inr held⟩⟩
  rintro _ ⟨⟩
  rw [stored]
  rfl

theorem replies_getChannel {row : Channel} (keyed : service.store.Keyed)
    (found : service.store.channel? channel = some row)
    (holds : service.store.HoldsIn channel reader [.viewChannel]) :
    service.Replies (.getChannel channel reader) (.channel row.view) := by
  refine replies_of_judge rfl fun _ _ => passes_bind.mpr
    ⟨row, Judge.passes_mustCall.mpr (Judge.passes_findChannel.mpr found), ?_⟩
  obtain ⟨g, -, -, passed⟩ := gate_of_holdsIn keyed found holds
  exact passes_bind.mpr ⟨_, passed, rfl⟩

/-- Who may edit the overrides of a channel is shown those that the guild has for it. -/
theorem replies_overridesOf (keyed : service.store.Keyed)
    (holds : service.store.HoldsIn channel reader Judge.overrideFlags) :
    ∃ home g, service.store.channelIndex.get? channel = some home ∧
      service.store.guilds.get? home = some g ∧
      service.Replies (.listOverrides channel reader)
        (.overrides ((g.overridesOf channel).map ChannelOverride.view)) := by
  obtain ⟨row, -, found, -⟩ := id holds
  obtain ⟨row_id, indexed, -⟩ := keyed.channel_stored found
  obtain ⟨g, rows, inGuild, passed⟩ := gate_of_holdsIn keyed found holds
  have loaded : (g.snapshot reader (some channel)).overrides = g.overridesOf channel :=
    (keyed _ g rows).overridesIn_eq (by rw [inGuild]; rfl)
  refine ⟨row.guildId, g, indexed, rows, replies_of_judge rfl fun _ _ => passes_bind.mpr
    ⟨row, Judge.passes_mustCall.mpr (Judge.passes_findChannel.mpr found), ?_⟩⟩
  unfold Judge.manageOverrides
  rw [row_id]
  exact passes_bind.mpr ⟨_, passed, by rw [loaded]⟩

/-- Among the overrides listed, the one for a target is the one that is stored. -/
theorem replies_listOverrides {o : ChannelOverride} {target : OverrideTarget}
    (keyed : service.store.Keyed) (stored : service.store.override? channel target = some o)
    (holds : service.store.HoldsIn channel reader Judge.overrideFlags) :
    ∃ views, service.Replies (.listOverrides channel reader) (.overrides views) ∧
      views.filter (·.target = target) = [o.view] := by
  obtain ⟨home, g, indexed, rows, shown⟩ := replies_overridesOf keyed holds
  have kept : g.Keyed home := keyed _ g rows
  have stored : g.overrides.get? (channel, target) = some o := by
    simpa [Store.override?, Store.rowsOfChannel?, indexed, rows] using stored
  refine ⟨_, shown, ?_⟩
  have single : (g.overridesOf channel).filter (·.target = target) = [o] := by
    refine filter_eq_singleton (kept.overridesOf_nodup channel) fun o' => ?_
    rw [kept.mem_overridesOf, decide_eq_true_eq]
    constructor
    · rintro ⟨listed, rfl⟩
      exact Option.some.inj (listed.symm.trans stored)
    · rintro rfl
      have key := kept.override_id _ o' stored
      have here : o'.target = target := congrArg Prod.snd key
      exact ⟨here ▸ stored, here⟩
  have filtered := congrArg (List.map ChannelOverride.view) single
  rw [List.filter_map]
  exact filtered

end Service

/-- An edit of a role finds the row as it is wanted and tells it, or plans to store the row that it
tells. The row keeps what an update of the store would not change. -/
def Ruling.Edits (s : Store) (id : Snowflake) (row : Role) (ruling : Ruling) : Prop :=
  (s.role? id = some row ∧ ruling = .answer (.role row.view)) ∨
    ∃ before, s.role? id = some before ∧ row.id = before.id ∧
      { row with guildId := before.guildId, isEveryone := before.isEveryone,
                 createdAt := before.createdAt } = row ∧
      ruling.Plans (.updateRole row) fun _ => .role row.view

/-- The row that an edit tells is the one stored afterwards. -/
theorem Ruling.Edits.stored {s after : Store} {id : Snowflake} {row : Role} {ruling : Ruling}
    {now : Instant} {answer : Answer} (edits : ruling.Edits s id row) (keyed : s.Keyed)
    (carried : ruling.CarriedOut now s after answer) :
    answer = .role row.view ∧ after.role? id = some row := by
  rcases edits with ⟨found, rfl⟩ | ⟨before, found, named, fixed, plans⟩
  · cases carried
    exact ⟨rfl, found⟩
  · obtain ⟨store, done, told, same⟩ := plans.carriedOut carried
    have here : row.id = id := named.trans (keyed.role_stored found).1
    subst here
    obtain ⟨before', found', written⟩ := Store.updateRole_reads done
    cases found.symm.trans found'
    rw [same.role?, written, fixed]
    exact ⟨told, rfl⟩

namespace Judge
variable {s : Store} {now : Instant} {guild id user role actor fresh channel : Snowflake}
  {ruling : Ruling}

theorem createRole_plans {request : CreateRole}
    (ruled : createRole s now fresh guild actor request = .ok ruling) :
    ruling.Plans (.createRole (newRole guild fresh request now))
      fun _ => .role (newRole guild fresh request now).view := by
  unfold createRole at ruled
  simp only [passes_bind, Except.ok.injEq] at ruled
  obtain ⟨_, -, _, -, _, -, rfl⟩ := ruled
  exact ⟨_, rfl, rfl, rfl⟩

/-- A request that finds nothing to change shows the role as it is. -/
theorem view_of_noChanges {before : Role} {request : UpdateRole}
    (none : roleChanges before (updatedRole before request now) = []) :
    (updatedRole before request now).view = before.view := by
  rw [roleChanges_eq, List.map_eq_nil_iff] at none
  exact (updatedRole_elsewhere before request now).view_eq fun f =>
    (Role.differing_eq_nil.mp none f).symm

theorem updateRole_edits {request : UpdateRole}
    (ruled : updateRole s now guild id actor request = .ok ruling) :
    ∃ row, ruling.Edits s id row ∧ row.guildId = guild := by
  unfold updateRole at ruled
  simp only [passes_bind, passes_mustCall, passes_findRole] at ruled
  obtain ⟨_, -, before, ⟨found, rfl⟩, _, -, _, -, _, -, ruled⟩ := ruled
  have fixed := updatedRole_fixed before request now
  split at ruled
  · next none =>
    cases ruled
    have same := view_of_noChanges (by simpa using none)
    exact ⟨before, .inl ⟨found, by rw [same]⟩, rfl⟩
  · cases ruled
    exact ⟨_, .inr ⟨before, found, (updatedRole_kept before request now).1, fixed, _, rfl, rfl,
      rfl⟩, (congrArg Role.guildId fixed).symm⟩

/-- The row that toggling a flag leaves: none other if the flag is as it is wanted. -/
def toggledRole (before : Role) (request : ToggleFlag) (now : Instant) : Role :=
  if before.permissions.set request.flag request.enabled = before.permissions then before
  else before.setPermissions (before.permissions.set request.flag request.enabled) now

theorem toggleFlag_edits {request : ToggleFlag}
    (ruled : toggleFlag s now guild id actor request = .ok ruling) :
    ∃ before, s.role? id = some before ∧ before.guildId = guild ∧
      ruling.Edits s id (toggledRole before request now) := by
  unfold toggleFlag at ruled
  simp only [passes_bind, passes_mustCall, passes_findRole] at ruled
  obtain ⟨_, -, before, ⟨found, home⟩, _, -, _, -, ruled⟩ := ruled
  refine ⟨before, found, home, ?_⟩
  unfold toggledRole
  split at ruled
  · next idle =>
    cases ruled
    rw [if_pos idle]
    exact .inl ⟨found, rfl⟩
  · next changed =>
    cases ruled
    rw [if_neg changed]
    exact .inr ⟨before, found, rfl, rfl, _, rfl, rfl, rfl⟩

theorem reorderRoles_plans {request : ReorderRoles}
    (ruled : reorderRoles s guild actor request = .ok ruling) :
    ∃ positions, ruling.Plans (.setPositions guild positions)
      fun after => .roles ((after.roleList guild).map Role.view) := by
  unfold reorderRoles at ruled
  simp only [passes_bind, Except.ok.injEq] at ruled
  obtain ⟨_, -, moves, -, rfl⟩ := ruled
  exact ⟨_, _, rfl, rfl, rfl⟩

theorem join_plans (ruled : join s now guild user = .ok ruling) :
    ruling.Plans (.createMember (.new guild user now))
      fun _ => .member (Member.new guild user now).view := by
  unfold join at ruled
  simp only [passes_bind, Except.ok.injEq] at ruled
  obtain ⟨_, -, _, -, rfl⟩ := ruled
  exact ⟨_, rfl, rfl, rfl⟩

theorem assignRole_plans (ruled : assignRole s now guild user role actor = .ok ruling) :
    ∃ member, s.member? guild user = some member ∧ ruling.Plans (.assignRole guild user role)
      fun _ => .member (member.addRole role now).view := by
  unfold assignRole at ruled
  simp only [passes_bind, Except.ok.injEq] at ruled
  obtain ⟨member, passed, _, -, rfl⟩ := ruled
  obtain ⟨_, _, -, -, -, -, -, -, listed⟩ := passes_changeRoleOf passed
  exact ⟨member, listed, _, rfl, rfl, rfl⟩

theorem unassignRole_plans (ruled : unassignRole s now guild user role actor = .ok ruling) :
    ∃ member, s.member? guild user = some member ∧ ruling.Plans (.unassignRole guild user role)
      fun _ => .member (member.removeRole role now).view := by
  unfold unassignRole at ruled
  rw [passes_bind] at ruled
  obtain ⟨member, passed, ruled⟩ := ruled
  obtain ⟨_, _, -, -, -, -, -, -, listed⟩ := passes_changeRoleOf passed
  split at ruled
  · cases ruled
    exact ⟨member, listed, _, rfl, rfl, rfl⟩
  · cases ruled

theorem setOverride_plans {target : OverrideTarget} {overwrite : Overwrite}
    (ruled : setOverride s now channel target actor overwrite = .ok ruling) :
    ∃ o : ChannelOverride, o.channelId = channel ∧ o.target = target ∧
      ruling.Plans (.putOverride o) fun _ => .override o.view := by
  unfold setOverride at ruled
  simp only [passes_bind, Except.ok.injEq] at ruled
  obtain ⟨row, -, _, -, _, -, _, -, rfl⟩ := ruled
  exact ⟨⟨channel, row.guildId, target, overwrite, now⟩, rfl, rfl, _, rfl, rfl, rfl⟩

/-- What a lock and an unlock have in common: the row told is the one found with another lock. -/
def PlansLock (s : Store) (channel : Snowflake) (ruling : Ruling) : Prop :=
  ∃ row locked everyone overwrite, s.channel? channel = some row ∧
    { row with locked := locked.locked, preLock := locked.preLock,
               updatedAt := locked.updatedAt } = locked ∧
    ruling.Plans (.setLockdown locked everyone overwrite) fun _ => .channel locked.view

theorem lockChannel_plans {request : Lockdown}
    (ruled : lockChannel s now channel actor request = .ok ruling) :
    PlansLock s channel ruling := by
  unfold lockChannel at ruled
  simp only [passes_bind, passes_mustCall, passes_findChannel, Except.ok.injEq] at ruled
  obtain ⟨row, found, _, -, _, -, _, -, rfl⟩ := ruled
  exact ⟨row, _, _, _, found, rfl, _, rfl, rfl, rfl⟩

theorem unlockChannel_plans {request : Lockdown}
    (ruled : unlockChannel s now channel actor request = .ok ruling) :
    PlansLock s channel ruling := by
  unfold unlockChannel at ruled
  simp only [passes_bind, passes_mustCall, passes_findChannel, Except.ok.injEq] at ruled
  obtain ⟨row, found, _, -, _, -, _, -, rfl⟩ := ruled
  exact ⟨row, _, _, _, found, rfl, _, rfl, rfl, rfl⟩

/-- The channel that a lock or an unlock tells is the one stored afterwards. -/
theorem PlansLock.stored {after : Store} {answer : Answer} (plans : PlansLock s channel ruling)
    (keyed : s.Keyed) (carried : ruling.CarriedOut now s after answer) :
    ∃ row, answer = .channel row.view ∧ after.channel? channel = some row := by
  obtain ⟨row, locked, everyone, overwrite, found, fixed, plans⟩ := plans
  obtain ⟨store, done, told, same⟩ := plans.carriedOut carried
  have here : locked.id = channel := by
    rw [← fixed]
    exact (keyed.channel_stored found).1
  subst here
  obtain ⟨row', found', written⟩ := Store.setLockdown_reads done
  cases found.symm.trans found'
  exact ⟨locked, told, by rw [same.channel?, written, fixed]⟩

end Judge

namespace Service
variable {service after : Service} {around : Surroundings} {call : Call} {answer : Answer}

/-- The member that a call tells is shown to insiders, if it is the one that the change stored. -/
theorem member_shown {before : Store} {now : Instant} {ruling : Ruling} {change : Store.Change}
    {guild user : Snowflake} {member : Member}
    (plans : ruling.Plans change fun _ => .member member.view)
    (carried : ruling.CarriedOut now before after.store answer)
    (reads : ∀ store, before.apply now change = .ok store →
      store.member? guild user = some member) :
    ∀ reader, after.store.HasInsider guild reader →
      after.Replies (.getMember guild user reader) answer := by
  obtain ⟨store, made, rfl, same⟩ := plans.carriedOut carried
  refine fun reader inside => replies_getMember ?_ inside
  rw [same.member?]
  exact reads store made

/-- Whatever a successful call answers is what readers are shown next. -/
theorem answers_read_back (reach : service.store.Reachable)
    (done : service.handle around call = (after, .ok answer)) : call.ReadBack after answer := by
  have keyed := reach.keyed
  have keyed' : after.store.Keyed := by
    have reach' : (service.handle around call).1.store.Reachable := handle_reachable reach
    rw [done] at reach'
    exact reach'.keyed
  obtain ⟨ruling, ruled, carried⟩ := handle_ok done
  cases call with
  | createRole guild actor request =>
    obtain ⟨store, made, told, same⟩ := (Judge.createRole_plans ruled).carriedOut carried
    refine ⟨_, told, ?_⟩
    rw [told]
    refine replies_getRole ?_ rfl
    rw [same.role?]
    exact Store.createRole_reads made
  | updateRole guild role actor request =>
    obtain ⟨row, edits, home⟩ := Judge.updateRole_edits ruled
    obtain ⟨rfl, stored⟩ := edits.stored keyed carried
    exact replies_getRole stored home
  | toggleFlag guild role actor request =>
    obtain ⟨before, -, home, edits⟩ := Judge.toggleFlag_edits ruled
    obtain ⟨rfl, stored⟩ := edits.stored keyed carried
    refine replies_getRole stored ?_
    unfold Judge.toggledRole
    split <;> exact home
  | reorderRoles guild actor request =>
    obtain ⟨positions, plans⟩ := Judge.reorderRoles_plans ruled
    obtain ⟨store, -, rfl, same⟩ := plans.carriedOut carried
    intro reader inside
    rw [← same.roleList]
    exact replies_listRoles inside
  | join guild user =>
    exact member_shown (Judge.join_plans ruled) carried fun _ => Store.createMember_reads
  | assignRole guild user role actor =>
    obtain ⟨member, listed, plans⟩ := Judge.assignRole_plans ruled
    exact member_shown plans carried fun _ => Store.assignRole_reads listed
  | unassignRole guild user role actor =>
    obtain ⟨member, listed, plans⟩ := Judge.unassignRole_plans ruled
    exact member_shown plans carried fun _ => Store.unassignRole_reads listed
  | setOverride channel target actor overwrite =>
    obtain ⟨o, rfl, rfl, plans⟩ := Judge.setOverride_plans ruled
    obtain ⟨store, made, told, same⟩ := plans.carriedOut carried
    refine ⟨o.view, told, rfl, fun reader holds => replies_listOverrides keyed' ?_ holds⟩
    rw [same.override?]
    exact Store.putOverride_reads made
  | lockChannel channel actor request =>
    obtain ⟨row, rfl, stored⟩ := (Judge.lockChannel_plans ruled).stored keyed carried
    exact fun reader holds => replies_getChannel keyed' stored holds
  | unlockChannel channel actor request =>
    obtain ⟨row, rfl, stored⟩ := (Judge.unlockChannel_plans ruled).stored keyed carried
    exact fun reader holds => replies_getChannel keyed' stored holds
  | _ => trivial

/-- The owner gives user 3 the role 11 and reads it back, and reads back the override that replaces
the one of user 2. -/
theorem answers_read_back_sample :
    let owner := Snowflake.wrap 1
    let assign := Call.assignRole (.wrap 1) (.wrap 3) (.wrap 11) owner
    let assigned := (sample.handle .sample assign).1
    let set := Call.setOverride (.wrap 20) (.member (.wrap 2)) owner ⟨.only .speak, ∅⟩
    let written := (channelSample.handle .sample set).1
    (∃ answer, sample.handle .sample assign = (assigned, .ok answer) ∧
      assigned.store.HasInsider (.wrap 1) owner ∧
      assigned.Replies (.getMember (.wrap 1) (.wrap 3) owner) answer) ∧
    ∃ answer, channelSample.handle .sample set = (written, .ok answer) ∧
      written.store.HoldsIn (.wrap 20) owner Judge.overrideFlags ∧
      ∃ view views, answer = .override view ∧
        written.Replies (.listOverrides (.wrap 20) owner) (.overrides views) ∧
        views.filter (·.target = .member (.wrap 2)) = [view] := by
  intro owner assign assigned set written
  constructor
  · obtain ⟨answer, done⟩ := answer_of_isOk sample .sample assign (by decide +kernel)
    have inside : assigned.store.HasInsider (.wrap 1) owner :=
      (Option.any_eq_true _ _).mp (by decide +kernel)
    exact ⟨answer, done, inside, answers_read_back Store.sample_reachable done owner inside⟩
  · obtain ⟨answer, done⟩ := answer_of_isOk channelSample .sample set (by decide +kernel)
    have passes : (written.store.guilds.get? (.wrap 1)).any (fun g => g.hasInsider owner &&
        Judge.overrideFlags.any (g.channelOf (.wrap 20) owner).has) = true := by decide +kernel
    have holds : written.store.HoldsIn (.wrap 20) owner Judge.overrideFlags := by
      obtain ⟨g, rows, held⟩ := (Option.any_eq_true _ _).mp passes
      obtain ⟨inside, held⟩ := Bool.and_eq_true_iff.mp held
      exact ⟨.new (.wrap 20) (.wrap 1) "hall" .text ⟨0, 0⟩, g, by decide +kernel, rows, inside,
        held⟩
    obtain ⟨view, told, -, shown⟩ := answers_read_back Store.channelSample_reachable done
    obtain ⟨views, replied, single⟩ := shown owner holds
    exact ⟨answer, done, holds, view, views, told, replied, single⟩

end Service
end GuildAccess
