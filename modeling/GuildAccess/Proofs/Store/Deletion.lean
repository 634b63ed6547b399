import GuildAccess.Proofs.Standing
import GuildAccess.Proofs.Store.Representation

/-!
Deletion. A role that is deleted leaves no trace in the rows of its guild: no member lists it and no
override is about it. A channel takes its overrides along, and channels below it have no parent
afterwards. Nothing else changes, and what a member may do in the guild is what the remaining roles
in their list grant. The everyone role cannot be deleted.
-/
namespace GuildAccess

/-- A member without a role. The other roles stay in their order, and who lacked the role is not
touched. -/
def Member.without (m : Member) (role : Snowflake) (now : Instant) : Member :=
  if role ∈ m.roles then { m with roles := m.roles.filter (· ≠ role), updatedAt := now } else m

theorem Member.without_roles (m : Member) (role : Snowflake) (now : Instant) :
    (m.without role now).roles = m.roles.filter (· ≠ role) := by
  unfold without
  split
  · rfl
  · next absent =>
    refine (List.filter_eq_self.mpr fun q listed => ?_).symm
    have other : q ≠ role := by
      rintro rfl
      exact absent listed
    exact decide_eq_true other

/-- Taking a role out of a list once takes it out, as it is listed once. -/
theorem Member.removeRole_eq_without {m : Member} (distinct : m.roles.Nodup) (role : Snowflake)
    (now : Instant) : m.removeRole role now = m.without role now := by
  have once : m.roles.erase role = m.roles.filter (· ≠ role) := by
    rw [distinct.erase_eq_filter]
    exact List.filter_congr fun q _ => Bool.eq_iff_iff.mpr (by simp)
  unfold removeRole without
  rw [once]
  simp [hasRole]

/-- A channel that has lost its parent if that was the given one. -/
def Channel.orphaned (c : Channel) (parent : Snowflake) : Channel :=
  if c.parentId = some parent then { c with parentId := none } else c

theorem Channel.orphaned_parentId (c : Channel) (parent : Snowflake) :
    (c.orphaned parent).parentId ≠ some parent := by
  unfold orphaned
  split
  · exact Option.some_ne_none parent |>.symm
  · next other => exact other

theorem Channel.orphaned_id (c : Channel) (parent : Snowflake) : (c.orphaned parent).id = c.id := by
  unfold orphaned
  split <;> rfl

namespace GuildRows
variable {g g' : GuildRows} {guild id : Snowflake} {now : Instant}

/-- Rows that do not mention a role. -/
structure FreeOfRole (g : GuildRows) (id : Snowflake) : Prop where
  roles : ∀ key r, g.roles.get? key = some r → key ≠ id ∧ r.id ≠ id
  members : ∀ user m, g.members.get? user = some m → id ∉ m.roles
  overrides : ∀ key o, g.overrides.get? key = some o → key.2 ≠ .role id ∧ o.target ≠ .role id

/-- Rows that do not mention a channel. -/
structure FreeOfChannel (g : GuildRows) (id : Snowflake) : Prop where
  channels : ∀ key c, g.channels.get? key = some c →
    key ≠ id ∧ c.id ≠ id ∧ c.parentId ≠ some id
  overrides : ∀ key o, g.overrides.get? key = some o → key.1 ≠ id ∧ o.channelId ≠ id

/-- The rows of a guild before and after a role is gone from them, all other rows alike. -/
structure LosesRole (now : Instant) (id : Snowflake) (g g' : GuildRows) : Prop where
  plain : ∀ r, g.roles.get? id = some r → r.isEveryone = false
  roles : ∀ q, g'.roles.get? q = if q = id then none else g.roles.get? q
  members : ∀ user, g'.members.get? user = (g.members.get? user).map fun m => m.without id now
  overrides : ∀ channel target, g'.overrides.get? (channel, target) =
    if target = .role id then none else g.overrides.get? (channel, target)
  guild : g'.guild = g.guild
  channels : g'.channels = g.channels
  audit : g'.audit = g.audit

/-- The rows of a guild before and after a channel is gone from them, all other rows alike. -/
structure LosesChannel (id : Snowflake) (g g' : GuildRows) : Prop where
  channels : ∀ q, g'.channels.get? q =
    if q = id then none else (g.channels.get? q).map fun c => c.orphaned id
  overrides : ∀ channel target, g'.overrides.get? (channel, target) =
    if channel = id then none else g.overrides.get? (channel, target)
  guild : g'.guild = g.guild
  roles : g'.roles = g.roles
  members : g'.members = g.members
  audit : g'.audit = g.audit

theorem LosesRole.heldBy (loses : LosesRole now id g g') (user : Snowflake) :
    g'.heldBy user = (g.heldBy user).filter (· ≠ id) := by
  unfold GuildRows.heldBy
  rw [loses.members]
  cases g.members.get? user with
  | none => rfl
  | some m => exact m.without_roles id now

theorem LosesRole.free (loses : LosesRole now id g g') (keyed : g.Keyed guild) :
    g'.FreeOfRole id where
  roles key r found := by
    rw [loses.roles] at found
    split at found
    · cases found
    · next other =>
      rw [keyed.role_id key r found]
      exact ⟨other, other⟩
  members user m found := by
    rw [loses.members] at found
    obtain ⟨old, -, rfl⟩ := Option.map_eq_some_iff.mp found
    rw [old.without_roles]
    simp
  overrides key o found := by
    rw [loses.overrides key.1 key.2] at found
    split at found
    · cases found
    · next other =>
      have same := keyed.override_id _ o found
      exact ⟨other, fun about => other ((congrArg Prod.snd same).symm.trans about)⟩

theorem LosesChannel.free (loses : LosesChannel id g g') (keyed : g.Keyed guild) :
    g'.FreeOfChannel id where
  channels key c found := by
    rw [loses.channels] at found
    split at found
    · cases found
    · next other =>
      obtain ⟨old, stored, rfl⟩ := Option.map_eq_some_iff.mp found
      rw [Channel.orphaned_id, (keyed.channel_id key old stored).1]
      exact ⟨other, other, Channel.orphaned_parentId old id⟩
  overrides key o found := by
    rw [loses.overrides key.1 key.2] at found
    split at found
    · cases found
    · next other =>
      have same := keyed.override_id _ o found
      exact ⟨other, fun about => other ((congrArg Prod.fst same).symm.trans about)⟩

/-- Whoever listed the role has exactly what the rest of their list grants: the row of the role does
not count for who does not list it. -/
theorem LosesRole.serverOf (loses : LosesRole now id g g') (keyed : g.Keyed guild)
    (user : Snowflake) :
    g'.serverOf user =
      Resolver.server g.roleList ((g.heldBy user).filter (· ≠ id)) (g.guild.isOwner user) := by
  refine Permissions.ext_has fun f => Bool.eq_iff_iff.mpr ?_
  rw [serverOf_has, Resolver.server_has, Bool.or_eq_true, List.any_eq_true, loses.guild,
    loses.heldBy]
  refine or_congr_right ⟨?_, ?_⟩
  · rintro ⟨q, r, found, counts⟩
    rw [loses.roles] at found
    split at found
    · cases found
    · exact ⟨r, mem_roleList.mpr ⟨q, found⟩, by simpa using counts⟩
  · rintro ⟨r, listed, both⟩
    obtain ⟨q, found⟩ := mem_roleList.mp listed
    have counts : r.contributes ((g.heldBy user).filter (· ≠ id)) = true ∧ r.grants f = true := by
      simpa using both
    refine ⟨q, r, ?_, counts⟩
    have other : q ≠ id := by
      rintro rfl
      rcases (keyed.contributes_iff found).mp counts.1 with everyone | held
      · rw [loses.plain r found] at everyone
        cases everyone
      · simp at held
    rw [loses.roles, if_neg other, found]

end GuildRows

namespace Store
variable {s after : Store} {now : Instant} {change : Change} {kind : Indexed}
  {guild id : Snowflake} {g g' : GuildRows}

/-- The row of an identifier was in the guild that the index led to. The rows of that guild are
replaced, the entry is struck out of the index, and the rest of the store is as it was. -/
structure Strikes (s after : Store) (kind : Indexed) (id guild : Snowflake) (g g' : GuildRows) :
    Prop where
  led : (s.index kind).get? id = some guild
  before : s.guilds.get? guild = some g
  stored : g.has id kind = true
  replaced : after.guilds.get? guild = some g'
  others : ∀ other, other ≠ guild → after.guilds.get? other = s.guilds.get? other
  struck : ∀ q, (after.index kind).get? q = if q = id then none else (s.index kind).get? q
  kinds : ∀ kind', kind' ≠ kind → after.index kind' = s.index kind'

theorem deletion_strikes (leads : s.Leads kind) (done : s.apply now change = .ok after)
    (deletes : change.deletes? kind = some id) :
    ∃ guild g g', Strikes s after kind id guild g g' ∧ change.Effect now g g' := by
  have indexed := apply_index done
  have written : Rewrites now s change after ∧ change.home? s = (s.index kind).get? id ∧
      change.creates? = (fun _ => none) ∧ ∀ kind', kind' ≠ kind → change.deletes? kind' = none := by
    cases change with
    | deleteRole role =>
      cases kind <;> cases deletes
      exact ⟨deleteRole_rewrites done, rfl, rfl, fun kind' other => by cases kind' <;> trivial⟩
    | deleteChannel channel =>
      cases kind <;> cases deletes
      exact ⟨deleteChannel_rewrites done, rfl, rfl, fun kind' other => by cases kind' <;> trivial⟩
    | _ => cases deletes
  obtain ⟨⟨guild, g, g', home, found, effect, rows⟩, same, creates, alone⟩ := written
  have led := same.symm.trans home
  obtain ⟨g₀, found₀, stored⟩ := has_iff.mp (leads id guild led)
  cases found.symm.trans found₀
  refine ⟨guild, g, g', ⟨led, found, stored, ?_, ?_, ?_, ?_⟩, effect⟩
  · rw [rows, KeyMap.get?_insert, if_pos rfl]
  · intro other different
    rw [rows, KeyMap.get?_insert, if_neg different]
  · intro q
    rw [indexed, Change.reindexed, creates, deletes]
    exact KeyMap.get?_erase _ id q
  · intro kind' other
    rw [indexed, Change.reindexed, creates, alone kind' other]

/-- Taking a role out of each list once is enough where lists have no repeats. -/
theorem Change.Effect.losesRole (effect : (Change.deleteRole id).Effect now g g')
    (distinct : g.Distinct) : GuildRows.LosesRole now id g g' := by
  cases effect with
  | @deleteRole _ row found plain =>
    refine ⟨?_, fun q => KeyMap.get?_erase _ id q, ?_, ?_, rfl, rfl, rfl⟩
    · intro r stored
      cases found.symm.trans stored
      exact plain
    · intro user
      dsimp only
      rw [KeyMap.get?_mapRows]
      refine Option.map_congr fun m listed => ?_
      exact Member.removeRole_eq_without (distinct user m listed) id now
    · intro channel target
      dsimp only
      rw [KeyMap.get?_filter_keys]
      by_cases about : target = .role id <;> simp [about]

theorem Change.Effect.losesChannel (effect : (Change.deleteChannel id).Effect now g g') :
    GuildRows.LosesChannel id g g' := by
  cases effect with
  | deleteChannel =>
    refine ⟨?_, ?_, rfl, rfl, rfl, rfl⟩
    · intro q
      dsimp only
      rw [KeyMap.get?_mapRows, KeyMap.get?_erase]
      split <;> rfl
    · intro channel target
      dsimp only
      rw [KeyMap.get?_filter_keys]
      by_cases about : channel = id <;> simp [about]

theorem apply_of_commit (done : s.commit now change = (after, .ok ())) :
    s.apply now change = .ok after := by
  unfold commit at done
  split at done
  · next applied =>
    cases done
    exact applied
  · cases done

/-- The everyone role of a guild is not deleted where its identifier names no role elsewhere. -/
theorem everyone_not_deleted (reach : s.Reachable) (found : s.guilds.get? guild = some g)
    (everyone : g.IsEveryone id) (unshared : ∀ other, s.has .role other id = true → other = guild) :
    ∃ cause, s.commit now (.deleteRole id) = (s, .error cause) := by
  cases done : s.apply now (.deleteRole id) with
  | error cause => exact ⟨cause, by simp only [commit, done]⟩
  | ok after =>
    obtain ⟨home, g₀, g', gone, effect⟩ :=
      deletion_strikes (reach.leads .role) done rfl
    obtain rfl := unshared home (reach.leads .role id home gone.led)
    cases found.symm.trans gone.before
    cases effect with
    | deleteRole stored plain =>
      obtain ⟨r, here, marked⟩ := everyone
      cases stored.symm.trans here
      rw [plain] at marked
      cases marked

/-- Deletion is complete and touches nothing else, in every store that is built out of members that
list their roles one by one. -/
theorem deletion_cascades (built : s.Built) (now : Instant) (id : Snowflake) :
    (∀ after, s.commit now (.deleteRole id) = (after, .ok ()) →
      ∃ guild g g', Strikes s after .role id guild g g' ∧ GuildRows.LosesRole now id g g' ∧
        g'.FreeOfRole id ∧ ∀ user, g'.serverOf user =
          Resolver.server g.roleList ((g.heldBy user).filter (· ≠ id)) (g.guild.isOwner user)) ∧
    (∀ after, s.commit now (.deleteChannel id) = (after, .ok ()) →
      ∃ guild g g', Strikes s after .channel id guild g g' ∧ GuildRows.LosesChannel id g g' ∧
        g'.FreeOfChannel id) ∧
    ∀ guild g, s.guilds.get? guild = some g → g.IsEveryone id →
      (∀ other, s.has .role other id = true → other = guild) →
      ∃ cause, s.commit now (.deleteRole id) = (s, .error cause) := by
  have reach := built.reachable
  refine ⟨?_, ?_, fun guild g found everyone unshared =>
    everyone_not_deleted reach found everyone unshared⟩
  · intro after done
    obtain ⟨guild, g, g', gone, effect⟩ :=
      deletion_strikes (reach.leads .role) (apply_of_commit done) rfl
    have formed := built.wellFormed guild g gone.before
    have loses := effect.losesRole formed.distinct
    exact ⟨guild, g, g', gone, loses, loses.free formed.keyed, loses.serverOf formed.keyed⟩
  · intro after done
    obtain ⟨guild, g, g', gone, effect⟩ :=
      deletion_strikes (reach.leads .channel) (apply_of_commit done) rfl
    have loses := effect.losesChannel
    exact ⟨guild, g, g', gone, loses, loses.free (built.wellFormed guild g gone.before).keyed⟩

/-- A guild whose member 2 holds roles 11, 10 and 12, and which has channel 21 in category 20. Role
10 and user 2 have overrides in both. -/
def tieredGuild : Changes :=
  let now : Instant := ⟨0, 0⟩
  let id := Snowflake.wrap
  let denied (channel : Nat) (target : OverrideTarget) : Change :=
    .putOverride ⟨id channel, id 1, target, ⟨∅, .only .sendMessages⟩, now⟩
  [(now, .createGuild (.new (id 1) "guild" (id 1) now) (.everyone (id 1) (id 1) now)),
    (now, .createRole (.new (id 10) (id 1) "mod" (.only .manageRoles) now)),
    (now, .createRole (.new (id 11) (id 1) "warden" (.only .banMembers) now)),
    (now, .createRole (.new (id 12) (id 1) "guest" ∅ now)),
    (now, .createMember ((Member.new (id 1) (id 2) now).withRoles [id 11, id 10, id 12] now)),
    (now, .createChannel (.new (id 20) (id 1) "floor" .category now)),
    (now, .createChannel { Channel.new (id 21) (id 1) "hall" .text now with
      parentId := some (id 20) }),
    (now, denied 20 (.role (id 10))), (now, denied 20 (.member (id 2))),
    (now, denied 21 (.role (id 10))), (now, denied 21 (.member (id 2)))]

/-- Without role 10 member 2 holds the other two in their order, without the category its channel
stays, and the everyone role is not deleted. -/
theorem deletion_cascades_sample :
    let s := empty.replay tieredGuild
    (∃ after g', s.commit ⟨1, 0⟩ (.deleteRole (.wrap 10)) = (after, .ok ()) ∧
      after.guilds.get? (.wrap 1) = some g' ∧ g'.FreeOfRole (.wrap 10) ∧
      g'.heldBy (.wrap 2) = [.wrap 11, .wrap 12]) ∧
    (∃ after g', s.commit ⟨1, 0⟩ (.deleteChannel (.wrap 20)) = (after, .ok ()) ∧
      after.guilds.get? (.wrap 1) = some g' ∧ g'.FreeOfChannel (.wrap 20) ∧
      g'.has (.wrap 21) .channel = true) ∧
    ∃ cause, s.commit ⟨1, 0⟩ (.deleteRole (.wrap 1)) = (s, .error cause) := by
  intro s
  have assembled : ∀ now m, (now, Change.createMember m) ∈ tieredGuild → m.Assembled := by
    intro now m listed
    simp only [tieredGuild, List.mem_cons, Prod.mk.injEq, Change.createMember.injEq, reduceCtorEq,
      and_false, false_or, or_false, List.not_mem_nil] at listed
    obtain ⟨-, rfl⟩ := listed
    exact ⟨_, _, _, _, _, rfl⟩
  have built : s.Built := Built.start.replay assembled
  obtain ⟨role, -, -⟩ := deletion_cascades built ⟨1, 0⟩ (.wrap 10)
  obtain ⟨-, channel, -⟩ := deletion_cascades built ⟨1, 0⟩ (.wrap 20)
  obtain ⟨-, -, everyone⟩ := deletion_cascades built ⟨1, 0⟩ (.wrap 1)
  refine ⟨?_, ?_, ?_⟩
  · obtain ⟨guild, g, g', gone, loses, free, -⟩ := role _ rfl
    obtain rfl : guild = .wrap 1 := (Option.some.inj gone.led).symm
    refine ⟨_, g', rfl, gone.replaced, free, ?_⟩
    cases gone.before
    exact loses.heldBy (.wrap 2)
  · obtain ⟨guild, g, g', gone, loses, free⟩ := channel _ rfl
    obtain rfl : guild = .wrap 1 := (Option.some.inj gone.led).symm
    refine ⟨_, g', rfl, gone.replaced, free, ?_⟩
    cases gone.before
    have kept := loses.channels (.wrap 21)
    simp only [GuildRows.has, KeyMap.contains, kept]
    rfl
  · refine everyone (.wrap 1) _ rfl ⟨_, rfl, rfl⟩ fun other holds => ?_
    obtain ⟨g, found, -⟩ := has_iff.mp holds
    have listed : (other, g) ∈ s.guilds.entries := KeyMap.mem_of_get? found
    exact congrArg Prod.fst (List.mem_singleton.mp listed)

end Store
end GuildAccess
