import GuildAccess.Proofs.Lockdown
import GuildAccess.Proofs.Store.Representation

/-!
Sound data. What members and overrides refer to is there, no override allows and denies one flag,
a lock and what it keeps belong together, and the administrator mark of a role is its bit. Calls
check what they are about to write only as far as they have to, so each clause is kept for a reason
of its own.
-/
namespace GuildAccess

/-- A pair without a flag in both halves. -/
def Overwrite.Disjoint (o : Overwrite) : Prop :=
  ∀ f, o.allow.has f = true → o.deny.has f = false

/-- A role of the guild that is assigned to be held. -/
def GuildRows.IsPlain (g : GuildRows) (id : Snowflake) : Prop :=
  ∃ r, g.roles.get? id = some r ∧ r.isEveryone = false

/-- An override that fits the rows: its channel is there, and its target if that is a role. -/
structure GuildRows.Fits (g : GuildRows) (o : ChannelOverride) : Prop where
  housed : g.channels.contains o.channelId = true
  targeted : ∀ id, o.target = .role id → g.roles.contains id = true
  disjoint : o.overwrite.Disjoint

/-- A channel that keeps an overwrite only while it is locked, and then shows its lockdown form. -/
structure GuildRows.Settled (g : GuildRows) (id : Snowflake) (c : Channel) : Prop where
  saved : ∀ o, c.preLock = some o → o.Disjoint
  unlocked : c.locked = false → c.preLock = none
  locked : c.locked = true → ∃ everyone, g.UnderLock id everyone c.preLock

/-- Rows of a guild that fit together. -/
structure GuildRows.Sound (g : GuildRows) : Prop where
  members : ∀ user m, g.members.get? user = some m → ∀ id ∈ m.roles, g.IsPlain id
  overrides : ∀ key o, g.overrides.get? key = some o → g.Fits o
  channels : ∀ id c, g.channels.get? id = some c → g.Settled id c
  roles : ∀ id r, g.roles.get? id = some r → r.isAdmin = r.permissions.has .administrator

def Store.Sound (s : Store) : Prop := ∀ guild g, s.guilds.get? guild = some g → g.Sound

namespace Overwrite

theorem validate_disjoint {o : Overwrite} (valid : o.validate = .ok ()) : o.Disjoint := by
  unfold validate at valid
  split at valid
  · next apart =>
    intro f allowed
    have none : (o.allow ∩ o.deny).has f = false := by
      rw [of_decide_eq_true apart]
      exact Permissions.has_empty f
    simpa [allowed] using none
  · cases valid

/-- A lock denies what it takes away, and adds no flag to both halves. -/
theorem IsLockdownOf.disjoint {o : Overwrite} {saved : Option Overwrite}
    (form : o.IsLockdownOf (saved.getD {})) (disjoint : ∀ o, saved = some o → o.Disjoint) :
    o.Disjoint := by
  intro f allowed
  have before : (saved.getD {}).Disjoint := by
    cases saved with
    | none =>
      intro f allowed
      exact Permissions.has_empty f
    | some o => exact disjoint o rfl
  rw [form.allow, Permissions.has_sdiff, Bool.and_eq_true, Bool.not_eq_true'] at allowed
  rw [form.deny, Permissions.has_union, before f allowed.1, allowed.2, Bool.or_self]

end Overwrite

/-- What a call was let through with, as far as its write set does not show it: the role to assign
is one that is held, and an override to write is disjoint and has a target. -/
def Call.Vetted (g : GuildRows) : Call → Prop
  | .assignRole _ _ role _ => g.IsPlain role
  | .setOverride _ target _ overwrite =>
    overwrite.Disjoint ∧ ∀ id, target = .role id → g.roles.contains id = true
  | _ => True

def Call.drops? : Call → Option Snowflake
  | .deleteRole _ role _ => some role
  | _ => none

namespace Call.WriteSet
variable {now : Instant} {fresh guild : Snowflake} {g g' : GuildRows} {call : Call}

/-- No call makes an everyone role of another or the other way round. -/
theorem role_stays {id : Snowflake} {r : Role} (written : call.WriteSet now fresh guild g g')
    (found : g.roles.get? id = some r) (spared : call.drops? ≠ some id) :
    ∃ r', g'.roles.get? id = some r' ∧ r'.isEveryone = r.isEveryone := by
  have replaced {k : Snowflake} {v : Role}
      (same : ∀ old, g.roles.get? k = some old → v.isEveryone = old.isEveryone) :
      ∃ r', (g.roles.insert k v).get? id = some r' ∧ r'.isEveryone = r.isEveryone := by
    rw [KeyMap.get?_insert]
    split
    · next here => exact ⟨v, rfl, same r (here ▸ found)⟩
    · exact ⟨r, found, rfl⟩
  cases written with
  | createRole unused =>
    refine replaced fun old found => ?_
    cases unused.symm.trans found
  | updateRole stored | toggleFlag stored =>
    refine replaced fun old found => ?_
    cases stored.symm.trans found
    rfl
  | deleteRole =>
    refine ⟨r, ?_, rfl⟩
    rw [KeyMap.get?_erase, if_neg]
    · exact found
    · rintro rfl
      exact spared rfl
  | @reorderRoles _ _ _ positions _ moved others =>
    by_cases named : ∃ move ∈ positions, move.1 = id
    · obtain ⟨move, listed, rfl⟩ := named
      obtain ⟨row, stored, after⟩ := moved move listed
      cases stored.symm.trans found
      exact ⟨_, after, rfl⟩
    · refine ⟨r, ?_, rfl⟩
      rw [← found]
      exact others id fun move listed same => named ⟨move, listed, same⟩
  | _ => exact ⟨r, found, rfl⟩

theorem plain_stays {id : Snowflake} (written : call.WriteSet now fresh guild g g')
    (plain : g.IsPlain id) (spared : call.drops? ≠ some id) : g'.IsPlain id := by
  obtain ⟨r, found, unmarked⟩ := plain
  obtain ⟨r', found', same⟩ := written.role_stays found spared
  exact ⟨r', found', same.trans unmarked⟩

theorem contains_stays {id : Snowflake} (written : call.WriteSet now fresh guild g g')
    (there : g.roles.contains id = true) (spared : call.drops? ≠ some id) :
    g'.roles.contains id = true := by
  obtain ⟨r, found⟩ := Option.isSome_iff_exists.mp there
  obtain ⟨r', found', -⟩ := written.role_stays found spared
  simp [KeyMap.contains, found']

/-- Members list no role twice, whatever is assigned and taken away. -/
theorem distinct (written : call.WriteSet now fresh guild g g') (distinct : g.Distinct) :
    g'.Distinct := by
  cases written with
  | deleteRole =>
    refine KeyMap.mapRows_all fun user m found => ?_
    split
    · exact (distinct user m found).erase _
    · exact distinct user m found
  | join => exact KeyMap.insert_all distinct List.nodup_nil
  | assignRole found lacking =>
    refine KeyMap.insert_all distinct (List.nodup_append.mpr ⟨distinct _ _ found, by simp, ?_⟩)
    rintro held listed added last rfl
    cases List.mem_singleton.mp last
    exact lacking listed
  | unassignRole found => exact KeyMap.insert_all distinct ((distinct _ _ found).erase _)
  | _ => exact distinct

/-- A deleted role is off every list, since each had it once. -/
theorem members_sound (written : call.WriteSet now fresh guild g g') (vetted : call.Vetted g)
    (distinct : g.Distinct) (sound : g.Sound) :
    ∀ user m, g'.members.get? user = some m → ∀ id ∈ m.roles, g'.IsPlain id := by
  have stays {id : Snowflake} (plain : g.IsPlain id) (spared : call.drops? ≠ some id) :
      g'.IsPlain id := written.plain_stays plain spared
  have kept (spared : call.drops? = none) :
      ∀ user m, g.members.get? user = some m → ∀ id ∈ m.roles, g'.IsPlain id :=
    fun user m found id listed => stays (sound.members user m found id listed) (by simp [spared])
  cases written with
  | @deleteRole role =>
    refine KeyMap.mapRows_all fun user m found id listed => ?_
    rw [← m.removeRole_eq role now, m.removeRole_roles role now] at listed
    have spared : role ≠ id := by
      rintro rfl
      exact (distinct user m found).not_mem_erase listed
    exact stays (sound.members user m found id (List.mem_of_mem_erase listed))
      (by simpa [drops?] using spared)
  | join =>
    refine KeyMap.insert_all (kept rfl) fun id listed => ?_
    cases listed
  | @assignRole user role _ m found lacking =>
    refine KeyMap.insert_all (kept rfl) fun id listed => ?_
    rcases List.mem_append.mp listed with before | last
    · exact kept rfl user m found id before
    · cases List.mem_singleton.mp last
      exact stays vetted (by simp [drops?])
  | @unassignRole user role _ m found =>
    refine KeyMap.insert_all (kept rfl) fun id listed => ?_
    exact kept rfl user m found id (List.mem_of_mem_erase listed)
  | _ => exact kept rfl

/-- No call takes a channel away. -/
theorem channel_stays {id : Snowflake} (written : call.WriteSet now fresh guild g g')
    (there : g.channels.contains id = true) : g'.channels.contains id = true := by
  cases written with
  | lockChannel | unlockChannel => rw [KeyMap.contains_insert, there, Bool.or_true]
  | _ => exact there

/-- What holds of every override and of the one that is written holds of every override. -/
theorem withOverwrite_all {P : Snowflake × OverrideTarget → ChannelOverride → Prop}
    {channel : Snowflake} {target : OverrideTarget} {new : Option Overwrite}
    (all : ∀ key o, g.overrides.get? key = some o → P key o)
    (put : ∀ o, new = some o → P (channel, target) ⟨channel, guild, target, o, now⟩) :
    ∀ key o, (g.withOverwrite channel guild target now new).get? key = some o → P key o := by
  cases new with
  | none => exact KeyMap.filter_all all
  | some o => exact KeyMap.insert_all all (put o rfl)

/-- A deleted role takes its overrides with it, and what is written fits. -/
theorem overrides_sound (written : call.WriteSet now fresh guild g g') (vetted : call.Vetted g)
    (keyed : g.Keyed guild) (sound : g.Sound) :
    ∀ key o, g'.overrides.get? key = some o → g'.Fits o := by
  have stays {o : ChannelOverride} (fits : g.Fits o)
      (spared : ∀ id, o.target = .role id → call.drops? ≠ some id) : g'.Fits o :=
    ⟨written.channel_stays fits.housed,
      fun id target => written.contains_stays (fits.targeted id target) (spared id target),
      fits.disjoint⟩
  have kept (spared : call.drops? = none) : ∀ key o, g.overrides.get? key = some o → g'.Fits o :=
    fun key o found => stays (sound.overrides key o found) (by simp [spared])
  cases written with
  | @deleteRole role =>
    intro key o found
    rw [KeyMap.get?_filter] at found
    obtain ⟨stored, other⟩ := Option.filter_eq_some_iff.mp found
    refine stays (sound.overrides key o stored) fun id target => ?_
    have here : key.2 = .role id := by
      rw [← keyed.override_id key o stored]
      exact target
    rintro same
    cases same
    simp [here] at other
  | setOverride spared =>
    obtain ⟨disjoint, targeted⟩ := vetted
    obtain ⟨row, there, -⟩ := spared
    refine withOverwrite_all (kept rfl) ?_
    rintro o ⟨⟩
    exact stays ⟨by simp [KeyMap.contains, there], targeted, disjoint⟩ (by simp [drops?])
  | deleteOverride => exact withOverwrite_all (kept rfl) fun o put => by cases put
  | @lockChannel channel _ _ _ row old new there unlocked marked replaced form =>
    obtain ⟨_, stored, -⟩ := marked
    have disjoint : ∀ o, old = some o → o.Disjoint := by
      rintro o rfl
      obtain ⟨before, found, rfl⟩ := Option.map_eq_some_iff.mp replaced
      exact (sound.overrides _ before found).disjoint
    refine withOverwrite_all (kept rfl) ?_
    rintro o ⟨⟩
    refine stays ⟨by simp [KeyMap.contains, there], ?_, form.disjoint disjoint⟩ (by simp [drops?])
    rintro id same
    cases same
    simp [KeyMap.contains, stored]
  | @unlockChannel channel _ _ _ row there locked marked =>
    obtain ⟨_, stored, -⟩ := marked
    refine withOverwrite_all (kept rfl) fun o saved => ?_
    refine stays ⟨by simp [KeyMap.contains, there], ?_, (sound.channels _ row there).saved o saved⟩
      (by simp [drops?])
    rintro id same
    cases same
    simp [KeyMap.contains, stored]
  | _ => exact kept rfl

/-- A lock keeps the overwrite that it replaces, and gives it up when it ends. -/
theorem channels_sound (written : call.WriteSet now fresh guild g g') (sound : g.Sound) :
    ∀ id c, g'.channels.get? id = some c → g'.Settled id c := by
  have locks : g'.LocksHeld :=
    written.locksHeld fun id c found => (sound.channels id c found).locked
  -- What is left is what the row of a channel keeps.
  have kept : ∀ id c, g'.channels.get? id = some c →
      (∀ o, c.preLock = some o → o.Disjoint) ∧ (c.locked = false → c.preLock = none) := by
    have stays : ∀ id c, g.channels.get? id = some c →
        (∀ o, c.preLock = some o → o.Disjoint) ∧ (c.locked = false → c.preLock = none) :=
      fun id c found => ⟨(sound.channels id c found).saved, (sound.channels id c found).unlocked⟩
    cases written with
    | @lockChannel channel _ _ _ row old new there unlocked marked replaced =>
      refine KeyMap.insert_all stays ⟨fun o saved => ?_, nofun⟩
      have saved : old = some o := saved
      rw [saved] at replaced
      obtain ⟨before, found, rfl⟩ := Option.map_eq_some_iff.mp replaced
      exact (sound.overrides _ before found).disjoint
    | unlockChannel => exact KeyMap.insert_all stays ⟨nofun, fun _ => rfl⟩
    | _ => exact stays
  exact fun id c found => ⟨(kept id c found).1, (kept id c found).2, locks id c found⟩

/-- Whatever sets the bit of a role sets its mark. -/
theorem roles_sound (written : call.WriteSet now fresh guild g g') (sound : g.Sound) :
    ∀ id r, g'.roles.get? id = some r → r.isAdmin = r.permissions.has .administrator := by
  cases written with
  | createRole => exact KeyMap.insert_all sound.roles rfl
  | @updateRole role _ request row stamp found =>
    refine KeyMap.insert_all sound.roles ?_
    rcases request.askedOf_mark row stamp with ⟨permissions, mark⟩ | mark
    · rw [permissions, mark]
      exact sound.roles role row found
    · exact mark
  | toggleFlag => exact KeyMap.insert_all sound.roles rfl
  | deleteRole => exact KeyMap.filter_all sound.roles
  | @reorderRoles _ _ roles positions _ moved others =>
    intro id r found
    by_cases named : ∃ move ∈ positions, move.1 = id
    · obtain ⟨move, listed, rfl⟩ := named
      obtain ⟨row, stored, after⟩ := moved move listed
      cases found.symm.trans after
      exact sound.roles move.1 row stored
    · refine sound.roles id r ?_
      rw [← others id fun move listed same => named ⟨move, listed, same⟩]
      exact found
  | _ => exact sound.roles

/-- What a call writes fits together with what it leaves. -/
theorem sound (written : call.WriteSet now fresh guild g g') (vetted : call.Vetted g)
    (keyed : g.Keyed guild) (distinct : g.Distinct) (sound : g.Sound) : g'.Sound where
  members := written.members_sound vetted distinct sound
  overrides := written.overrides_sound vetted keyed sound
  channels := written.channels_sound sound
  roles := written.roles_sound sound

end Call.WriteSet

/-- A call that plans was let through with what its write set relies on. -/
theorem Call.judge_vetted {s : Store} {around : Surroundings} {fresh guild : Snowflake}
    {call : Call} {lock : Option Snowflake} {p : Plan} {g : GuildRows} (keyed : s.Keyed)
    (home : s.RolesAtHome) (entered : call.enter s = .ok lock)
    (planned : call.judge s around fresh = .ok (.plan p)) (about : call.home? s = some guild)
    (rows : s.guilds.get? guild = some g) : call.Vetted g := by
  cases call with
  | assignRole guild user role actor =>
    cases about
    obtain ⟨_, checked, -⟩ := Judge.assignRole_plan planned
    obtain ⟨_, g₀, row, -, rows₀, stored, plain, -⟩ :=
      Judge.changeRoleOf_rows keyed home checked
    cases rows.symm.trans rows₀
    exact ⟨row, stored, plain⟩
  | setOverride channel target actor overwrite =>
    obtain ⟨_, valid, -⟩ := passes_bind.mp entered
    refine ⟨Overwrite.validate_disjoint (passes_mapError.mp valid), ?_⟩
    rintro id rfl
    obtain ⟨row, caller, found, passed, targeted, -⟩ := Judge.setOverride_plan planned
    obtain ⟨-, indexed, -⟩ := keyed.channel_stored found
    cases indexed.symm.trans about
    obtain ⟨g₀, rows₀, rfl⟩ := Judge.passes_gate_rows passed
    cases rows.symm.trans rows₀
    obtain ⟨r, stored, -⟩ := Judge.mayTarget_rows (keyed _ g rows) rows targeted
    simp [KeyMap.contains, stored]
  | _ => trivial

/-- Rows of a guild that fit together, with no role listed twice. -/
def GuildRows.Tidy (g : GuildRows) : Prop := g.Distinct ∧ g.Sound

def Store.Tidy (s : Store) : Prop := ∀ guild g, s.guilds.get? guild = some g → g.Tidy

/-- The log is none of the rows that have to fit together. -/
theorem GuildRows.Tidy.withAudit {g : GuildRows} (tidy : g.Tidy)
    (audit : KeyMap Snowflake Audit.Entry) : ({ g with audit := audit } : GuildRows).Tidy := by
  obtain ⟨distinct, sound⟩ := tidy
  refine ⟨distinct, sound.members, fun key o found => ?_, fun id c found => ?_, sound.roles⟩
  · have fits := sound.overrides key o found
    exact ⟨fits.housed, fits.targeted, fits.disjoint⟩
  · have settled := sound.channels id c found
    refine ⟨settled.saved, settled.unlocked, fun locked => ?_⟩
    obtain ⟨everyone, under⟩ := settled.locked locked
    exact ⟨everyone, under.row, under.marked, under.overwrite⟩

/-- Whether rows fit together shows in the rows apart from the logs. -/
theorem Store.tidy_iff {s : Store} : s.Tidy ↔ ∀ guild g, s.tables? guild = some g → g.Tidy := by
  constructor
  · intro tidy guild g known
    obtain ⟨g₀, rows, rfl⟩ := Option.map_eq_some_iff.mp known
    exact (tidy guild g₀ rows).withAudit .empty
  · intro tidy guild g rows
    exact (tidy guild g.withoutLog (tables?_of_rows rows)).withAudit g.audit

namespace Service
variable {service : Service} {around : Surroundings} {call : Call}

/-- A call whose result is no error was admitted. -/
theorem handle_admitted {answer : Answer} (done : (service.handle around call).2 = .ok answer) :
    ∃ lock, call.enter service.store = .ok lock := by
  unfold handle at done
  cases entered : call.enter service.store with
  | ok lock => exact ⟨lock, rfl⟩
  | error cause =>
    rw [entered] at done
    cases done

/-- No call leaves rows that do not fit together. -/
theorem handle_tidy (reach : service.store.Reachable) (home : service.store.RolesAtHome)
    (tidy : service.store.Tidy) : (service.handle around call).1.store.Tidy := by
  have keyed := reach.keyed
  have one := reach.oneEveryone
  have before := Store.tidy_iff.mp tidy
  refine Store.tidy_iff.mpr fun guild g known => ?_
  rcases handle_cases service around call with ⟨-, quiet⟩ | ⟨_, -, -, quiet⟩ |
    ⟨p, store, planned, applied, answered, quiet⟩
  · exact before guild g ((quiet.tables guild).symm.trans known)
  · exact before guild g ((quiet.tables guild).symm.trans known)
  · obtain ⟨lock, entered⟩ := handle_admitted answered
    obtain ⟨-, home', g₀, g', about, rows, written, insert⟩ :=
      Call.plan_wrote keyed home one planned applied
    have remade := remakes_of_insert rows insert quiet.tables
    by_cases here : guild = home'
    · subst here
      cases known.symm.trans remade.rewritten
      obtain ⟨distinct, sound⟩ := tidy guild g₀ rows
      have vetted := Call.judge_vetted keyed home entered planned about rows
      have kept : g'.Tidy :=
        ⟨written.distinct distinct, written.sound vetted (keyed guild g₀ rows) distinct sound⟩
      exact kept.withAudit .empty
    · exact before guild g ((remade.others guild here).symm.trans known)

theorem run_tidy (service : Service) (steps : List (Surroundings × Call))
    (reach : service.store.Reachable) (home : service.store.RolesAtHome)
    (tidy : service.store.Tidy) : (service.run steps).store.Tidy := by
  induction steps generalizing service with
  | nil => exact tidy
  | cons step rest ih =>
    exact ih _ (handle_reachable reach) (handle_rolesAtHome reach.keyed home)
      (handle_tidy reach home tidy)

/-- Sound data stays sound: whatever calls are made in turn, by whom and with what arguments, every
store along the way is sound if the first one is.

The first store was built of members as `Member.new` and `Member.addRole` make them, who list no
role twice; the service makes no others. A row that lists a role twice is made up by hand and not
assembled: deleting the role would take off one of its two entries and leave the other. -/
theorem data_stays_sound (service : Service) (steps : List (Surroundings × Call))
    (built : service.store.Built) (home : service.store.RolesAtHome)
    (sound : service.store.Sound) (n : Nat) : (service.run (steps.take n)).store.Sound := by
  have tidy : service.store.Tidy := fun guild g rows =>
    ⟨(built.wellFormed guild g rows).distinct, sound guild g rows⟩
  intro guild g rows
  exact (run_tidy service (steps.take n) built.reachable home tidy guild g rows).2

/-- A guild with an open channel, 20, that its owner is about to fill. -/
def foundedRows : GuildRows :=
  let id := Snowflake.wrap
  { GuildRows.new (.new (id 1) "guild" (id 1) ⟨0, 0⟩) with
    roles := KeyMap.empty.insert (id 1) (.everyone (id 1) (id 1) ⟨0, 0⟩)
    channels := KeyMap.empty.insert (id 20) (.new (id 20) (id 1) "hall" .text ⟨0, 0⟩) }

def foundedChanges : Store.Changes :=
  let id := Snowflake.wrap
  [(⟨0, 0⟩, .createGuild (.new (id 1) "guild" (id 1) ⟨0, 0⟩) (.everyone (id 1) (id 1) ⟨0, 0⟩)),
    (⟨0, 0⟩, .createChannel (.new (id 20) (id 1) "hall" .text ⟨0, 0⟩))]

def founded : Service := ⟨Store.empty.replay foundedChanges, 0, .empty⟩

/-- A role is created, assigned to a user who joined and denied sending, and deleted while the
channel is locked. -/
def foundedCalls : List (Surroundings × Call) :=
  let id := Snowflake.wrap
  [(.sample, .join (id 1) (id 2)),
    (.sample, .createRole (id 1) (id 1) { name := "mod" }),
    (.sample, .assignRole (id 1) (id 2) (id 101) (id 1)),
    (.sample, .setOverride (id 20) (.role (id 101)) (id 1) ⟨∅, .only .sendMessages⟩),
    (.sample, .lockChannel (id 20) (id 1) {}),
    (.sample, .deleteRole (id 1) (id 101) (id 1)),
    (.sample, .unlockChannel (id 20) (id 1) {})]

theorem foundedRows_sound : foundedRows.Sound where
  members user m listed := by cases listed
  overrides key o stored := by cases stored
  channels := KeyMap.insert_all (fun id c stored => by cases stored) ⟨nofun, fun _ => rfl, nofun⟩
  roles := KeyMap.insert_all (fun id r stored => by cases stored) rfl

theorem founded_sound : founded.store.Sound := by
  intro guild g found
  have only : founded.store.guilds.entries = [(.wrap 1, foundedRows)] := rfl
  have listed := KeyMap.mem_of_get? found
  rw [only, List.mem_singleton] at listed
  cases listed
  exact foundedRows_sound

theorem data_stays_sound_sample :
    (founded.run (foundedCalls.take 6)).store.Sound ∧
    ((founded.run (foundedCalls.take 6)).store.channel? (.wrap 20)).any (·.locked) = true ∧
    (founded.run (foundedCalls.take 6)).store.isMember (.wrap 1) (.wrap 2) = true := by
  have assembled : ∀ now m, (now, Store.Change.createMember m) ∈ foundedChanges → m.Assembled := by
    intro now m listed
    simp [foundedChanges] at listed
  have built : founded.store.Built := Store.Built.start.replay assembled
  have home : founded.store.RolesAtHome := Store.rolesAtHome_of_all (by decide)
  exact ⟨data_stays_sound founded foundedCalls built home founded_sound 6, by decide +kernel,
    by decide +kernel⟩

end Service
end GuildAccess
