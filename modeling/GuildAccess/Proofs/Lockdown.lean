import GuildAccess.Proofs.WriteSets

/-!
Lockdown over runs. A lock keeps on the channel what its everyone role was allowed and denied there.
Until the channel is unlocked no call touches what is kept, so unlocking puts it back, and takes the
override away where there was none.
-/
namespace GuildAccess

def Call.unlocks (channel : Snowflake) : Call → Bool
  | .unlockChannel channel' _ _ => channel' = channel
  | _ => false

/-- A channel under lock: it keeps the everyone overwrite from before the lock, and the one stored
is its lockdown form. -/
structure GuildRows.UnderLock (g : GuildRows) (channel everyone : Snowflake)
    (saved : Option Overwrite) : Prop where
  row : ∃ c, g.channels.get? channel = some c ∧ c.locked = true ∧ c.preLock = saved
  marked : g.IsEveryone everyone
  overwrite : ∃ o, g.overwrite? channel (.role everyone) = some o ∧
    o.IsLockdownOf (saved.getD {})

/-- A channel of a guild that is under lock. -/
structure Store.UnderLock (s : Store) (channel guild everyone : Snowflake)
    (saved : Option Overwrite) : Prop where
  indexed : s.channelIndex.get? channel = some guild
  rows : ∃ g, s.tables? guild = some g ∧ g.UnderLock channel everyone saved

namespace GuildRows
variable {g g' : GuildRows} {channel everyone id : Snowflake} {saved : Option Overwrite}

theorem underLock_withoutLog :
    g.withoutLog.UnderLock channel everyone saved ↔ g.UnderLock channel everyone saved :=
  ⟨fun under => ⟨under.row, under.marked, under.overwrite⟩,
    fun under => ⟨under.row, under.marked, under.overwrite⟩⟩

/-- What keeps the three rows of a lock keeps the lock. -/
theorem UnderLock.kept (under : g.UnderLock channel everyone saved)
    (row : g'.channels.get? channel = g.channels.get? channel)
    (marked : g.IsEveryone everyone → g'.IsEveryone everyone)
    (live : g'.overwrite? channel (.role everyone) = g.overwrite? channel (.role everyone)) :
    g'.UnderLock channel everyone saved where
  row := by
    rw [row]
    exact under.row
  marked := marked under.marked
  overwrite := by
    rw [live]
    exact under.overwrite

/-- A role written as what it was leaves the everyone role one. -/
theorem IsEveryone.insert {row : Role} (marked : g.IsEveryone everyone)
    (same : ∀ r, g.roles.get? id = some r → row.isEveryone = r.isEveryone) :
    GuildRows.IsEveryone { g with roles := g.roles.insert id row } everyone := by
  obtain ⟨r, stored, everyone_r⟩ := marked
  by_cases here : everyone = id
  · subst here
    refine ⟨row, ?_, (same r stored).trans everyone_r⟩
    rw [KeyMap.get?_insert, if_pos rfl]
  · refine ⟨r, ?_, everyone_r⟩
    rw [KeyMap.get?_insert, if_neg here]
    exact stored

end GuildRows

/-- What a call writes leaves a channel under its lock, unless the call unlocks that channel. -/
theorem Call.WriteSet.underLock {now : Instant} {fresh guild channel everyone : Snowflake}
    {g g' : GuildRows} {call : Call} {saved : Option Overwrite}
    (written : call.WriteSet now fresh guild g g') (under : g.UnderLock channel everyone saved)
    (other : call.unlocks channel = false) : g'.UnderLock channel everyone saved := by
  obtain ⟨c, stored, locked, -⟩ := under.row
  cases written with
  | createRole unused =>
    refine under.kept rfl (fun marked => marked.insert fun r found => ?_) rfl
    cases unused.symm.trans found
  | updateRole found | toggleFlag found =>
    refine under.kept rfl (fun marked => marked.insert fun r found' => ?_) rfl
    cases found.symm.trans found'
    rfl
  | updateRole_idle | toggleFlag_idle => exact under
  | @deleteRole role _ before found plain =>
    have spared : everyone ≠ role := by
      rintro rfl
      obtain ⟨r, found', marked⟩ := under.marked
      cases found.symm.trans found'
      cases marked.symm.trans plain
    refine under.kept rfl ?_ ?_
    · rintro ⟨r, found', marked⟩
      refine ⟨r, ?_, marked⟩
      rw [KeyMap.get?_erase, if_neg spared]
      exact found'
    · unfold GuildRows.overwrite?
      rw [KeyMap.get?_filter_keys]
      simp [spared]
  | @reorderRoles _ _ _ positions _ moved others =>
    refine under.kept rfl ?_ rfl
    rintro ⟨r, found, marked⟩
    by_cases named : ∃ move ∈ positions, move.1 = everyone
    · obtain ⟨move, listed, rfl⟩ := named
      obtain ⟨row, found', after⟩ := moved move listed
      cases found.symm.trans found'
      exact ⟨_, after, marked⟩
    · refine ⟨r, ?_, marked⟩
      rw [← found]
      exact others everyone fun move listed same => named ⟨move, listed, same⟩
  | join | assignRole | unassignRole => exact under.kept rfl id rfl
  | setOverride spared | deleteOverride spared =>
    obtain ⟨row, found, free⟩ := spared
    refine under.kept rfl id ?_
    rw [GuildRows.overwrite?_withOverwrite, if_neg]
    intro same
    cases same
    cases found.symm.trans stored
    exact free locked everyone rfl under.marked
  | @lockChannel channel' _ _ _ _ _ _ found unlocked =>
    have elsewhere : channel ≠ channel' := by
      rintro rfl
      cases found.symm.trans stored
      cases locked.symm.trans unlocked
    refine under.kept ?_ id ?_
    · rw [KeyMap.get?_insert, if_neg elsewhere]
    · rw [GuildRows.overwrite?_withOverwrite, if_neg]
      exact fun same => elsewhere (congrArg Prod.fst same)
  | @unlockChannel channel' _ _ _ row found =>
    have elsewhere : channel ≠ channel' := by
      rintro rfl
      simp [unlocks] at other
    refine under.kept ?_ id ?_
    · rw [KeyMap.get?_insert, if_neg elsewhere]
    · rw [GuildRows.overwrite?_withOverwrite, if_neg]
      exact fun same => elsewhere (congrArg Prod.fst same)

/-- Every locked channel is under a lock, with the overwrite that its row keeps. -/
def GuildRows.LocksHeld (g : GuildRows) : Prop :=
  ∀ id c, g.channels.get? id = some c → c.locked = true →
    ∃ everyone, g.UnderLock id everyone c.preLock

/-- Whatever a call writes, the channels that are locked afterwards are under a lock: one that was
locked before is spared, and a new lock writes all of its rows. -/
theorem Call.WriteSet.locksHeld {now : Instant} {fresh guild : Snowflake} {g g' : GuildRows}
    {call : Call} (written : call.WriteSet now fresh guild g g') (held : g.LocksHeld) :
    g'.LocksHeld := by
  have stays {id : Snowflake} {c : Channel} (found : g.channels.get? id = some c)
      (locked : c.locked = true) (other : call.unlocks id = false) :
      ∃ everyone, g'.UnderLock id everyone c.preLock := by
    obtain ⟨everyone, under⟩ := held id c found locked
    exact ⟨everyone, written.underLock under other⟩
  cases written with
  | @lockChannel channel _ everyone _ row old new there unlocked marked _ form =>
    intro id c found locked
    rw [KeyMap.get?_insert] at found
    split at found
    · next here =>
      subst here
      cases found
      refine ⟨everyone, ⟨row.lock old now, ?_, rfl, rfl⟩, marked, new, ?_, form⟩
      · rw [KeyMap.get?_insert, if_pos rfl]
        rfl
      · rw [GuildRows.overwrite?_withOverwrite, if_pos rfl]
    · exact stays found locked rfl
  | unlockChannel =>
    intro id c found locked
    rw [KeyMap.get?_insert] at found
    split at found
    · cases found
      cases locked
    · next other => exact stays found locked (by simpa [unlocks] using Ne.symm other)
  | _ => exact fun id c found locked => stays found locked rfl

namespace Service
variable {service : Service} {around : Surroundings} {call : Call}
  {channel guild everyone : Snowflake} {saved : Option Overwrite}

def outcomes (service : Service) :
    List (Surroundings × Call) → List (Call × Except CallError Answer)
  | [] => []
  | step :: rest =>
    (step.2, (service.handle step.1 step.2).2) ::
      (service.handle step.1 step.2).1.outcomes rest

/-- The rows of a guild after one of its calls wrote. -/
theorem Remakes.underLock {after : Service} {g g' : GuildRows}
    (remade : service.Remakes after guild g g')
    (indexed : after.store.channelIndex.get? channel = some guild)
    (under : g'.UnderLock channel everyone saved) :
    after.store.UnderLock channel guild everyone saved :=
  ⟨indexed, g'.withoutLog, remade.rewritten, GuildRows.underLock_withoutLog.mpr under⟩

/-- A call leaves a channel under its lock, unless it succeeds in unlocking that channel. -/
theorem handle_underLock (reach : service.store.Reachable) (home : service.store.RolesAtHome)
    (under : service.store.UnderLock channel guild everyone saved)
    (spared : call.unlocks channel = true → (service.handle around call).2.isOk = false) :
    (service.handle around call).1.store.UnderLock channel guild everyone saved := by
  obtain ⟨g, rows, lock⟩ := under.rows
  have indexed : (service.handle around call).1.store.channelIndex.get? channel = some guild := by
    rw [handle_channelIndex reach.keyed home]
    exact under.indexed
  have idle : (call.writes = false ∨ ∃ cause, (service.handle around call).2 = .error cause) →
      (service.handle around call).1.store.UnderLock channel guild everyone saved := fun idle =>
    ⟨indexed, g, (handle_idle reach.keyed home reach.oneEveryone idle guild).trans rows, lock⟩
  cases done : (service.handle around call).2 with
  | error cause => exact idle (.inr ⟨cause, done⟩)
  | ok answer =>
    cases writes : call.writes with
    | false => exact idle (.inl writes)
    | true =>
      obtain ⟨guild', g₀, g', -, remade, written⟩ :=
        handle_writes reach.keyed home reach.oneEveryone writes done
      by_cases here : guild = guild'
      · subst here
        cases rows.symm.trans (Store.tables?_of_rows remade.before)
        have other : call.unlocks channel = false := by
          refine Bool.eq_false_iff.mpr fun unlocks => ?_
          have failed := spared unlocks
          rw [done] at failed
          cases failed
        have kept := written.underLock (GuildRows.underLock_withoutLog.mp lock) other
        exact remade.underLock indexed kept
      · exact ⟨indexed, g, (remade.others guild here).trans rows, lock⟩

/-- Over any run without a successful unlock of it, a channel stays under its lock. -/
theorem run_underLock (service : Service) (steps : List (Surroundings × Call))
    (reach : service.store.Reachable) (home : service.store.RolesAtHome)
    (under : service.store.UnderLock channel guild everyone saved)
    (spared : ∀ outcome ∈ service.outcomes steps,
      outcome.1.unlocks channel = true → outcome.2.isOk = false) :
    (service.run steps).store.UnderLock channel guild everyone saved := by
  induction steps generalizing service with
  | nil => exact under
  | cons step rest ih =>
    have first : (service.handle step.1 step.2).1.store.UnderLock channel guild everyone saved :=
      handle_underLock reach home under (spared _ List.mem_cons_self)
    exact ih _ (handle_reachable reach) (handle_rolesAtHome reach.keyed home) first
      fun outcome member => spared outcome (List.mem_cons_of_mem _ member)

/-- A successful lock puts the channel under a lock that keeps the everyone override of before. -/
theorem handle_lockChannel {locked : Service} {actor : Snowflake} {request : Lockdown}
    {answer : Answer} (reach : service.store.Reachable) (home : service.store.RolesAtHome)
    (locks : service.handle around (.lockChannel channel actor request) = (locked, .ok answer)) :
    ∃ row everyone, service.store.channel? channel = some row ∧
      service.store.everyone? row.guildId = some everyone ∧
      locked.store.UnderLock channel row.guildId everyone.id
        ((service.store.override? channel (.role everyone.id)).map (·.overwrite)) := by
  obtain ⟨guild, g, g', indexed, remade, written⟩ :=
    handle_writes reach.keyed home reach.oneEveryone rfl (congrArg Prod.snd locks)
  have moved : (service.handle around (.lockChannel channel actor request)).1 = locked :=
    congrArg Prod.fst locks
  have indexed' : locked.store.channelIndex.get? channel = some guild := by
    rw [← moved, handle_channelIndex reach.keyed home]
    exact indexed
  rw [moved] at remade
  have keyed := reach.keyed guild g remade.before
  have one := reach.oneEveryone guild g remade.before
  obtain ⟨row_read, everyone_read, override_read⟩ :=
    Store.reads_rows indexed (Store.tables?_of_rows remade.before)
  cases written with
  | @lockChannel _ _ _ _ row old new found unlocked marked replaced form =>
    obtain ⟨-, rfl⟩ := keyed.channel_id channel row found
    obtain ⟨everyone, first, rfl⟩ := keyed.everyone_found one marked
    have kept : (service.store.override? channel (.role everyone.id)).map (·.overwrite) = old := by
      rw [override_read]
      exact replaced
    refine ⟨row, everyone, row_read.trans found, everyone_read.trans first,
      remade.underLock indexed' ?_⟩
    rw [kept]
    refine ⟨⟨row.lock old around.now, ?_, rfl, rfl⟩, marked, new, ?_, form⟩
    · rw [KeyMap.get?_insert, if_pos rfl]
      rfl
    · rw [GuildRows.overwrite?_withOverwrite, if_pos rfl]

/-- A successful unlock of a channel under lock puts back what the lock kept. -/
theorem handle_unlockChannel {after : Service} {actor : Snowflake} {request : Lockdown}
    {answer : Answer} (reach : service.store.Reachable) (home : service.store.RolesAtHome)
    (under : service.store.UnderLock channel guild everyone saved)
    (unlocks : service.handle around (.unlockChannel channel actor request) =
      (after, .ok answer)) :
    ∃ row role, after.store.channel? channel = some row ∧ row.guildId = guild ∧
      row.locked = false ∧ row.preLock = none ∧
      after.store.everyone? guild = some role ∧ role.id = everyone ∧
      (after.store.override? channel (.role everyone)).map (·.overwrite) = saved := by
  obtain ⟨guild', g, g', indexed, remade, written⟩ :=
    handle_writes reach.keyed home reach.oneEveryone rfl (congrArg Prod.snd unlocks)
  cases under.indexed.symm.trans indexed
  have moved : (service.handle around (.unlockChannel channel actor request)).1 = after :=
    congrArg Prod.fst unlocks
  have indexed' : after.store.channelIndex.get? channel = some guild := by
    rw [← moved, handle_channelIndex reach.keyed home]
    exact under.indexed
  rw [moved] at remade
  obtain ⟨g₀, rows, lock⟩ := under.rows
  cases (Store.tables?_of_rows remade.before).symm.trans rows
  have keyed := reach.keyed guild g remade.before
  have one := reach.oneEveryone guild g remade.before
  obtain ⟨⟨c, stored, -, kept⟩, marked, -⟩ := GuildRows.underLock_withoutLog.mp lock
  obtain ⟨row_read, everyone_read, override_read⟩ := Store.reads_rows indexed' remade.rewritten
  cases written with
  | @unlockChannel _ _ everyone' _ _ found _ marked' =>
    cases found.symm.trans stored
    cases one everyone' everyone marked' marked
    obtain ⟨role, first, same⟩ := keyed.everyone_found one marked
    refine ⟨c.unlock around.now, role, row_read.trans ?_, ?_, rfl, rfl,
      everyone_read.trans first, same, ?_⟩
    · rw [KeyMap.get?_insert, if_pos rfl]
      rfl
    · exact (keyed.channel_id channel c stored).2
    · rw [override_read, ← kept]
      exact (GuildRows.overwrite?_withOverwrite _ _).trans (if_pos rfl)

/-- A channel that is locked and, after any calls but a successful unlock of it, unlocked again has
the everyone override that it had right before the lock, present or absent, and is left neither
locked nor keeping anything. -/
theorem unlock_restores_everyone_override (service locked after : Service)
    (around around' : Surroundings) (channel actor actor' : Snowflake)
    (request request' : Lockdown) (answer answer' : Answer)
    (steps : List (Surroundings × Call)) (reach : service.store.Reachable)
    (home : service.store.RolesAtHome)
    (locks : service.handle around (.lockChannel channel actor request) = (locked, .ok answer))
    (spared : ∀ outcome ∈ locked.outcomes steps,
      outcome.1.unlocks channel = true → outcome.2.isOk = false)
    (unlocks : (locked.run steps).handle around' (.unlockChannel channel actor' request') =
      (after, .ok answer')) :
    ∃ row row' everyone everyone',
      service.store.channel? channel = some row ∧ after.store.channel? channel = some row' ∧
      row'.guildId = row.guildId ∧ row'.locked = false ∧ row'.preLock = none ∧
      service.store.everyone? row.guildId = some everyone ∧
      after.store.everyone? row.guildId = some everyone' ∧ everyone'.id = everyone.id ∧
      (after.store.override? channel (.role everyone.id)).map (·.overwrite) =
        (service.store.override? channel (.role everyone.id)).map (·.overwrite) := by
  obtain ⟨row, everyone, found, first, under⟩ := handle_lockChannel reach home locks
  have moved : (service.handle around (.lockChannel channel actor request)).1 = locked :=
    congrArg Prod.fst locks
  have reach₁ : locked.store.Reachable := by
    rw [← moved]
    exact handle_reachable reach
  have home₁ : locked.store.RolesAtHome := by
    rw [← moved]
    exact handle_rolesAtHome reach.keyed home
  have under₂ := run_underLock locked steps reach₁ home₁ under spared
  obtain ⟨reach₂, home₂⟩ := run_kept locked steps reach₁ home₁
  obtain ⟨row', everyone', found', home', unlocked, forgotten, first', same, restored⟩ :=
    handle_unlockChannel reach₂ home₂ under₂ unlocks
  exact ⟨row, row', everyone, everyone', found, found', home', unlocked, forgotten, first, first',
    same, restored⟩

/-- The small store's channel once its everyone role has an override, which is empty. -/
def emptyOverrideSample : Service :=
  (channelSample.handle .sample (.setOverride (.wrap 20) (.role (.wrap 1)) (.wrap 1) {})).1

def lockedSample : Service :=
  (emptyOverrideSample.handle .sample (.lockChannel (.wrap 20) (.wrap 1) {})).1

/-- Calls during the lock: three that are refused, and the deletion of a role. -/
def lockedSampleCalls : List (Surroundings × Call) := [
  (.sample, .lockChannel (.wrap 20) (.wrap 1) {}),
  (.sample, .unlockChannel (.wrap 20) (.wrap 3) {}),
  (.sample, .deleteOverride (.wrap 20) (.role (.wrap 1)) (.wrap 1)),
  (.sample, .deleteRole (.wrap 1) (.wrap 10) (.wrap 1))]

theorem unlock_restores_everyone_override_sample :
    ∃ row row' everyone everyone' after answer,
      (lockedSample.run lockedSampleCalls).handle .sample
        (.unlockChannel (.wrap 20) (.wrap 1) {}) = (after, .ok answer) ∧
      emptyOverrideSample.store.channel? (.wrap 20) = some row ∧
      after.store.channel? (.wrap 20) = some row' ∧
      row'.guildId = row.guildId ∧ row'.locked = false ∧ row'.preLock = none ∧
      emptyOverrideSample.store.everyone? row.guildId = some everyone ∧
      after.store.everyone? row.guildId = some everyone' ∧ everyone'.id = everyone.id ∧
      (after.store.override? (.wrap 20) (.role everyone.id)).map (·.overwrite) =
        (emptyOverrideSample.store.override? (.wrap 20) (.role everyone.id)).map (·.overwrite) := by
  obtain ⟨answer, locks⟩ := answer_of_isOk emptyOverrideSample .sample
    (.lockChannel (.wrap 20) (.wrap 1) {}) (by decide +kernel)
  obtain ⟨answer', unlocks⟩ := answer_of_isOk (lockedSample.run lockedSampleCalls) .sample
    (.unlockChannel (.wrap 20) (.wrap 1) {}) (by decide +kernel)
  obtain ⟨row, row', everyone, everyone', restored⟩ :=
    unlock_restores_everyone_override emptyOverrideSample lockedSample _ .sample .sample (.wrap 20)
      (.wrap 1) (.wrap 1) {} {} answer answer' lockedSampleCalls
      (handle_reachable Store.channelSample_reachable)
      (handle_rolesAtHome Store.channelSample_reachable.keyed Store.channelSample_rolesAtHome)
      locks (by decide +kernel) unlocks
  exact ⟨row, row', everyone, everyone', _, answer', unlocks, restored⟩

end Service
end GuildAccess
