import GuildAccess.Proofs.Lockdown
import GuildAccess.Proofs.Relevance

/-!
What a lock takes away. While a channel is locked its everyone override takes the lockdown flags
from whatever a user holds in the whole guild, and only an override that is applied after it can
give them back: that of a role the user holds, or the user's own. Administrators are not held back.
-/
namespace GuildAccess

/-- A flag that the layers leave was there before or is allowed by one of them. -/
theorem Resolver.stack_has {look : OverrideTarget → Option Overwrite}
    {targets : List OverrideTarget} {p : Permissions} {f : Flag}
    (has : (stack look targets p).has f = true) : p.has f = true ∨
      ∃ target ∈ targets, ∃ o, look target = some o ∧ o.allow.has f = true := by
  induction targets generalizing p with
  | nil => exact .inl has
  | cons target rest ih =>
    have has : (stack look rest (applyOpt (look target) p)).has f = true := has
    rcases ih has with first | ⟨later, member, o, found, allowed⟩
    · rw [applyOpt_has, Bool.or_eq_true, Bool.and_eq_true, Option.any_eq_true] at first
      rcases first with ⟨before, -⟩ | ⟨o, found, allowed⟩
      · exact .inl before
      · exact .inr ⟨target, List.mem_cons_self, o, found, allowed⟩
    · exact .inr ⟨later, List.mem_cons_of_mem _ member, o, found, allowed⟩

/-- The overwrite of a lock leaves none of the lockdown flags, whatever it was made from. -/
theorem Overwrite.lockdown_clears (saved : Option Overwrite) (p : Permissions) {f : Flag}
    (taken : lockdownFlags.has f = true) : ((Overwrite.lockdown saved).apply p).has f = false := by
  simp [lockdown, taken]

namespace GuildRows
variable {g : GuildRows} {guild channel everyone user : Snowflake} {saved : Option Overwrite}
  {f : Flag}

/-- An override allows a flag to a target in a channel. -/
def Allows (g : GuildRows) (channel : Snowflake) (f : Flag) (target : OverrideTarget) : Prop :=
  ∃ o, g.overwrite? channel target = some o ∧ o.allow.has f = true

/-- Behind a lock a user without administrator rights holds a lockdown flag only if an override of
a role they hold, or their own, allows it. -/
theorem UnderLock.silences (under : g.UnderLock channel everyone saved) (keyed : g.Keyed guild)
    (one : g.OneEveryone) (mortal : (g.serverOf user).has .administrator = false)
    (taken : lockdownFlags.has f = true) (has : (g.channelOf channel user).has f = true) :
    (∃ id r, g.HasRole user id r ∧ g.Allows channel f (.role id)) ∨
      g.Allows channel f (.member user) := by
  obtain ⟨c, stored, -, -⟩ := under.row
  obtain ⟨r, marked⟩ := under.marked
  have first := (everyone?_eq_some one).mp ⟨⟨everyone, marked.1⟩, marked.2⟩
  have named : r.id = everyone := keyed.role_id everyone r marked.1
  have known : (g.channels.get? channel).isSome = true := by rw [stored]; rfl
  rw [keyed.channelOf_eq known one, mortal, if_neg Bool.false_ne_true] at has
  unfold layersOf at has
  -- The everyone layer is the first, so what it clears has to come from a later one.
  rw [first, Option.toList_some, List.map_singleton, List.append_assoc, Resolver.stack_append,
    named] at has
  rcases Resolver.stack_has has with left | ⟨target, member, allows⟩
  · have cleared : (Resolver.stack (g.overwrite? channel) [.role everyone]
        (g.serverOf user)).has f = false := by
      obtain ⟨o, stored, form⟩ := under.overwrite
      show (Resolver.applyOpt (g.overwrite? channel (.role everyone)) _).has f = false
      rw [stored, form.eq]
      exact Overwrite.lockdown_clears saved _ taken
    rw [cleared] at left
    cases left
  · rcases List.mem_append.mp member with role | own
    · obtain ⟨r', held, rfl⟩ := List.mem_map.mp role
      obtain ⟨id, holds⟩ := mem_heldRoles.mp held
      have here : r'.id = id := keyed.role_id id r' holds.1
      exact .inl ⟨id, r', holds, here ▸ allows⟩
    · cases List.mem_singleton.mp own
      exact .inr allows

/-- Administrator rights come with the guild, the everyone role or a held role. -/
theorem Keyed.not_administrator (keyed : g.Keyed guild) (one : g.OneEveryone)
    (notOwner : g.guild.isOwner user = false)
    (everyone : ∀ r, g.everyone? = some r → r.grantsAdministrator = false)
    (held : ∀ id r, g.HasRole user id r → r.grantsAdministrator = false) :
    (g.serverOf user).has .administrator = false := by
  have marked {r : Role} (granted : r.grants .administrator = true) :
      r.grantsAdministrator = true := by
    simpa [Role.grants, Role.grantsAdministrator] using granted
  rw [← Bool.not_eq_true, keyed.serverOf_iff one]
  rintro (owner | ⟨r, first, granted⟩ | ⟨id, r, holds, granted⟩)
  · rw [notOwner] at owner
    cases owner
  · exact absurd (marked granted) (by simp [everyone r first])
  · exact absurd (marked granted) (by simp [held id r holds])

end GuildRows

namespace Store

/-- No channel of any guild is locked. -/
def NoneLocked (s : Store) : Prop :=
  ∀ guild g, s.guilds.get? guild = some g → ∀ id c, g.channels.get? id = some c → c.locked = false

/-- Every locked channel of every guild is under a lock. -/
def LocksHeld (s : Store) : Prop := ∀ guild g, s.tables? guild = some g → g.LocksHeld

/-- No channel is locked if no listed one is. -/
theorem noneLocked_of_all {s : Store}
    (all : s.guilds.entries.all
      (fun e => e.2.channels.entries.all fun c => !c.2.locked) = true) : s.NoneLocked := by
  intro guild g rows id c stored
  simp only [List.all_eq_true, Bool.not_eq_true'] at all
  exact all _ (KeyMap.mem_of_get? rows) _ (KeyMap.mem_of_get? stored)

theorem NoneLocked.locksHeld {s : Store} (unlocked : s.NoneLocked) : s.LocksHeld := by
  intro guild g known id c stored locked
  obtain ⟨g₀, rows, rfl⟩ := Option.map_eq_some_iff.mp known
  rw [unlocked guild g₀ rows id c stored] at locked
  cases locked

end Store

namespace Service
variable {service : Service} {around : Surroundings} {call : Call}

/-- No call breaks a lock without unlocking the channel. -/
theorem handle_locksHeld (reach : service.store.Reachable) (home : service.store.RolesAtHome)
    (held : service.store.LocksHeld) : (service.handle around call).1.store.LocksHeld := by
  intro guild g known
  have idle (idle : call.writes = false ∨ ∃ cause, (service.handle around call).2 = .error cause) :
      g.LocksHeld :=
    held guild g ((handle_idle reach.keyed home reach.oneEveryone idle guild).symm.trans known)
  cases done : (service.handle around call).2 with
  | error cause => exact idle (.inr ⟨cause, done⟩)
  | ok answer =>
    cases writes : call.writes with
    | false => exact idle (.inl writes)
    | true =>
      obtain ⟨guild', g₀, g', -, remade, written⟩ :=
        handle_writes reach.keyed home reach.oneEveryone writes done
      by_cases here : guild = guild'
      · subst here
        cases known.symm.trans remade.rewritten
        have before : g₀.LocksHeld := fun id c stored locked => by
          obtain ⟨everyone, under⟩ :=
            held guild _ (Store.tables?_of_rows remade.before) id c stored locked
          exact ⟨everyone, GuildRows.underLock_withoutLog.mp under⟩
        intro id c stored locked
        obtain ⟨everyone, under⟩ := written.locksHeld before id c stored locked
        exact ⟨everyone, GuildRows.underLock_withoutLog.mpr under⟩
      · exact held guild g ((remade.others guild here).symm.trans known)

theorem run_locksHeld (service : Service) (steps : List (Surroundings × Call))
    (reach : service.store.Reachable) (home : service.store.RolesAtHome)
    (held : service.store.LocksHeld) : (service.run steps).store.LocksHeld := by
  induction steps generalizing service with
  | nil => exact held
  | cons step rest ih =>
    exact ih _ (handle_reachable reach) (handle_rolesAtHome reach.keyed home)
      (handle_locksHeld reach home held)

/-- Lockdown silences a channel. However calls led to a locked channel from a store in which none
was locked, a member who neither owns the guild nor is made an administrator by the everyone role or
a role they hold is told that they may send messages or add reactions there only if an override of a
role they hold, or their own, allows it. -/
theorem locked_channels_are_silent (service : Service) (steps : List (Surroundings × Call))
    (around : Surroundings) (channel user : Snowflake) (row : Channel) (g : GuildRows)
    (flag : Flag) (reach : service.store.Reachable) (home : service.store.RolesAtHome)
    (unlocked : service.store.NoneLocked)
    (found : (service.run steps).store.channel? channel = some row) (locked : row.locked = true)
    (rows : (service.run steps).store.guilds.get? row.guildId = some g)
    (member : (g.members.get? user).isSome = true) (notOwner : g.guild.isOwner user = false)
    (everyone : ∀ r, g.everyone? = some r → r.grantsAdministrator = false)
    (held : ∀ id r, g.HasRole user id r → r.grantsAdministrator = false)
    (silenced : flag = .sendMessages ∨ flag = .addReactions) :
    ∃ p, ((service.run steps).handle around (.channelPermissions channel user)).2 =
        .ok (.permissions p) ∧
      (p.has flag = true →
        (∃ id r, g.HasRole user id r ∧ g.Allows channel flag (.role id)) ∨
          g.Allows channel flag (.member user)) := by
  obtain ⟨reach', home'⟩ := run_kept service steps reach home
  have keyed := reach'.keyed _ g rows
  have one := reach'.oneEveryone _ g rows
  obtain ⟨-, -, g₀, rows₀, stored⟩ := reach'.keyed.channel_stored found
  cases rows.symm.trans rows₀
  have known : ∀ id, some channel = some id → (g.channels.get? id).isSome = true := by
    rintro id ⟨⟩
    rw [stored]
    rfl
  have inside : g.hasInsider user = true := by simp [GuildRows.hasInsider, member]
  obtain ⟨everyone', under⟩ := run_locksHeld service steps reach home unlocked.locksHeld _ _
    (Store.tables?_of_rows rows) channel row stored locked
  refine ⟨g.channelOf channel user, ?_, fun has => ?_⟩
  · rw [handle_channelPermissions found, Store.held, Judge.snapshot_of_rows rows known,
      if_pos inside]
    rfl
  · have taken : lockdownFlags.has flag = true := by rcases silenced with rfl | rfl <;> decide
    exact (GuildRows.underLock_withoutLog.mp under).silences keyed one
      (keyed.not_administrator one notOwner everyone held) taken has

/-- The owner lets everyone send in the channel of the small store and then locks it; who manages
roles may not lift that, and user 3 gets a role meanwhile. -/
def silencedCalls : List (Surroundings × Call) :=
  let id := Snowflake.wrap
  [(.sample, .setOverride (id 20) (.role (id 1)) (id 1) ⟨.only .sendMessages, ∅⟩),
    (.sample, .lockChannel (id 20) (id 1) {}),
    (.sample, .deleteOverride (id 20) (.role (id 1)) (id 2)),
    (.sample, .assignRole (id 1) (id 3) (id 11) (id 2))]

def silencedSample : Service := channelSample.run silencedCalls

def silencedRows : GuildRows :=
  (silencedSample.store.guilds.get? (.wrap 1)).get (by decide +kernel)

theorem locked_channels_are_silent_sample :
    ∃ row p, silencedSample.store.channel? (.wrap 20) = some row ∧ row.locked = true ∧
      silencedRows.heldBy (.wrap 3) = [.wrap 11] ∧
      (silencedSample.handle .sample (.channelPermissions (.wrap 20) (.wrap 3))).2 =
        .ok (.permissions p) ∧
      (p.has .sendMessages = true →
        (∃ id r, silencedRows.HasRole (.wrap 3) id r ∧
          silencedRows.Allows (.wrap 20) .sendMessages (.role id)) ∨
        silencedRows.Allows (.wrap 20) .sendMessages (.member (.wrap 3))) := by
  obtain ⟨row, found⟩ := Option.isSome_iff_exists.mp
    (show (silencedSample.store.channel? (.wrap 20)).isSome = true by decide +kernel)
  have read : (silencedSample.store.channel? (.wrap 20)).all
      (fun c => c.guildId = .wrap 1 && c.locked) = true := by decide +kernel
  obtain ⟨here, locked⟩ : row.guildId = .wrap 1 ∧ row.locked = true := by simpa [found] using read
  have rows : silencedSample.store.guilds.get? (.wrap 1) = some silencedRows := by
    simp [silencedRows]
  have plain : ∀ e ∈ silencedRows.roles.entries, e.2.grantsAdministrator = false := by
    decide +kernel
  have stored : ∀ id r, silencedRows.roles.get? id = some r → r.grantsAdministrator = false :=
    fun id r found => plain (id, r) (KeyMap.mem_of_get? found)
  obtain ⟨p, answered, silent⟩ := locked_channels_are_silent channelSample silencedCalls .sample
    (.wrap 20) (.wrap 3) row silencedRows .sendMessages Store.channelSample_reachable
    Store.channelSample_rolesAtHome (Store.noneLocked_of_all (by decide)) found locked (here ▸ rows)
    (by decide +kernel) (by decide +kernel)
    (fun r first => stored _ r (KeyMap.mem_rows.mp (List.mem_of_find?_eq_some first)).choose_spec)
    (fun id r holds => stored id r holds.1) (.inl rfl)
  exact ⟨row, p, found, locked, by decide +kernel, answered, silent⟩

end Service
end GuildAccess
