import GuildAccess.Proofs.Store.Reachable

/-!
What is left of a call once it is carried out. Whatever is not planned touches nothing but logs, and
a plan makes its one change before it touches them.
-/
namespace GuildAccess

/-- The rows of a guild apart from its log. -/
def GuildRows.withoutLog (g : GuildRows) : GuildRows := { g with audit := .empty }

def Store.tables? (s : Store) (guild : Snowflake) : Option GuildRows :=
  (s.guilds.get? guild).map (·.withoutLog)

theorem Store.tables?_of_rows {s : Store} {guild : Snowflake} {g : GuildRows}
    (rows : s.guilds.get? guild = some g) : s.tables? guild = some g.withoutLog := by
  rw [tables?, rows]
  rfl

/-- Whether roles are at home shows in the rows apart from the logs. -/
theorem Store.rolesAtHome_of_tables {s after : Store} (home : s.RolesAtHome)
    (same : ∀ guild, after.tables? guild = s.tables? guild) : after.RolesAtHome := by
  intro guild g id r rows stored
  have found : s.tables? guild = some g.withoutLog := by
    rw [← same guild, tables?, rows]
    rfl
  obtain ⟨g₀, rows₀, bare⟩ := Option.map_eq_some_iff.mp found
  have roles : g.roles = g₀.roles := (congrArg GuildRows.roles bare).symm
  exact home guild g₀ id r rows₀ (roles ▸ stored)

/-- Reading the store for a channel reads the rows of the guild that the channel is in. -/
theorem Store.reads_rows {s : Store} {channel guild : Snowflake} {g : GuildRows}
    (indexed : s.channelIndex.get? channel = some guild)
    (known : s.tables? guild = some g.withoutLog) :
    s.channel? channel = g.channels.get? channel ∧ s.everyone? guild = g.everyone? ∧
      ∀ target, s.override? channel target = g.overrides.get? (channel, target) := by
  obtain ⟨g', rows, same⟩ := Option.map_eq_some_iff.mp known
  obtain ⟨-, roles, channels, -, overrides, -⟩ := GuildRows.mk.inj same
  refine ⟨?_, ?_, fun target => ?_⟩
  · simp [channel?, rowsOfChannel?, indexed, rows, channels]
  · simp [everyone?, GuildRows.everyone?, rows, roles]
  · simp [override?, rowsOfChannel?, indexed, rows, overrides]

/-- Nothing but logs, locks and the count of identifiers differs between two states. -/
structure Service.Quiet (before after : Service) : Prop where
  tables : ∀ guild, after.store.tables? guild = before.store.tables? guild
  channels : after.store.channelIndex = before.store.channelIndex
  issued : before.issued ≤ after.issued
  reach : before.store.Reachable → after.store.Reachable

namespace Service
variable {around : Surroundings} {service after : Service} {call : Call}

theorem Quiet.refl (service : Service) : Quiet service service :=
  ⟨fun _ => rfl, rfl, Nat.le_refl _, id⟩

theorem Quiet.trans {a b c : Service} (first : Quiet a b) (second : Quiet b c) : Quiet a c where
  tables guild := (second.tables guild).trans (first.tables guild)
  channels := second.channels.trans first.channels
  issued := Nat.le_trans first.issued second.issued
  reach := second.reach ∘ first.reach

theorem append_quiet {entry : Audit.Entry} (done : service.append around entry = .ok after) :
    Quiet service after := by
  unfold append at done
  split at done
  · cases appended : service.store.appendAudit entry with
    | error cause =>
      rw [appended] at done
      cases done
    | ok store =>
      rw [appended] at done
      cases done
      have done : service.store.apply around.now (.appendAudit entry) = .ok store := appended
      have indexed : store.channelIndex = service.store.channelIndex :=
        Store.apply_channelIndex done (by simp) (by simp)
      refine ⟨fun guild => ?_, indexed, Nat.le_refl _, fun reach => reach.apply done⟩
      have written : Store.Rewrites around.now service.store (.appendAudit entry) store :=
        Store.appendAudit_rewrites appended
      obtain ⟨home, g, _, _, found, effect, rows⟩ := written
      cases effect
      unfold Store.tables?
      rw [rows, KeyMap.get?_insert]
      split
      · next here => rw [here, found]; rfl
      · rfl
  · cases done

theorem append_ne_denied {entry : Audit.Entry} {flags : String} :
    service.append around entry ≠ .error (.denied flags) := by
  unfold append
  split
  · cases service.store.appendAudit entry <;> simp
  · simp

theorem log_quiet (draft : Snowflake → Instant → Audit.Entry) :
    Quiet service (service.log around draft) := by
  have counted : Quiet service { service with issued := service.issued + 1 } :=
    ⟨fun _ => rfl, rfl, Nat.le_succ _, id⟩
  unfold log
  dsimp only
  split
  · next done => exact counted.trans (append_quiet done)
  · exact counted

/-- The state right after the change of a plan, before the log is written. -/
def changed (service : Service) (p : Plan) (store : Store) : Service :=
  { service with
    store := store
    issued := if p.mints then service.issued + 1 else service.issued }

/-- A plan fails and leaves the store as it is, or makes its change and then leaves its note. -/
theorem execute_changes (service : Service) (around : Surroundings) (p : Plan) :
    (∃ cause issued, service.store.apply around.now p.change = .error cause ∧
        service.issued ≤ issued ∧
        service.execute around p = ({ service with issued := issued }, .error (.fault cause))) ∨
      ∃ store, service.store.apply around.now p.change = .ok store ∧
        service.execute around p = (match p.note with
          | some note => (service.changed p store).log around note.entry
          | none => service.changed p store, .ok (p.answer store)) := by
  -- The identifier of a new row is counted before the change, the one of the note after it.
  have counting : (if p.mints then { service with issued := service.issued + 1 } else service) =
      { service with issued := if p.mints then service.issued + 1 else service.issued } := by
    split <;> rfl
  have counted : service.issued ≤ if p.mints then service.issued + 1 else service.issued := by
    split
    · exact Nat.le_succ _
    · exact Nat.le_refl _
  unfold execute
  dsimp only
  rw [counting]
  cases done : service.store.apply around.now p.change with
  | error cause => exact .inl ⟨cause, _, rfl, counted, rfl⟩
  | ok store => exact .inr ⟨store, rfl, rfl⟩

/-- A plan fails and touches nothing, or makes its change and then touches logs only. -/
theorem execute_cases (service : Service) (around : Surroundings) (p : Plan) :
    ((∃ cause, (service.execute around p).2 = .error (.fault cause)) ∧
        Quiet service (service.execute around p).1) ∨
      ∃ store, service.store.apply around.now p.change = .ok store ∧
        (service.execute around p).2 = .ok (p.answer store) ∧
        Quiet (service.changed p store) (service.execute around p).1 := by
  rcases execute_changes service around p with ⟨cause, issued, -, counted, failed⟩ |
    ⟨store, done, executed⟩
  · rw [failed]
    exact .inl ⟨⟨cause, rfl⟩, ⟨fun _ => rfl, rfl, counted, id⟩⟩
  · rw [executed]
    refine .inr ⟨store, done, rfl, ?_⟩
    cases p.note with
    | none => exact Quiet.refl _
    | some note => exact log_quiet note.entry

@[simp] theorem takeLock_store (lock : Option Snowflake) :
    (service.takeLock lock).store = service.store := by
  cases lock <;> rfl

@[simp] theorem takeLock_issued (lock : Option Snowflake) :
    (service.takeLock lock).issued = service.issued := by
  cases lock <;> rfl

/-- A call fails or only asks, and touches logs at most, or its plan is carried out. -/
theorem handle_cases (service : Service) (around : Surroundings) (call : Call) :
    ((∃ cause, (service.handle around call).2 = .error cause) ∧
        Quiet service (service.handle around call).1) ∨
      (∃ ruling, call.judge service.store around (around.idAt (service.issued + 1)) = .ok ruling ∧
        (∀ p, ruling ≠ .plan p) ∧ Quiet service (service.handle around call).1) ∨
      ∃ p store,
        call.judge service.store around (around.idAt (service.issued + 1)) = .ok (.plan p) ∧
        service.store.apply around.now p.change = .ok store ∧
        (service.handle around call).2 = .ok (p.answer store) ∧
        Quiet (service.changed p store) (service.handle around call).1 := by
  unfold handle
  cases call.enter service.store with
  | error cause => exact .inl ⟨⟨cause, rfl⟩, Quiet.refl service⟩
  | ok lock =>
    have entered : Quiet service (service.takeLock lock) := by
      cases lock <;> exact ⟨fun _ => rfl, rfl, Nat.le_refl _, id⟩
    dsimp only
    rw [takeLock_store, takeLock_issued]
    cases judged : call.judge service.store around (around.idAt (service.issued + 1)) with
    | error refusal =>
      cases refusal with
      | error cause => exact .inl ⟨⟨cause, rfl⟩, entered⟩
      | denied denial flags => exact .inl ⟨⟨_, rfl⟩, entered.trans (log_quiet denial.entry)⟩
    | ok ruling =>
      cases ruling with
      | answer a => exact .inr (.inl ⟨_, rfl, by simp, entered⟩)
      | append entry | offer entry =>
        refine .inr (.inl ⟨_, rfl, by simp, ?_⟩)
        unfold settle
        dsimp only
        split
        · next done => exact entered.trans (append_quiet done)
        · exact entered
      | report denial => exact .inr (.inl ⟨_, rfl, by simp, entered.trans (log_quiet denial.entry)⟩)
      | plan p =>
        rcases execute_cases (service.takeLock lock) around p with ⟨⟨cause, failed⟩, quiet⟩ |
          ⟨after, done, answered, quiet⟩
        · exact .inl ⟨⟨.fault cause, failed⟩, entered.trans quiet⟩
        · rw [takeLock_store] at done
          refine .inr (.inr ⟨p, after, rfl, done, answered, ?_⟩)
          have locked :
              Quiet (service.changed p after) ((service.takeLock lock).changed p after) := by
            cases lock <;> exact ⟨fun _ => rfl, rfl, Nat.le_refl _, id⟩
          exact locked.trans quiet

/-- A call that was admitted ends with a denial exactly if it is judged to one. -/
theorem handle_denied {lock : Option Snowflake} {flags : String}
    (entered : call.enter service.store = .ok lock) :
    (service.handle around call).2 = .error (.denied flags) ↔
      Judge.Denies (call.judge service.store around (around.idAt (service.issued + 1))) flags := by
  unfold handle
  rw [entered]
  dsimp only
  rw [takeLock_store, takeLock_issued]
  cases call.judge service.store around (around.idAt (service.issued + 1)) with
  | error refusal => cases refusal <;> simp [settle, Refusal.cause]
  | ok ruling =>
    have granted : ¬ Judge.Denies (.ok ruling) flags := Judge.denies_ok
    simp only [granted, iff_false]
    cases ruling with
    | answer a => simp [settle]
    | report denial => simp [settle]
    | offer entry =>
      cases appended : (service.takeLock lock).append around entry <;> simp [settle, appended]
    | append entry =>
      cases appended : (service.takeLock lock).append around entry with
      | ok after => simp [settle, appended]
      | error cause =>
        have other : cause ≠ .denied flags := fun same => append_ne_denied (same ▸ appended)
        simpa [settle, appended] using other
    | plan p =>
      unfold settle
      rcases execute_cases (service.takeLock lock) around p with ⟨⟨cause, failed⟩, -⟩ |
        ⟨after, -, answered, -⟩
      · simp [failed]
      · simp [answered]

/-- A call that succeeds has an answer. -/
theorem answer_of_isOk (service : Service) (around : Surroundings) (call : Call)
    (ok : (service.handle around call).2.isOk = true) : ∃ answer,
      service.handle around call = ((service.handle around call).1, .ok answer) := by
  cases done : (service.handle around call).2 with
  | ok answer => exact ⟨answer, Prod.ext rfl done⟩
  | error cause =>
    rw [done] at ok
    cases ok

/-- Calls lead from reachable stores to reachable stores. -/
theorem handle_reachable (reach : service.store.Reachable) :
    (service.handle around call).1.store.Reachable := by
  rcases handle_cases service around call with ⟨-, quiet⟩ | ⟨_, -, -, quiet⟩ |
    ⟨p, store, -, done, -, quiet⟩
  · exact quiet.reach reach
  · exact quiet.reach reach
  · exact quiet.reach (reach.apply done)

def sample : Service := ⟨.sample, 0, .empty⟩

def channelSample : Service := ⟨.channelSample, 0, .empty⟩

end Service

/-- Surroundings whose identifiers are not in the small store. -/
def Surroundings.sample : Surroundings := ⟨⟨0, 0⟩, fun n => .wrap (100 + n), {}, true⟩

end GuildAccess
