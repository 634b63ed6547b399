import GuildAccess.Proofs.Store.Logs
import GuildAccess.Proofs.Notes
import GuildAccess.Proofs.WriteSets

/-!
The audit trail. Each privileged action that was carried out and each denial leaves one entry in the
log of its guild, and nothing else does but the three calls that are there to write to a log. What a
log holds stays in it.
-/
namespace GuildAccess

/-- Whether a ruling is to write an entry and nothing else. -/
def Ruling.writesLog : Ruling → Bool
  | .append _ | .offer _ | .report _ => true
  | _ => false

def Judge.WritesLog (check : Except Refusal Ruling) : Prop :=
  ∃ ruling, check = .ok ruling ∧ ruling.writesLog = true

namespace Judge

@[simp] theorem writesLog_ok {ruling : Ruling} :
    WritesLog (.ok ruling) ↔ ruling.writesLog = true := by
  simp [WritesLog]

@[simp] theorem writesLog_error {refusal : Refusal} : ¬ WritesLog (.error refusal) := by
  simp [WritesLog]

@[simp] theorem writesLog_bind {α : Type} {step : Except Refusal α}
    {next : α → Except Refusal Ruling} :
    WritesLog (step >>= next) ↔ ∃ given, step = .ok given ∧ WritesLog (next given) := by
  cases step <;> simp [WritesLog, bind, Except.bind]

@[simp] theorem writesLog_ite {c : Prop} [Decidable c] {yes no : Except Refusal Ruling} :
    WritesLog (if c then yes else no) ↔ if c then WritesLog yes else WritesLog no := by
  split <;> rfl

end Judge

namespace Call

def editedRole? : Call → Option Snowflake
  | .updateRole _ role _ _ | .toggleFlag _ role _ _ => some role
  | _ => none

/-- The entry that a call is there to write as it is given. -/
def entry? : Call → Option Audit.Entry
  | .record entry | .recordAfter entry => some entry
  | _ => none

/-- The guild whose log a call is there to write to. -/
def logs? : Call → Option Snowflake
  | .recordDenied denial => some denial.guildId
  | call => call.entry?.map (·.guildId)

/-- The guild whose log a call may write to under an identifier that is made for it. -/
def audits? (s : Store) : Call → Option Snowflake
  | .recordDenied denial => some denial.guildId
  | call => (call.check? s).map (·.guild)

/-- A guarded call that succeeded and, if it edits a role, made a difference to it. -/
structure CarriedOut (call : Call) (before after : Store) (result : Except CallError Answer) :
    Prop where
  guarded : call.isGuarded = true
  succeeded : ∃ answer, result = .ok answer
  edited : ∀ role, call.editedRole? = some role → after.role? role ≠ before.role? role

variable {s after : Store} {around : Surroundings} {fresh role : Snowflake} {call : Call} {p : Plan}

theorem of_entry {entry : Audit.Entry} (records : call.entry? = some entry) :
    call = .record entry ∨ call = .recordAfter entry := by
  cases call with
  | record => exact .inl (congrArg record (Option.some.inj records))
  | recordAfter => exact .inr (congrArg recordAfter (Option.some.inj records))
  | _ => cases records

theorem logs_of_entry {entry : Audit.Entry} (records : call.entry? = some entry) :
    call.logs? = some entry.guildId := by
  rcases of_entry records with rfl | rfl <;> rfl

theorem audits_of_check {d : Demand} (checks : call.check? s = some d) :
    call.audits? s = some d.guild := by
  cases call with
  | recordDenied => cases checks
  | _ => exact Option.map_eq_some_iff.mpr ⟨d, checks, rfl⟩

/-- All calls but those that are there for it leave the log to what they plan. -/
theorem judge_writesLog {ruling : Ruling} (judged : call.judge s around fresh = .ok ruling)
    (writes : ruling.writesLog = true) : call.logs? ≠ none := by
  have writes : Judge.WritesLog (call.judge s around fresh) := ⟨ruling, judged, writes⟩
  cases call with
  | record | recordAfter | recordDenied => exact Option.some_ne_none _
  | isOwner guild user =>
    simp only [judge, Judge.isOwner] at writes
    split at writes <;> simp [Ruling.writesLog] at writes
  | canManageMember guild actor target =>
    simp only [judge, Judge.canManageMember, Judge.writesLog_bind] at writes
    obtain ⟨caller, -, writes⟩ := writes
    split at writes <;> simp [Ruling.writesLog] at writes
  -- The rest answers or plans wherever it ends.
  | createRole | updateRole | toggleFlag | deleteRole | reorderRoles | join | assignRole
  | unassignRole | setOverride | deleteOverride | lockChannel | unlockChannel =>
    simp [judge, Judge.createRole, Judge.updateRole, Judge.toggleFlag, Judge.deleteRole,
      Judge.reorderRoles, Judge.join, Judge.assignRole, Judge.unassignRole, Judge.setOverride,
      Judge.deleteOverride, Judge.lockChannel, Judge.unlockChannel, Ruling.writesLog] at writes
  | getRole | listRoles | getMember | listOverrides | getChannel | loadSnapshot | guildPermissions
  | channelPermissions | effectivePermissions | check | requireAny | ensureManages | listAudit
  | findChannel | findRole =>
    simp [judge, Judge.getRole, Judge.listRoles, Judge.getMember, Judge.listOverrides,
      Judge.getChannel, Judge.guildPermissions, Judge.channelPermissions,
      Judge.effectivePermissions, Judge.check, Judge.listAudit, Ruling.writesLog] at writes

/-- No plan is to write an entry. -/
theorem plan_plain (keyed : s.Keyed) (home : s.RolesAtHome)
    (planned : call.judge s around fresh = .ok (.plan p)) (e : Audit.Entry) :
    p.change ≠ .appendAudit e := by
  rcases judge_plans planned with guarded | ⟨guild, user, rfl⟩
  · obtain ⟨_, _, _, -, -, -, permitted⟩ := judge_permitted keyed home guarded planned
    cases permitted <;> simp_all
  · simp only [judge, Judge.join, passes_bind, Except.ok.injEq, Ruling.plan.injEq] at planned
    obtain ⟨_, -, _, -, rfl⟩ := planned
    simp

/-- An edit is planned only if it makes a difference to the role. -/
theorem edit_plan (edits : call.editedRole? = some role)
    (planned : call.judge s around fresh = .ok (.plan p)) :
    ∃ before row, s.role? role = some before ∧ row ≠ before ∧ row.id = before.id ∧
      { row with guildId := before.guildId, isEveryone := before.isEveryone,
                 createdAt := before.createdAt } = row ∧ p.change = .updateRole row := by
  cases call with
  | updateRole guild id actor request =>
    cases edits
    simp only [judge, Judge.updateRole, passes_bind, Judge.passes_mustCall,
      Judge.passes_findRole] at planned
    obtain ⟨_, -, before, ⟨found, -⟩, -, -, -, -, -, -, planned⟩ := planned
    split at planned
    · cases planned
    · next changes =>
      cases planned
      refine ⟨before, _, found, ?_, (Judge.updatedRole_kept before request around.now).1,
        Judge.updatedRole_fixed before request around.now, rfl⟩
      intro same
      rw [same] at changes
      simp [Judge.roleChanges] at changes
  | toggleFlag guild id actor request =>
    cases edits
    simp only [judge, Judge.toggleFlag, passes_bind, Judge.passes_mustCall,
      Judge.passes_findRole] at planned
    obtain ⟨_, -, before, ⟨found, -⟩, -, -, -, -, planned⟩ := planned
    split at planned
    · cases planned
    · next changes =>
      cases planned
      have different : before.setPermissions
          (before.permissions.set request.flag request.enabled) around.now ≠ before :=
        fun same => changes (congrArg Role.permissions same)
      exact ⟨before, _, found, different, rfl, rfl, rfl⟩
  | _ => cases edits

/-- An edit that is carried out changes the stored role. -/
theorem edit_changes (keyed : s.Keyed) (home : s.RolesAtHome)
    (edits : call.editedRole? = some role)
    (planned : call.judge s around fresh = .ok (.plan p))
    (done : s.apply around.now p.change = .ok after) : after.role? role ≠ s.role? role := by
  obtain ⟨before, row, found, different, named, fixed, change⟩ := edit_plan edits planned
  rw [change] at done
  obtain ⟨-, indexed, -⟩ := keyed.role_home home found
  obtain ⟨g, -, -, insert⟩ := Judge.role_written keyed home found named fixed done
  -- The row is rewritten where it was, so its identifier still leads to it.
  have indexed' : after.roleIndex.get? role = some before.guildId := by
    rw [show after.roleIndex = s.roleIndex from Store.apply_index done .role]
    exact indexed
  have stored : after.role? role = some row := by
    simp [Store.role?, Store.rowsOfRole?, indexed', insert, KeyMap.get?_insert]
  rw [stored, found]
  exact fun same => different (Option.some.inj same)

/-- A guarded call that passes without a plan was an edit that made no difference. -/
theorem edited_of_idle {ruling : Ruling} (guarded : call.isGuarded = true)
    (judged : call.judge s around fresh = .ok ruling) (unplanned : ∀ p, ruling ≠ .plan p) :
    ∃ role, call.editedRole? = some role := by
  have idles : call.mayIdle = true := by
    cases busy : call.mayIdle with
    | true => rfl
    | false =>
      have writes : call.writes = true := by
        unfold writes
        split
        · rfl
        · exact guarded
      obtain ⟨p, rfl⟩ := judge_onlyPlans writes busy ruling judged
      exact absurd rfl (unplanned p)
  cases call with
  | updateRole guild role actor request => exact ⟨role, rfl⟩
  | toggleFlag guild role actor request => exact ⟨role, rfl⟩
  | _ => cases idles

end Call

namespace Service
variable {around : Surroundings} {service : Service} {call : Call}

/-- An entry was written under the identifier that was made last, and no role was touched. -/
structure Logged (around : Surroundings) (before after : Service) (guild : Snowflake)
    (draft : Snowflake → Instant → Audit.Entry) : Prop where
  counted : before.issued < after.issued
  puts : before.store.Puts after.store guild (draft (around.idAt after.issued) around.now)
  roles : ∀ id, after.store.role? id = before.store.role? id

section Drafts
variable {guild : Snowflake} {draft : Snowflake → Instant → Audit.Entry}

/-- A log that can be written takes every entry for a guild that is there. -/
theorem log_logged (writable : around.logWritable = true)
    (about : ∀ id now, (draft id now).guildId = guild)
    (known : (service.store.guilds.get? guild).isSome = true) :
    Logged around service (service.log around draft) guild draft := by
  rw [← about (around.idAt (service.issued + 1)) around.now] at known ⊢
  obtain ⟨after, appended, puts, roles⟩ := Store.appendAudit_puts known
  unfold log append
  simp only [writable, if_true, appended]
  exact ⟨Nat.lt_succ_self _, puts, roles⟩

/-- An entry for a guild that is not there goes nowhere. -/
theorem log_unknown (about : ∀ id now, (draft id now).guildId = guild)
    (unknown : service.store.guilds.get? guild = none) :
    (service.log around draft).store = service.store := by
  rw [← about (around.idAt (service.issued + 1)) around.now] at unknown
  unfold log append Store.appendAudit
  simp only [unknown, Store.need]
  cases around.logWritable <;> rfl

end Drafts

/-- A log that cannot be written is not written. -/
theorem log_unwritable (unwritable : around.logWritable = false)
    (draft : Snowflake → Instant → Audit.Entry) :
    (service.log around draft).store = service.store := by
  simp [log, append, unwritable]

/-- A plan that leaves a note writes its entry once its change is made, and nothing before. -/
theorem execute_logged {p : Plan} {note : Note} (writable : around.logWritable = true)
    (noted : p.note = some note)
    (known : (service.store.guilds.get? note.guildId).isSome = true)
    (plain : ∀ e, p.change ≠ .appendAudit e) :
    ((∃ cause, (service.execute around p).2 = .error (.fault cause)) ∧
        (service.execute around p).1.store = service.store) ∨
      ∃ store, service.store.apply around.now p.change = .ok store ∧
        (service.execute around p).2 = .ok (p.answer store) ∧
        service.issued < (service.execute around p).1.issued ∧
        service.store.Puts (service.execute around p).1.store note.guildId
          (note.entry (around.idAt (service.execute around p).1.issued) around.now) ∧
        ∀ id, (service.execute around p).1.store.role? id = store.role? id := by
  rcases execute_changes service around p with ⟨cause, issued, -, -, failed⟩ |
    ⟨store, done, executed⟩
  · rw [failed]
    exact .inl ⟨⟨cause, rfl⟩, rfl⟩
  · rw [executed, noted]
    have logged : Logged around (service.changed p store)
        ((service.changed p store).log around note.entry) note.guildId note.entry :=
      log_logged writable (fun _ _ => rfl) (Store.apply_known done known)
    have counted : service.issued ≤ (service.changed p store).issued :=
      (changed_issued service p store).1
    exact .inr ⟨store, done, rfl, Nat.lt_of_le_of_lt counted logged.counted,
      (Store.apply_silent done plain).puts logged.puts, logged.roles⟩

/-- No identifier that was made during a call was in the log that the call may write to. -/
def Unlogged (around : Surroundings) (before : Store) (issued : Nat) (after : Service)
    (call : Call) : Prop :=
  ∀ guild, call.audits? before = some guild → ∀ n, issued < n → n ≤ after.issued →
    (before.logOf guild).get? (around.idAt n) = none

/-- What was written under an identifier made for it is new. -/
theorem Unlogged.adds {before : Store} {issued : Nat} {after : Service} {guild : Snowflake}
    {e : Audit.Entry} (fresh : Unlogged around before issued after call)
    (audited : call.audits? before = some guild) (counted : issued < after.issued)
    (named : e.id = around.idAt after.issued) (puts : before.Puts after.store guild e) :
    before.Adds after.store guild e :=
  ⟨puts, named ▸ fresh guild audited after.issued counted (Nat.le_refl _)⟩

/-- How a call ends, and what it leaves in the logs. A call that is there to write to the log of an
unknown guild has lost what it was to write. -/
inductive Trace (around : Surroundings) (before : Store) (issued : Nat) (after : Service)
    (call : Call) : Except CallError Answer → Prop
  | carriedOut {answer : Answer} {d : Demand} {changes : Json}
    (carried : call.CarriedOut before after.store (.ok answer))
    (checks : call.check? before = some d) (counted : issued < after.issued)
    (puts : before.Puts after.store d.guild
      ((call.note (around.idAt (issued + 1)) d changes).entry
        (around.idAt after.issued) around.now)) :
    Trace around before issued after call (.ok answer)
  | idle {answer : Answer} {role : Snowflake} (edits : call.editedRole? = some role)
    (same : after.store = before) : Trace around before issued after call (.ok answer)
  | denied {flags : String} {d : Demand} {first : Flag} {others : List Flag}
    (checks : call.check? before = some d) (listed : d.flags = first :: others)
    (named : flags = d.names) (counted : issued < after.issued)
    (puts : before.Puts after.store d.guild
      ((d.denial first others).entry (around.idAt after.issued) around.now)) :
    Trace around before issued after call (.error (.denied flags))
  | failed {cause : CallError} (granted : ∀ flags, cause ≠ .denied flags)
    (other : call.logs? = none) (same : after.store = before) :
    Trace around before issued after call (.error cause)
  | asked {answer : Answer} (unguarded : call.isGuarded = false) (reads : call.logs? = none)
    (silent : before.Silent after.store) : Trace around before issued after call (.ok answer)
  | recorded {answer : Answer} {entry : Audit.Entry} (records : call.entry? = some entry)
    (known : (before.guilds.get? entry.guildId).isSome = true)
    (puts : before.Puts after.store entry.guildId entry) :
    Trace around before issued after call (.ok answer)
  | reported {answer : Answer} {denial : Denial} (reports : call = .recordDenied denial)
    (known : (before.guilds.get? denial.guildId).isSome = true)
    (counted : issued < after.issued)
    (puts : before.Puts after.store denial.guildId
      (denial.entry (around.idAt after.issued) around.now)) :
    Trace around before issued after call (.ok answer)
  | lost {result : Except CallError Answer} {guild : Snowflake} (logs : call.logs? = some guild)
    (unknown : before.guilds.get? guild = none) (granted : ∀ flags, result ≠ .error (.denied flags))
    (same : after.store = before) : Trace around before issued after call result

/-- A guarded call is not there to write to a log. -/
theorem logs_of_guarded (guarded : call.isGuarded = true) : call.logs? = none := by
  cases call with
  | record | recordAfter | recordDenied => cases guarded
  | _ => rfl

/-- A guarded call that plans is carried out with its note, or fails. -/
theorem plan_trace {p : Plan} (reach : service.store.Reachable) (home : service.store.RolesAtHome)
    (writable : around.logWritable = true)
    (planned : call.judge service.store around (around.idAt (service.issued + 1)) = .ok (.plan p)) :
    Trace around service.store service.issued (service.execute around p).1 call
      (service.execute around p).2 := by
  rcases Call.judge_plans planned with guarded | ⟨guild, user, rfl⟩
  · obtain ⟨d, caller, changes, checks, passed, noted⟩ :=
      Call.judge_note reach.keyed guarded planned
    obtain ⟨g, rows, -⟩ := Judge.passes_gate_rows passed
    have known : (service.store.guilds.get? d.guild).isSome = true := by simp [rows]
    have plain := Call.plan_plain reach.keyed home planned
    rcases execute_logged writable noted known plain with ⟨⟨cause, failed⟩, same⟩ |
      ⟨store, done, answered, issued, puts, roles⟩
    · rw [failed]
      exact .failed (by simp) (logs_of_guarded guarded) same
    · rw [answered]
      refine .carriedOut ⟨guarded, ⟨_, rfl⟩, fun role edits => ?_⟩ checks issued puts
      rw [roles]
      exact Call.edit_changes reach.keyed home edits planned done
  -- The only other plan is that of a user who joins, and it leaves no note.
  · simp only [Call.judge, Judge.join, passes_bind, Except.ok.injEq, Ruling.plan.injEq] at planned
    obtain ⟨_, -, _, -, rfl⟩ := planned
    simp only [execute, Bool.false_eq_true, if_false]
    cases done : service.store.apply around.now (.createMember (.new guild user around.now)) with
    | error cause => exact .failed (by simp) rfl rfl
    | ok store => exact .asked rfl rfl (Store.apply_silent done (by simp))

/-- A refusal is a denial that is written down, or leaves everything as it is. -/
theorem refusal_trace {refusal : Refusal} (keyed : service.store.Keyed)
    (writable : around.logWritable = true)
    (ruled : call.judge service.store around (around.idAt (service.issued + 1)) = .error refusal) :
    Trace around service.store service.issued (service.settle around (.error refusal)).1 call
      (service.settle around (.error refusal)).2 := by
  have refused_by {flags : String} (denied : refusal.cause = .denied flags) :=
    Call.judge_denied keyed ruled denied
  cases refusal with
  | error cause =>
    -- A check that denies says so to the log, so this refusal is none.
    refine .failed ?_ ?_ rfl
    · rintro flags rfl
      obtain ⟨d, -, refused⟩ := refused_by rfl
      obtain ⟨_, _, -, -, same, -⟩ := Judge.gate_refused refused rfl
      cases same
    · cases call with
      | record | recordAfter | recordDenied => cases ruled
      | _ => rfl
  | denied denial flags =>
    obtain ⟨d, checks, refused⟩ := refused_by rfl
    obtain ⟨first, others, listed, named, same, known⟩ := Judge.gate_refused refused rfl
    cases same
    have logged : Logged around service (service.log around (d.denial first others).entry) d.guild
        (d.denial first others).entry := log_logged writable (fun _ _ => rfl) known
    exact .denied checks listed named logged.counted logged.puts

/-- Appending an entry puts it into the log of its guild, or fails as the guild is not there. -/
theorem append_cases (writable : around.logWritable = true) (service : Service)
    (entry : Audit.Entry) :
    (service.store.guilds.get? entry.guildId = none ∧
        service.append around entry = .error (.fault (.unknownGuild entry.guildId))) ∨
      ∃ after, (service.store.guilds.get? entry.guildId).isSome = true ∧
        service.append around entry = .ok { service with store := after } ∧
        service.store.Puts after entry.guildId entry := by
  cases found : service.store.guilds.get? entry.guildId with
  | none =>
    left
    simp [append, writable, Store.appendAudit, found, Store.need, bind, Except.bind]
  | some g =>
    have known : (service.store.guilds.get? entry.guildId).isSome = true := by simp [found]
    obtain ⟨after, appended, puts, -⟩ := Store.appendAudit_puts known
    exact .inr ⟨after, rfl, by simp [append, writable, appended], puts⟩

/-- An entry to record is written as it is, unless its guild is not there. -/
theorem record_trace (writable : around.logWritable = true) (entry : Audit.Entry) :
    Trace around service.store service.issued (service.settle around (.ok (.append entry))).1
      (.record entry) (service.settle around (.ok (.append entry))).2 := by
  rcases append_cases writable service entry with ⟨unknown, lost⟩ | ⟨after, known, written, puts⟩
  · simp only [settle, lost]
    exact .lost rfl unknown (by simp) rfl
  · simp only [settle, written]
    exact .recorded rfl known puts

/-- An entry that is offered is written likewise, and the call succeeds either way. -/
theorem offer_trace (writable : around.logWritable = true) (entry : Audit.Entry) :
    Trace around service.store service.issued (service.settle around (.ok (.offer entry))).1
      (.recordAfter entry) (service.settle around (.ok (.offer entry))).2 := by
  rcases append_cases writable service entry with ⟨unknown, lost⟩ | ⟨after, known, written, puts⟩
  · simp only [settle, lost]
    exact .lost rfl unknown (by simp) rfl
  · simp only [settle, written]
    exact .recorded rfl known puts

/-- A denial to record is written under an identifier of its own, unless its guild is not there. -/
theorem report_trace (writable : around.logWritable = true) (denial : Denial) :
    Trace around service.store service.issued (service.settle around (.ok (.report denial))).1
      (.recordDenied denial) (service.settle around (.ok (.report denial))).2 := by
  cases found : service.store.guilds.get? denial.guildId with
  | none => exact .lost rfl found (by simp [settle]) (log_unknown (fun _ _ => rfl) found)
  | some g =>
    have known : (service.store.guilds.get? denial.guildId).isSome = true := by simp [found]
    have logged : Logged around service (service.log around denial.entry) denial.guildId
        denial.entry := log_logged writable (fun _ _ => rfl) known
    exact .reported rfl known logged.counted logged.puts

/-- What was judged is written down as judged. -/
theorem settle_trace {judged : Except Refusal Ruling} (reach : service.store.Reachable)
    (home : service.store.RolesAtHome) (writable : around.logWritable = true)
    (ruled : call.judge service.store around (around.idAt (service.issued + 1)) = judged) :
    Trace around service.store service.issued (service.settle around judged).1 call
      (service.settle around judged).2 := by
  cases judged with
  | error refusal => exact refusal_trace reach.keyed writable ruled
  | ok ruling =>
    cases logs : call.logs? with
    | some guild =>
      cases call with
      | record entry =>
        cases ruled
        exact record_trace writable entry
      | recordAfter entry =>
        cases ruled
        exact offer_trace writable entry
      | recordDenied denial =>
        cases ruled
        exact report_trace writable denial
      | _ => cases logs
    | none =>
      cases ruling with
      | plan p => exact plan_trace reach home writable ruled
      | answer a =>
        cases guarded : call.isGuarded with
        | true =>
          obtain ⟨role, edits⟩ := Call.edited_of_idle guarded ruled (by simp)
          exact .idle edits rfl
        | false => exact .asked guarded logs fun guild => rfl
      | append | offer | report => exact absurd logs (Call.judge_writesLog ruled rfl)

/-- A call is refused at once or settled as it is judged. Taking a lock touches neither the store
nor the count of identifiers. -/
theorem handle_settles (service : Service) (around : Surroundings) (call : Call) :
    (∃ cause, call.enter service.store = .error cause ∧
        service.handle around call = (service, .error cause)) ∨
      ∃ held : Service, held.store = service.store ∧ held.issued = service.issued ∧
        service.handle around call =
          held.settle around (call.judge held.store around (around.idAt (held.issued + 1))) := by
  unfold handle
  cases call.enter service.store with
  | error cause => exact .inl ⟨cause, rfl, rfl⟩
  | ok lock =>
    exact .inr ⟨service.takeLock lock, takeLock_store lock, takeLock_issued lock, rfl⟩

/-- Every call ends in one of these ways. -/
theorem handle_trace (reach : service.store.Reachable) (home : service.store.RolesAtHome)
    (writable : around.logWritable = true) :
    Trace around service.store service.issued (service.handle around call).1 call
      (service.handle around call).2 := by
  rcases handle_settles service around call with ⟨cause, refused, handled⟩ |
    ⟨held, store, issued, handled⟩
  · rw [handled]
    refine .failed ?_ ?_ rfl
    · rintro flags rfl
      exact Call.enter_ne_denied refused
    · cases call with
      | record | recordAfter | recordDenied => cases refused
      | _ => rfl
  · rw [handled, ← store, ← issued]
    exact settle_trace (store ▸ reach) (store ▸ home) writable rfl

/-- A plan leaves no trace in a log that cannot be written. -/
theorem execute_silent {p : Plan} (unwritable : around.logWritable = false)
    (plain : ∀ e, p.change ≠ .appendAudit e) :
    service.store.Silent (service.execute around p).1.store := by
  rcases execute_changes service around p with ⟨cause, issued, -, -, failed⟩ |
    ⟨store, done, executed⟩
  · rw [failed]
    exact fun guild => rfl
  · have silent : service.store.Silent store := Store.apply_silent done plain
    rw [executed]
    cases p.note with
    | none => exact silent
    | some note =>
      intro guild
      show ((service.changed p store).log around note.entry).store.logOf guild = _
      rw [log_unwritable unwritable]
      exact silent guild

/-- Without a log that can be written, calls do what they do and leave no trace. -/
theorem handle_silent (reach : service.store.Reachable) (home : service.store.RolesAtHome)
    (unwritable : around.logWritable = false) :
    service.store.Silent (service.handle around call).1.store := by
  rcases handle_settles service around call with ⟨cause, -, handled⟩ | ⟨held, store, -, handled⟩
  · rw [handled]
    exact fun guild => rfl
  rw [handled, ← store]
  cases ruled : call.judge held.store around (around.idAt (held.issued + 1)) with
  | error refusal =>
    cases refusal with
    | error cause => exact fun guild => rfl
    | denied denial flags => exact fun guild => by simp only [settle, log_unwritable unwritable]
  | ok ruling =>
    cases ruling with
    | answer a => exact fun guild => rfl
    | append entry | offer entry => exact fun guild => by simp [settle, append, unwritable]
    | report denial => exact fun guild => by simp only [settle, log_unwritable unwritable]
    | plan p =>
      exact execute_silent unwritable (Call.plan_plain (store ▸ reach.keyed) (store ▸ home) ruled)

namespace Trace
variable {before : Store} {issued : Nat} {after : Service} {result : Except CallError Answer}

theorem of_carriedOut (trace : Trace around before issued after call result)
    (carried : call.CarriedOut before after.store result) :
    ∃ d changes, call.check? before = some d ∧ issued < after.issued ∧
      before.Puts after.store d.guild
        ((call.note (around.idAt (issued + 1)) d changes).entry
          (around.idAt after.issued) around.now) := by
  have plain := logs_of_guarded carried.guarded
  cases trace with
  | carriedOut _ checks counted puts => exact ⟨_, _, checks, counted, puts⟩
  | idle edits same => exact absurd (by rw [same]) (carried.edited _ edits)
  | denied | failed =>
    obtain ⟨answer, succeeded⟩ := carried.succeeded
    cases succeeded
  | asked unguarded => exact absurd carried.guarded (by simp [unguarded])
  | recorded records => cases (Call.logs_of_entry records).symm.trans plain
  | reported reports =>
    cases reports
    cases plain
  | lost logs => cases logs.symm.trans plain

theorem of_denied {flags : String}
    (trace : Trace around before issued after call (.error (.denied flags))) :
    ∃ d first others, call.check? before = some d ∧ d.flags = first :: others ∧
      flags = d.names ∧ issued < after.issued ∧
      before.Puts after.store d.guild
        ((d.denial first others).entry (around.idAt after.issued) around.now) := by
  cases trace with
  | denied checks listed named counted puts => exact ⟨_, _, _, checks, listed, named, counted, puts⟩
  | failed granted | lost _ _ granted => exact absurd rfl (granted flags)

theorem of_entry {entry : Audit.Entry} (trace : Trace around before issued after call result)
    (records : call.entry? = some entry)
    (known : (before.guilds.get? entry.guildId).isSome = true) :
    (∃ answer, result = .ok answer) ∧ before.Puts after.store entry.guildId entry := by
  have logs := Call.logs_of_entry records
  cases trace with
  | recorded records' _ puts =>
    cases records.symm.trans records'
    exact ⟨⟨_, rfl⟩, puts⟩
  | lost logs' unknown =>
    cases logs.symm.trans logs'
    simp [unknown] at known
  | reported reports =>
    cases reports
    cases records
  | carriedOut carried => cases logs.symm.trans (logs_of_guarded carried.guarded)
  | asked _ plain | failed _ plain => cases logs.symm.trans plain
  | idle edits => rcases Call.of_entry records with rfl | rfl <;> cases edits
  | denied checks => rcases Call.of_entry records with rfl | rfl <;> cases checks

theorem of_recordDenied {denial : Denial}
    (trace : Trace around before issued after (.recordDenied denial) result)
    (known : (before.guilds.get? denial.guildId).isSome = true) :
    issued < after.issued ∧
      before.Puts after.store denial.guildId
        (denial.entry (around.idAt after.issued) around.now) := by
  cases trace with
  | reported reports _ counted puts =>
    cases reports
    exact ⟨counted, puts⟩
  | lost logs unknown =>
    cases logs
    simp [unknown] at known
  | carriedOut carried => cases carried.guarded
  | idle edits => cases edits
  | denied checks => cases checks
  | asked _ plain | failed _ plain => cases plain
  | recorded records => cases records

/-- All other calls write to no log. -/
theorem silent (trace : Trace around before issued after call result)
    (other : ¬ call.CarriedOut before after.store result)
    (granted : ∀ flags, result ≠ .error (.denied flags))
    (nowhere : ∀ guild, call.logs? = some guild → before.guilds.get? guild = none) :
    before.Silent after.store := by
  cases trace with
  | carriedOut carried => exact absurd carried other
  | idle _ same | failed _ _ same | lost _ _ _ same => exact fun guild => by rw [same]
  | denied => exact absurd rfl (granted _)
  | asked _ _ silent => exact silent
  | recorded records known => simp [nowhere _ (Call.logs_of_entry records)] at known
  | reported reports known =>
    cases reports
    simp [nowhere _ rfl] at known

/-- What a log holds is replaced by an entry given for the same identifier only. -/
theorem kept {guild id : Snowflake} {held : Audit.Entry}
    (trace : Trace around before issued after call result)
    (fresh : Unlogged around before issued after call)
    (stored : (before.logOf guild).get? id = some held)
    (other : ∀ entry, call.entry? = some entry → (entry.guildId, entry.id) ≠ (guild, id)) :
    (after.store.logOf guild).get? id = some held := by
  cases trace with
  | carriedOut _ checks counted puts =>
    exact (fresh.adds (Call.audits_of_check checks) counted rfl puts).kept stored
  | denied checks _ _ counted puts =>
    exact (fresh.adds (Call.audits_of_check checks) counted rfl puts).kept stored
  | reported reports _ counted puts =>
    subst reports
    exact (fresh.adds rfl counted rfl puts).kept stored
  | recorded records _ puts => exact puts.kept stored (other _ records)
  | asked _ _ silent => exact silent.kept stored
  | idle _ same | failed _ _ same | lost _ _ _ same => rwa [same]

end Trace

section Kept
variable {guild id : Snowflake} {held : Audit.Entry}

theorem handle_log_kept (reach : service.store.Reachable) (home : service.store.RolesAtHome)
    (fresh : Unlogged around service.store service.issued (service.handle around call).1 call)
    (stored : (service.store.logOf guild).get? id = some held)
    (other : ∀ entry, call.entry? = some entry → (entry.guildId, entry.id) ≠ (guild, id)) :
    ((service.handle around call).1.store.logOf guild).get? id = some held := by
  cases writable : around.logWritable with
  | false =>
    have silent : service.store.Silent (service.handle around call).1.store :=
      handle_silent reach home writable
    exact silent.kept stored
  | true => exact (handle_trace reach home writable).kept fresh stored other

end Kept

/-- Each guarded call that is carried out adds one entry to the log of its guild, which says who did
what to what, and each call that is denied adds one that says who was denied what, and why. A call
that is there to write an entry writes that one, if its guild is there. No other call writes to a
log, none does while logs cannot be written, and what a log holds is replaced by an entry given for
the same identifier only. -/
theorem log_tells_what_happened {after : Service} {result : Except CallError Answer}
    (reach : service.store.Reachable) (home : service.store.RolesAtHome)
    (handled : service.handle around call = (after, result))
    (fresh : Unlogged around service.store service.issued after call) :
    (around.logWritable = true →
      (call.CarriedOut service.store after.store result →
        ∃ d e, call.check? service.store = some d ∧
          service.store.Adds after.store d.guild e ∧ e.id = around.idAt after.issued ∧
          e.IsDeed d.guild d.actor (call.deed (around.idAt (service.issued + 1)) d) d.channel
            call.reason? around.now ∧
          e.changes.isSome = true) ∧
      (∀ flags, result = .error (.denied flags) →
        ∃ d e first others, call.check? service.store = some d ∧ d.flags = first :: others ∧
          flags = d.names ∧
          service.store.Adds after.store d.guild e ∧ e.id = around.idAt after.issued ∧
          e.IsDenial (d.denial first others) around.now) ∧
      (∀ entry, call.entry? = some entry →
        (service.store.guilds.get? entry.guildId).isSome = true →
        (∃ answer, result = .ok answer) ∧
          service.store.Puts after.store entry.guildId entry) ∧
      (∀ denial, call = .recordDenied denial →
        (service.store.guilds.get? denial.guildId).isSome = true →
        ∃ e, service.store.Adds after.store denial.guildId e ∧ e.id = around.idAt after.issued ∧
          e.IsDenial denial around.now)) ∧
    (¬ call.CarriedOut service.store after.store result →
      (∀ flags, result ≠ .error (.denied flags)) →
      (∀ guild, call.logs? = some guild → service.store.guilds.get? guild = none) →
      service.store.Silent after.store) ∧
    (around.logWritable = false → service.store.Silent after.store) ∧
    ∀ guild id held, (service.store.logOf guild).get? id = some held →
      (∀ entry, call.entry? = some entry → (entry.guildId, entry.id) ≠ (guild, id)) →
      (after.store.logOf guild).get? id = some held := by
  obtain ⟨rfl, rfl⟩ := Prod.ext_iff.mp handled
  cases writable : around.logWritable with
  | false =>
    have silent : service.store.Silent (service.handle around call).1.store :=
      handle_silent reach home writable
    exact ⟨(fun written => by cases written), fun _ _ _ => silent, fun _ => silent,
      fun _ _ _ => handle_log_kept reach home fresh⟩
  | true =>
    have trace : Trace around service.store service.issued (service.handle around call).1 call
        (service.handle around call).2 := handle_trace reach home writable
    refine ⟨fun _ => ⟨fun carried => ?_, fun flags denied => ?_, ?_, ?_⟩, trace.silent,
      (fun unwritten => by cases unwritten), fun _ _ _ => handle_log_kept reach home fresh⟩
    · obtain ⟨d, changes, checks, counted, puts⟩ := trace.of_carriedOut carried
      exact ⟨d, _, checks, fresh.adds (Call.audits_of_check checks) counted rfl puts, rfl,
        Note.entry_isDeed _ _ _, rfl⟩
    · rw [denied] at trace
      obtain ⟨d, first, others, checks, listed, named, counted, puts⟩ := trace.of_denied
      exact ⟨d, _, first, others, checks, listed, named,
        fresh.adds (Call.audits_of_check checks) counted rfl puts, rfl, Denial.entry_isDenial _ _ _⟩
    · intro entry records known
      exact trace.of_entry records known
    · rintro denial rfl known
      obtain ⟨counted, puts⟩ := trace.of_recordDenied known
      exact ⟨_, fresh.adds rfl counted rfl puts, rfl, Denial.entry_isDenial _ _ _⟩

theorem log_tells_what_happened_sample :
    let lock : Call := .lockChannel (.wrap 20) (.wrap 1) {}
    let edit : Call := .deleteOverride (.wrap 20) (.member (.wrap 2)) (.wrap 3)
    (∃ e, channelSample.store.Adds (channelSample.handle .sample lock).1.store (.wrap 1) e ∧
      e.verdict = .allowed ∧ e.actorId = .wrap 1 ∧ e.action = .channelLock ∧
      e.targetId = some (.wrap 20)) ∧
    ∃ e, channelSample.store.Adds (channelSample.handle .sample edit).1.store (.wrap 1) e ∧
      e.verdict = .denied ∧ e.actorId = .wrap 3 ∧ e.permission = some .manageRoles ∧
      e.channelId = some (.wrap 20) ∧
      e.reason = some "requires MANAGE_ROLES or MANAGE_CHANNELS" := by
  intro lock edit
  have fresh {call : Call} (audited : call.audits? channelSample.store = some (.wrap 1)) :
      Unlogged .sample channelSample.store 0 (channelSample.handle .sample call).1 call := by
    intro guild also n _ _
    cases audited.symm.trans also
    rfl
  constructor
  · have audited : lock.audits? channelSample.store = some (.wrap 1) := rfl
    obtain ⟨logged, -⟩ := log_tells_what_happened Store.channelSample_reachable
      Store.channelSample_rolesAtHome (Prod.ext rfl rfl) (fresh audited)
    obtain ⟨d, e, checks, adds, -, deed, -⟩ :=
      (logged rfl).1 ⟨rfl, ⟨_, rfl⟩, fun role edits => by cases edits⟩
    obtain rfl := Option.some.inj checks
    exact ⟨e, adds, deed.verdict, deed.actorId, deed.action, deed.targetId⟩
  · have audited : edit.audits? channelSample.store = some (.wrap 1) := rfl
    obtain ⟨logged, -⟩ := log_tells_what_happened Store.channelSample_reachable
      Store.channelSample_rolesAtHome (Prod.ext rfl rfl) (fresh audited)
    obtain ⟨d, e, first, others, checks, listed, -, adds, -, denial⟩ := (logged rfl).2.1 _ rfl
    obtain rfl := Option.some.inj checks
    obtain ⟨rfl, rfl⟩ := List.cons.inj listed
    exact ⟨e, adds, denial.verdict, denial.actorId, denial.permission, denial.channelId,
      denial.reason⟩

/-- An entry that a call is there to write is added although nothing else was done. -/
theorem entry_without_action :
    let entry : Audit.Entry :=
      .allowed (.wrap 100) (.wrap 1) (.wrap 1) ⟨.roleCreate, none⟩ ⟨0, 0⟩
    let recorded := sample.handle .sample (.record entry)
    recorded.2 = .ok .done ∧ (sample.store.logOf (.wrap 1)).size = 0 ∧
      (recorded.1.store.logOf (.wrap 1)).size = 1 :=
  ⟨rfl, rfl, rfl⟩

end Service
end GuildAccess
