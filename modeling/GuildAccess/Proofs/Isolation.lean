import GuildAccess.Proofs.Store.Agreement
import GuildAccess.Proofs.AuditTrail
import GuildAccess.Proofs.Integrity

/-!
Guild isolation. A call is addressed to one guild, and whatever identifiers it is given, it is
judged on the rows of that guild, changes them and writes to its log. What the store holds of other
guilds is neither touched nor told: an identifier of theirs counts like one that is not in use.
-/
namespace GuildAccess

/-- The guild that a call is addressed to: the one it names, or the one that its channel is in. -/
def Call.addressed? (s : Store) : Call → Option Snowflake
  | .createRole guild .. | .getRole guild .. | .updateRole guild .. | .toggleFlag guild ..
  | .deleteRole guild .. | .listRoles guild .. | .reorderRoles guild .. => some guild
  | .join guild .. | .getMember guild .. | .assignRole guild .. | .unassignRole guild .. =>
    some guild
  | .listOverrides channel .. | .setOverride channel .. | .deleteOverride channel ..
  | .getChannel channel .. | .lockChannel channel .. | .unlockChannel channel ..
  | .channelPermissions channel .. | .findChannel channel => s.channelIndex.get? channel
  | .loadSnapshot guild .. | .guildPermissions guild .. | .effectivePermissions guild ..
  | .check guild .. | .requireAny guild .. | .isOwner guild .. | .canManageMember guild ..
  | .ensureManages _ guild _ | .listAudit guild .. | .findRole guild .. => some guild
  | .record entry | .recordAfter entry => some entry.guildId
  | .recordDenied denial => some denial.guildId

/-- A page is read in the log of the guild that the request names. -/
theorem Judge.auditQuery_guild {guild : Snowflake} {size : Nat} {params : AuditParams}
    {q : Audit.Query} (read : auditQuery guild size params = .ok q) : q.guildId = guild := by
  simp only [auditQuery, passes_bind, Except.ok.injEq] at read
  obtain ⟨_, -, _, -, _, -, _, -, rfl⟩ := read
  rfl

namespace Store.AgreeOn
variable {s s' : Store} {guild user id : Snowflake} {channel : Option Snowflake}
  (agree : s.AgreeOn s' guild)
include agree

theorem guild? : s'.guild? guild = s.guild? guild := by
  unfold Store.guild?
  rw [agree.rows]

theorem member? : s'.member? guild user = s.member? guild user := by
  unfold Store.member?
  rw [agree.rows]

theorem isMember : s'.isMember guild user = s.isMember guild user := by
  unfold Store.isMember
  rw [agree.member?]

theorem roleList : s'.roleList guild = s.roleList guild := by
  unfold Store.roleList
  rw [agree.rows]

theorem auditList {q : Audit.Query} (here : q.guildId = guild) :
    s'.auditList q = s.auditList q := by
  unfold Store.auditList
  rw [here, agree.rows]

theorem snapshot : Judge.snapshot s' guild user channel = Judge.snapshot s guild user channel := by
  unfold Judge.snapshot Store.permissionInputs?
  rw [agree.rows]

theorem gate {flags : List Flag} {attempt : Audit.Attempt} :
    Judge.gate s' guild channel user flags attempt =
      Judge.gate s guild channel user flags attempt := by
  unfold Judge.gate
  rw [agree.snapshot]

theorem outranksMember {caller : Snapshot} :
    Judge.outranksMember s' caller guild user = Judge.outranksMember s caller guild user := by
  unfold Judge.outranksMember
  rw [agree.snapshot]

theorem changeRoleOf {role actor : Snowflake} {action : Audit.Action}
    (found : Judge.findRole s' guild role = Judge.findRole s guild role) :
    Judge.changeRoleOf s' guild user role actor action =
      Judge.changeRoleOf s guild user role actor action := by
  simp only [Judge.changeRoleOf, agree.gate, found, agree.outranksMember, agree.member?]

theorem findRole (keyed : s.Keyed) (keyed' : s'.Keyed) (home : s.RolesAtHome)
    (home' : s'.RolesAtHome) : Judge.findRole s' guild id = Judge.findRole s guild id := by
  have refused : ∀ {s : Store}, (∀ r, s.role? id = some r → r.guildId ≠ guild) →
      Judge.findRole s guild id = .error (.fault (.unknownRole id)) := by
    intro s elsewhere
    unfold Judge.findRole
    cases found : s.role? id with
    | none => rfl
    | some r => exact if_neg (elsewhere r found)
  by_cases here : ∃ r, s.role? id = some r ∧ r.guildId = guild
  · obtain ⟨r, found, here⟩ := here
    have found' := (agree.role? keyed keyed' home home' here).mpr found
    rw [Judge.passes_findRole.mpr ⟨found, here⟩, Judge.passes_findRole.mpr ⟨found', here⟩]
  · rw [refused fun r found elsewhere => here ⟨r, found, elsewhere⟩, refused]
    intro r found' elsewhere
    exact here ⟨r, (agree.role? keyed keyed' home home' elsewhere).mp found', elsewhere⟩

theorem findChannel (indexed : s.channelIndex.get? id = some guild) :
    Judge.findChannel s' id = Judge.findChannel s id := by
  unfold Judge.findChannel
  rw [agree.channel? indexed]

/-- Behind a channel of the guild judgements are the same if they are for rows of the guild. -/
theorem behind_channel {α : Type} {next next' : Channel → Except Refusal α} (keyed : s.Keyed)
    (indexed : s.channelIndex.get? id = some guild)
    (later : ∀ row, row.guildId = guild → next' row = next row) :
    (Judge.mustCall (Judge.findChannel s' id) >>= next') =
      Judge.mustCall (Judge.findChannel s id) >>= next := by
  rw [agree.findChannel indexed]
  refine bind_congr_ok fun row found => later row ?_
  have found := Judge.passes_findChannel.mp (Judge.passes_mustCall.mp found)
  exact Option.some.inj ((keyed.channel_stored found).2.1.symm.trans indexed)

theorem mayTarget {caller : Snapshot} {row : Channel} (here : row.guildId = guild)
    (target : OverrideTarget) :
    Judge.mayTarget s' caller row target = Judge.mayTarget s caller row target := by
  subst here
  cases target with
  | role id => rfl
  | member id => simp only [Judge.mayTarget, agree.outranksMember]

theorem enter {call : Call} (addressed : call.addressed? s = some guild) :
    call.enter s' = call.enter s := by
  have locks {channel : Snowflake} (indexed : s.channelIndex.get? channel = some guild) :
      Call.channelLock s' channel = Call.channelLock s channel := by
    unfold Call.channelLock
    rw [agree.findChannel indexed]
  cases call with
  | setOverride | deleteOverride | lockChannel | unlockChannel =>
    simp only [Call.enter, locks addressed]
  | _ => rfl

/-- A call that is addressed to a guild is judged alike on stores that agree on it. -/
theorem judge {call : Call} (around : Surroundings) (fresh : Snowflake) (keyed : s.Keyed)
    (keyed' : s'.Keyed) (home : s.RolesAtHome) (home' : s'.RolesAtHome)
    (addressed : call.addressed? s = some guild) :
    call.judge s' around fresh = call.judge s around fresh := by
  have role {id : Snowflake} : Judge.findRole s' guild id = Judge.findRole s guild id :=
    agree.findRole keyed keyed' home home'
  cases call with
  | createRole | updateRole | toggleFlag | deleteRole | reorderRoles | getRole | listRoles =>
    cases addressed
    simp only [Call.judge, Judge.createRole, Judge.updateRole, Judge.toggleFlag, Judge.deleteRole,
      Judge.reorderRoles, Judge.getRole, Judge.listRoles, Judge.manageRoles, agree.gate,
      agree.snapshot, role]
  | join | getMember | assignRole | unassignRole =>
    cases addressed
    simp only [Call.judge, Judge.join, Judge.getMember, Judge.assignRole, Judge.unassignRole,
      agree.guild?, agree.isMember, agree.member?, agree.snapshot, agree.changeRoleOf role]
  | loadSnapshot | guildPermissions | effectivePermissions | check | requireAny | isOwner
  | canManageMember | ensureManages | findRole =>
    cases addressed
    simp only [Call.judge, Judge.guildPermissions, Judge.effectivePermissions, Judge.check,
      Judge.isOwner, Judge.canManageMember, agree.guild?, agree.snapshot, agree.gate,
      agree.outranksMember, role]
  | listAudit guild user params =>
    cases addressed
    simp only [Call.judge, Judge.listAudit, agree.gate]
    refine bind_congr fun _ => bind_congr fun _ => bind_congr_ok fun q read => ?_
    rw [agree.auditList (Judge.auditQuery_guild (Judge.passes_mustCall.mp read))]
  | record | recordAfter | recordDenied => rfl
  | listOverrides channel user =>
    refine agree.behind_channel keyed addressed fun row here => ?_
    subst here
    simp only [Judge.manageOverrides, agree.gate]
  | setOverride channel target =>
    refine agree.behind_channel keyed addressed fun row here => ?_
    simp only [agree.mayTarget here]
    subst here
    simp only [Judge.manageOverrides, agree.gate]
  | deleteOverride channel target =>
    refine agree.behind_channel keyed addressed fun row here => ?_
    simp only [agree.mayTarget here, agree.override? addressed]
    subst here
    simp only [Judge.manageOverrides, agree.gate]
  | getChannel | lockChannel | unlockChannel | channelPermissions | findChannel =>
    refine agree.behind_channel keyed addressed fun row here => ?_
    subst here
    simp only [Judge.manageChannel, agree.gate, agree.snapshot]

end Store.AgreeOn

/-- Whether the plans that a judgement may end in have one answer on two stores. -/
def Judge.AnswersAlike (a b : Store) (check : Except Refusal Ruling) : Prop :=
  ∀ p, check = .ok (.plan p) → p.answer b = p.answer a

namespace Judge
variable {a b : Store}

@[simp] theorem answersAlike_plan {p : Plan} :
    AnswersAlike a b (.ok (.plan p)) ↔ p.answer b = p.answer a := by
  simp [AnswersAlike]

@[simp] theorem answersAlike_answer {answer : Answer} :
    AnswersAlike a b (.ok (.answer answer)) := by
  simp [AnswersAlike]

@[simp] theorem answersAlike_error {refusal : Refusal} : AnswersAlike a b (.error refusal) := by
  simp [AnswersAlike]

@[simp] theorem answersAlike_bind {α : Type} {step : Except Refusal α}
    {next : α → Except Refusal Ruling} :
    AnswersAlike a b (step >>= next) ↔
      ∀ given, step = .ok given → AnswersAlike a b (next given) := by
  simp only [AnswersAlike, passes_bind]
  exact ⟨fun all given passed p judged => all p ⟨given, passed, judged⟩,
    fun all p ⟨given, passed, judged⟩ => all given passed p judged⟩

@[simp] theorem answersAlike_ite {c : Prop} [Decidable c] {yes no : Except Refusal Ruling} :
    AnswersAlike a b (if c then yes else no) ↔
      if c then AnswersAlike a b yes else AnswersAlike a b no := by
  split <;> rfl

end Judge

/-- A judgement that reaches no other guild. A plan is about the guild, creates no row but a role
under the identifier made for it, notes what it did in the guild, and is answered by its rows. -/
inductive Judge.Within (s : Store) (fresh guild : Snowflake) : Except Refusal Ruling → Prop
  | error (cause : CallError) : Within s fresh guild (.error (.error cause))
  | denied {denial : Denial} {flags : String} (here : denial.guildId = guild) :
    Within s fresh guild (.error (.denied denial flags))
  | answer (a : Answer) : Within s fresh guild (.ok (.answer a))
  | plan {p : Plan} (home : p.change.home? s = some guild)
    (new : ∀ kind id home, p.change.creates? kind = some (id, home) → kind = .role ∧ id = fresh)
    (note : ∀ note, p.note = some note → note.guildId = guild)
    (answer : ∀ a b : Store, a.AgreeOn b guild → p.answer b = p.answer a) :
    Within s fresh guild (.ok (.plan p))
  | append {entry : Audit.Entry} (here : entry.guildId = guild) :
    Within s fresh guild (.ok (.append entry))
  | offer {entry : Audit.Entry} (here : entry.guildId = guild) :
    Within s fresh guild (.ok (.offer entry))
  | report {denial : Denial} (here : denial.guildId = guild) :
    Within s fresh guild (.ok (.report denial))

namespace Call
variable {s : Store} {around : Surroundings} {fresh guild : Snowflake} {call : Call} {d : Demand}

/-- What a call demands is the check that it makes. -/
theorem check_of_demand (demands : call.demand? s = some d) : call.check? s = some d := by
  cases call with
  | listOverrides | getChannel | requireAny | listAudit => cases demands
  | _ => exact demands

/-- A call checks flags in the guild that it is addressed to. -/
theorem check_addressed (keyed : s.Keyed) (checks : call.check? s = some d) :
    call.addressed? s = some d.guild := by
  cases call with
  | setOverride | deleteOverride | lockChannel | unlockChannel | listOverrides | getChannel =>
    obtain ⟨row, found, rfl⟩ := Option.map_eq_some_iff.mp checks
    exact (keyed.channel_stored found).2.1
  | _ => cases checks <;> rfl

/-- Only a reordering is answered by what is stored afterwards, and by the rows of its guild. -/
theorem judge_answersAlike {a b : Store} (agree : a.AgreeOn b guild)
    (addressed : call.addressed? s = some guild) :
    Judge.AnswersAlike a b (call.judge s around fresh) := by
  cases call with
  | reorderRoles =>
    cases addressed
    simp [judge, Judge.reorderRoles, agree.roleList]
  | createRole | updateRole | toggleFlag | deleteRole | join | assignRole | unassignRole
  | setOverride | deleteOverride | lockChannel | unlockChannel =>
    simp [judge, Judge.createRole, Judge.updateRole, Judge.toggleFlag, Judge.deleteRole,
      Judge.join, Judge.assignRole, Judge.unassignRole, Judge.setOverride, Judge.deleteOverride,
      Judge.lockChannel, Judge.unlockChannel]
  | _ =>
    intro p planned
    rcases judge_plans planned with guarded | ⟨_, _, joins⟩
    · cases guarded
    · cases joins

/-- The change of a plan is about the guild that its call is addressed to, and creates no row but a
role under the identifier made for it. -/
theorem plan_home {p : Plan} (keyed : s.Keyed) (home : s.RolesAtHome)
    (addressed : call.addressed? s = some guild)
    (planned : call.judge s around fresh = .ok (.plan p)) :
    p.change.home? s = some guild ∧
      ∀ kind id home, p.change.creates? kind = some (id, home) → kind = .role ∧ id = fresh := by
  rcases judge_plans planned with guarded | ⟨_, user, rfl⟩
  · obtain ⟨d, _, g, demands, -, -, permitted⟩ := judge_permitted keyed home guarded planned
    cases addressed.symm.trans (check_addressed keyed (check_of_demand demands))
    refine ⟨permitted.home, fun kind id home creates => ?_⟩
    cases permitted with
    | createRole change _ new =>
      rw [change] at creates
      cases kind <;> cases creates
      exact ⟨rfl, new.1⟩
    | updateRole change | deleteRole change | setPositions change | assignRole change
    | unassignRole change | putOverride change | deleteOverride change | setLockdown change =>
      rw [change] at creates
      cases creates
  · cases addressed
    rw [(Judge.join_plan planned).2]
    exact ⟨rfl, fun _ _ _ creates => by cases creates⟩

/-- The note of a plan is for the guild that its call is addressed to. -/
theorem plan_noted {p : Plan} {note : Note} (keyed : s.Keyed)
    (addressed : call.addressed? s = some guild)
    (planned : call.judge s around fresh = .ok (.plan p)) (noted : p.note = some note) :
    note.guildId = guild := by
  rcases judge_plans planned with guarded | ⟨_, user, rfl⟩
  · obtain ⟨d, _, _, checks, -, same⟩ := judge_note keyed guarded planned
    cases noted.symm.trans same
    exact Option.some.inj ((check_addressed keyed checks).symm.trans addressed)
  · simp only [judge, Judge.join, passes_bind, Except.ok.injEq, Ruling.plan.injEq] at planned
    obtain ⟨_, -, _, -, rfl⟩ := planned
    cases noted

/-- Whatever is called, it is judged within the guild that it is addressed to. -/
theorem judge_within (keyed : s.Keyed) (home : s.RolesAtHome)
    (addressed : call.addressed? s = some guild) :
    Judge.Within s fresh guild (call.judge s around fresh) := by
  cases judged : call.judge s around fresh with
  | error refusal =>
    cases refusal with
    | error cause => exact .error cause
    | denied denial flags =>
      obtain ⟨d, checks, refused⟩ := judge_denied keyed judged rfl
      obtain ⟨first, others, -, -, same, -⟩ := Judge.gate_refused refused rfl
      cases same
      exact .denied (Option.some.inj ((check_addressed keyed checks).symm.trans addressed))
  | ok ruling =>
    cases logs : call.logs? with
    | some home =>
      cases call with
      | record =>
        cases judged
        exact .append (Option.some.inj addressed)
      | recordAfter =>
        cases judged
        exact .offer (Option.some.inj addressed)
      | recordDenied =>
        cases judged
        exact .report (Option.some.inj addressed)
      | _ => cases logs
    | none =>
      cases ruling with
      | answer a => exact .answer a
      | plan p =>
        obtain ⟨about, new⟩ := plan_home keyed home addressed judged
        exact .plan about new (fun note => plan_noted keyed addressed judged)
          fun a b agree => judge_answersAlike agree addressed p judged
      | append | offer | report => exact absurd logs (judge_writesLog judged rfl)

end Call

/-- Agreement of two services on one guild; the identifiers that they make next are the same. -/
structure Service.AgreeOn (service service' : Service) (guild : Snowflake) : Prop where
  store : service.store.AgreeOn service'.store guild
  issued : service'.issued = service.issued

namespace Service
variable {service service' after : Service} {around : Surroundings} {guild : Snowflake}

/-- An entry for a guild is written alike where there is agreement on the guild. -/
theorem AgreeOn.append (agree : service.AgreeOn service' guild) {entry : Audit.Entry}
    (here : entry.guildId = guild) :
    (∃ cause, service.append around entry = .error cause ∧
        service'.append around entry = .error cause) ∨
      ∃ after after', service.append around entry = .ok after ∧
        service'.append around entry = .ok after' ∧ after.AgreeOn after' guild := by
  unfold Service.append
  cases around.logWritable with
  | false => exact .inl ⟨_, rfl, rfl⟩
  | true =>
    have about : (Store.Change.appendAudit entry).home? service.store = some guild :=
      congrArg some here
    rcases agree.store.apply around.now about with ⟨cause, failed, failed'⟩ |
      ⟨store, store', done, done', agreed⟩
    · have failed : service.store.appendAudit entry = .error cause := failed
      have failed' : service'.store.appendAudit entry = .error cause := failed'
      rw [failed, failed']
      exact .inl ⟨_, rfl, rfl⟩
    · have done : service.store.appendAudit entry = .ok store := done
      have done' : service'.store.appendAudit entry = .ok store' := done'
      rw [done, done']
      exact .inr ⟨_, _, rfl, rfl, agreed, agree.issued⟩

theorem AgreeOn.counted (agree : service.AgreeOn service' guild) :
    AgreeOn { service with issued := service.issued + 1 }
      { service' with issued := service'.issued + 1 } guild :=
  ⟨agree.store, congrArg (· + 1) agree.issued⟩

theorem AgreeOn.log (agree : service.AgreeOn service' guild)
    {draft : Snowflake → Instant → Audit.Entry} (here : ∀ id now, (draft id now).guildId = guild) :
    (service.log around draft).AgreeOn (service'.log around draft) guild := by
  have counted := agree.counted
  unfold Service.log
  dsimp only
  rw [agree.issued] at counted ⊢
  rcases counted.append (here (around.idAt (service.issued + 1)) around.now) with
    ⟨cause, failed, failed'⟩ | ⟨after, after', done, done', agreed⟩
  · rw [failed, failed']
    exact counted
  · rw [done, done']
    exact agreed

/-- What a call is judged to is carried out alike where there is agreement on its guild. -/
theorem AgreeOn.settle (agree : service.AgreeOn service' guild) (around : Surroundings)
    {fresh : Snowflake} {judged : Except Refusal Ruling}
    (within : Judge.Within service.store fresh guild judged) :
    (service.settle around judged).1.AgreeOn (service'.settle around judged).1 guild ∧
      (service'.settle around judged).2 = (service.settle around judged).2 := by
  cases within with
  | error | answer => exact ⟨agree, rfl⟩
  | denied here => exact ⟨agree.log fun _ _ => here, rfl⟩
  | report here => exact ⟨agree.log fun _ _ => here, rfl⟩
  | append here | offer here =>
    unfold Service.settle
    rcases agree.append here with ⟨cause, failed, failed'⟩ | ⟨after, after', done, done', agreed⟩
    · dsimp only
      rw [failed, failed']
      exact ⟨agree, rfl⟩
    · dsimp only
      rw [done, done']
      exact ⟨agreed, rfl⟩
  | @plan p about new note answer =>
    have mints : AgreeOn
        (if p.mints then { service with issued := service.issued + 1 } else service)
        (if p.mints then { service' with issued := service'.issued + 1 } else service') guild := by
      split
      · exact agree.counted
      · exact agree
    have about : p.change.home?
        (if p.mints then { service with issued := service.issued + 1 } else service).store =
          some guild := by
      split <;> exact about
    unfold Service.settle Service.execute
    dsimp only
    generalize (if p.mints then { service with issued := service.issued + 1 } else service) = start
      at mints about ⊢
    generalize (if p.mints then { service' with issued := service'.issued + 1 } else service') =
      start' at mints ⊢
    rcases mints.store.apply around.now about with ⟨cause, failed, failed'⟩ |
      ⟨store, store', done, done', agreed⟩
    · rw [failed, failed']
      exact ⟨mints, rfl⟩
    · rw [done, done']
      refine ⟨?_, congrArg Except.ok (answer store store' agreed)⟩
      cases noted : p.note with
      | none => exact ⟨agreed, mints.issued⟩
      | some n =>
        have here : ∀ id now, (n.entry id now).guildId = guild := fun _ _ => note n noted
        have changed :
            AgreeOn { start with store := store } { start' with store := store' } guild :=
          ⟨agreed, mints.issued⟩
        exact changed.log here

/-- Writing an entry for a guild spares all others. -/
theorem append_spares {unused : Prop} {entry : Audit.Entry} (here : entry.guildId = guild)
    (done : service.append around entry = .ok after) :
    service.store.Spares unused after.store guild := by
  unfold append at done
  split at done
  · cases appended : service.store.appendAudit entry with
    | error cause =>
      rw [appended] at done
      cases done
    | ok store =>
      rw [appended] at done
      cases done
      have about : (Store.Change.appendAudit entry).home? service.store = some guild :=
        congrArg some here
      have done : service.store.apply around.now (.appendAudit entry) = .ok store := appended
      exact Store.apply_spares about done fun _ _ _ _ creates => by cases creates
  · cases done

theorem log_spares {unused : Prop} {draft : Snowflake → Instant → Audit.Entry}
    (here : ∀ id now, (draft id now).guildId = guild) :
    service.store.Spares unused (service.log around draft).store guild := by
  unfold log
  dsimp only
  split
  · next after done =>
    have spares : Store.Spares unused { service with issued := service.issued + 1 }.store
        after.store guild := append_spares (here _ _) done
    exact spares
  · exact .refl _ guild

theorem settle_spares (around : Surroundings) {fresh : Snowflake} {judged : Except Refusal Ruling}
    (within : Judge.Within service.store fresh guild judged) :
    service.store.Spares (service.store.roleIndex.get? fresh = none)
      (service.settle around judged).1.store guild := by
  cases within with
  | error | answer => exact .refl _ guild
  | denied here | report here => exact log_spares fun _ _ => here
  | append here | offer here =>
    unfold settle
    dsimp only
    split
    · next done => exact append_spares here done
    · exact .refl _ guild
  | @plan p about new note answer =>
    rcases execute_changes service around p with ⟨cause, issued, -, -, failed⟩ |
      ⟨store, done, executed⟩
    · simp only [settle, failed]
      exact .refl _ guild
    · have changed :
          service.store.Spares (service.store.roleIndex.get? fresh = none) store guild := by
        refine Store.apply_spares about done fun unused kind id home creates => ?_
        obtain ⟨rfl, rfl⟩ := new kind id home creates
        exact unused
      simp only [settle, executed]
      cases noted : p.note with
      | none => exact changed
      | some n =>
        have logged : (service.changed p store).store.Spares
            (service.store.roleIndex.get? fresh = none)
            ((service.changed p store).log around n.entry).store guild :=
          log_spares fun _ _ => note n noted
        exact changed.trans logged

/-- Guild isolation. A call that is addressed to a guild leaves the rows and the log of every other
guild as they are, and if the identifier that it may make is not in use, all identifiers go on
leading to other guilds as before. In any two services whose stores agree on the guild, whatever
else they hold, it has the same answer or fails for the same cause, and leaves agreement on the
guild. -/
theorem guilds_are_isolated (service service' : Service) (around : Surroundings) (call : Call)
    (guild : Snowflake) (reach : service.store.Reachable) (home : service.store.RolesAtHome)
    (reach' : service'.store.Reachable) (home' : service'.store.RolesAtHome)
    (agree : service.AgreeOn service' guild)
    (addressed : call.addressed? service.store = some guild) :
    service.store.Spares (service.store.roleIndex.get? (around.idAt (service.issued + 1)) = none)
      (service.handle around call).1.store guild ∧
    (service'.handle around call).2 = (service.handle around call).2 ∧
    (service.handle around call).1.AgreeOn (service'.handle around call).1 guild := by
  have entered := agree.store.enter addressed
  have judged := agree.store.judge around (around.idAt (service.issued + 1)) reach.keyed
    reach'.keyed home home' addressed
  unfold handle
  rw [entered]
  cases call.enter service.store with
  | error cause => exact ⟨.refl _ guild, rfl, agree⟩
  | ok lock =>
    have locked : (service.takeLock lock).AgreeOn (service'.takeLock lock) guild := by
      cases lock <;> exact ⟨agree.store, agree.issued⟩
    have within : Judge.Within (service.takeLock lock).store (around.idAt (service.issued + 1))
        guild (call.judge service.store around (around.idAt (service.issued + 1))) := by
      rw [takeLock_store]
      exact Call.judge_within reach.keyed home addressed
    dsimp only
    rw [takeLock_store, takeLock_issued, takeLock_store, takeLock_issued, agree.issued, judged]
    obtain ⟨kept, same⟩ := locked.settle around within
    have spared := settle_spares around within
    rw [takeLock_store] at spared
    exact ⟨spared, same, kept⟩

def annexChanges : Store.Changes :=
  let id := Snowflake.wrap
  foundedChanges ++ [
    (⟨0, 0⟩, .createGuild (.new (id 2) "annex" (id 2) ⟨0, 0⟩) (.everyone (id 2) (id 2) ⟨0, 0⟩)),
    (⟨0, 0⟩, .createRole (.new (id 30) (id 2) "guest" (.only .banMembers) ⟨0, 0⟩))]

def annexed : Service := ⟨Store.empty.replay annexChanges, 0, .empty⟩

/-- The owner of guild 1 creates a role there, and gets role 30 deleted no more than an unknown
one. -/
theorem guilds_are_isolated_sample :
    (annexed.store.role? (.wrap 30)).isSome = true ∧ founded.store.role? (.wrap 30) = none ∧
    (founded.handle .sample (.deleteRole (.wrap 1) (.wrap 30) (.wrap 1))).2 =
      (annexed.handle .sample (.deleteRole (.wrap 1) (.wrap 30) (.wrap 1))).2 ∧
    (annexed.handle .sample (.deleteRole (.wrap 1) (.wrap 30) (.wrap 1))).1.store.guilds.get?
      (.wrap 2) = annexed.store.guilds.get? (.wrap 2) ∧
    (annexed.handle .sample (.createRole (.wrap 1) (.wrap 1) { name := "mod" })).1.AgreeOn
      (founded.handle .sample (.createRole (.wrap 1) (.wrap 1) { name := "mod" })).1 (.wrap 1) := by
  have reach : annexed.store.Reachable := Store.Reachable.start.replay _
  have reach' : founded.store.Reachable := Store.Reachable.start.replay _
  have routes (kind : Indexed) : annexed.store.Routes kind := by
    have along := (Store.routes_along_iff (Store.empty_routes kind) annexChanges).mpr
      (by cases kind <;> decide)
    exact along annexChanges.length
  have routes' (kind : Indexed) : founded.store.Routes kind := by
    have along := (Store.routes_along_iff (Store.empty_routes kind) foundedChanges).mpr
      (by cases kind <;> decide)
    exact along foundedChanges.length
  have agree : annexed.AgreeOn founded (.wrap 1) :=
    ⟨Store.agreeOn_of_rows reach reach' rfl (fun kind id => (routes kind id _).mpr)
      fun kind id => (routes' kind id _).mpr, rfl⟩
  have home : annexed.store.RolesAtHome := Store.rolesAtHome_of_all (by decide)
  have home' : founded.store.RolesAtHome := Store.rolesAtHome_of_all (by decide)
  obtain ⟨spared, same, -⟩ := guilds_are_isolated annexed founded .sample
    (.deleteRole (.wrap 1) (.wrap 30) (.wrap 1)) (.wrap 1) reach home reach' home' agree rfl
  obtain ⟨-, -, agreed⟩ := guilds_are_isolated annexed founded .sample
    (.createRole (.wrap 1) (.wrap 1) { name := "mod" }) (.wrap 1) reach home reach' home' agree rfl
  exact ⟨by decide, by decide, same, spared.rows (.wrap 2) (by decide), agreed⟩

end Service
end GuildAccess
