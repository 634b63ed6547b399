import GuildAccess.Proofs.Mediation

/-!
What calls have to say to the log. A call checks flags at one place at most, so a denial speaks of
that check; a call that is carried out leaves one note, of its own action by its own actor.
-/
namespace GuildAccess

/-- What a denial is written down as: the first of the flags is named, and all of them only if there
is more than one. -/
def Demand.denial (d : Demand) (first : Flag) (others : List Flag) : Denial where
  guildId := d.guild
  actorId := d.actor
  attempt := d.attempt
  flag := first
  channelId := d.channel
  reason := if others.isEmpty then none else some ("requires " ++ d.names)

/-- The entry of an action that an actor carried out. -/
structure Audit.Entry.IsDeed (e : Audit.Entry) (guild actor : Snowflake) (deed : Audit.Attempt)
    (channel : Option Snowflake) (reason : Option String) (now : Instant) : Prop where
  guildId : e.guildId = guild
  actorId : e.actorId = actor
  action : e.action = deed.action
  targetKind : e.targetKind = deed.target.map (·.1)
  targetId : e.targetId = deed.target.map (·.2)
  channelId : e.channelId = channel
  permission : e.permission = none
  verdict : e.verdict = .allowed
  reason : e.reason = reason
  createdAt : e.createdAt = now

/-- The entry of an attempt that was denied. -/
structure Audit.Entry.IsDenial (e : Audit.Entry) (d : Denial) (now : Instant) : Prop where
  guildId : e.guildId = d.guildId
  actorId : e.actorId = d.actorId
  action : e.action = d.attempt.action
  targetKind : e.targetKind = d.attempt.target.map (·.1)
  targetId : e.targetId = d.attempt.target.map (·.2)
  channelId : e.channelId = d.channelId
  permission : e.permission = some d.flag
  verdict : e.verdict = .denied
  changes : e.changes = none
  reason : e.reason = d.reason
  createdAt : e.createdAt = now

theorem Note.entry_isDeed (n : Note) (id : Snowflake) (now : Instant) :
    (n.entry id now).IsDeed n.guildId n.actorId n.attempt n.channelId n.reason now :=
  ⟨rfl, rfl, rfl, rfl, rfl, rfl, rfl, rfl, rfl, rfl⟩

theorem Denial.entry_isDenial (d : Denial) (id : Snowflake) (now : Instant) :
    (d.entry id now).IsDenial d now :=
  ⟨rfl, rfl, rfl, rfl, rfl, rfl, rfl, rfl, rfl, rfl, rfl⟩

namespace Call

/-- The check of flags that a call makes. Besides guarded calls, some that only ask make one. -/
def check? (s : Store) : Call → Option Demand
  | .listOverrides channel user => (s.channel? channel).map fun row =>
    ⟨user, row.guildId, some channel, [.manageRoles, .manageChannels], ⟨.overrideList, none⟩⟩
  | .getChannel channel user => (s.channel? channel).map fun row =>
    ⟨user, row.guildId, some channel, [.viewChannel], ⟨.channelView, some (.channel, channel)⟩⟩
  | .requireAny guild channel user flags attempt => some ⟨user, guild, channel, flags, attempt⟩
  | .listAudit guild user _ => some ⟨user, guild, none, [.viewAuditLog], ⟨.auditLogView, none⟩⟩
  | call => call.demand? s

/-- What a guarded call did when it was carried out. A new role is known by then. -/
def deed (fresh : Snowflake) (d : Demand) : Call → Audit.Attempt
  | .createRole .. => ⟨.roleCreate, some (.role, fresh)⟩
  | _ => d.attempt

def reason? : Call → Option String
  | .lockChannel _ _ request | .unlockChannel _ _ request => request.reason
  | _ => none

/-- The note of a guarded call that was carried out. -/
def note (fresh : Snowflake) (d : Demand) (changes : Json) (call : Call) : Note where
  guildId := d.guild
  actorId := d.actor
  attempt := call.deed fresh d
  channelId := d.channel
  changes := changes
  reason := call.reason?

end Call

namespace Judge
variable {s : Store} {α β : Type} {flags : String} {refusal : Refusal}

/-- What no later step can deny was refused by the first one. -/
theorem error_of_bind {step : Except Refusal α} {next : α → Except Refusal β}
    (refused : (step >>= next) = .error refusal) (denied : refusal.cause = .denied flags)
    (later : ∀ given, ¬ Denies (next given) flags) : step = .error refusal := by
  cases step with
  | error cause => simpa [bind, Except.bind] using refused
  | ok given => exact absurd ⟨refusal, refused, denied⟩ (later given)

/-- What the first step cannot deny was refused by a later one. -/
theorem error_behind {step : Except Refusal α} {next : α → Except Refusal β}
    (refused : (step >>= next) = .error refusal) (denied : refusal.cause = .denied flags)
    (first : ¬ Denies step flags) : ∃ given, step = .ok given ∧ next given = .error refusal := by
  cases step with
  | error cause =>
    have same : cause = refusal := by simpa [bind, Except.bind] using refused
    exact absurd (denies_error.mpr (same ▸ denied)) first
  | ok given => exact ⟨given, rfl, refused⟩

/-- A gate that denies writes down what it was asked for, in a guild that is there. -/
theorem gate_refused {d : Demand} (refused : d.gate s = .error refusal)
    (denied : refusal.cause = .denied flags) :
    ∃ first others, d.flags = first :: others ∧ flags = d.names ∧
      refusal = .denied (d.denial first others) flags ∧
      (s.guilds.get? d.guild).isSome = true := by
  obtain ⟨actor, guild, channel, wanted, attempt⟩ := d
  obtain ⟨caller, loaded, -, missing, named⟩ := denies_gate.mp ⟨refusal, refused, denied⟩
  obtain ⟨g, found, -, -, -⟩ := passes_snapshot.mp loaded
  unfold Demand.gate gate at refused
  rw [loaded] at refused
  simp only [mustCall, mapError_ok, bind, Except.bind, missing] at refused
  cases wanted with
  | nil => cases refused
  | cons first others =>
    refine ⟨first, others, rfl, named.symm, ?_, by simp [found]⟩
    rw [← named]
    exact (Except.error.inj refused).symm

theorem changeRoleOf_refused {guild user role actor : Snowflake} {action : Audit.Action}
    (refused : changeRoleOf s guild user role actor action = .error refusal)
    (denied : refusal.cause = .denied flags) :
    gate s guild none actor [.manageRoles] ⟨action, some (.member, user)⟩ = .error refusal := by
  refine error_of_bind refused denied fun caller => ?_
  by_cases self : user = actor <;> simp [self]

/-- What is denied behind a channel was denied by a check there, which is for the channel. -/
theorem channel_denied {channel : Snowflake} {next : Channel → Except Refusal α}
    {demand : Channel → Demand} (keyed : s.Keyed)
    (refused : (mustCall (findChannel s channel) >>= next) = .error refusal)
    (denied : refusal.cause = .denied flags)
    (checked : ∀ row, row.id = channel → next row = .error refusal →
      (demand row).gate s = .error refusal) :
    ∃ d, (s.channel? channel).map demand = some d ∧ d.gate s = .error refusal := by
  obtain ⟨row, found, behind⟩ := error_behind refused denied (by simp)
  have found := passes_findChannel.mp (passes_mustCall.mp found)
  exact ⟨demand row, Option.map_eq_some_iff.mpr ⟨row, found, rfl⟩,
    checked row (keyed.channel_stored found).1 behind⟩

theorem canManageMember_denies_none {guild actor target : Snowflake} :
    ¬ Denies (canManageMember s guild actor target) flags := by
  rintro ⟨refusal, refused, denied⟩
  obtain ⟨caller, -, behind⟩ := error_behind refused denied (by simp)
  split at behind
  · cases behind
  · split at behind <;> cases behind
    cases denied
  · next cause _ ranked =>
    cases behind
    have same : cause = .denied flags := denied
    exact absurd (same ▸ ranked) outranksMember_ne_denied

theorem bind_ne_error {ε : Type} {cause : ε} {step : Except ε α} {next : α → Except ε β}
    (first : step ≠ .error cause) (later : ∀ given, next given ≠ .error cause) :
    (step >>= next) ≠ .error cause := by
  cases step with
  | error other => simpa [bind, Except.bind] using first
  | ok given => exact later given

theorem map_ne_error {ε : Type} {cause : ε} {check : Except ε α} {f : α → β}
    (first : check ≠ .error cause) : check.map f ≠ .error cause := by
  cases check with
  | error other => simpa [Except.map] using first
  | ok given => simp [Except.map]

@[simp] theorem mapError_fault_ne_denied {check : Except Fault α} :
    check.mapError CallError.fault ≠ .error (.denied flags) := by
  cases check <;> simp

@[simp] theorem accept_ne_denied {broken : List String} :
    Request.accept broken ≠ .error (.denied flags) := by
  unfold Request.accept
  split <;> simp

@[simp] theorem auditQuery_ne_denied {guild : Snowflake} {size : Nat} {params : AuditParams} :
    auditQuery guild size params ≠ .error (.denied flags) := by
  have ids (field : String) (text : Option String) :
      filterId field text ≠ .error (.denied flags) := by
    unfold filterId
    split
    · simp
    · split <;> simp
  have names {γ : Type} (parse : String → Except Fault γ) (text : Option String) :
      filterName parse text ≠ .error (.denied flags) := by
    unfold filterName
    split <;> simp
  unfold auditQuery
  exact bind_ne_error (ids _ _) fun _ => bind_ne_error (ids _ _) fun _ =>
    bind_ne_error (names _ _) fun _ => bind_ne_error (names _ _) fun _ => by simp

end Judge

namespace Call
variable {s : Store} {around : Surroundings} {fresh : Snowflake} {call : Call}

/-- Admission denies nobody. -/
theorem enter_ne_denied {flags : String} : call.enter s ≠ .error (.denied flags) := by
  have located {channel : Snowflake} : channelLock s channel ≠ .error (.denied flags) :=
    Judge.map_ne_error Judge.findChannel_ne_denied
  cases call with
  | createRole | updateRole | reorderRoles => exact Judge.map_ne_error Judge.accept_ne_denied
  | setOverride => exact Judge.bind_ne_error Judge.mapError_fault_ne_denied fun _ => located
  | deleteOverride => exact located
  | lockChannel | unlockChannel =>
    exact Judge.bind_ne_error Judge.accept_ne_denied fun _ => located
  | _ => simp [enter]

def checksFlags : Call → Bool
  | .listOverrides .. | .getChannel .. | .requireAny .. | .listAudit .. => true
  | call => call.isGuarded

/-- A call that checks no flag denies nobody. -/
theorem judge_denies_none {flags : String} (unchecked : call.checksFlags = false) :
    ¬ Judge.Denies (call.judge s around fresh) flags := by
  intro denies
  cases call with
  | join guild user =>
    simp only [judge, Judge.join, Judge.denies_bind, Judge.denies_mustCall] at denies
    split at denies <;> simp at denies
  | isOwner guild user =>
    simp only [judge, Judge.isOwner] at denies
    split at denies <;> simp [Refusal.cause] at denies
  | canManageMember guild actor target => exact Judge.canManageMember_denies_none denies
  | getRole | listRoles | getMember | guildPermissions | channelPermissions
  | effectivePermissions | check =>
    simp [judge, Judge.getRole, Judge.listRoles, Judge.getMember, Judge.guildPermissions,
      Judge.channelPermissions, Judge.effectivePermissions, Judge.check] at denies
  | loadSnapshot | ensureManages | record | recordAfter | recordDenied | findChannel | findRole =>
    simp [judge] at denies
  | _ => cases unchecked

/-- A call that is denied was denied by its check. -/
theorem judge_denied {flags : String} {refusal : Refusal} (keyed : s.Keyed)
    (refused : call.judge s around fresh = .error refusal)
    (denied : refusal.cause = .denied flags) :
    ∃ d, call.check? s = some d ∧ d.gate s = .error refusal := by
  cases call with
  | createRole | updateRole | toggleFlag | deleteRole | reorderRoles | requireAny =>
    exact ⟨_, rfl, Judge.error_of_bind refused denied (by simp)⟩
  | assignRole =>
    have first := Judge.error_of_bind refused denied (by simp)
    exact ⟨_, rfl, Judge.changeRoleOf_refused first denied⟩
  | unassignRole =>
    have first := Judge.error_of_bind refused denied (by simp [Refusal.cause])
    exact ⟨_, rfl, Judge.changeRoleOf_refused first denied⟩
  | setOverride | deleteOverride | lockChannel | unlockChannel | listOverrides | getChannel =>
    refine Judge.channel_denied keyed refused denied fun row named behind => ?_
    subst named
    exact Judge.error_of_bind behind denied (by simp)
  | listAudit =>
    obtain ⟨-, -, behind⟩ := Judge.error_behind refused denied (by simp [AuditParams.validate])
    exact ⟨_, rfl, Judge.error_of_bind behind denied (by simp)⟩
  | _ => exact absurd ⟨refusal, refused, denied⟩ (judge_denies_none rfl)

/-- A plan that was made behind the check of its call, and leaves the note of that call. -/
def LeavesNote (s : Store) (fresh : Snowflake) (call : Call) (p : Plan) : Prop :=
  ∃ d caller changes, call.check? s = some d ∧ d.gate s = .ok caller ∧
    p.note = some (call.note fresh d changes)

end Call

namespace Judge
variable {s : Store} {now : Instant} {fresh guild user role actor channel : Snowflake} {p : Plan}

theorem createRole_noted {request : CreateRole}
    (planned : createRole s now fresh guild actor request = .ok (.plan p)) :
    Call.LeavesNote s fresh (.createRole guild actor request) p := by
  simp only [createRole, passes_bind, Except.ok.injEq, Ruling.plan.injEq] at planned
  obtain ⟨caller, passed, -, -, -, -, rfl⟩ := planned
  exact ⟨_, caller, _, rfl, passed, rfl⟩

theorem updateRole_noted {request : UpdateRole} (keyed : s.Keyed)
    (planned : updateRole s now guild role actor request = .ok (.plan p)) :
    Call.LeavesNote s fresh (.updateRole guild role actor request) p := by
  simp only [updateRole, passes_bind, passes_mustCall, passes_findRole] at planned
  obtain ⟨caller, passed, before, ⟨found, -⟩, -, -, -, -, -, -, planned⟩ := planned
  split at planned <;> cases planned
  -- The note names the row as updated, and updating keeps the identifier.
  have named : (updatedRole before request now).id = role :=
    (updatedRole_kept before request now).1.trans (keyed.role_stored found).1
  subst named
  exact ⟨_, caller, _, rfl, passed, rfl⟩

theorem toggleFlag_noted {request : ToggleFlag} (keyed : s.Keyed)
    (planned : toggleFlag s now guild role actor request = .ok (.plan p)) :
    Call.LeavesNote s fresh (.toggleFlag guild role actor request) p := by
  simp only [toggleFlag, passes_bind, passes_mustCall, passes_findRole] at planned
  obtain ⟨caller, passed, before, ⟨found, -⟩, -, -, -, -, planned⟩ := planned
  split at planned <;> cases planned
  obtain ⟨rfl, -⟩ := keyed.role_stored found
  exact ⟨_, caller, _, rfl, passed, rfl⟩

theorem deleteRole_noted (planned : deleteRole s guild role actor = .ok (.plan p)) :
    Call.LeavesNote s fresh (.deleteRole guild role actor) p := by
  simp only [deleteRole, passes_bind, Except.ok.injEq, Ruling.plan.injEq] at planned
  obtain ⟨caller, passed, -, -, -, -, -, -, rfl⟩ := planned
  exact ⟨_, caller, _, rfl, passed, rfl⟩

theorem reorderRoles_noted {request : ReorderRoles}
    (planned : reorderRoles s guild actor request = .ok (.plan p)) :
    Call.LeavesNote s fresh (.reorderRoles guild actor request) p := by
  simp only [reorderRoles, passes_bind, Except.ok.injEq, Ruling.plan.injEq] at planned
  obtain ⟨caller, passed, -, -, rfl⟩ := planned
  exact ⟨_, caller, _, rfl, passed, rfl⟩

theorem assignRole_noted (planned : assignRole s now guild user role actor = .ok (.plan p)) :
    Call.LeavesNote s fresh (.assignRole guild user role actor) p := by
  simp only [assignRole, changeRoleOf, passes_bind, Except.ok.injEq, Ruling.plan.injEq] at planned
  obtain ⟨_, ⟨caller, passed, -⟩, -, -, rfl⟩ := planned
  exact ⟨_, caller, _, rfl, passed, rfl⟩

theorem unassignRole_noted (planned : unassignRole s now guild user role actor = .ok (.plan p)) :
    Call.LeavesNote s fresh (.unassignRole guild user role actor) p := by
  simp only [unassignRole, changeRoleOf, passes_bind] at planned
  obtain ⟨_, ⟨caller, passed, -⟩, planned⟩ := planned
  split at planned <;> cases planned
  exact ⟨_, caller, _, rfl, passed, rfl⟩

theorem setOverride_noted {target : OverrideTarget} {overwrite : Overwrite} (keyed : s.Keyed)
    (planned : setOverride s now channel target actor overwrite = .ok (.plan p)) :
    Call.LeavesNote s fresh (.setOverride channel target actor overwrite) p := by
  simp only [setOverride, passes_bind, passes_mustCall, passes_findChannel, Except.ok.injEq,
    Ruling.plan.injEq] at planned
  obtain ⟨row, found, caller, passed, -, -, -, -, rfl⟩ := planned
  obtain ⟨rfl, -⟩ := keyed.channel_stored found
  exact ⟨_, caller, _, Option.map_eq_some_iff.mpr ⟨row, found, rfl⟩, passed, rfl⟩

theorem deleteOverride_noted {target : OverrideTarget} (keyed : s.Keyed)
    (planned : deleteOverride s channel target actor = .ok (.plan p)) :
    Call.LeavesNote s fresh (.deleteOverride channel target actor) p := by
  simp only [deleteOverride, passes_bind, passes_mustCall, passes_findChannel, Except.ok.injEq,
    Ruling.plan.injEq] at planned
  obtain ⟨row, found, caller, passed, -, -, -, -, -, -, rfl⟩ := planned
  obtain ⟨rfl, -⟩ := keyed.channel_stored found
  exact ⟨_, caller, _, Option.map_eq_some_iff.mpr ⟨row, found, rfl⟩, passed, rfl⟩

theorem lockChannel_noted {request : Lockdown} (keyed : s.Keyed)
    (planned : lockChannel s now channel actor request = .ok (.plan p)) :
    Call.LeavesNote s fresh (.lockChannel channel actor request) p := by
  simp only [lockChannel, passes_bind, passes_mustCall, passes_findChannel, Except.ok.injEq,
    Ruling.plan.injEq] at planned
  obtain ⟨row, found, caller, passed, -, -, -, -, rfl⟩ := planned
  obtain ⟨rfl, -⟩ := keyed.channel_stored found
  exact ⟨_, caller, _, Option.map_eq_some_iff.mpr ⟨row, found, rfl⟩, passed, rfl⟩

theorem unlockChannel_noted {request : Lockdown} (keyed : s.Keyed)
    (planned : unlockChannel s now channel actor request = .ok (.plan p)) :
    Call.LeavesNote s fresh (.unlockChannel channel actor request) p := by
  simp only [unlockChannel, passes_bind, passes_mustCall, passes_findChannel, Except.ok.injEq,
    Ruling.plan.injEq] at planned
  obtain ⟨row, found, caller, passed, -, -, -, -, rfl⟩ := planned
  obtain ⟨rfl, -⟩ := keyed.channel_stored found
  exact ⟨_, caller, _, Option.map_eq_some_iff.mpr ⟨row, found, rfl⟩, passed, rfl⟩

end Judge

/-- A guarded call that plans passed its check, and its plan has its note. -/
theorem Call.judge_note {s : Store} {around : Surroundings} {fresh : Snowflake} {call : Call}
    {p : Plan} (keyed : s.Keyed) (guarded : call.isGuarded = true)
    (planned : call.judge s around fresh = .ok (.plan p)) : call.LeavesNote s fresh p := by
  cases call with
  | createRole => exact Judge.createRole_noted planned
  | updateRole => exact Judge.updateRole_noted keyed planned
  | toggleFlag => exact Judge.toggleFlag_noted keyed planned
  | deleteRole => exact Judge.deleteRole_noted planned
  | reorderRoles => exact Judge.reorderRoles_noted planned
  | assignRole => exact Judge.assignRole_noted planned
  | unassignRole => exact Judge.unassignRole_noted planned
  | setOverride => exact Judge.setOverride_noted keyed planned
  | deleteOverride => exact Judge.deleteOverride_noted keyed planned
  | lockChannel => exact Judge.lockChannel_noted keyed planned
  | unlockChannel => exact Judge.unlockChannel_noted keyed planned
  | _ => cases guarded

end GuildAccess
