import GuildAccess.Proofs.RoleFields
import GuildAccess.Proofs.Success

/-!
What an update of a role leaves behind. The row that is stored differs from the one before in fields
that a request can set and in no others. Where they differ the log gets the record of exactly these
fields, from which either row can be got back from the other; where they do not, nothing is written.
-/
namespace GuildAccess

namespace Judge
variable {s : Store} {now : Instant} {guild id actor : Snowflake} {request : UpdateRole}
  {before row wanted : Role} {caller : Snapshot} {ruling : Ruling}

/-- What has to hold for a caller to update a role to another row. -/
structure MayUpdate (caller : Snapshot) (before row : Role) (request : UpdateRole) : Prop where
  outranks : caller.isOwner = true ∨ before.position < caller.highest
  keepsName : (before.isEveryone && request.name.isSome) = false
  grants : ∀ f, (row.permissions \ before.permissions).has f = true → caller.server.has f = true

def updatePlan (guild actor : Snowflake) (before row : Role) : Plan where
  change := .updateRole row
  note := some {
    guildId := guild, actorId := actor, attempt := onRole .roleUpdate row.id
    changes := .obj (roleChanges before row) }
  answer := fun _ => .role row.view

/-- How an update to a row is ruled: it is planned if a field differs. -/
def updateRuling (guild actor : Snowflake) (before wanted : Role) : Ruling :=
  if before.differing wanted = [] then .answer (.role wanted.view)
  else .plan (updatePlan guild actor before wanted)

/-- An update is let through if the caller may make it. -/
theorem updateRole_ok : updateRole s now guild id actor request = .ok ruling ↔
    ∃ caller before, manageRoles s guild actor (onRole .roleUpdate id) = .ok caller ∧
      s.role? id = some before ∧ before.guildId = guild ∧
      MayUpdate caller before (updatedRole before request now) request ∧
      ruling = updateRuling guild actor before (updatedRole before request now) := by
  unfold updateRole updateRuling
  simp only [passes_bind, passes_mustCall, passes_must, passes_findRole, passes_refuseIf,
    passes_outranksPosition]
  have idle : ∀ before row : Role,
      (roleChanges before row).isEmpty = true ↔ before.differing row = [] := fun before row => by
    rw [roleChanges_eq, List.isEmpty_iff, List.map_eq_nil_iff]
  simp only [idle]
  constructor
  · rintro ⟨caller, passed, before, ⟨found, home⟩, _, outranks, _, plain, _, grants, ruled⟩
    have grants := Resolver.passes_checkGrant.mp grants
    refine ⟨caller, before, passed, found, home, ⟨outranks, plain, grants⟩, ?_⟩
    split at ruled
    · next idle =>
      rw [if_pos idle]
      exact (Except.ok.inj ruled).symm
    · next differs =>
      rw [if_neg differs]
      exact (Except.ok.inj ruled).symm
  · rintro ⟨caller, before, passed, found, home, ⟨outranks, plain, grants⟩, rfl⟩
    refine ⟨caller, passed, before, ⟨found, home⟩, (), outranks, (), plain, (),
      Resolver.passes_checkGrant.mpr grants, ?_⟩
    split <;> rfl

/-- The row that an update to another row leaves: the one before, unless a field differs. -/
def leftRole (before wanted : Role) : Role :=
  if before.differing wanted = [] then before else wanted

theorem leftRole_elsewhere (same : wanted.SameElsewhere before) :
    (leftRole before wanted).SameElsewhere before := by
  unfold leftRole
  split
  · exact .refl before
  · exact same

/-- The row that is left has in every field what is wanted. -/
theorem leftRole_met (f : Role.Field) : f.read (leftRole before wanted) = f.read wanted := by
  unfold leftRole
  split
  · next idle => exact Role.differing_eq_nil.mp idle f
  · rfl

theorem differing_leftRole :
    before.differing (leftRole before wanted) = before.differing wanted := by
  simp only [Role.differing, leftRole_met]

/-- An update that is carried out stores the row that it leaves, and answers it. -/
theorem updateRuling_stored {after : Store} {answer : Answer}
    (found : s.role? before.id = some before) (same : wanted.SameElsewhere before)
    (carried : (updateRuling guild actor before wanted).CarriedOut now s after answer) :
    after.role? before.id = some (leftRole before wanted) ∧
      answer = .role (leftRole before wanted).view := by
  unfold updateRuling at carried
  unfold leftRole
  split at carried
  · next idle =>
    cases carried
    rw [if_pos idle, same.view_eq fun f => (Role.differing_eq_nil.mp idle f).symm]
    exact ⟨found, rfl⟩
  · next differs =>
    rw [if_neg differs]
    cases carried with
    | plan applied since =>
      obtain ⟨before', found', written⟩ := Store.updateRole_reads applied
      rw [← same.id] at found ⊢
      cases found.symm.trans found'
      rw [since.role?, written, ← same.guildId, ← same.isEveryone, ← same.createdAt]
      exact ⟨rfl, rfl⟩

end Judge

namespace Service
variable {service after : Service} {around : Surroundings} {guild role actor : Snowflake}
  {request : UpdateRole} {answer : Answer} {before row : Role}

/-- An update that is carried out is written to the log of the guild, if that can be written. -/
theorem updatePlan_logged
    (known : (service.store.guilds.get? guild).isSome = true)
    (done : service.execute around (Judge.updatePlan guild actor before row) =
      (after, .ok answer)) :
    (around.logWritable = false → service.store.Silent after.store) ∧
      (around.logWritable = true → ∃ e : Audit.Entry, e.id = around.idAt after.issued ∧
        e.IsDeed guild actor ⟨.roleUpdate, some (.role, row.id)⟩ none none around.now ∧
        e.changes = some (.obj (Judge.roleChanges before row)) ∧
        service.store.Puts after.store guild e) := by
  have plain : ∀ e, (Judge.updatePlan guild actor before row).change ≠ .appendAudit e := by
    rintro e ⟨⟩
  refine ⟨fun unwritable => ?_, fun writable => ?_⟩
  · have silent : service.store.Silent (service.execute around _).1.store :=
      execute_silent unwritable plain
    rwa [done] at silent
  · have logged := execute_logged writable rfl known plain
    rw [done] at logged
    rcases logged with ⟨⟨cause, failed⟩, -⟩ | ⟨store, -, -, -, puts, -⟩
    · cases failed
    · exact ⟨_, rfl, Note.entry_isDeed _ _ _, rfl, puts⟩

/-- An update of a role that succeeds stores a row that differs from the one before in fields that a
request can set and in nothing else but times. If no field differs the row is the same and nothing
is written to a log; else the log of the guild gets one entry, if it can be written, with the record
of exactly the fields that differ. -/
theorem role_updates_are_recorded (reach : service.store.Reachable)
    (done : service.handle around (.updateRole guild role actor request) = (after, .ok answer)) :
    ∃ before row, service.store.role? role = some before ∧ after.store.role? role = some row ∧
      row.SameElsewhere before ∧
      (before.differing row = [] → row = before ∧ service.store.Silent after.store) ∧
      (before.differing row ≠ [] →
        (around.logWritable = false → service.store.Silent after.store) ∧
        (around.logWritable = true → ∃ (e : Audit.Entry) (changes : List (String × Json)),
          e.id = around.idAt after.issued ∧
          e.IsDeed guild actor ⟨.roleUpdate, some (.role, role)⟩ none none around.now ∧
          e.changes = some (.obj changes) ∧ before.Records row changes ∧
          service.store.Puts after.store guild e)) := by
  obtain ⟨ruling, ruled, carried⟩ := handle_ok done
  obtain ⟨caller, before, passed, found, -, -, rfl⟩ := Judge.updateRole_ok.mp ruled
  obtain ⟨rfl, -⟩ := reach.keyed.role_stored found
  have same := Judge.updatedRole_elsewhere before request around.now
  refine ⟨before, _, found, (Judge.updateRuling_stored found same carried).1,
    Judge.leftRole_elsewhere same, ?_⟩
  rw [Judge.differing_leftRole]
  refine ⟨fun idle => ?_, fun differs => ?_⟩
  · rw [Judge.updateRuling, if_pos idle] at carried
    generalize after.store = stored at carried ⊢
    cases carried
    exact ⟨if_pos idle, fun _ => rfl⟩
  · rw [Judge.updateRuling, if_neg differs] at ruled
    rw [Judge.leftRole, if_neg differs]
    obtain ⟨g, rows, -⟩ := Judge.passes_gate_rows passed
    obtain ⟨held, store, executed⟩ := handle_plan done ruled
    have known : (held.store.guilds.get? guild).isSome = true := by simp [store, rows]
    obtain ⟨silent, puts⟩ := updatePlan_logged known executed
    rw [store, same.id] at puts
    rw [store] at silent
    refine ⟨silent, fun writable => ?_⟩
    obtain ⟨e, named, deed, changes, put⟩ := puts writable
    rw [Judge.roleChanges_eq] at changes
    exact ⟨e, _, named, deed, changes, Role.records_differing same, put⟩

/-- The owner renames role 10 and makes it an administrator role. Its permissions gain the bit, so
three fields are recorded. -/
theorem role_updates_are_recorded_sample :
    let update : Call := .updateRole (.wrap 1) (.wrap 10) (.wrap 1)
      { name := some "guard", hoist := some false, isAdmin := some true }
    let after := (sample.handle .sample update).1
    ∃ before row, sample.store.role? (.wrap 10) = some before ∧
      after.store.role? (.wrap 10) = some row ∧
      before.differing row = [.name, .permissions, .isAdmin] ∧
      ∃ (e : Audit.Entry) (changes : List (String × Json)),
        e.changes = some (.obj changes) ∧ changes.map (·.1) = ["name", "permissions", "is_admin"] ∧
        before.Records row changes ∧ sample.store.Puts after.store (.wrap 1) e := by
  intro update after
  obtain ⟨answer, done⟩ := answer_of_isOk sample .sample update (by decide +kernel)
  obtain ⟨before, row, found, stored, -, -, written⟩ :=
    role_updates_are_recorded Store.sample_reachable done
  have compared : ((sample.store.role? (.wrap 10)).bind fun before =>
      (after.store.role? (.wrap 10)).map before.differing) =
        some [.name, .permissions, .isAdmin] := by decide +kernel
  rw [found, stored] at compared
  have differs := Option.some.inj compared
  obtain ⟨e, changes, -, -, held, records, puts⟩ := (written (by simp [differs])).2 rfl
  have keys := records.keys
  rw [differs] at keys
  exact ⟨before, row, found, stored, differs, e, changes, held, keys, records, puts⟩

end Service
end GuildAccess
