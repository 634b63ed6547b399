import GuildAccess.Proofs.ReadBack

/-!
Toggling one flag of a role. The stored permissions change in that flag and in no other. What makes
an administrator is the flag or the mark, and a toggle looks at the flags alone: with a mark that
stands without its flag, it does nothing where the flag is as it is wanted, and takes the mark away
with any other change. Everywhere else it changes that one capability and nothing more.
-/
namespace GuildAccess

/-- Setting a flag does nothing exactly if the flag is as it is wanted. -/
theorem Permissions.set_eq_self {p : Permissions} {f : Flag} {on : Bool} :
    p.set f on = p ↔ p.has f = on := by
  constructor
  · intro same
    have set := p.has_set f f on
    rwa [same, if_pos rfl] at set
  · intro already
    refine ext_has fun g => ?_
    rw [has_set]
    split
    · next here => rw [← here, already]
    · rfl

namespace Judge
variable {before : Role} {request : ToggleFlag} {now : Instant}

/-- The one flag is set or cleared. -/
theorem toggledRole_has (f : Flag) : (toggledRole before request now).permissions.has f =
    if request.flag = f then request.enabled else before.permissions.has f := by
  unfold toggledRole
  rw [← Permissions.has_set]
  split
  · next idle => rw [idle]
  · rfl

/-- A toggle that changes a flag makes of the role what its permissions say. -/
theorem toggledRole_administrator : (toggledRole before request now).grantsAdministrator =
    if before.permissions.has request.flag = request.enabled then before.grantsAdministrator
    else if request.flag = .administrator then request.enabled
    else before.permissions.has .administrator := by
  unfold toggledRole
  simp only [Permissions.set_eq_self]
  split
  · rfl
  · simp [Role.grantsAdministrator, Role.setPermissions, Permissions.has_set]

/-- Whether a role makes administrators after a toggle if nothing else is to change. -/
def wantsAdministrator (before : Role) (request : ToggleFlag) : Bool :=
  if request.flag = .administrator then request.enabled else before.grantsAdministrator

/-- A mark without its flag that a toggle handles wrongly: it stays although the flag is to be
cleared, or it goes although another flag is changed. -/
def MissesMark (before : Role) (request : ToggleFlag) : Prop :=
  before.isAdmin = true ∧ before.permissions.has .administrator = false ∧
    if request.flag = .administrator then request.enabled = false
    else before.permissions.has request.flag ≠ request.enabled

theorem toggledRole_wanted :
    (toggledRole before request now).grantsAdministrator = wantsAdministrator before request ↔
      ¬ MissesMark before request := by
  rw [toggledRole_administrator]
  unfold wantsAdministrator MissesMark Role.grantsAdministrator
  by_cases administrator : request.flag = .administrator
  · rw [administrator]
    cases before.isAdmin <;> cases before.permissions.has .administrator <;>
      cases request.enabled <;> simp
  · cases before.isAdmin <;> cases before.permissions.has .administrator <;>
      simp [administrator]

end Judge

namespace Service
variable {service after : Service} {around : Surroundings} {guild role actor : Snowflake}
  {request : ToggleFlag} {answer : Answer}

/-- A toggle that succeeds sets or clears the one flag of the stored role. Whether the role makes
administrators changes with that flag only, exactly unless its mark stands without its flag and the
toggle is to clear that flag or to change another one. -/
theorem toggle_sets_one_flag (reach : service.store.Reachable)
    (done : service.handle around (.toggleFlag guild role actor request) = (after, .ok answer)) :
    ∃ before row, service.store.role? role = some before ∧ after.store.role? role = some row ∧
      (∀ f, row.permissions.has f =
        if request.flag = f then request.enabled else before.permissions.has f) ∧
      (row.grantsAdministrator = Judge.wantsAdministrator before request ↔
        ¬ Judge.MissesMark before request) := by
  obtain ⟨ruling, ruled, carried⟩ := handle_ok done
  obtain ⟨before, found, -, edits⟩ := Judge.toggleFlag_edits ruled
  obtain ⟨-, stored⟩ := edits.stored reach.keyed carried
  exact ⟨before, _, found, stored, Judge.toggledRole_has, Judge.toggledRole_wanted⟩

/-- The owner lets role 11 kick. It could ban before and can still, and it makes nobody an
administrator. -/
theorem toggle_sets_one_flag_sample :
    let kick := Call.toggleFlag (.wrap 1) (.wrap 11) (.wrap 1) ⟨.kickMembers, true⟩
    let after := (sample.handle .sample kick).1
    Store.sample.Reachable ∧ (∃ answer, sample.handle .sample kick = (after, .ok answer)) ∧
      ∃ row, after.store.role? (.wrap 11) = some row ∧ row.permissions.has .kickMembers = true ∧
        row.permissions.has .banMembers = true ∧ row.grantsAdministrator = false := by
  intro kick after
  obtain ⟨answer, done⟩ := answer_of_isOk sample .sample kick (by decide +kernel)
  obtain ⟨before, row, found, stored, flags, mark⟩ :=
    toggle_sets_one_flag Store.sample_reachable done
  have known : sample.store.role? (.wrap 11) = some
      { Role.new (.wrap 11) (.wrap 1) "warden" (.only .banMembers) ⟨0, 0⟩ with position := 5 } := by
    decide +kernel
  cases known.symm.trans found
  refine ⟨Store.sample_reachable, ⟨answer, done⟩, row, stored, flags .kickMembers, ?_, ?_⟩
  · exact (flags .banMembers).trans (by decide)
  · exact (mark.mpr fun missed => absurd missed.1 (by decide)).trans (by decide)

/-- The small store with role 12, which is marked to make administrators but lacks the flag. -/
def markedSample : Service :=
  let row := Role.new (.wrap 12) (.wrap 1) "keeper" (.only .manageRoles) ⟨0, 0⟩
  ⟨Store.sample.commitAll ⟨0, 0⟩ [.createRole { row with isAdmin := true }], 0, .empty⟩

/-- To clear ADMINISTRATOR on a role with the mark alone succeeds and leaves it an administrator
role; to let the same role kick succeeds and takes that away. -/
theorem toggle_mishandles_mark :
    let clear := Call.toggleFlag (.wrap 1) (.wrap 12) (.wrap 1) ⟨.administrator, false⟩
    let kick := Call.toggleFlag (.wrap 1) (.wrap 12) (.wrap 1) ⟨.kickMembers, true⟩
    markedSample.store.Reachable ∧
      (markedSample.store.role? (.wrap 12)).map (·.grantsAdministrator) = some true ∧
      (markedSample.handle .sample clear).2.isOk = true ∧
      ((markedSample.handle .sample clear).1.store.role? (.wrap 12)).map (·.grantsAdministrator) =
        some true ∧
      (markedSample.handle .sample kick).2.isOk = true ∧
      ((markedSample.handle .sample kick).1.store.role? (.wrap 12)).map (·.grantsAdministrator) =
        some false :=
  ⟨Store.sample_reachable.commitAll _ _, by decide +kernel, by decide +kernel, by decide +kernel,
    by decide +kernel, by decide +kernel⟩

end Service
end GuildAccess
