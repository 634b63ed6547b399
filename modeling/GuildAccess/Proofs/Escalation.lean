import GuildAccess.Proofs.Steps
import GuildAccess.Proofs.Reach

/-!
No escalation through role edits. Whoever creates, edits, deletes or moves roles hands nobody a flag
that they do not hold themselves, and so never gains one.
-/
namespace GuildAccess

/-- Server-wide permissions of an insider of a guild; none for anybody else. -/
def Store.serverOf (s : Store) (guild user : Snowflake) : Permissions :=
  match Judge.snapshot s guild user none with
  | .ok caller => caller.server
  | .error _ => ∅

/-- Calls of an actor that edit roles of a guild. -/
def Call.editsRoles (guild actor : Snowflake) : Call → Bool
  | .createRole guild' actor' _ => guild' = guild ∧ actor' = actor
  | .updateRole guild' _ actor' _ => guild' = guild ∧ actor' = actor
  | .toggleFlag guild' _ actor' _ => guild' = guild ∧ actor' = actor
  | .deleteRole guild' _ actor' => guild' = guild ∧ actor' = actor
  | .reorderRoles guild' actor' _ => guild' = guild ∧ actor' = actor
  | _ => false

theorem Store.serverOf_has {s : Store} {guild user : Snowflake} {f : Flag} :
    (s.serverOf guild user).has f =
      (s.tables? guild).any fun g => g.hasInsider user && (g.serverOf user).has f := by
  unfold serverOf
  cases loaded : Judge.snapshot s guild user none with
  | ok caller =>
    obtain ⟨g, rows, inside, -, rfl⟩ := Judge.passes_snapshot.mp loaded
    have inside' : g.withoutLog.hasInsider user = true := inside
    simp only [tables?, rows, Option.map_some, Option.any_some, inside', Bool.true_and]
    rfl
  | error cause =>
    cases rows : s.guilds.get? guild with
    | none => simp [tables?, rows]
    | some g =>
      have outside : g.hasInsider user = false := by
        refine Bool.eq_false_iff.mpr fun inside => ?_
        have passed : Judge.snapshot s guild user none = .ok (g.snapshot user none) :=
          Judge.passes_snapshot.mpr ⟨g, rows, inside, by simp, rfl⟩
        rw [loaded] at passed
        cases passed
      have outside' : g.withoutLog.hasInsider user = false := outside
      simp [tables?, rows, outside']

theorem Store.serverOf_rows {s : Store} {guild user : Snowflake} {g : GuildRows} {f : Flag}
    (rows : s.tables? guild = some g.withoutLog) :
    (s.serverOf guild user).has f = (g.hasInsider user && (g.serverOf user).has f) := by
  rw [serverOf_has, rows]
  rfl

namespace Call
variable {s : Store} {around : Surroundings} {fresh guild actor : Snowflake} {call : Call}

theorem editsRoles_guarded (edit : call.editsRoles guild actor = true) : call.isGuarded = true := by
  cases call <;> first | rfl | cases edit

theorem editsRoles_demand {d : Demand} (edit : call.editsRoles guild actor = true)
    (demands : call.demand? s = some d) : d.guild = guild ∧ d.actor = actor := by
  cases call with
  | createRole | updateRole | toggleFlag | deleteRole | reorderRoles =>
    cases demands
    simpa [editsRoles] using edit
  | _ => cases edit

/-- An edit of roles never plans an assignment. -/
theorem editsRoles_not_assignRole {p : Plan} {user role : Snowflake}
    (edit : call.editsRoles guild actor = true)
    (planned : call.judge s around fresh = .ok (.plan p)) :
    p.change ≠ .assignRole guild user role := by
  intro assigned
  cases call with
  | createRole =>
    obtain ⟨_, _, _, _, change, _⟩ := Judge.createRole_plan planned
    cases change.symm.trans assigned
  | updateRole =>
    obtain ⟨_, _, _, _, _, _, _, change⟩ := Judge.updateRole_plan planned
    cases change.symm.trans assigned
  | toggleFlag =>
    obtain ⟨_, _, _, _, _, _, _, change⟩ := Judge.toggleFlag_plan planned
    cases change.symm.trans assigned
  | deleteRole =>
    obtain ⟨_, _, _, _, _, _, _, change⟩ := Judge.deleteRole_plan planned
    cases change.symm.trans assigned
  | reorderRoles =>
    obtain ⟨_, _, _, _, _, change⟩ := Judge.reorderRoles_plan planned
    cases change.symm.trans assigned
  | _ => cases edit

end Call

/-- Over a permitted change other than an assignment, users gain no flag that the actor lacks. -/
theorem Permitted.no_gain {s : Store} {fresh guild actor user : Snowflake} {g g' : GuildRows}
    {p : Plan} {now : Instant} {f : Flag} (permitted : Permitted s fresh guild g actor p)
    (other : ∀ user role, p.change ≠ .assignRole guild user role)
    (keyed : g.Keyed guild) (effect : p.change.Effect now g g')
    (has : (g'.serverOf user).has f = true) :
    (g.serverOf user).has f = true ∨ (g.serverOf actor).has f = true := by
  have keyed' : g'.Keyed guild := effect.keyed keyed permitted.home
  rcases GuildRows.serverOf_has.mp has with owner | ⟨id, r', stored, counts, granted⟩
  · left
    rw [GuildRows.serverOf_has, ← permitted.guild_kept effect]
    exact .inl owner
  · -- A role that is made may be named in a list already, so it counts as granted by the actor.
    rcases permitted.role_after effect stored with ⟨-, -, -, covered⟩ |
      ⟨r, found, everyone, -, covered⟩
    · exact .inr (covered f granted)
    · refine (covered f granted).imp_left fun old => ?_
      have contributes : r.contributes (g.heldBy user) = true := by
        rw [keyed.contributes_iff found, ← everyone]
        refine ((keyed'.contributes_iff stored).mp counts).imp_right fun held => ?_
        rcases permitted.held_after effect held with before | ⟨assigned, -⟩
        · exact before
        · exact absurd assigned (other user id)
      exact GuildRows.serverOf_has.mpr (.inr ⟨id, r, found, contributes, old⟩)

namespace Service
variable {service : Service} {around : Surroundings} {call : Call} {guild actor : Snowflake}

/-- After an edit of roles, users hold what they held before or what the actor held before. -/
theorem handle_no_gain (keyed : service.store.Keyed) (home : service.store.RolesAtHome)
    (edit : call.editsRoles guild actor = true) {user : Snowflake} {f : Flag}
    (has : ((service.handle around call).1.store.serverOf guild user).has f = true) :
    (service.store.serverOf guild user).has f = true ∨
      (service.store.serverOf guild actor).has f = true := by
  rcases handle_guarded keyed home (Call.editsRoles_guarded edit) with
    same | ⟨d, p, g, g', writes⟩
  · left
    rwa [Store.serverOf_has, same guild, ← Store.serverOf_has] at has
  · obtain ⟨rfl, rfl⟩ := Call.editsRoles_demand edit writes.demands
    have rows : service.store.tables? d.guild = some g.withoutLog := by
      rw [Store.tables?, writes.before]
      rfl
    rw [Store.serverOf_rows writes.rewritten, Bool.and_eq_true,
      writes.permitted.insider_kept writes.effect] at has
    rw [Store.serverOf_rows rows, Store.serverOf_rows rows, Bool.and_eq_true, Bool.and_eq_true]
    have other : ∀ user role, p.change ≠ .assignRole d.guild user role :=
      fun _ _ => Call.editsRoles_not_assignRole edit writes.planned
    rcases writes.permitted.no_gain other (keyed d.guild g writes.before) writes.effect has.2 with
      old | actors
    · exact .inl ⟨has.1, old⟩
    · exact .inr ⟨writes.insider, actors⟩

/-- Over any run of one actor's role edits, no user of the guild gains a flag that the actor did not
hold at the start, and so the actor gains none. -/
theorem role_edits_do_not_escalate (service : Service) (guild actor : Snowflake)
    (steps : List (Surroundings × Call)) (reach : service.store.Reachable)
    (home : service.store.RolesAtHome)
    (edits : ∀ step ∈ steps, step.2.editsRoles guild actor = true) :
    (∀ user f, ((service.run steps).store.serverOf guild user).has f = true →
      (service.store.serverOf guild user).has f = true ∨
        (service.store.serverOf guild actor).has f = true) ∧
    ∀ f, ((service.run steps).store.serverOf guild actor).has f = true →
      (service.store.serverOf guild actor).has f = true := by
  have gained : ∀ user f, ((service.run steps).store.serverOf guild user).has f = true →
      (service.store.serverOf guild user).has f = true ∨
        (service.store.serverOf guild actor).has f = true := by
    induction steps generalizing service with
    | nil => exact fun user f has => .inl has
    | cons step rest ih =>
      -- What the actor holds after the first edit they held before it, so nothing adds up.
      intro user f has
      have first := edits step List.mem_cons_self
      have back : ∀ {user},
          ((service.handle step.1 step.2).1.store.serverOf guild user).has f = true →
          (service.store.serverOf guild user).has f = true ∨
            (service.store.serverOf guild actor).has f = true :=
        fun has => handle_no_gain reach.keyed home first has
      rcases ih (service.handle step.1 step.2).1 (handle_reachable reach)
        (handle_rolesAtHome reach.keyed home)
        (fun later member => edits later (List.mem_cons_of_mem _ member)) user f has with
        own | actors
      · exact back own
      · exact .inr ((back actors).elim id id)
  exact ⟨gained, fun f has => (gained actor f has).elim id id⟩

theorem role_edits_do_not_escalate_sample :
    ((sample.run [
      (.sample, .createRole (.wrap 1) (.wrap 2)
        { name := "aide", permissions := .only .manageRoles }),
      (.sample, .toggleFlag (.wrap 1) (.wrap 11) (.wrap 2) ⟨.manageRoles, true⟩),
      (.sample, .updateRole (.wrap 1) (.wrap 11) (.wrap 2) { isAdmin := some true }),
      (.sample, .deleteRole (.wrap 1) (.wrap 11) (.wrap 2))]).store.serverOf (.wrap 1)
        (.wrap 2)).has .banMembers = false := by
  refine Bool.eq_false_iff.mpr fun has => ?_
  have gained := (role_edits_do_not_escalate sample (.wrap 1) (.wrap 2) _ Store.sample_reachable
    Store.sample_rolesAtHome (by decide)).2 .banMembers has
  exact absurd gained (by decide)

end Service
end GuildAccess
