import GuildAccess.Proofs.Escalation
import GuildAccess.Proofs.Reordering
import GuildAccess.Proofs.RoleHistory

/-!
Updating a role twice. A request names the values that it wants, so the row that an update leaves
wants nothing more of the same request, whatever was set in it: the administrator mark and bit are
brought together by the first update, and a tag that is not named stays as it is. As the row keeps
its rank, its actor still outranks it, and the request repeated finds nothing to do.
-/
namespace GuildAccess

theorem Permissions.set_set (p : Permissions) (f : Flag) (on : Bool) :
    (p.set f on).set f on = p.set f on := by
  refine Permissions.ext_has fun g => ?_
  simp only [Permissions.has_set]
  split <;> rfl

namespace UpdateRole
open Role (Field)
variable {r row : Role}

/-- The permissions that a request wants. Those named come first, then the administrator bit. -/
def wantsPermissions (request : UpdateRole) (held : Permissions) : Permissions :=
  let named := request.permissions.getD held
  (request.isAdmin.map (named.set .administrator)).getD named

/-- The administrator mark that a request wants: the one named, else the bit of the permissions
named. -/
def wantsMark (request : UpdateRole) (held : Bool) : Bool :=
  request.isAdmin.getD ((request.permissions.map (·.has .administrator)).getD held)

def wants (request : UpdateRole) (r : Role) : (f : Field) → f.Value
  | .name => request.name.getD r.name
  | .color => request.color.getD r.color
  | .hoist => request.hoist.getD r.hoist
  | .mentionable => request.mentionable.getD r.mentionable
  | .showTag => request.showTag.getD r.showTag
  | .tagStyle => request.tagStyle <|> r.tagStyle
  | .permissions => request.wantsPermissions r.permissions
  | .isAdmin => request.wantsMark r.isAdmin

theorem getD_again {α : Type} (asked : Option α) (held : α) :
    asked.getD (asked.getD held) = asked.getD held := by
  cases asked <;> rfl

theorem orElse_again {α : Type} (asked held : Option α) :
    (asked <|> (asked <|> held)) = (asked <|> held) := by
  cases asked <;> rfl

theorem wantsPermissions_again (request : UpdateRole) (held : Permissions) :
    request.wantsPermissions (request.wantsPermissions held) = request.wantsPermissions held := by
  unfold wantsPermissions
  cases request.permissions <;> cases request.isAdmin <;> simp [Permissions.set_set]

theorem wantsMark_again (request : UpdateRole) (held : Bool) :
    request.wantsMark (request.wantsMark held) = request.wantsMark held := by
  unfold wantsMark
  cases request.permissions <;> cases request.isAdmin <;> rfl

/-- What holds the wanted values wants them again. -/
theorem wants_again (request : UpdateRole) (met : ∀ f : Field, f.read row = request.wants r f)
    (f : Field) : request.wants row f = request.wants r f := by
  cases f with
  | name => exact (congrArg request.name.getD (met .name)).trans (getD_again _ _)
  | color => exact (congrArg request.color.getD (met .color)).trans (getD_again _ _)
  | hoist => exact (congrArg request.hoist.getD (met .hoist)).trans (getD_again _ _)
  | mentionable =>
    exact (congrArg request.mentionable.getD (met .mentionable)).trans (getD_again _ _)
  | showTag => exact (congrArg request.showTag.getD (met .showTag)).trans (getD_again _ _)
  | tagStyle =>
    exact (congrArg (request.tagStyle <|> ·) (met .tagStyle)).trans (orElse_again _ _)
  | permissions =>
    exact (congrArg request.wantsPermissions (met .permissions)).trans (wantsPermissions_again _ _)
  | isAdmin => exact (congrArg request.wantsMark (met .isAdmin)).trans (wantsMark_again _ _)

end UpdateRole

namespace Judge
open Role (Field)

/-- An update gives every field the value that the request wants. -/
theorem read_updatedRole (r : Role) (request : UpdateRole) (now : Instant) (f : Field) :
    f.read (updatedRole r request now) = request.wants r f := by
  obtain ⟨stamp, same⟩ := updatedRole_eq r request now
  rw [same]
  cases f <;> rfl

/-- The row that a request left is not changed by it again. -/
theorem updatedRole_again (before : Role) (request : UpdateRole) (now later : Instant) :
    let row := leftRole before (updatedRole before request now)
    row.differing (updatedRole row request later) = [] := by
  intro row
  have met : ∀ f : Field, f.read row = request.wants before f := fun f =>
    (leftRole_met f).trans (read_updatedRole before request now f)
  refine Role.differing_eq_nil.mpr fun f => ?_
  rw [read_updatedRole, request.wants_again met, met]

end Judge

namespace GuildRows
variable {g g' g'' : GuildRows} {user : Snowflake}

def place (r : Role) : Snowflake × Int × Bool := (r.id, r.position, r.isEveryone)

/-- Rows of a guild in which the same users hold the same roles at the same places. -/
structure SamePlaces (g g' : GuildRows) : Prop where
  guild : g'.guild = g.guild
  held : ∀ user, g'.heldBy user = g.heldBy user
  places : ∀ id, (g'.roles.get? id).map place = (g.roles.get? id).map place

namespace SamePlaces

theorem refl (g : GuildRows) : g.SamePlaces g := ⟨rfl, fun _ => rfl, fun _ => rfl⟩

theorem symm (same : g.SamePlaces g') : g'.SamePlaces g :=
  ⟨same.guild.symm, fun user => (same.held user).symm, fun id => (same.places id).symm⟩

/-- Who holds a role holds one at that position. -/
theorem hasRole (same : g.SamePlaces g') {id : Snowflake} {r : Role} (holds : g.HasRole user id r) :
    ∃ r', g'.HasRole user id r' ∧ r'.position = r.position := by
  have places := same.places id
  rw [holds.1] at places
  obtain ⟨r', stored, kept⟩ := Option.map_eq_some_iff.mp places
  obtain ⟨named, position, everyone⟩ : r'.id = r.id ∧ r'.position = r.position ∧
      r'.isEveryone = r.isEveryone := by simpa [place] using kept
  refine ⟨r', ⟨stored, ?_⟩, position⟩
  rw [same.held, named, everyone]
  exact holds.2

theorem rankOf_le (same : g.SamePlaces g') (user : Snowflake) : g.rankOf user ≤ g'.rankOf user := by
  rcases g.rankOf_cases user with ⟨none, zero⟩ | ⟨top, r, holds, here, -⟩
  · rw [zero]
    refine le_rankOf.mpr (.inr ⟨fun id r holds => ?_, Int.le_refl 0⟩)
    obtain ⟨r', holds', -⟩ := same.symm.hasRole holds
    exact none id r' holds'
  · obtain ⟨r', holds', position⟩ := same.hasRole holds
    rw [here]
    exact le_rankOf.mpr (.inl ⟨top, r', holds', Int.le_of_eq position.symm⟩)

theorem rankOf_eq (same : g.SamePlaces g') (user : Snowflake) : g'.rankOf user = g.rankOf user :=
  Int.le_antisymm (same.symm.rankOf_le user) (same.rankOf_le user)

end SamePlaces
end GuildRows

namespace Judge
variable {s after : Store} {now : Instant} {guild other actor : Snowflake} {before row : Role}
  {g g' : GuildRows}

/-- An update moves no role and nobody between roles, in no guild. -/
theorem updateRole_places (found : s.role? row.id = some before) (same : row.SameElsewhere before)
    (applied : s.apply now (.updateRole row) = .ok after)
    (rows : s.guilds.get? other = some g) (rows' : after.guilds.get? other = some g') :
    g.SamePlaces g' := by
  have written : Store.Rewrites now s (.updateRole row) after := Store.updateRole_rewrites applied
  obtain ⟨home, g₀, g₁, indexed, rows₀, effect, insert⟩ := written
  rw [insert, KeyMap.get?_insert] at rows'
  split at rows'
  · next here =>
    subst here
    cases rows.symm.trans rows₀
    cases rows'
    cases effect with
    | @updateRole _ stored held =>
      have indexed : s.roleIndex.get? row.id = some other := indexed
      have read : s.role? row.id = some stored := by
        simp [Store.role?, Store.rowsOfRole?, indexed, rows, held]
      cases found.symm.trans read
      refine ⟨rfl, fun _ => rfl, fun id => ?_⟩
      rw [KeyMap.get?_insert]
      split
      · next this =>
        rw [this, held]
        simp [GuildRows.place, same.id, same.position]
      · rfl
  · cases rows.symm.trans rows'
    exact .refl g

/-- So everybody has the rank that they had once it is carried out. -/
theorem updateRuling_places {wanted : Role} {answer : Answer}
    (found : s.role? before.id = some before) (same : wanted.SameElsewhere before)
    (carried : (updateRuling guild actor before wanted).CarriedOut now s after answer)
    (rows : s.guilds.get? other = some g) (rows' : after.guilds.get? other = some g') :
    g.SamePlaces g' := by
  unfold updateRuling at carried
  split at carried
  · cases carried
    cases rows.symm.trans rows'
    exact .refl g
  · cases carried with
    | plan applied since =>
      have known := (since.tables other).symm.trans (Store.tables?_of_rows rows')
      obtain ⟨g₁, rows₁, log⟩ := Option.map_eq_some_iff.mp known
      have places : g.SamePlaces g₁ := updateRole_places (same.id ▸ found) same applied rows rows₁
      have bare : g.SamePlaces g₁.withoutLog := ⟨places.guild, places.held, places.places⟩
      rw [log] at bare
      exact ⟨bare.guild, bare.held, bare.places⟩

/-- Who could make an update may make it to the row that it left, which gains nothing. -/
theorem MayUpdate.again {request : UpdateRole} {wanted wanted' : Role}
    (may : MayUpdate (g.snapshot actor none) before wanted request)
    (same : row.SameElsewhere before) (places : g.SamePlaces g')
    (idle : row.differing wanted' = []) :
    MayUpdate (g'.snapshot actor none) row wanted' request where
  outranks := by
    have rank : (g'.snapshot actor none).highest = (g.snapshot actor none).highest :=
      places.rankOf_eq actor
    have owner : (g'.snapshot actor none).isOwner = (g.snapshot actor none).isOwner :=
      congrArg (·.isOwner actor) places.guild
    rw [rank, owner, same.position]
    exact may.outranks
  keepsName := by
    rw [same.isEveryone]
    exact may.keepsName
  grants f gained := by
    have kept : row.permissions = wanted'.permissions :=
      Role.differing_eq_nil.mp idle .permissions
    simp [← kept] at gained

end Judge

/-- Who holds a flag server-wide is an insider of a guild that is there. -/
theorem Store.rows_of_serverOf {s : Store} {guild user : Snowflake} {f : Flag}
    (has : (s.serverOf guild user).has f = true) :
    ∃ g, s.guilds.get? guild = some g ∧ g.hasInsider user = true ∧
      (g.serverOf user).has f = true := by
  unfold serverOf at has
  cases loaded : Judge.snapshot s guild user none with
  | error cause =>
    rw [loaded] at has
    simp at has
  | ok caller =>
    rw [loaded] at has
    obtain ⟨g, rows, inside, -, rfl⟩ := Judge.passes_snapshot.mp loaded
    exact ⟨g, rows, inside, has⟩

namespace Service
variable {service after : Service} {around : Surroundings} {guild role actor : Snowflake}
  {request : UpdateRole} {answer : Answer}

/-- An update of a role that succeeded and left its actor with MANAGE_ROLES succeeds again with the
same answer, whenever it is repeated, and leaves the store as it is. -/
theorem role_updates_are_idempotent (reach : service.store.Reachable)
    (done : service.handle around (.updateRole guild role actor request) = (after, .ok answer))
    (still : (after.store.serverOf guild actor).has .manageRoles = true) (later : Surroundings) :
    ∃ again, after.handle later (.updateRole guild role actor request) = (again, .ok answer) ∧
      again.store = after.store ∧ again.issued = after.issued := by
  obtain ⟨lock, entered⟩ := enter_of_ok done
  obtain ⟨ruling, ruled, carried⟩ := handle_ok done
  obtain ⟨caller, before, passed, found, home, may, rfl⟩ := Judge.updateRole_ok.mp ruled
  obtain ⟨g, rows, rfl⟩ := Judge.passes_gate_rows passed
  obtain ⟨rfl, -⟩ := reach.keyed.role_stored found
  have same := Judge.updatedRole_elsewhere before request around.now
  have left := Judge.leftRole_elsewhere same
  obtain ⟨stored, told⟩ := Judge.updateRuling_stored found same carried
  obtain ⟨g', rows', inside, may'⟩ := Store.rows_of_serverOf still
  have places := Judge.updateRuling_places found same carried rows rows'
  have idle := Judge.updatedRole_again before request around.now later.now
  have judged : Judge.updateRole after.store later.now guild before.id actor request =
      .ok (.answer answer) := by
    refine Judge.updateRole_ok.mpr ⟨_, _, Judge.manageRoles_of_rows rows' inside may' _, stored,
      left.guildId.trans home, may.again left places idle, ?_⟩
    have shown := (Judge.updatedRole_elsewhere _ request later.now).view_eq fun f =>
      (Role.differing_eq_nil.mp idle f).symm
    rw [Judge.updateRuling, if_pos idle, shown, told]
  exact ⟨after.takeLock lock, handle_answer entered judged, takeLock_store lock,
    takeLock_issued lock⟩

/-- The moderator renames role 11 and takes its permissions away, and then does so again. -/
theorem role_updates_are_idempotent_sample :
    let update : Call := .updateRole (.wrap 1) (.wrap 11) (.wrap 2)
      { name := some "bailiff", permissions := some ∅, isAdmin := some false, showTag := some true }
    let after := (sample.handle .sample update).1
    ∃ answer again, sample.handle .sample update = (after, .ok answer) ∧
      (after.store.serverOf (.wrap 1) (.wrap 2)).has .manageRoles = true ∧
      after.handle .sample update = (again, .ok answer) ∧ again.store = after.store := by
  intro update after
  obtain ⟨answer, done⟩ := answer_of_isOk sample .sample update (by decide +kernel)
  have still : (after.store.serverOf (.wrap 1) (.wrap 2)).has .manageRoles = true := by
    decide +kernel
  obtain ⟨again, repeated, same, -⟩ :=
    role_updates_are_idempotent Store.sample_reachable done still .sample
  exact ⟨answer, again, done, still, repeated, same⟩

end Service
end GuildAccess
