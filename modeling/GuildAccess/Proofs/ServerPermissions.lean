import GuildAccess.Proofs.Standing

/-!
Server-wide permissions in closed form. Roles are united one after the other, and the first that
makes an administrator ends the walk with every flag; where it stands in the list, and what was
united before it, makes no difference. So the answer is a matter of which roles count, and more of
anything never takes a flag away.
-/
namespace GuildAccess

/-- Uniting sets gives the flags that some of them have. -/
theorem Permissions.unionAll_has (ps : List Permissions) (f : Flag) :
    (unionAll ps).has f = ps.any fun p => p.has f := by
  have from_start : ∀ start : Permissions,
      (ps.foldl (· ∪ ·) start).has f = (start.has f || ps.any fun p => p.has f) := by
    induction ps with
    | nil => simp
    | cons p rest ih =>
      intro start
      rw [List.foldl_cons, ih, has_union, List.any_cons, Bool.or_assoc]
  rw [unionAll, from_start, has_empty, Bool.false_or]

/-- A role counts for everyone or for whoever holds its identifier. -/
def Role.CountsFor (r : Role) (held : List Snowflake) : Prop := r.isEveryone = true ∨ r.id ∈ held

instance (r : Role) (held : List Snowflake) : Decidable (r.CountsFor held) :=
  inferInstanceAs (Decidable (_ ∨ _))

/-- A role is marked as one of administrators or has the flag. -/
def Role.MakesAdministrator (r : Role) : Prop :=
  r.isAdmin = true ∨ r.permissions.has .administrator = true

instance (r : Role) : Decidable r.MakesAdministrator := inferInstanceAs (Decidable (_ ∨ _))

/-- Another role counts wherever this one does and gives no less. -/
structure Role.Extends (wider r : Role) : Prop where
  id : wider.id = r.id
  everyone : r.isEveryone = true → wider.isEveryone = true
  mark : r.isAdmin = true → wider.isAdmin = true
  flags : ∀ f, r.permissions.has f = true → wider.permissions.has f = true

namespace Role
variable {r wider : Role} {held held' : List Snowflake} {f : Flag}

theorem contributes_eq (r : Role) (held : List Snowflake) :
    r.contributes held = decide (r.CountsFor held) := by
  rw [Bool.eq_iff_iff, decide_eq_true_iff]
  simp [contributes, CountsFor]

theorem grants_iff : r.grants f = true ↔ r.MakesAdministrator ∨ r.permissions.has f = true := by
  simp [grants, grantsAdministrator, MakesAdministrator]

theorem Extends.refl (r : Role) : r.Extends r := ⟨rfl, fun h => h, fun h => h, fun _ h => h⟩

theorem Extends.counts (extension : wider.Extends r) (more : ∀ id, id ∈ held → id ∈ held')
    (counts : r.CountsFor held) : wider.CountsFor held' := by
  rcases counts with everyone | holds
  · exact .inl (extension.everyone everyone)
  · exact .inr (extension.id ▸ more r.id holds)

theorem Extends.grants (extension : wider.Extends r) (granted : r.grants f = true) :
    wider.grants f = true := by
  rw [grants_iff] at granted ⊢
  rcases granted with (mark | bit) | flag
  · exact .inl (.inl (extension.mark mark))
  · exact .inl (.inr (extension.flags .administrator bit))
  · exact .inr (extension.flags f flag)

end Role

namespace Resolver
variable {roles roles' : List Role} {held held' : List Snowflake} {isOwner isOwner' : Bool}
  {f : Flag}

/-- Nothing is refused to a user server-wide: they own the guild, or a role that counts for them
makes administrators. -/
def Unrestricted (roles : List Role) (held : List Snowflake) (isOwner : Bool) : Prop :=
  isOwner = true ∨ ∃ r ∈ roles, r.CountsFor held ∧ r.MakesAdministrator

/-- A flag is held by the owner, or through a role that counts and grants it. -/
theorem server_has_iff : (server roles held isOwner).has f = true ↔
    isOwner = true ∨ ∃ r ∈ roles, r.CountsFor held ∧ r.grants f = true := by
  rw [server_has, Bool.or_eq_true, List.any_eq_true]
  simp only [Role.contributes_eq, Bool.and_eq_true, decide_eq_true_iff]

theorem server_of_unrestricted (free : Unrestricted roles held isOwner) :
    server roles held isOwner = .all := by
  refine Permissions.ext_has fun f => ?_
  rw [Permissions.has_all, server_has_iff]
  rcases free with owner | ⟨r, listed, counts, admin⟩
  · exact .inl owner
  · exact .inr ⟨r, listed, counts, Role.grants_iff.mpr (.inl admin)⟩

/-- Without an administrator among them the roles grant what their sets say. -/
theorem server_has_of_restricted (bound : ¬ Unrestricted roles held isOwner) :
    (server roles held isOwner).has f = true ↔
      ∃ r ∈ roles, r.CountsFor held ∧ r.permissions.has f = true := by
  rw [server_has_iff]
  constructor
  · rintro (owner | ⟨r, listed, counts, granted⟩)
    · exact absurd (.inl owner) bound
    · rcases Role.grants_iff.mp granted with admin | flag
      · exact absurd (.inr ⟨r, listed, counts, admin⟩) bound
      · exact ⟨r, listed, counts, flag⟩
  · rintro ⟨r, listed, counts, flag⟩
    exact .inr ⟨r, listed, counts, Role.grants_iff.mpr (.inr flag)⟩

theorem server_of_restricted (bound : ¬ Unrestricted roles held isOwner) :
    server roles held isOwner =
      .unionAll ((roles.filter fun r => r.CountsFor held).map (·.permissions)) := by
  refine Permissions.ext_has fun f => ?_
  rw [Bool.eq_iff_iff, server_has_of_restricted bound, Permissions.unionAll_has]
  simp

/-- More held identifiers, roles or flags never take a flag away. -/
theorem server_mono (owned : isOwner = true → isOwner' = true)
    (more : ∀ id, id ∈ held → id ∈ held')
    (wider : ∀ r ∈ roles, ∃ r' ∈ roles', r'.Extends r)
    (has : (server roles held isOwner).has f = true) :
    (server roles' held' isOwner').has f = true := by
  rw [server_has_iff] at has ⊢
  rcases has with owner | ⟨r, listed, counts, granted⟩
  · exact .inl (owned owner)
  · obtain ⟨r', listed', extension⟩ := wider r listed
    exact .inr ⟨r', listed', extension.counts more counts, extension.grants granted⟩

/-- Only which roles are listed and which of their identifiers are held matters. -/
theorem server_congr (same : ∀ r, r ∈ roles' ↔ r ∈ roles)
    (alike : ∀ r ∈ roles, r.id ∈ held' ↔ r.id ∈ held) :
    server roles' held' isOwner = server roles held isOwner := by
  refine Permissions.ext_has fun f => ?_
  rw [Bool.eq_iff_iff, server_has_iff, server_has_iff]
  refine or_congr_right (exists_congr fun r => ?_)
  rw [same r]
  exact and_congr_right fun listed => and_congr_left fun _ => or_congr_right (alike r listed)

/-- Server-wide permissions are every flag for the owner and for whom a role that counts makes an
administrator, and the union of the roles that count for everyone else. So neither the order of the
roles nor identifiers without a role matter, and more identifiers, roles or flags take nothing
away. -/
theorem server_unites_counting_roles (roles : List Role) (held : List Snowflake) (isOwner : Bool) :
    (Unrestricted roles held isOwner → server roles held isOwner = .all) ∧
    (¬ Unrestricted roles held isOwner → server roles held isOwner =
      .unionAll ((roles.filter fun r => r.CountsFor held).map (·.permissions)) ∧
      ∀ f, (server roles held isOwner).has f = true ↔
        ∃ r ∈ roles, r.CountsFor held ∧ r.permissions.has f = true) ∧
    (∀ roles', roles'.Perm roles → server roles' held isOwner = server roles held isOwner) ∧
    (∀ held', (∀ r ∈ roles, r.id ∈ held' ↔ r.id ∈ held) →
      server roles held' isOwner = server roles held isOwner) ∧
    ∀ roles' held' isOwner', (∀ r ∈ roles, ∃ r' ∈ roles', r'.Extends r) →
      (∀ id, id ∈ held → id ∈ held') → (isOwner = true → isOwner' = true) →
      ∀ f, (server roles held isOwner).has f = true →
        (server roles' held' isOwner').has f = true :=
  ⟨server_of_unrestricted,
    fun bound => ⟨server_of_restricted bound, fun _ => server_has_of_restricted bound⟩,
    fun _ shuffled => server_congr (fun _ => shuffled.mem_iff) (fun _ _ => .rfl),
    fun _ alike => server_congr (fun _ => .rfl) alike,
    fun _ _ _ wider more owned _ has => server_mono owned more wider has⟩

/-- The everyone role of guild 1 and its roles 10, which may manage roles, and 11, which is marked
as one of administrators and has no flag. -/
def sampleRoles : List Role :=
  let id := Snowflake.wrap
  let now : Instant := ⟨0, 0⟩
  [.everyone (id 1) (id 1) now, .new (id 10) (id 1) "mod" (.only .manageRoles) now,
    { Role.new (id 11) (id 1) "keeper" ∅ now with isAdmin := true }]

/-- Role 10 adds its flag to those of everyone, in either order and beside an identifier without a
role; role 11 gives every flag, and what role 10 gave stays. -/
theorem server_unites_counting_roles_sample :
    let plain := server sampleRoles [.wrap 404, .wrap 10] false
    let marked := server sampleRoles [.wrap 10, .wrap 11] false
    plain = .unionAll [.standard, .only .manageRoles] ∧
      server sampleRoles.reverse [.wrap 404, .wrap 10] false = plain ∧
      server sampleRoles [.wrap 10] false = plain ∧ marked = .all ∧
      ∀ f, (server sampleRoles [.wrap 10] false).has f = true → marked.has f = true := by
  intro plain marked
  obtain ⟨-, union, shuffled, alike, -⟩ :=
    server_unites_counting_roles sampleRoles [.wrap 404, .wrap 10] false
  obtain ⟨all, -⟩ := server_unites_counting_roles sampleRoles [.wrap 10, .wrap 11] false
  obtain ⟨-, -, -, -, grows⟩ := server_unites_counting_roles sampleRoles [.wrap 10] false
  have bound : ¬ Unrestricted sampleRoles [.wrap 404, .wrap 10] false := by
    unfold Unrestricted
    decide
  have free : Unrestricted sampleRoles [.wrap 10, .wrap 11] false := by
    unfold Unrestricted
    decide
  refine ⟨(union bound).1, shuffled _ (List.reverse_perm _), alike _ (by decide), all free, ?_⟩
  exact grows sampleRoles [.wrap 10, .wrap 11] false (fun r listed => ⟨r, listed, .refl r⟩)
    (by decide) id

end Resolver
end GuildAccess
