import GuildAccess.Service.Roles

/-!
What an edit leaves of a role and what it adds. Names, colors and tags count for nothing; the
administrator mark and the permissions decide what holders are granted.
-/
namespace GuildAccess

/-- Whether a role gives its holders a flag. An administrator role gives all of them. -/
def Role.grants (r : Role) (f : Flag) : Bool := r.grantsAdministrator || r.permissions.has f

def Role.standing (r : Role) : Snowflake × Int × Permissions × Bool :=
  (r.id, r.position, r.permissions, r.isAdmin)

theorem Role.standing_eq_iff {r r' : Role} :
    r'.standing = r.standing ↔ r'.id = r.id ∧ r'.position = r.position ∧
      r'.permissions = r.permissions ∧ r'.isAdmin = r.isAdmin := by
  simp [standing]

/-- The mark follows the bit, so a role whose permissions were set grants what they say. -/
theorem Role.grants_setPermissions (r : Role) (p : Permissions) (now : Instant) (f : Flag) :
    (r.setPermissions p now).grants f = (p.has .administrator || p.has f) := by
  simp [grants, grantsAdministrator, setPermissions]

/-- Who is granted ADMINISTRATOR is granted everything. -/
theorem Role.grants_of_administrator {r : Role} (admin : r.grants .administrator = true)
    {f : Flag} : r.grants f = true := by
  simp only [grants, grantsAdministrator, Bool.or_eq_true] at admin ⊢
  rcases admin with (mark | bit) | bit
  · exact .inl (.inl mark)
  · exact .inl (.inr bit)
  · exact .inl (.inr bit)

/-- The role that a request asks for: each field that it names as it says, the others as they are. A
mark that is named sets or clears the bit, and permissions named without a mark decide it. -/
def UpdateRole.askedOf (request : UpdateRole) (r : Role) (stamp : Instant) : Role :=
  let permissions := request.permissions.getD r.permissions
  { r with
    name := request.name.getD r.name
    color := request.color.getD r.color
    hoist := request.hoist.getD r.hoist
    mentionable := request.mentionable.getD r.mentionable
    showTag := request.showTag.getD r.showTag
    tagStyle := request.tagStyle <|> r.tagStyle
    permissions := (request.isAdmin.map (permissions.set .administrator)).getD permissions
    isAdmin := request.isAdmin.getD
      ((request.permissions.map (·.has .administrator)).getD r.isAdmin)
    updatedAt := stamp }

/-- What a request asks for has the mark that its bit says, or leaves both as they are. -/
theorem UpdateRole.askedOf_mark (request : UpdateRole) (r : Role) (stamp : Instant) :
    ((request.askedOf r stamp).permissions = r.permissions ∧
        (request.askedOf r stamp).isAdmin = r.isAdmin) ∨
      (request.askedOf r stamp).isAdmin =
        (request.askedOf r stamp).permissions.has .administrator := by
  unfold askedOf
  cases request.isAdmin with
  | some on =>
    right
    cases on <;> simp [Permissions.set]
  | none =>
    cases request.permissions with
    | some p => exact .inr rfl
    | none => exact .inl ⟨rfl, rfl⟩

namespace Judge

/-- A new role grants only what its permissions hold. -/
theorem newRole_grants {guild id : Snowflake} {request : CreateRole} {now : Instant} {f : Flag}
    (granted : (newRole guild id request now).grants f = true) :
    (requestedPermissions request).has .administrator = true ∨
      (requestedPermissions request).has f = true := by
  simpa [Role.grants, Role.grantsAdministrator, newRole, Role.new] using granted

/-- A setter that may be left out sets the new value or the one that is there. -/
theorem setOpt_eq {α : Type} (read : Role → α) (set : Role → α → Instant → Role)
    (unset : ∀ r, set r (read r) r.updatedAt = r) (r : Role) (value : Option α) (now : Instant) :
    setOpt r value (fun r a => set r a now) =
      set r (value.getD (read r)) (if value.isSome then now else r.updatedAt) := by
  cases value with
  | none => exact (unset r).symm
  | some a => rfl

theorem setTag_eq (r : Role) (showTag : Option Bool) (style : Option String) (now : Instant) :
    (if showTag.isSome || style.isSome then
      r.setTag (showTag.getD r.showTag) (style <|> r.tagStyle) now else r) =
      r.setTag (showTag.getD r.showTag) (style <|> r.tagStyle)
        (if showTag.isSome || style.isSome then now else r.updatedAt) := by
  cases showTag <;> cases style <;> rfl

/-- An update sets every field to what the request asks for, and the time if there is anything to
set. -/
theorem updatedRole_eq (r : Role) (request : UpdateRole) (now : Instant) :
    ∃ stamp, updatedRole r request now = request.askedOf r stamp := by
  unfold updatedRole UpdateRole.askedOf
  simp only [setOpt_eq Role.name Role.setName fun _ => rfl,
    setOpt_eq Role.color Role.setColor fun _ => rfl,
    setOpt_eq Role.hoist Role.setHoist fun _ => rfl,
    setOpt_eq Role.mentionable Role.setMentionable fun _ => rfl, setTag_eq]
  -- The mark and the bit are set one after the other and take each other along.
  cases request.permissions <;> cases request.isAdmin <;> exact ⟨_, rfl⟩

/-- An update neither renames a role's identifier nor moves the role. -/
theorem updatedRole_kept (r : Role) (request : UpdateRole) (now : Instant) :
    (updatedRole r request now).id = r.id ∧ (updatedRole r request now).position = r.position := by
  obtain ⟨stamp, same⟩ := updatedRole_eq r request now
  rw [same]
  exact ⟨rfl, rfl⟩

/-- An update does not touch what the store would not let it. -/
theorem updatedRole_fixed (r : Role) (request : UpdateRole) (now : Instant) :
    { updatedRole r request now with
      guildId := r.guildId, isEveryone := r.isEveryone, createdAt := r.createdAt } =
      updatedRole r request now := by
  obtain ⟨stamp, same⟩ := updatedRole_eq r request now
  rw [same]
  rfl

/-- An edit that is recorded nowhere asks for what is there. -/
theorem askedOf_of_unchanged {r : Role} {request : UpdateRole} {now : Instant}
    (unchanged : roleChanges r (updatedRole r request now) = []) :
    request.askedOf r r.updatedAt = r := by
  obtain ⟨stamp, same⟩ := updatedRole_eq r request now
  rw [same] at unchanged
  simp only [roleChanges, List.append_eq_nil_iff, ite_eq_left_iff, imp_false, Decidable.not_not,
    List.cons_ne_nil] at unchanged
  obtain ⟨⟨⟨⟨⟨⟨⟨name, color⟩, hoist⟩, mentionable⟩, showTag⟩, tagStyle⟩, permissions⟩, mark⟩ :=
    unchanged
  calc request.askedOf r r.updatedAt
      = { request.askedOf r stamp with updatedAt := r.updatedAt } := rfl
    _ = { request.askedOf r stamp with
          name := r.name, color := r.color, hoist := r.hoist, mentionable := r.mentionable
          showTag := r.showTag, tagStyle := r.tagStyle, permissions := r.permissions
          isAdmin := r.isAdmin, updatedAt := r.updatedAt } := by
        rw [name, color, hoist, mentionable, showTag, tagStyle, permissions, mark]
    _ = r := rfl

/-- After an update the mark is the bit, unless both are as they were. -/
theorem updatedRole_mark (r : Role) (request : UpdateRole) (now : Instant) :
    ((updatedRole r request now).permissions = r.permissions ∧
        (updatedRole r request now).isAdmin = r.isAdmin) ∨
      (updatedRole r request now).isAdmin =
        (updatedRole r request now).permissions.has .administrator := by
  obtain ⟨stamp, same⟩ := updatedRole_eq r request now
  rw [same]
  exact request.askedOf_mark r stamp

/-- A flag of the new permissions was granted before or is gained. -/
theorem grants_or_gains (before : Role) {after : Role} {f : Flag}
    (has : after.permissions.has f = true) :
    before.grants f = true ∨ (after.permissions \ before.permissions).has f = true := by
  cases old : before.permissions.has f with
  | true => exact .inl (by simp [Role.grants, old])
  | false => exact .inr (by simp [has, old])

/-- What an updated role grants it granted before, or its permissions gain the flag or
ADMINISTRATOR. -/
theorem updatedRole_grants {r : Role} {request : UpdateRole} {now : Instant} {f : Flag}
    (granted : (updatedRole r request now).grants f = true) :
    r.grants f = true ∨
      ((updatedRole r request now).permissions \ r.permissions).has f = true ∨
      ((updatedRole r request now).permissions \ r.permissions).has .administrator = true := by
  rcases updatedRole_mark r request now with ⟨permissions, mark⟩ | mark
  · left
    rwa [Role.grants, Role.grantsAdministrator, permissions, mark] at granted
  · rw [Role.grants, Role.grantsAdministrator, mark, Bool.or_self, Bool.or_eq_true] at granted
    rcases granted with admin | flag
    · rcases grants_or_gains r admin with old | new
      · exact .inl (Role.grants_of_administrator old)
      · exact .inr (.inr new)
    · exact (grants_or_gains r flag).imp_right .inl

/-- A toggled role grants what it granted before, or the flag was set and is the one or
ADMINISTRATOR. -/
theorem toggledRole_grants {r : Role} {flag f : Flag} {on : Bool} {now : Instant}
    (granted : (r.setPermissions (r.permissions.set flag on) now).grants f = true) :
    r.grants f = true ∨ on = true ∧ (flag = f ∨ flag = .administrator) := by
  have kept : ∀ g, (r.permissions.set flag on).has g = true →
      r.permissions.has g = true ∨ on = true ∧ flag = g := by
    intro g has
    rw [Permissions.has_set] at has
    split at has
    · next here => exact .inr ⟨has, here⟩
    · exact .inl has
  rw [Role.grants_setPermissions, Bool.or_eq_true] at granted
  rcases granted with admin | has
  · rcases kept .administrator admin with old | ⟨set, here⟩
    · exact .inl (Role.grants_of_administrator (by simp [Role.grants, old]))
    · exact .inr ⟨set, .inr here⟩
  · rcases kept f has with old | ⟨set, here⟩
    · exact .inl (by simp [Role.grants, old])
    · exact .inr ⟨set, .inl here⟩

end Judge
end GuildAccess
