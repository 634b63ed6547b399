import GuildAccess.Proofs.Store.Reachable

/-!
The everyone role of a guild. A second one is refused and no update makes a role one, so a guild has
at most one, whatever the order in which its roles are looked through.
-/
namespace GuildAccess

/-- Where one item at most passes a test, it is found wherever it stands. -/
theorem find?_of_unique {α : Type} {test : α → Bool} {x : α} {xs : List α} (member : x ∈ xs)
    (passes : test x = true) (only : ∀ y ∈ xs, test y = true → y = x) :
    xs.find? test = some x := by
  cases found : xs.find? test with
  | none => exact absurd passes (List.find?_eq_none.mp found x member)
  | some y => rw [only y (List.mem_of_find?_eq_some found) (List.find?_some found)]

namespace GuildRows
variable {g g' : GuildRows} {user id : Snowflake} {r : Role}

/-- Whether an identifier is that of an everyone role. -/
def IsEveryone (g : GuildRows) (id : Snowflake) : Prop :=
  ∃ r, g.roles.get? id = some r ∧ r.isEveryone = true

/-- A guild has at most one everyone role. -/
def OneEveryone (g : GuildRows) : Prop :=
  ∀ id id', g.IsEveryone id → g.IsEveryone id' → id = id'

/-- The everyone role is found, whatever stands before it. -/
theorem OneEveryone.find? (one : g.OneEveryone) {roles : List Role}
    (stored : g.roles.get? id = some r) (everyone : r.isEveryone = true) (listed : r ∈ roles)
    (known : ∀ r ∈ roles, ∃ id, g.roles.get? id = some r) :
    roles.find? (·.isEveryone) = some r := by
  refine find?_of_unique listed everyone fun r' listed' everyone' => ?_
  obtain ⟨id', stored'⟩ := known r' listed'
  have same := one id id' ⟨r, stored, everyone⟩ ⟨r', stored', everyone'⟩
  subst same
  exact Option.some.inj (stored'.symm.trans stored)

theorem everyone?_eq_some (one : g.OneEveryone) :
    (∃ id, g.roles.get? id = some r) ∧ r.isEveryone = true ↔ g.everyone? = some r := by
  constructor
  · rintro ⟨⟨id, stored⟩, everyone⟩
    exact one.find? stored everyone (KeyMap.mem_rows.mpr ⟨id, stored⟩) fun _ => KeyMap.mem_rows.mp
  · intro found
    exact ⟨KeyMap.mem_rows.mp (List.mem_of_find?_eq_some found),
      by simpa using List.find?_some found⟩

end GuildRows

namespace Store
variable {s after : Store} {now : Instant} {change : Change} {g g' : GuildRows} {id : Snowflake}

/-- Every guild has at most one everyone role. -/
def OneEveryone (s : Store) : Prop := ∀ guild g, s.guilds.get? guild = some g → g.OneEveryone

theorem addRole_oneEveryone {role : Role} (one : g.OneEveryone) (added : addRole g role = .ok g') :
    g'.OneEveryone := by
  unfold addRole at added
  split at added
  · cases added
  · next single =>
    split at added
    · cases added
    · cases added
      -- Either the new role is no everyone role, or there was none before.
      have before : ∀ q, q ≠ role.id →
          GuildRows.IsEveryone { g with roles := g.roles.insert role.id role } q →
          g.IsEveryone q := by
        rintro q other ⟨r, stored, everyone⟩
        rw [KeyMap.get?_insert, if_neg other] at stored
        exact ⟨r, stored, everyone⟩
      have first : ∀ q, q ≠ role.id →
          GuildRows.IsEveryone { g with roles := g.roles.insert role.id role } q →
          ¬ GuildRows.IsEveryone { g with roles := g.roles.insert role.id role } role.id := by
        rintro q other everyone ⟨r, stored, new⟩
        rw [KeyMap.get?_insert, if_pos rfl] at stored
        cases stored
        obtain ⟨r, stored, everyone⟩ := before q other everyone
        refine single ?_
        rw [new, Bool.true_and, List.any_eq_true]
        exact ⟨r, KeyMap.mem_rows.mpr ⟨q, stored⟩, everyone⟩
      intro q q' everyone everyone'
      by_cases here : q = role.id
      · by_cases here' : q' = role.id
        · exact here.trans here'.symm
        · exact absurd (here ▸ everyone) (first q' here' everyone')
      · by_cases here' : q' = role.id
        · exact absurd (here' ▸ everyone') (first q here everyone)
        · exact one q q' (before q here everyone) (before q' here' everyone')

/-- Apart from a role that is created, everyone roles were everyone roles before. -/
theorem Change.Effect.everyone_before (effect : change.Effect now g g')
    (kept : ∀ role, change ≠ .createRole role) (everyone : g'.IsEveryone id) : g.IsEveryone id := by
  obtain ⟨r, stored, marked⟩ := everyone
  cases effect with
  | createRole absent => exact absurd rfl (kept _)
  | updateRole found =>
    rw [KeyMap.get?_insert] at stored
    split at stored
    · next here =>
      subst here
      cases stored
      exact ⟨_, found, marked⟩
    · exact ⟨r, stored, marked⟩
  | deleteRole found plain =>
    rw [KeyMap.get?_erase] at stored
    split at stored
    · cases stored
    · exact ⟨r, stored, marked⟩
  | setPositions =>
    rw [get?_moveRoles] at stored
    obtain ⟨old, found, rfl⟩ := Option.map_eq_some_iff.mp stored
    obtain ⟨position, time, moved⟩ := movedTo_eq now _ id old
    rw [moved] at marked
    exact ⟨old, found, marked⟩
  | _ => exact ⟨r, stored, marked⟩

theorem apply_oneEveryone (one : s.OneEveryone) (done : s.apply now change = .ok after) :
    after.OneEveryone := by
  cases change with
  | createGuild guild everyone =>
    simp only [apply, createGuild, passes_bind] at done
    obtain ⟨g, added, done⟩ := done
    have none : (GuildRows.new guild).OneEveryone := by
      rintro _ _ ⟨_, stored, -⟩
      cases stored
    split at done
    · cases done
    · cases done
      exact KeyMap.insert_all one (addRole_oneEveryone none added)
  | createRole role =>
    simp only [apply, createRole, passes_bind, passes_need] at done
    obtain ⟨g, found, g', added, done⟩ := done
    cases done
    exact KeyMap.insert_all one (addRole_oneEveryone (one _ g found) added)
  | _ =>
    rcases apply_cases done with rfl | ⟨_, _, founded, -⟩ | ⟨guild, g, g', -, found, effect, rows⟩
    · exact one
    · cases founded
    · have kept : g'.OneEveryone := fun q q' everyone everyone' =>
        one guild g found q q' (effect.everyone_before (by simp) everyone)
          (effect.everyone_before (by simp) everyone')
      unfold OneEveryone
      rw [rows]
      exact KeyMap.insert_all one kept

/-- In every store that changes can build, a guild has at most one everyone role. -/
theorem Reachable.oneEveryone (reach : s.Reachable) : s.OneEveryone := by
  induction reach with
  | start =>
    intro guild g found
    cases found
  | @step s _ now change one =>
    unfold Store.commit
    cases done : s.apply now change with
    | ok after => exact apply_oneEveryone one done
    | error cause => exact one

end Store
end GuildAccess
