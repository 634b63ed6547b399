import GuildAccess.Proofs.Store.Routing

/-!
Stores that agree on one guild. What is read and written for the sake of a guild goes through its
rows and through the identifiers that lead to it, so a change that is about the guild does the same
in all stores that agree on it, and nothing to what others agree on.
-/
namespace GuildAccess

/-- Chains are the same if they go on alike behind a step that passes. -/
theorem bind_congr_ok {ε α β : Type} {step : Except ε α} {next next' : α → Except ε β}
    (same : ∀ a, step = .ok a → next a = next' a) : (step >>= next) = step >>= next' := by
  cases step with
  | error cause => rfl
  | ok a => exact same a rfl

namespace Store

/-- Agreement of two stores on one guild: its rows, and which identifiers lead to it. -/
structure AgreeOn (s s' : Store) (guild : Snowflake) : Prop where
  rows : s'.guilds.get? guild = s.guilds.get? guild
  leads : ∀ kind id, (s'.index kind).get? id = some guild ↔ (s.index kind).get? id = some guild

/-- The rows of all guilds but one stay as they are, and if `unused` holds, all identifiers go on
leading to those guilds as before. -/
structure Spares (unused : Prop) (s after : Store) (guild : Snowflake) : Prop where
  rows : ∀ other, other ≠ guild → after.guilds.get? other = s.guilds.get? other
  leads : unused → ∀ other, other ≠ guild → ∀ kind id,
    (after.index kind).get? id = some other ↔ (s.index kind).get? id = some other

variable {s s' after : Store} {now : Instant} {change : Change} {guild id : Snowflake}
  {g : GuildRows} {kind : Indexed}

/-- Where the identifiers of a guild lead to it, agreement on the guild is in its rows alone. -/
theorem agreeOn_of_rows (reach : s.Reachable) (reach' : s'.Reachable)
    (rows : s'.guilds.get? guild = s.guilds.get? guild)
    (leads : ∀ kind id, s.has kind guild id = true → (s.index kind).get? id = some guild)
    (leads' : ∀ kind id, s'.has kind guild id = true → (s'.index kind).get? id = some guild) :
    s.AgreeOn s' guild := by
  refine ⟨rows, fun kind id => ?_⟩
  have same : s'.has kind guild id = s.has kind guild id := by rw [has, rows, has]
  constructor
  · intro indexed
    exact leads kind id (same ▸ reach'.leads kind id guild indexed)
  · intro indexed
    exact leads' kind id (same.symm ▸ reach.leads kind id guild indexed)

namespace AgreeOn
variable (agree : s.AgreeOn s' guild)
include agree

theorem rowsOfChannel? (indexed : s.channelIndex.get? id = some guild) :
    s'.rowsOfChannel? id = s.rowsOfChannel? id := by
  have indexed' : s'.channelIndex.get? id = some guild := (agree.leads .channel id).mpr indexed
  simp only [Store.rowsOfChannel?, indexed, indexed', Option.bind_some, agree.rows]

theorem channel? (indexed : s.channelIndex.get? id = some guild) :
    s'.channel? id = s.channel? id := by
  unfold Store.channel?
  rw [agree.rowsOfChannel? indexed]

theorem override? (indexed : s.channelIndex.get? id = some guild) (target : OverrideTarget) :
    s'.override? id target = s.override? id target := by
  unfold Store.override?
  rw [agree.rowsOfChannel? indexed]

theorem locateChannel (indexed : s.channelIndex.get? id = some guild) :
    s'.locateChannel id = s.locateChannel id := by
  have indexed' : s'.channelIndex.get? id = some guild := (agree.leads .channel id).mpr indexed
  unfold Store.locateChannel
  rw [indexed, indexed']
  show (need (s'.guilds.get? guild) _ >>= _) = (need (s.guilds.get? guild) _ >>= _)
  rw [agree.rows]

theorem locateRole (indexed : s.roleIndex.get? id = some guild) :
    s'.locateRole id = s.locateRole id := by
  have indexed' : s'.roleIndex.get? id = some guild := (agree.leads .role id).mpr indexed
  unfold Store.locateRole
  rw [indexed, indexed']
  show (need (s'.guilds.get? guild) _ >>= _) = (need (s.guilds.get? guild) _ >>= _)
  rw [agree.rows]

/-- A role that names the guild is found in both stores or in neither: if its identifier leads
elsewhere, then to a role that names another guild. -/
theorem role? (keyed : s.Keyed) (keyed' : s'.Keyed) (home : s.RolesAtHome) (home' : s'.RolesAtHome)
    {r : Role} (here : r.guildId = guild) : s'.role? id = some r ↔ s.role? id = some r := by
  have read : ∀ {s : Store}, s.roleIndex.get? id = some guild →
      s.role? id = (s.guilds.get? guild).bind fun g => g.roles.get? id := by
    intro s indexed
    simp [Store.role?, rowsOfRole?, indexed]
  constructor
  · intro found
    have indexed' := (keyed'.role_home home' found).2.1
    rw [here] at indexed'
    rwa [read ((agree.leads .role id).mp indexed'), ← agree.rows, ← read indexed']
  · intro found
    have indexed := (keyed.role_home home found).2.1
    rw [here] at indexed
    rwa [read ((agree.leads .role id).mpr indexed), agree.rows, ← read indexed]

/-- Leading an identifier to the guild in both indexes of a kind keeps agreement. -/
theorem entered (kind : Indexed) {key : Snowflake} (id : Snowflake) :
    ((s'.index kind).insert key guild).get? id = some guild ↔
      ((s.index kind).insert key guild).get? id = some guild := by
  rw [KeyMap.get?_insert, KeyMap.get?_insert]
  split
  · rfl
  · exact agree.leads kind id

/-- Striking an identifier out of both indexes of a kind keeps agreement. -/
theorem struck (kind : Indexed) {key : Snowflake} (id : Snowflake) :
    ((s'.index kind).erase key).get? id = some guild ↔
      ((s.index kind).erase key).get? id = some guild := by
  rw [KeyMap.get?_erase, KeyMap.get?_erase]
  split
  · rfl
  · exact agree.leads kind id

end AgreeOn

/-- A change creates rows in the guild that it is about only. -/
theorem Change.creates_home {home : Snowflake} (creates : change.creates? kind = some (id, home)) :
    change.home? s = some home := by
  cases change with
  | createGuild | createRole | createChannel => cases kind <;> cases creates; rfl
  | _ => cases creates

/-- A change deletes rows in the guild that it is about only. -/
theorem Change.deletes_home (deletes : change.deletes? kind = some id) :
    (s.index kind).get? id = change.home? s := by
  cases change with
  | deleteRole | deleteChannel => cases kind <;> cases deletes; rfl
  | _ => cases deletes

/-- What is left of a chain of checks if only a part of its value counts. -/
theorem map_bind {α β γ : Type} {f : β → γ} (step : Except Fault α) (next : α → Except Fault β) :
    (step >>= next).map f = step >>= fun a => (next a).map f := by
  cases step <;> rfl

@[simp] theorem map_ite {α β : Type} {f : α → β} {c : Prop} [Decidable c]
    {yes no : Except Fault α} :
    (if c then yes else no).map f = if c then yes.map f else no.map f := by
  split <;> rfl

@[simp] theorem map_ok {α β : Type} (f : α → β) (value : α) :
    (Except.ok value : Except Fault α).map f = .ok (f value) := rfl

@[simp] theorem map_error {α β : Type} (f : α → β) (cause : Fault) :
    (Except.error cause : Except Fault α).map f = .error cause := rfl

@[simp] theorem rows_setRows (s : Store) (guild : Snowflake) (g : GuildRows) :
    (s.setRows guild g).guilds.get? guild = some g := by
  simp [setRows, KeyMap.get?_insert]

namespace AgreeOn
variable (agree : s.AgreeOn s' guild)
include agree

/-- A change about the guild succeeds in both stores or fails for one cause in both, and makes the
same of its rows. -/
theorem apply_rows (about : change.home? s = some guild) :
    (s'.apply now change).map (fun after => after.guilds.get? guild) =
      (s.apply now change).map fun after => after.guilds.get? guild := by
  have contains : s'.guilds.contains guild = s.guilds.contains guild := by
    unfold KeyMap.contains
    rw [agree.rows]
  have channelIndexed {id : Snowflake} (indexed : s.channelIndex.get? id = some guild) :
      s'.channelIndex.get? id = some guild := (agree.leads .channel id).mpr indexed
  cases change with
  | createGuild =>
    cases about
    simp [apply, createGuild, map_bind, contains]
  | updateGuild | createMember | appendAudit =>
    cases about
    simp [apply, updateGuild, createMember, appendAudit, map_bind, agree.rows]
  | createChannel | createRole =>
    cases about
    simp [apply, createChannel, createRole, map_bind, agree.rows]
  | deleteMember | assignRole =>
    cases about
    simp [apply, deleteMember, assignRole, map_bind, agree.rows]
  | setPositions guild positions =>
    cases about
    simp only [apply, setPositions, map_bind, agree.rows]
    refine bind_congr fun g => ?_
    split <;> simp
  | unassignRole guild user role =>
    cases about
    simp only [apply, unassignRole, agree.rows, map_ok]
    split
    · split <;> simp [agree.rows]
    · rw [agree.rows]
  | updateChannel | deleteChannel | setLockdown =>
    simp only [apply, updateChannel, deleteChannel, setLockdown, map_bind,
      agree.locateChannel about]
    refine bind_congr_ok ?_
    rintro ⟨home, g, row⟩ located
    cases (passes_locateChannel.mp located).1.symm.trans about
    simp
  | updateRole | deleteRole =>
    simp only [apply, updateRole, deleteRole, map_bind, agree.locateRole about]
    refine bind_congr_ok ?_
    rintro ⟨home, g, row⟩ located
    cases (passes_locateRole.mp located).1.symm.trans about
    simp
  | putOverride row =>
    have about : s.channelIndex.get? row.channelId = some guild := about
    simp only [apply, putOverride, about, channelIndexed about, map_bind]
    refine bind_congr_ok fun home located => ?_
    cases located
    simp [agree.rows]
  | deleteOverride channel target =>
    have about : s.channelIndex.get? channel = some guild := about
    simp only [apply, deleteOverride, about, channelIndexed about, map_ok, agree.rows]
    split
    · simp
    · rw [agree.rows]

/-- A change about the guild fails for one cause in both stores, or leaves them in agreement. -/
theorem apply (now : Instant) (about : change.home? s = some guild) :
    (∃ cause, s.apply now change = .error cause ∧ s'.apply now change = .error cause) ∨
      ∃ after after', s.apply now change = .ok after ∧ s'.apply now change = .ok after' ∧
        after.AgreeOn after' guild := by
  have same : (s'.apply now change).map _ = (s.apply now change).map _ := agree.apply_rows about
  rcases done : s.apply now change with cause | after <;>
    rcases done' : s'.apply now change with cause' | after' <;> rw [done, done'] at same
  · cases same
    exact .inl ⟨cause, rfl, rfl⟩
  · cases same
  · cases same
  · refine .inr ⟨after, after', rfl, rfl, Except.ok.inj same, fun kind id => ?_⟩
    -- The indexes are changed alike, and only for the guild.
    rw [apply_index done kind, apply_index done' kind]
    unfold Change.reindexed
    cases creates : change.creates? kind with
    | some entry =>
      obtain ⟨key, home⟩ := entry
      cases about.symm.trans (Change.creates_home creates)
      exact agree.entered kind id
    | none =>
      cases change.deletes? kind with
      | some key => exact agree.struck kind id
      | none => exact agree.leads kind id

end AgreeOn

namespace Spares
variable {unused : Prop} {a b c : Store}

theorem refl (s : Store) (guild : Snowflake) : s.Spares unused s guild :=
  ⟨fun _ _ => rfl, fun _ _ _ _ _ => Iff.rfl⟩

theorem trans (first : Spares unused a b guild) (second : Spares unused b c guild) :
    Spares unused a c guild where
  rows other elsewhere := (second.rows other elsewhere).trans (first.rows other elsewhere)
  leads holds other elsewhere kind id :=
    (second.leads holds other elsewhere kind id).trans (first.leads holds other elsewhere kind id)

end Spares

/-- A change about a guild spares all others, also where their identifiers lead if it creates no row
under an identifier in use. -/
theorem apply_spares {unused : Prop} (about : change.home? s = some guild)
    (done : s.apply now change = .ok after)
    (new : unused → ∀ kind id home, change.creates? kind = some (id, home) →
      (s.index kind).get? id = none) : s.Spares unused after guild where
  rows other elsewhere := apply_frame about done elsewhere
  leads holds other elsewhere kind id := by
    rw [apply_index done kind]
    unfold Change.reindexed
    cases creates : change.creates? kind with
    | some entry =>
      obtain ⟨key, home⟩ := entry
      cases about.symm.trans (Change.creates_home creates)
      rw [KeyMap.get?_insert]
      split
      · next here =>
        rw [here, new holds kind key guild creates]
        simp [Ne.symm elsewhere]
      · rfl
    | none =>
      cases deletes : change.deletes? kind with
      | none => rfl
      | some key =>
        have located := (Change.deletes_home (s := s) deletes).trans about
        rw [KeyMap.get?_erase]
        split
        · next here =>
          rw [here, located]
          simp [Ne.symm elsewhere]
        · rfl

end Store
end GuildAccess
