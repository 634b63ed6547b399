import GuildAccess.Proofs.Store.Reachable

/-!
Where identifiers lead. An index never leads astray, but a guild refuses an identifier for what its
own rows hold only: a row created under an identifier that another guild uses takes the entry over.
As long as that does not happen, an index leads to each row, and changes by identifier reach it.
-/
namespace GuildAccess

def GuildRows.has (g : GuildRows) (id : Snowflake) : Indexed → Bool
  | .role => g.roles.contains id
  | .channel => g.channels.contains id

namespace Store
variable {s after : Store} {now : Instant} {change : Change} {kind : Indexed}
  {guild id : Snowflake} {g g' : GuildRows}

/-- Whether a guild of the store has a row of an identifier. -/
def has (s : Store) (kind : Indexed) (guild id : Snowflake) : Bool :=
  (s.guilds.get? guild).any fun g => g.has id kind

/-- Whether a change creates a row under an identifier that another guild uses. -/
def Change.shares (s : Store) (kind : Indexed) (change : Change) : Bool :=
  (change.creates? kind).any fun (id, guild) =>
    s.guilds.entries.any fun e => e.1 ≠ guild && e.2.has id kind

/-- An index that leads to guilds with the row only. -/
def Leads (s : Store) (kind : Indexed) : Prop :=
  ∀ id guild, (s.index kind).get? id = some guild → s.has kind guild id = true

/-- An index that leads to exactly the guilds with the row. -/
def Routes (s : Store) (kind : Indexed) : Prop :=
  ∀ id guild, (s.index kind).get? id = some guild ↔ s.has kind guild id = true

theorem has_iff : s.has kind guild id = true ↔
    ∃ g, s.guilds.get? guild = some g ∧ g.has id kind = true := by
  simp [has, Option.any_eq_true]

theorem shares_iff (creates : change.creates? kind = some (id, guild)) :
    change.shares s kind = true ↔ ∃ other, other ≠ guild ∧ s.has kind other id = true := by
  simp only [Change.shares, creates, Option.any_some, List.any_eq_true, Bool.and_eq_true,
    decide_eq_true_eq, has_iff]
  constructor
  · rintro ⟨⟨other, g⟩, listed, different, holds⟩
    exact ⟨other, different, g, KeyMap.get?_of_mem listed, holds⟩
  · rintro ⟨other, different, g, found, holds⟩
    exact ⟨(other, g), KeyMap.mem_of_get? found, different, holds⟩

theorem has_of_insert (rows : after.guilds = s.guilds.insert guild g') (other q : Snowflake) :
    after.has kind other q = if other = guild then g'.has q kind else s.has kind other q := by
  unfold has
  rw [rows, KeyMap.get?_insert]
  split <;> rfl

/-- A change that neither creates nor deletes rows of a kind leaves each where it is. -/
theorem Change.Effect.has_kept (effect : change.Effect now g g')
    (creates : change.creates? kind = none) (deletes : change.deletes? kind = none)
    (q : Snowflake) : g'.has q kind = g.has q kind := by
  have rewritten {ν : Type} {m : KeyMap Snowflake ν} {k : Snowflake} {v w : ν}
      (found : m.get? k = some v) : (m.insert k w).contains q = m.contains q := by
    have present : m.contains k = true := by simp [KeyMap.contains, found]
    by_cases here : q = k <;> simp [KeyMap.contains_insert, here, present]
  cases kind with
  | role =>
    cases effect with
    | createRole => cases creates
    | deleteRole => cases deletes
    | updateRole found => exact rewritten found
    | setPositions => simp [GuildRows.has, KeyMap.contains, get?_moveRoles]
    | _ => rfl
  | channel =>
    cases effect with
    | createChannel => cases creates
    | deleteChannel => cases deletes
    | updateChannel found => exact rewritten found
    | setLockdown found => exact rewritten found
    | setPositions =>
      rw [moveRoles_frame]
      rfl
    | _ => rfl

theorem has_created (done : s.apply now change = .ok after)
    (creates : change.creates? kind = some (id, guild)) (q q' : Snowflake) :
    after.has kind q q' = true ↔ s.has kind q q' = true ∨ (q = guild ∧ q' = id) := by
  cases change with
  | createGuild founded everyone =>
    obtain ⟨_, _, same, absent, rows⟩ := createGuild_founds done
    cases same
    cases kind <;> cases creates
    rw [has_of_insert rows]
    by_cases here : q = founded.id
    · simp [here, GuildRows.has, KeyMap.contains_insert, has, absent]
    · simp [here]
  | createRole role =>
    have written : Rewrites now s (.createRole role) after := createRole_rewrites done
    obtain ⟨_, g, _, about, found, effect, rows⟩ := written
    cases about
    cases effect
    cases kind <;> cases creates
    rw [has_of_insert rows]
    by_cases here : q = role.guildId
    · simp [here, GuildRows.has, KeyMap.contains_insert, has, found, or_comm]
    · simp [here]
  | createChannel channel =>
    have written : Rewrites now s (.createChannel channel) after := createChannel_rewrites done
    obtain ⟨_, g, _, about, found, effect, rows⟩ := written
    cases about
    cases effect
    cases kind <;> cases creates
    rw [has_of_insert rows]
    by_cases here : q = channel.guildId
    · simp [here, GuildRows.has, KeyMap.contains_insert, has, found, or_comm]
    · simp [here]
  | _ => cases creates

theorem has_deleted (done : s.apply now change = .ok after)
    (deletes : change.deletes? kind = some id) :
    ∃ guild, (s.index kind).get? id = some guild ∧ ∀ q q',
      after.has kind q q' = true ↔ s.has kind q q' = true ∧ ¬ (q = guild ∧ q' = id) := by
  cases change with
  | deleteRole =>
    obtain ⟨guild, g, _, located, found, effect, rows⟩ := deleteRole_rewrites done
    cases effect
    cases kind <;> cases deletes
    refine ⟨guild, located, fun q q' => ?_⟩
    rw [has_of_insert rows]
    by_cases here : q = guild
    · simp [here, GuildRows.has, KeyMap.contains_erase, has, found, and_comm]
    · simp [here]
  | deleteChannel channel =>
    have written : Rewrites now s (.deleteChannel channel) after := deleteChannel_rewrites done
    obtain ⟨guild, g, _, located, found, effect, rows⟩ := written
    cases effect
    cases kind <;> cases deletes
    refine ⟨guild, located, fun q q' => ?_⟩
    rw [has_of_insert rows]
    by_cases here : q = guild
    · simp [here, GuildRows.has, KeyMap.contains_erase, has, found, and_comm]
    · simp [here]
  | _ => cases deletes

theorem has_untouched (done : s.apply now change = .ok after)
    (creates : change.creates? kind = none) (deletes : change.deletes? kind = none)
    (q q' : Snowflake) : after.has kind q q' = s.has kind q q' := by
  rcases apply_cases done with rfl | ⟨founded, everyone, rfl, absent, rows⟩ |
    ⟨guild, g, g', -, found, effect, rows⟩
  · rfl
  · cases kind <;> cases creates
    rw [has_of_insert rows]
    split
    · next here =>
      rw [here, has, absent]
      rfl
    · rfl
  · rw [has_of_insert rows]
    split
    · next here =>
      rw [effect.has_kept creates deletes, here, has, found]
      rfl
    · rfl

/-- How a change that is carried out moves an index along with the rows. -/
inductive Reroutes (s : Store) (kind : Indexed) (change : Change) (after : Store) : Prop
  | created {id guild : Snowflake} (creates : change.creates? kind = some (id, guild))
    (index : after.index kind = (s.index kind).insert id guild)
    (rows : ∀ q q', after.has kind q q' = true ↔
      s.has kind q q' = true ∨ (q = guild ∧ q' = id))
  | deleted {id guild : Snowflake} (creates : change.creates? kind = none)
    (deletes : change.deletes? kind = some id)
    (located : (s.index kind).get? id = some guild)
    (index : after.index kind = (s.index kind).erase id)
    (rows : ∀ q q', after.has kind q q' = true ↔
      s.has kind q q' = true ∧ ¬ (q = guild ∧ q' = id))
  | kept (creates : change.creates? kind = none) (deletes : change.deletes? kind = none)
    (index : after.index kind = s.index kind)
    (rows : ∀ q q', after.has kind q q' = s.has kind q q')

/-- The rows and the index move together. -/
theorem apply_reroutes (done : s.apply now change = .ok after) (kind : Indexed) :
    Reroutes s kind change after := by
  have index := apply_index done kind
  unfold Change.reindexed at index
  cases creates : change.creates? kind with
  | some entry =>
    obtain ⟨id, guild⟩ := entry
    rw [creates] at index
    exact .created creates index (has_created done creates)
  | none =>
    rw [creates] at index
    cases deletes : change.deletes? kind with
    | some id =>
      rw [deletes] at index
      obtain ⟨guild, located, rows⟩ := has_deleted done deletes
      exact .deleted creates deletes located index rows
    | none =>
      rw [deletes] at index
      exact .kept creates deletes index (has_untouched done creates deletes)

/-- No change makes an index lead astray. -/
theorem Reroutes.leads (moved : Reroutes s kind change after) (leads : s.Leads kind) :
    after.Leads kind := by
  intro q guild entered
  cases moved with
  | @created id home creates index rows =>
    rw [index, KeyMap.get?_insert] at entered
    rw [rows]
    split at entered
    · next here => exact .inr ⟨(Option.some.inj entered).symm, here⟩
    · exact .inl (leads q guild entered)
  | @deleted id home creates deletes located index rows =>
    rw [index, KeyMap.get?_erase] at entered
    rw [rows]
    split at entered
    · cases entered
    · next different => exact ⟨leads q guild entered, fun same => different same.2⟩
  | kept creates deletes index rows =>
    rw [index] at entered
    rw [rows]
    exact leads q guild entered

/-- An index that leads to every row goes on doing so exactly if no identifier is shared. -/
theorem Reroutes.routes (moved : Reroutes s kind change after) (routes : s.Routes kind) :
    after.Routes kind ↔ change.shares s kind = false := by
  have leads : after.Leads kind := moved.leads fun q guild => (routes q guild).mp
  have unshared_of_none (none : change.creates? kind = none) : change.shares s kind = false := by
    rw [Change.shares, none]
    rfl
  cases moved with
  | @created id home creates index rows =>
    have only : (after.index kind).get? id = some home := by
      rw [index, KeyMap.get?_insert, if_pos rfl]
    rw [← Bool.not_eq_true, shares_iff creates]
    constructor
    · rintro exact' ⟨other, different, holds⟩
      have entered := (exact' id other).mpr ((rows other id).mpr (.inl holds))
      exact different (Option.some.inj (entered.symm.trans only))
    · intro unshared q guild
      refine ⟨leads q guild, fun holds => ?_⟩
      rcases (rows guild q).mp holds with before | ⟨rfl, rfl⟩
      · rw [index, KeyMap.get?_insert]
        split
        · next here =>
          subst here
          by_cases same : guild = home
          · rw [same]
          · exact absurd ⟨guild, same, before⟩ unshared
        · exact (routes q guild).mpr before
      · exact only
  | @deleted id home creates deletes located index rows =>
    refine iff_of_true (fun q guild => ⟨leads q guild, fun holds => ?_⟩) (unshared_of_none creates)
    obtain ⟨before, spared⟩ := (rows guild q).mp holds
    have entered := (routes q guild).mpr before
    rw [index, KeyMap.get?_erase]
    split
    · next here =>
      subst here
      exact absurd ⟨Option.some.inj (entered.symm.trans located), rfl⟩ spared
    · exact entered
  | kept creates deletes index rows =>
    refine iff_of_true (fun q guild => ?_) (unshared_of_none creates)
    rw [index, rows]
    exact routes q guild

/-- Changes in turn, each at its own time. -/
abbrev Changes := List (Instant × Change)

/-- The store after changes in turn, each carried out or not. -/
def replay (s : Store) (changes : Changes) : Store :=
  changes.foldl (fun s step => (s.commit step.1 step.2).1) s

/-- Whether every change that is carried out passes a test on the store before it. -/
def throughout (test : Store → Change → Bool) (s : Store) : Changes → Bool
  | [] => true
  | (now, change) :: rest =>
    match s.apply now change with
    | .ok after => test s change && throughout test after rest
    | .error _ => throughout test s rest

theorem commit_of_ok (done : s.apply now change = .ok after) : (s.commit now change).1 = after := by
  rw [commit, done]

theorem commit_of_error {cause : Fault} (failed : s.apply now change = .error cause) :
    (s.commit now change).1 = s := by
  rw [commit, failed]

/-- What follows a change that is carried out starts from the store after it. -/
theorem replay_after {before later : Changes}
    (done : (s.replay before).apply now change = .ok after) :
    s.replay (before ++ (now, change) :: later) = after.replay later := by
  unfold replay
  rw [List.foldl_append, List.foldl_cons]
  exact congrArg (List.foldl _ · later) (commit_of_ok done)

/-- What holds at the start holds all along if it does after the first change. -/
theorem along_cons {P : Store → Prop} {rest : Changes} (start : P s) :
    (∀ n, P (s.replay (((now, change) :: rest).take n))) ↔
      ∀ n, P (((s.commit now change).1).replay (rest.take n)) := by
  constructor
  · exact fun along n => along (n + 1)
  · intro along n
    cases n with
    | zero => exact start
    | succ n => exact along n

theorem Reachable.replay (reach : s.Reachable) (changes : Changes) :
    (s.replay changes).Reachable := by
  induction changes generalizing s with
  | nil => exact reach
  | cons step rest ih => exact ih (reach.step step.1 step.2)

/-- In every store that changes can build, no index leads astray. -/
theorem Reachable.leads (reach : s.Reachable) (kind : Indexed) : s.Leads kind := by
  induction reach with
  | start =>
    intro id guild entered
    cases kind <;> cases entered
  | @step s _ now change leads =>
    cases done : s.apply now change with
    | ok after =>
      rw [commit_of_ok done]
      exact (apply_reroutes done kind).leads leads
    | error cause =>
      rw [commit_of_error done]
      exact leads

/-- Along a run the index leads to every row exactly if no row is created under an identifier that
another guild uses. -/
theorem routes_along_iff (routes : s.Routes kind) (changes : Changes) :
    (∀ n, (s.replay (changes.take n)).Routes kind) ↔
      s.throughout (fun s change => !change.shares s kind) changes = true := by
  induction changes generalizing s with
  | nil => simpa [replay, throughout] using routes
  | cons step rest ih =>
    obtain ⟨now, change⟩ := step
    rw [along_cons (P := fun s => s.Routes kind) routes]
    unfold throughout
    cases done : s.apply now change with
    | error cause =>
      rw [commit_of_error done]
      exact ih routes
    | ok after =>
      rw [commit_of_ok done]
      have step := (apply_reroutes done kind).routes routes
      simp only [Bool.and_eq_true, Bool.not_eq_true']
      constructor
      · intro along
        have routes' : after.Routes kind := along 0
        exact ⟨step.mp routes', (ih routes').mp along⟩
      · rintro ⟨unshared, later⟩
        exact (ih (step.mpr unshared)).mpr later

/-- A row stays until a change deletes its identifier. -/
theorem has_along (holds : s.has kind guild id = true) {changes : Changes}
    (spared : s.throughout (fun _ change => change.deletes? kind ≠ some id) changes = true) :
    (s.replay changes).has kind guild id = true := by
  induction changes generalizing s with
  | nil => exact holds
  | cons step rest ih =>
    obtain ⟨now, change⟩ := step
    show (((s.commit now change).1).replay rest).has kind guild id = true
    unfold throughout at spared
    cases done : s.apply now change with
    | error cause =>
      rw [done] at spared
      rw [commit_of_error done]
      exact ih holds spared
    | ok after =>
      rw [done] at spared
      rw [commit_of_ok done]
      simp only [Bool.and_eq_true, decide_eq_true_eq] at spared
      obtain ⟨other, later⟩ := spared
      refine ih ?_ later
      cases apply_reroutes done kind with
      | created creates index rows => exact (rows guild id).mpr (.inl holds)
      | deleted creates deletes located index rows =>
        refine (rows guild id).mpr ⟨holds, ?_⟩
        rintro ⟨-, rfl⟩
        exact other deletes
      | kept creates deletes index rows => exact (rows guild id).trans holds

/-- A role that its identifier leads to: it is found as its guild stores it, and an update or a
deletion by identifier is carried out on it; only an everyone role is not deleted. -/
structure ServesRole (s : Store) (guild id : Snowflake) (r : Role) : Prop where
  stored : ∃ g, s.guilds.get? guild = some g ∧ g.roles.get? id = some r
  found : s.role? id = some r
  updates : ∀ now (row : Role), row.id = id → ∃ after, s.apply now (.updateRole row) = .ok after ∧
    after.role? id = some { row with
      guildId := r.guildId, isEveryone := r.isEveryone, createdAt := r.createdAt }
  deletes : ∀ now, r.isEveryone = false → ∃ after, s.apply now (.deleteRole id) = .ok after ∧
    after.has .role guild id = false

/-- A channel that its identifier leads to: it is found as its guild stores it, and an update or a
deletion by identifier is carried out on it. -/
structure ServesChannel (s : Store) (guild id : Snowflake) (c : Channel) : Prop where
  stored : ∃ g, s.guilds.get? guild = some g ∧ g.channels.get? id = some c
  found : s.channel? id = some c
  updates : ∀ now (row : Channel), row.id = id →
    ∃ after, s.apply now (.updateChannel row) = .ok after ∧
      after.channel? id = some { c with
        name := row.name
        topic := row.topic
        position := row.position
        parentId := row.parentId
        updatedAt := row.updatedAt }
  deletes : ∀ now, ∃ after, s.apply now (.deleteChannel id) = .ok after ∧
    after.has .channel guild id = false

/-- A row that its identifier leads to. -/
def Serves (s : Store) (guild id : Snowflake) : Indexed → Prop
  | .role => ∃ r, s.ServesRole guild id r
  | .channel => ∃ c, s.ServesChannel guild id c

theorem servesRole_of_index {r : Role} (indexed : s.roleIndex.get? id = some guild)
    (rows : s.guilds.get? guild = some g) (stored : g.roles.get? id = some r) :
    s.ServesRole guild id r := by
  have located : s.locateRole id = .ok (guild, g, r) :=
    passes_locateRole.mpr ⟨indexed, rows, stored⟩
  refine ⟨⟨g, rows, stored⟩, by simp [role?, rowsOfRole?, indexed, rows, stored], ?_, ?_⟩
  · rintro now row rfl
    refine ⟨_, by simp only [apply, updateRole, located]; rfl, ?_⟩
    simp [role?, rowsOfRole?, setRows, indexed, KeyMap.get?_insert]
  · intro now plain
    refine ⟨_, by simp only [apply, deleteRole, located]; exact if_neg (by simp [plain]), ?_⟩
    simp [has, setRows, KeyMap.get?_insert, GuildRows.has, KeyMap.contains_erase]

theorem servesChannel_of_index {c : Channel} (indexed : s.channelIndex.get? id = some guild)
    (rows : s.guilds.get? guild = some g) (stored : g.channels.get? id = some c) :
    s.ServesChannel guild id c := by
  have located : s.locateChannel id = .ok (guild, g, c) :=
    passes_locateChannel.mpr ⟨indexed, rows, stored⟩
  refine ⟨⟨g, rows, stored⟩, by simp [channel?, rowsOfChannel?, indexed, rows, stored], ?_, ?_⟩
  · rintro now row rfl
    refine ⟨_, by simp only [apply, updateChannel, located]; rfl, ?_⟩
    simp [channel?, rowsOfChannel?, setRows, indexed, KeyMap.get?_insert]
  · intro now
    refine ⟨_, by simp only [apply, deleteChannel, located]; rfl, ?_⟩
    simp [has, setRows, KeyMap.get?_insert, GuildRows.has, KeyMap.contains_erase]

/-- Where the index leads to every row, every row is served. -/
theorem Routes.serves (routes : s.Routes kind) (holds : s.has kind guild id = true) :
    s.Serves guild id kind := by
  have indexed := (routes id guild).mpr holds
  obtain ⟨g, rows, held⟩ := has_iff.mp holds
  cases kind with
  | role =>
    obtain ⟨r, stored⟩ := Option.isSome_iff_exists.mp held
    exact ⟨r, servesRole_of_index indexed rows stored⟩
  | channel =>
    obtain ⟨c, stored⟩ := Option.isSome_iff_exists.mp held
    exact ⟨c, servesChannel_of_index indexed rows stored⟩

theorem empty_routes (kind : Indexed) : Store.empty.Routes kind := by
  intro id guild
  cases kind <;> exact ⟨nofun, nofun⟩

/-- Whatever changes are tried on the empty store, no index leads astray. It leads to every row all
along exactly if no row is created under an identifier that another guild uses, and then a row that
was created and not deleted is found, updated and deleted by its identifier. -/
theorem identifiers_lead_to_their_rows (kind : Indexed) (changes : Changes) :
    (empty.replay changes).Leads kind ∧
    ((∀ n, (empty.replay (changes.take n)).Routes kind) ↔
      empty.throughout (fun s change => !change.shares s kind) changes = true) ∧
    (empty.throughout (fun s change => !change.shares s kind) changes = true →
      ∀ before now change later after id guild, changes = before ++ (now, change) :: later →
        (empty.replay before).apply now change = .ok after →
        change.creates? kind = some (id, guild) →
        after.throughout (fun _ change => change.deletes? kind ≠ some id) later = true →
        (empty.replay changes).Serves guild id kind) := by
  have along := routes_along_iff (empty_routes kind) changes
  refine ⟨(Reachable.start.replay changes).leads kind, along, fun unshared => ?_⟩
  rintro before now change later after id guild rfl done creates spared
  have routes : (empty.replay (before ++ (now, change) :: later)).Routes kind := by
    have last := along.mpr unshared (before ++ (now, change) :: later).length
    rwa [List.take_length] at last
  have created : after.has kind guild id = true :=
    (has_created done creates guild id).mpr (.inr ⟨rfl, rfl⟩)
  refine routes.serves ?_
  rw [replay_after done]
  exact has_along created spared

/-- Role 10 in guild 1, and a role that guild 2 creates and deletes after it. -/
def passingRole (id : Snowflake) : Changes :=
  let now : Instant := ⟨0, 0⟩
  let first := Snowflake.wrap 1
  let second := Snowflake.wrap 2
  [(now, .createGuild (.new first "first" first now) (.everyone first first now)),
    (now, .createGuild (.new second "second" second now) (.everyone second second now)),
    (now, .createRole (.new (.wrap 10) first "mod" (.only .manageRoles) now)),
    (now, .createRole (.new id second "guest" (.only .banMembers) now)),
    (now, .deleteRole id)]

theorem identifiers_lead_to_their_rows_sample :
    (empty.replay (passingRole (.wrap 11))).Serves (.wrap 1) (.wrap 10) .role := by
  obtain ⟨-, -, served⟩ := identifiers_lead_to_their_rows .role (passingRole (.wrap 11))
  exact served (by decide) ((passingRole (.wrap 11)).take 2) _ _ _ _ _ _ rfl rfl rfl (by decide)

/-- A role of another guild that is created under the same identifier and deleted again takes the
entry with it: role 10 is still in guild 1, and its identifier leads nowhere. -/
theorem shared_identifier_misleads :
    let s := empty.replay (passingRole (.wrap 10))
    s.has .role (.wrap 1) (.wrap 10) = true ∧ s.roleIndex.get? (.wrap 10) = none ∧
      ¬ s.Routes .role ∧ s.role? (.wrap 10) = none ∧
      s.apply ⟨0, 0⟩ (.deleteRole (.wrap 10)) = .error (.unknownRole (.wrap 10)) := by
  have holds : (empty.replay (passingRole (.wrap 10))).has .role (.wrap 1) (.wrap 10) = true := by
    decide
  have lost : (empty.replay (passingRole (.wrap 10))).roleIndex.get? (.wrap 10) = none := by
    decide
  refine ⟨holds, lost, fun routes => ?_, by decide, rfl⟩
  cases lost.symm.trans ((routes (.wrap 10) (.wrap 1)).mpr holds)

end Store
end GuildAccess
