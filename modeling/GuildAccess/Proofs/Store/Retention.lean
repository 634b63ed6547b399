import GuildAccess.Proofs.Store.Queries
import GuildAccess.Proofs.Store.Routing

/-!
How long the log keeps an entry. No change takes entries out of a log, but an entry is written under
the identifier that it brings along, over whatever stood there. So an entry stays until another one
is appended under its identifier.
-/
namespace GuildAccess.Store
variable {s after : Store} {now : Instant} {change : Change} {e : Audit.Entry}

/-- Every query that an entry passes finds it, as it is, if the query asks for more entries than
there are newer ones that pass. -/
def Shows (s : Store) (e : Audit.Entry) : Prop :=
  ∀ q : Audit.Query, q.matchesEntry e = true →
    (s.matching q).countP (fun other => e.id < other.id) < q.limit → e ∈ s.auditList q

/-- An entry is shown exactly if it stands in the log of its guild. -/
theorem shows_iff (keyed : s.Keyed) :
    s.Shows e ↔ (s.logOf e.guildId).get? e.id = some e := by
  constructor
  · intro shown
    let q : Audit.Query := ⟨e.guildId, (s.logOf e.guildId).rows.length + 1, none, none, none, none,
      none, none⟩
    have passes : q.matchesEntry e = true := by simp [q, Audit.Query.matchesEntry]
    have room : (s.matching q).countP (fun other => e.id < other.id) < q.limit := by
      have few : (s.matching q).length ≤ (s.logOf e.guildId).rows.length := by
        have filtered := List.length_filter_le q.matchesEntry (s.logOf e.guildId).rows.reverse
        rwa [List.length_reverse] at filtered
      exact Nat.lt_succ_of_le (Nat.le_trans List.countP_le_length few)
    exact ((mem_auditList keyed).mp (shown q passes room)).1
  · intro stored q passes room
    exact (mem_auditList keyed).mpr ⟨stored, passes, room⟩

/-- An append to a guild that has a log does not fail. -/
theorem apply_appends {guild id : Snowflake} {held : Audit.Entry} (now : Instant)
    (stored : (s.logOf guild).get? id = some held) (here : e.guildId = guild) :
    ∃ after, s.apply now (.appendAudit e) = .ok after := by
  have known : (s.guilds.get? e.guildId).isSome = true := by
    cases found : s.guilds.get? e.guildId with
    | some g => rfl
    | none =>
      rw [logOf, ← here, found] at stored
      cases stored
  obtain ⟨after, done, -⟩ := appendAudit_puts known
  exact ⟨after, done⟩

/-- Another entry under the identifier of one in the log. -/
def Change.replaces (e : Audit.Entry) (change : Change) : Prop :=
  ∃ e', change = .appendAudit e' ∧ e'.guildId = e.guildId ∧ e'.id = e.id ∧ e' ≠ e

/-- A change keeps an entry of the log, or writes another one over it. -/
theorem apply_keeps (stored : (s.logOf e.guildId).get? e.id = some e)
    (done : s.apply now change = .ok after) :
    (after.logOf e.guildId).get? e.id = some e ↔ ¬ change.replaces e := by
  by_cases appends : ∃ e', change = .appendAudit e'
  · obtain ⟨e', rfl⟩ := appends
    have puts := apply_puts done
    by_cases same : (e'.guildId, e'.id) = (e.guildId, e.id)
    · obtain ⟨guild, id⟩ := Prod.mk.inj same
      have written : (after.logOf e.guildId).get? e.id = some e' := by
        rw [← guild, puts.written, KeyMap.get?_insert, if_pos id.symm]
      rw [written, Option.some.injEq]
      constructor
      · rintro rfl ⟨_, ⟨⟩, -, -, different⟩
        exact different rfl
      · intro spared
        exact Classical.byContradiction fun different => spared ⟨e', rfl, guild, id, different⟩
    · refine iff_of_true (puts.kept stored same) ?_
      rintro ⟨_, ⟨⟩, guild, id, -⟩
      exact same (Prod.ext guild id)
  · refine iff_of_true ((apply_silent done fun e' here => appends ⟨e', here⟩).kept stored) ?_
    rintro ⟨e', here, -⟩
    exact appends ⟨e', here⟩

/-- Over any changes an entry stays in the log as long as none of them replaces it. -/
theorem replay_keeps_iff (stored : (s.logOf e.guildId).get? e.id = some e) (changes : Changes) :
    (∀ n, ((s.replay (changes.take n)).logOf e.guildId).get? e.id = some e) ↔
      ∀ step ∈ changes, ¬ step.2.replaces e := by
  induction changes generalizing s with
  | nil => simpa [replay] using stored
  | cons step rest ih =>
    obtain ⟨now, change⟩ := step
    rw [along_cons (P := fun s => (s.logOf e.guildId).get? e.id = some e) stored,
      List.forall_mem_cons]
    cases done : s.apply now change with
    | error cause =>
      rw [commit_of_error done, ih stored]
      refine (and_iff_right ?_).symm
      rintro ⟨e', rfl, guild, -⟩
      obtain ⟨after, appended⟩ := apply_appends now stored guild
      cases done.symm.trans appended
    | ok after =>
      rw [commit_of_ok done]
      constructor
      · intro along
        have kept := along 0
        exact ⟨(apply_keeps stored done).mp kept, (ih kept).mp along⟩
      · rintro ⟨spared, later⟩
        exact (ih ((apply_keeps stored done).mpr spared)).mpr later

/-- An entry that was appended is found by every later query that it passes, with all its fields as
they were, exactly if no other entry is appended to its guild under its identifier. -/
theorem appended_entries_stay_iff (before later : Changes) (now : Instant) (e : Audit.Entry)
    (after : Store) (done : (empty.replay before).apply now (.appendAudit e) = .ok after) :
    (∀ n, (after.replay (later.take n)).Shows e) ↔
      ∀ now' e', (now', Change.appendAudit e') ∈ later → e'.guildId = e.guildId → e'.id = e.id →
        e' = e := by
  have reach : after.Reachable := (Reachable.start.replay before).apply done
  have stored : (after.logOf e.guildId).get? e.id = some e := by
    rw [(apply_puts done).written, KeyMap.get?_insert, if_pos rfl]
  have shown : (∀ n, (after.replay (later.take n)).Shows e) ↔
      ∀ n, ((after.replay (later.take n)).logOf e.guildId).get? e.id = some e :=
    forall_congr' fun n => shows_iff (reach.replay (later.take n)).keyed
  rw [shown, replay_keeps_iff stored]
  constructor
  · intro spared now' e' listed guild id
    exact Classical.byContradiction fun different =>
      spared (now', .appendAudit e') listed ⟨e', rfl, guild, id, different⟩
  · rintro same ⟨now', change⟩ listed ⟨e', rfl, guild, id, different⟩
    exact different (same now' e' listed guild id)

/-- An entry of the log of guild 1: its owner did something. -/
def ownersEntry (id : Snowflake) (action : Audit.Action) : Audit.Entry :=
  .allowed id (.wrap 1) (.wrap 1) ⟨action, none⟩ ⟨0, 0⟩

def foundedGuild : Changes :=
  [(⟨0, 0⟩, .createGuild (.new (.wrap 1) "guild" (.wrap 1) ⟨0, 0⟩)
    (.everyone (.wrap 1) (.wrap 1) ⟨0, 0⟩))]

theorem appended_entries_stay_iff_sample :
    ∃ after, (empty.replay foundedGuild).apply ⟨0, 0⟩
        (.appendAudit (ownersEntry (.wrap 100) .roleCreate)) = .ok after ∧
      ∀ n, (after.replay ([
        (⟨0, 0⟩, Change.appendAudit (ownersEntry (.wrap 101) .roleDelete)),
        (⟨0, 0⟩, Change.deleteRole (.wrap 1))].take n)).Shows
          (ownersEntry (.wrap 100) .roleCreate) := by
  refine ⟨_, rfl, (appended_entries_stay_iff foundedGuild _ ⟨0, 0⟩ _ _ rfl).mpr ?_⟩
  intro now' e' listed guild id
  simp only [List.mem_cons, Prod.mk.injEq, Change.appendAudit.injEq, List.not_mem_nil, reduceCtorEq,
    and_false, or_false] at listed
  obtain ⟨-, rfl⟩ := listed
  exact absurd id (by decide)

/-- A second entry under one identifier takes the place of the first: both appends succeed, and a
query with room for ten that both pass finds the second one only. -/
theorem repeated_identifier_replaces :
    let first := ownersEntry (.wrap 100) .roleCreate
    let second := ownersEntry (.wrap 100) .roleDelete
    let q : Audit.Query := ⟨.wrap 1, 10, none, none, none, none, none, none⟩
    ∃ mid after, (empty.replay foundedGuild).apply ⟨0, 0⟩ (.appendAudit first) = .ok mid ∧
      mid.apply ⟨0, 0⟩ (.appendAudit second) = .ok after ∧ q.matchesEntry first = true ∧
      mid.auditList q = [first] ∧ after.auditList q = [second] ∧
      first ∉ after.auditList q := by
  refine ⟨_, _, rfl, rfl, by decide, rfl, rfl, fun listed => ?_⟩
  have same := congrArg Audit.Entry.action (List.mem_singleton.mp listed)
  cases same

end GuildAccess.Store
