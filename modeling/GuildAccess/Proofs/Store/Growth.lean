import GuildAccess.Proofs.Store.Retention

/-!
Logs that grow at their new end only. Below any entry that was there from the start such a log holds
what it always held, so a query that goes on from that entry finds the rest of what an earlier query
would have found.
-/
namespace GuildAccess

namespace Audit
variable {q : Query} {e : Entry}

/-- The same filters, for the entries older than one of them. -/
def Query.olderThan (q : Query) (cut : Snowflake) : Query := { q with beforeId := some cut }

/-- The bound on identifiers is one filter beside the others. -/
theorem Query.matchesEntry_iff : q.matchesEntry e = true ↔
    Query.matchesEntry { q with beforeId := none } e = true ∧
      ∀ bound, q.beforeId = some bound → e.id < bound := by
  simp [matchesEntry, Option.all_eq_true]

/-- Going on from an entry that passes, what passes is older than that entry. -/
theorem Query.matches_olderThan {last : Entry} (passed : q.matchesEntry last = true) :
    (q.olderThan last.id).matchesEntry e = true ↔ q.matchesEntry e = true ∧ e.id < last.id := by
  have within := (matchesEntry_iff.mp passed).2
  rw [matchesEntry_iff, matchesEntry_iff (q := q)]
  constructor
  · rintro ⟨others, bounded⟩
    have older := bounded last.id rfl
    exact ⟨⟨others, fun bound limited => Snowflake.lt_trans older (within bound limited)⟩, older⟩
  · rintro ⟨⟨others, -⟩, older⟩
    refine ⟨others, ?_⟩
    rintro _ ⟨⟩
    exact older

/-- In a list by descending identifier, what is older than the end of its first part is the other
part. -/
theorem NewestFirst.filter_older {entries : List Entry} (sorted : NewestFirst entries) {size : Nat}
    {last : Entry} (ends : (entries.take size).getLast? = some last) :
    entries.filter (fun e => e.id < last.id) = entries.drop size :=
  filter_behind (fun a b : Entry => b.id < a.id) Snowflake.lt_asymm sorted ends

end Audit

namespace Store
variable {s mid later : Store} {now : Instant} {guild : Snowflake} {e : Audit.Entry}

/-- The log of a guild keeps its entries and gets none that is not newer than all of them. -/
structure GrowsAbove (s later : Store) (guild : Snowflake) : Prop where
  kept : ∀ id e, (s.logOf guild).get? id = some e → (later.logOf guild).get? id = some e
  newer : ∀ id e, (later.logOf guild).get? id = some e → (s.logOf guild).get? id = some e ∨
    ∀ old held, (s.logOf guild).get? old = some held → old < id

theorem GrowsAbove.of_same (same : later.logOf guild = s.logOf guild) :
    s.GrowsAbove later guild where
  kept _ _ stored := by rwa [same]
  newer _ _ stored := .inl (by rwa [← same])

theorem GrowsAbove.trans (first : s.GrowsAbove mid guild) (second : mid.GrowsAbove later guild) :
    s.GrowsAbove later guild where
  kept id e stored := second.kept id e (first.kept id e stored)
  newer id e stored := by
    rcases second.newer id e stored with there | above
    · exact first.newer id e there
    · exact .inr fun old held stored => above old held (first.kept old held stored)

/-- An append makes a log grow this way if the new entry is newer than all in the log. -/
theorem appended_grows (done : s.apply now (.appendAudit e) = .ok later)
    (newest : e.guildId = guild → ∀ old held, (s.logOf guild).get? old = some held → old < e.id) :
    s.GrowsAbove later guild := by
  have puts := apply_puts done
  by_cases here : e.guildId = guild
  · subst here
    have newest := newest rfl
    refine ⟨fun id held stored => puts.kept stored ?_, fun id held stored => ?_⟩
    · intro same
      rw [← (Prod.mk.inj same).2] at stored
      exact e.id.lt_irrefl (newest e.id held stored)
    · rw [puts.written, KeyMap.get?_insert] at stored
      split at stored
      · next new => exact .inr (new ▸ newest)
      · exact .inl stored
  · exact .of_same (puts.others guild (Ne.symm here))

theorem commit_grows (now : Instant) (change : Change)
    (newest : ∀ e, change = .appendAudit e → e.guildId = guild →
      ∀ old held, (s.logOf guild).get? old = some held → old < e.id) :
    s.GrowsAbove (s.commit now change).1 guild := by
  cases done : s.apply now change with
  | error cause =>
    rw [commit_of_error done]
    exact .of_same rfl
  | ok later =>
    rw [commit_of_ok done]
    by_cases appends : ∃ e, change = .appendAudit e
    · obtain ⟨e, rfl⟩ := appends
      exact appended_grows done (newest e rfl)
    · exact .of_same (apply_silent done (fun e same => appends ⟨e, same⟩) guild)

/-- Over any changes a log grows this way if every entry that is appended to it is newer than all
that it has by then. -/
theorem replay_grows (changes : Changes) (newest : ∀ n now e,
    changes[n]? = some (now, .appendAudit e) → e.guildId = guild →
    ∀ old held, ((s.replay (changes.take n)).logOf guild).get? old = some held → old < e.id) :
    s.GrowsAbove (s.replay changes) guild := by
  induction changes generalizing s with
  | nil => exact .of_same rfl
  | cons step rest ih =>
    obtain ⟨now, change⟩ := step
    have first := commit_grows now change fun e same => newest 0 now e (same ▸ rfl)
    exact first.trans (ih fun n now' e listed => newest (n + 1) now' e listed)

/-- Below an entry that was there from the start nothing changes. -/
theorem GrowsAbove.below (grows : s.GrowsAbove later guild) {id old : Snowflake}
    {held : Audit.Entry} (stored : (s.logOf guild).get? old = some held) (older : id < old) :
    (later.logOf guild).get? id = (s.logOf guild).get? id := by
  cases found : (later.logOf guild).get? id with
  | some e =>
    rcases grows.newer id e found with there | above
    · exact there.symm
    · exact absurd (above old held stored) (Snowflake.lt_asymm older)
  | none =>
    cases before : (s.logOf guild).get? id with
    | none => rfl
    | some e => cases found.symm.trans (grows.kept id e before)

/-- Where two logs agree below an entry, going on from that entry in one of them finds what is left
in the other. -/
theorem matching_olderThan {q : Audit.Query} {last : Audit.Entry} {size : Nat} (keyed : s.Keyed)
    (keyed' : later.Keyed) (same : ∀ id, id < last.id →
      (later.logOf q.guildId).get? id = (s.logOf q.guildId).get? id)
    (ends : ((s.matching q).take size).getLast? = some last) :
    later.matching (q.olderThan last.id) = (s.matching q).drop size := by
  have sorted := matching_newestFirst keyed (q := q)
  have listed : last ∈ s.matching q := List.mem_of_mem_take (List.mem_of_getLast? ends)
  have passed := ((mem_matching keyed).mp listed).2
  rw [← sorted.filter_older ends]
  refine (matching_newestFirst keyed').ext (sorted.filter _) fun e => ?_
  rw [List.mem_filter, mem_matching keyed, mem_matching keyed',
    Audit.Query.matches_olderThan passed, decide_eq_true_eq, and_assoc]
  constructor
  · exact fun ⟨stored, passes, older⟩ => ⟨(same e.id older).symm.trans stored, passes, older⟩
  · exact fun ⟨stored, passes, older⟩ => ⟨(same e.id older).trans stored, passes, older⟩

end Store
end GuildAccess
