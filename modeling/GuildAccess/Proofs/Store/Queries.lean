import GuildAccess.Proofs.Store.Logs
import GuildAccess.Proofs.Store.Reachable

/-!
What queries find in a log. Entries come by descending identifier, and that order with the filters
settles the answer: an entry is found if it passes and fewer newer ones pass than the query asks
for.
-/
namespace GuildAccess

theorem Snowflake.lt_irrefl (id : Snowflake) : ¬ id < id := Int.lt_irrefl id.toInt

theorem Snowflake.lt_trans {a b c : Snowflake} (first : a < b) (second : b < c) : a < c :=
  Int.lt_trans first second

theorem Snowflake.lt_asymm {a b : Snowflake} (below : a < b) : ¬ b < a :=
  fun above => a.lt_irrefl (lt_trans below above)

/-- In a list in strict order, what comes behind the end of its first part is the other part. -/
theorem filter_behind {α : Type} (before : α → α → Prop) [DecidableRel before] {xs : List α}
    (asymm : ∀ {a b}, before a b → ¬ before b a) (ordered : xs.Pairwise before) {size : Nat}
    {last : α} (ends : (xs.take size).getLast? = some last) :
    xs.filter (fun x => before last x) = xs.drop size := by
  obtain ⟨front, upTo⟩ := List.getLast?_eq_some_iff.mp ends
  have split : xs = front ++ last :: xs.drop size := by
    rw [List.append_cons, ← upTo, List.take_append_drop]
  rw [split] at ordered
  obtain ⟨-, rest, across⟩ := List.pairwise_append.mp ordered
  have ahead : ∀ x ∈ front, ¬ before last x :=
    fun x member => asymm (across x member last List.mem_cons_self)
  have behind : ∀ x ∈ xs.drop size, before last x :=
    fun x member => List.rel_of_pairwise_cons rest member
  have itself : ¬ before last last := fun below => asymm below below
  refine (congrArg (List.filter fun x => decide (before last x)) split).trans ?_
  rw [List.filter_append, List.filter_cons_of_neg (by simpa using itself),
    List.filter_eq_nil_iff.mpr (by simpa using ahead),
    List.filter_eq_self.mpr (by simpa using behind), List.nil_append]

namespace Audit

def NewestFirst (entries : List Entry) : Prop := entries.Pairwise fun a b => b.id < a.id

namespace NewestFirst
variable {entries others : List Entry} {e : Entry}

/-- There is one way to list entries newest first. -/
theorem ext (sorted : NewestFirst entries) (sorted' : NewestFirst others)
    (same : ∀ e, e ∈ entries ↔ e ∈ others) : entries = others := by
  have distinct : ∀ {listed : List Entry}, NewestFirst listed → listed.Nodup := by
    intro listed sorted
    refine List.Pairwise.imp (fun {a b} newer same => ?_) sorted
    subst same
    exact a.id.lt_irrefl newer
  have permuted := (List.perm_ext_iff_of_nodup (distinct sorted) (distinct sorted')).mpr same
  exact permuted.eq_of_pairwise
    (fun _ _ _ _ newer older => absurd older (Snowflake.lt_asymm newer)) sorted sorted'

/-- The first entries of a list are those with few enough newer ones in it. -/
theorem mem_take (sorted : NewestFirst entries) {count : Nat} :
    e ∈ entries.take count ↔
      e ∈ entries ∧ entries.countP (fun other => e.id < other.id) < count := by
  induction entries generalizing count with
  | nil => simp
  | cons first rest ih =>
    have older : ∀ other ∈ rest, other.id < first.id :=
      fun other listed => List.rel_of_pairwise_cons sorted listed
    cases count with
    | zero => simp
    | succ count =>
      rw [List.take_succ_cons, List.mem_cons, List.mem_cons, ih sorted.of_cons, List.countP_cons]
      constructor
      · rintro (rfl | ⟨listed, few⟩)
        · have none : rest.countP (fun other => e.id < other.id) = 0 := by
            rw [List.countP_eq_zero]
            intro other listed
            simpa using Snowflake.lt_asymm (older other listed)
          exact ⟨.inl rfl, by simp [none, e.id.lt_irrefl]⟩
        · exact ⟨.inr listed, by split <;> omega⟩
      · rintro ⟨rfl | listed, few⟩
        · exact .inl rfl
        · rw [if_pos (by simpa using older e listed)] at few
          exact .inr ⟨listed, by omega⟩

end NewestFirst
end Audit

namespace Store
variable {s : Store} {guild id : Snowflake} {e : Audit.Entry} {q : Audit.Query}

/-- The entries of a log that pass the filters of a query, newest first. -/
def matching (s : Store) (q : Audit.Query) : List Audit.Entry :=
  (s.logOf q.guildId).rows.reverse.filter q.matchesEntry

theorem auditList_eq : s.auditList q = (s.matching q).take q.limit := by
  unfold auditList matching logOf
  cases s.guilds.get? q.guildId with
  | none => simp [KeyMap.rows, KeyMap.empty]
  | some g => rfl

/-- Entries are stored under their identifier in the log of their guild. -/
theorem Keyed.entry_stored (keyed : s.Keyed) (stored : (s.logOf guild).get? id = some e) :
    e.id = id ∧ e.guildId = guild := by
  cases found : s.guilds.get? guild with
  | none =>
    rw [logOf, found] at stored
    cases stored
  | some g =>
    rw [logOf_of_rows found] at stored
    exact (keyed guild g found).entry_id id e stored

/-- What passes a query is of its guild. -/
theorem guild_of_matches (passes : q.matchesEntry e = true) : e.guildId = q.guildId := by
  simp only [Audit.Query.matchesEntry, Bool.and_eq_true, decide_eq_true_eq] at passes
  exact passes.1.1.1.1.1.1

theorem mem_matching (keyed : s.Keyed) : e ∈ s.matching q ↔
    (s.logOf q.guildId).get? e.id = some e ∧ q.matchesEntry e = true := by
  unfold matching
  rw [List.mem_filter, List.mem_reverse,
    KeyMap.mem_rows_of_named fun _ _ stored => (keyed.entry_stored stored).1]

theorem matching_newestFirst (keyed : s.Keyed) : Audit.NewestFirst (s.matching q) := by
  have ascending := (s.logOf q.guildId).rows_ascending fun _ _ stored =>
    (keyed.entry_stored stored).1
  refine List.Pairwise.filter _ (List.pairwise_reverse.mpr (ascending.imp fun below => ?_))
  exact of_decide_eq_true below

/-- A query finds what passes it and has fewer newer entries that pass than it asks for. -/
theorem mem_auditList (keyed : s.Keyed) : e ∈ s.auditList q ↔
    (s.logOf e.guildId).get? e.id = some e ∧ q.matchesEntry e = true ∧
      (s.matching q).countP (fun other => e.id < other.id) < q.limit := by
  rw [auditList_eq, (matching_newestFirst keyed).mem_take, mem_matching keyed, and_assoc]
  exact and_congr_left fun passes => by rw [guild_of_matches passes.1]

end Store
end GuildAccess
