import GuildAccess.Proofs.Numerals
import GuildAccess.Proofs.Relevance
import GuildAccess.Proofs.Store.Growth

/-!
Reading the log page by page. Each page ends where the next one goes on, so whoever asks for page
after page gets what the log held at the first request, every entry once, even while newer entries
come in. A request for pages of size zero is refused instead.
-/
namespace GuildAccess

/-- What the filters of a query ask of an entry. -/
structure Audit.Entry.Passes (e : Audit.Entry) (q : Audit.Query) : Prop where
  guildId : e.guildId = q.guildId
  actorId : ∀ id, q.actorId = some id → e.actorId = id
  action : ∀ action, q.action = some action → e.action = action
  targetKind : ∀ kind, q.targetKind = some kind → e.targetKind = some kind
  after : ∀ t, q.after = some t → t < e.createdAt
  before : ∀ t, q.before = some t → e.createdAt < t
  beforeId : ∀ id, q.beforeId = some id → e.id < id

theorem Audit.Entry.passes_iff {e : Audit.Entry} {q : Audit.Query} :
    e.Passes q ↔ q.matchesEntry e = true := by
  simp only [Audit.Query.matchesEntry, Bool.and_eq_true, decide_eq_true_eq, Option.all_eq_true]
  constructor
  · rintro ⟨guildId, actorId, action, targetKind, after, before, beforeId⟩
    exact ⟨⟨⟨⟨⟨⟨guildId, actorId⟩, action⟩, targetKind⟩, after⟩, before⟩, beforeId⟩
  · rintro ⟨⟨⟨⟨⟨⟨guildId, actorId⟩, action⟩, targetKind⟩, after⟩, before⟩, beforeId⟩
    exact ⟨guildId, actorId, action, targetKind, after, before, beforeId⟩

/-- A request names the filters of a query, in any spelling that can be read. -/
structure AuditParams.Spells (params : AuditParams) (q : Audit.Query) : Prop where
  actorId : params.actorId.map Snowflake.parse? = q.actorId.map some
  action : params.action = q.action.map Audit.Action.name
  targetKind : params.targetType = q.targetKind.map Audit.TargetKind.name
  after : params.after = q.after
  before : params.before = q.before
  beforeId : params.beforeId.map Snowflake.parse? = q.beforeId.map some

/-- The entry on which a page ended names the filter for the entries older than it. -/
theorem AuditParams.Spells.olderThan {params : AuditParams} {q : Audit.Query}
    (spelled : params.Spells q) (cut : Snowflake) :
    AuditParams.Spells { params with beforeId := some cut.render } (q.olderThan cut) :=
  { spelled with beforeId := congrArg some cut.parse?_render }

/-- A page of at most `size` entries; if it is not the last one it is full, and it names the entry
from which to go on exactly then. -/
structure AuditPage.Fits (page : AuditPage) (size : Nat) : Prop where
  within : page.entries.length ≤ size
  full : page.hasMore = true → page.entries.length = size
  cursor : page.before.isSome = page.hasMore

/-- A user may read the log of a guild. -/
def Store.MayRead (s : Store) (guild user : Snowflake) : Prop :=
  ∃ p, s.held guild none user = .ok p ∧ p.has .viewAuditLog = true

namespace Judge
variable {params : AuditParams} {q : Audit.Query} {size : Nat}

theorem filterId_of_parse {field : String} {text : Option String} {id : Option Snowflake}
    (read : text.map Snowflake.parse? = id.map some) : filterId field text = .ok id := by
  cases text with
  | none =>
    cases id with
    | none => rfl
    | some id => cases read
  | some text =>
    cases id with
    | none => cases read
    | some id =>
      have parsed : Snowflake.parse? text = some id := Option.some.inj read
      simp only [filterId, parsed]

theorem filterName_of_name {α : Type} {name : α → String} {parse : String → Except Fault α}
    (reads : ∀ a, parse (name a) = .ok a) (filter : Option α) :
    filterName parse (filter.map name) = .ok filter := by
  cases filter with
  | none => rfl
  | some a =>
    simp only [filterName, Option.map_some, reads]
    rfl

/-- The filters of a request are read as they are spelled, with room for one entry more than the
page has. -/
theorem auditQuery_of_spelled (spelled : params.Spells q) (below : size < 0xFFFFFFFF) :
    auditQuery q.guildId size params = .ok { q with limit := size + 1 } := by
  have actions : ∀ a, Audit.Action.parse a.name = .ok a := by rintro ⟨⟩ <;> rfl
  have targets : ∀ k, Audit.TargetKind.parse k.name = .ok k := by rintro ⟨⟩ <;> rfl
  have room : min (size + 1) 0xFFFFFFFF = size + 1 := by omega
  unfold auditQuery
  rw [filterId_of_parse spelled.actorId, filterId_of_parse spelled.beforeId, spelled.action,
    spelled.targetKind, filterName_of_name actions, filterName_of_name targets, spelled.after,
    spelled.before, room]
  rfl

/-- Where more entries are left than fit, one too many is found, and the page is full and ends on
the entry from which to go on. -/
theorem auditPage_of_more {left : List Audit.Entry} (some_room : 1 ≤ size)
    (more : size < left.length) : ∃ last, (left.take size).getLast? = some last ∧
      auditPage size (left.take (size + 1)) = ⟨left.take size, some last.id, true, size⟩ := by
  have full : (left.take size).length = size := List.length_take_of_le (Nat.le_of_lt more)
  have ends := List.getLast?_isSome.mpr (List.ne_nil_of_length_pos (full ▸ some_room))
  obtain ⟨last, ends⟩ := Option.isSome_iff_exists.mp ends
  have first : (left.take (size + 1)).take size = left.take size := by
    rw [List.take_take, Nat.min_eq_left (Nat.le_succ size)]
  have found : (left.take (size + 1)).length = size + 1 := List.length_take_of_le more
  exact ⟨last, ends, by simp only [auditPage, first, found, Nat.lt_succ_self, ends, if_true,
    decide_true, Option.map_some]⟩

/-- Where the entries that are left fit, the page has them all and is the last one. -/
theorem auditPage_of_fitting {left : List Audit.Entry} (fitting : left.length ≤ size) :
    auditPage size (left.take (size + 1)) = ⟨left, none, false, size⟩ := by
  have all : left.take (size + 1) = left := List.take_of_length_le (Nat.le_succ_of_le fitting)
  have none_over : ¬ size < left.length := Nat.not_lt_of_le fitting
  simp [auditPage, all, none_over, List.take_of_length_le fitting]

end Judge

namespace Service

/-- Requests for pages of the log of a guild, one at each moment, by a user who may read it, while
its log gets newer entries only. -/
structure Readings (service : Nat → Service) (around : Nat → Surroundings) (paging : Paging)
    (guild user : Snowflake) : Prop where
  reachable : ∀ k, (service k).store.Reachable
  sizes : ∀ k, (around k).paging = paging
  allowed : ∀ k, (service k).store.MayRead guild user
  grows : ∀ k, (service 0).store.GrowsAbove (service k).store guild

/-- The pages that a reader gets from a moment on: each request goes on where the page before it
ended, and a page that is said to be the last one ends the reading. -/
inductive Pages (service : Nat → Service) (around : Nat → Surroundings) (guild user : Snowflake) :
    Nat → AuditParams → List AuditPage → Prop
  | last {k : Nat} {params : AuditParams} {page : AuditPage}
    (answered : (service k).handle (around k) (.listAudit guild user params) =
      (service k, .ok (.auditPage page))) (done : page.hasMore = false) :
    Pages service around guild user k params [page]
  | next {k : Nat} {params : AuditParams} {page : AuditPage} {rest : List AuditPage}
    (answered : (service k).handle (around k) (.listAudit guild user params) =
      (service k, .ok (.auditPage page))) (more : page.hasMore = true)
    (on : Pages service around guild user (k + 1)
      { params with beforeId := page.before.map Snowflake.render } rest) :
    Pages service around guild user k params (page :: rest)

variable {service : Nat → Service} {around : Nat → Surroundings} {paging : Paging}
  {guild user : Snowflake} {params : AuditParams} {k : Nat}

/-- A reader gets the same pages whenever they ask at the same moments. -/
theorem Pages.unique {pages others : List AuditPage}
    (read : Pages service around guild user k params pages)
    (read' : Pages service around guild user k params others) : others = pages := by
  induction read generalizing others with
  | last answered done =>
    cases read' with
    | last answered' =>
      cases answered.symm.trans answered'
      rfl
    | next answered' more =>
      cases answered.symm.trans answered'
      cases done.symm.trans more
  | next answered more _ ih =>
    cases read' with
    | last answered' done =>
      cases answered.symm.trans answered'
      cases done.symm.trans more
    | next answered' _ on =>
      cases answered.symm.trans answered'
      rw [ih on]

/-- A request for a page that is not refused is answered from the log and changes nothing. -/
theorem handle_listAudit {service : Service} {around : Surroundings} {q : Audit.Query}
    (may : service.store.MayRead q.guildId user) (spelled : params.Spells q)
    (asked : params.limit ≠ some 0) (below : around.paging.size params.limit < 0xFFFFFFFF) :
    service.handle around (.listAudit q.guildId user params) = (service, .ok (.auditPage
      (Judge.auditPage (around.paging.size params.limit)
        ((service.store.matching q).take (around.paging.size params.limit + 1))))) := by
  obtain ⟨p, held, flag⟩ := may
  obtain ⟨caller, taken, rfl⟩ : ∃ caller, Judge.snapshot service.store q.guildId user none =
      .ok caller ∧ Judge.resolved caller none = p := by
    unfold Store.held at held
    cases taken : Judge.snapshot service.store q.guildId user none with
    | error cause =>
      rw [taken] at held
      cases held
    | ok caller =>
      rw [taken] at held
      exact ⟨caller, rfl, Except.ok.inj held⟩
  have valid : params.validate = .ok () := by
    unfold AuditParams.validate
    cases limit : params.limit with
    | none => rfl
    | some n =>
      have positive : 1 ≤ n := Nat.pos_of_ne_zero fun zero => asked (limit.trans (zero ▸ rfl))
      simp [Request.limit, Request.accept, positive]
  have passed : Judge.gate service.store q.guildId none user [.viewAuditLog]
      ⟨.auditLogView, none⟩ = .ok caller :=
    Judge.passes_gate.mpr ⟨taken, .inr (by simpa using flag)⟩
  simp only [handle, Call.enter, takeLock, Call.judge, Judge.listAudit, valid, passed,
    Judge.auditQuery_of_spelled spelled below, Store.auditList_eq]
  rfl

/-- What is left behind a page at one moment is what is found from there on at the next. -/
theorem Readings.goes_on {q : Audit.Query} {size : Nat} {last : Audit.Entry}
    (readings : Readings service around paging q.guildId user)
    (ends : (((service k).store.matching q).take size).getLast? = some last)
    (held : ((service 0).store.logOf q.guildId).get? last.id = some last) :
    (service (k + 1)).store.matching (q.olderThan last.id) =
      ((service k).store.matching q).drop size := by
  refine Store.matching_olderThan (readings.reachable k).keyed (readings.reachable (k + 1)).keyed
    (fun id older => ?_) ends
  -- At both moments the log is below this entry what it was at the first one.
  rw [(readings.grows (k + 1)).below held older, (readings.grows k).below held older]

/-- From a moment on a reader gets what the log then holds of its first entries, page by page. -/
theorem Readings.pages {q : Audit.Query} {left : List Audit.Entry} {size : Nat}
    (readings : Readings service around paging q.guildId user) (spelled : params.Spells q)
    (asked : params.limit ≠ some 0) (size_eq : paging.size params.limit = size)
    (below : size < 0xFFFFFFFF) (found : (service k).store.matching q = left)
    (old : ∀ e ∈ left, ((service 0).store.logOf q.guildId).get? e.id = some e) :
    ∃ pages, Pages service around q.guildId user k params pages ∧
      pages.flatMap (·.entries) = left ∧ ∀ page ∈ pages, page.Fits size := by
  have some_room : 1 ≤ size := size_eq ▸ Nat.le_max_left ..
  -- Each page that is not the last one leaves fewer entries.
  induction left_length : left.length using Nat.strongRecOn generalizing k params q left with
  | _ _ ih =>
    have room : (around k).paging.size params.limit < 0xFFFFFFFF := by
      rw [readings.sizes, size_eq]
      exact below
    have answered := handle_listAudit (readings.allowed k) spelled asked room
    rw [readings.sizes, size_eq, found] at answered
    by_cases fitting : left.length ≤ size
    · rw [Judge.auditPage_of_fitting fitting] at answered
      refine ⟨_, .last answered rfl, List.append_nil left, ?_⟩
      rw [List.forall_mem_singleton]
      exact ⟨fitting, nofun, rfl⟩
    · have more : size < left.length := Nat.lt_of_not_le fitting
      obtain ⟨last, ends, page_eq⟩ := Judge.auditPage_of_more some_room more
      rw [page_eq] at answered
      have held := old last (List.mem_of_mem_take (List.mem_of_getLast? ends))
      have rest_found := readings.goes_on (found ▸ ends) held
      rw [found] at rest_found
      obtain ⟨rest, read, listed, fit⟩ := ih (left.drop size).length
        (by rw [← left_length, List.length_drop]; omega) (q := q.olderThan last.id) readings
        (spelled.olderThan last.id) asked size_eq rest_found
        (fun e member => old e (List.mem_of_mem_drop member)) rfl
      have full := List.length_take_of_le (Nat.le_of_lt more)
      refine ⟨_, .next answered rfl read, ?_, ?_⟩
      · rw [List.flatMap_cons, listed, List.take_append_drop]
      · rw [List.forall_mem_cons]
        exact ⟨⟨Nat.le_of_eq full, fun _ => full, rfl⟩, fit⟩

/-- Paging lists the log once. Whoever may read the log of a guild and asks for page after page of
at least one entry, with any filters, comes to a last page. The pages then hold, by descending
identifier, what stood in the log at the first request and passes the filters, whatever newer
entries came in meanwhile; and each page is as full as it can be. -/
theorem pages_list_the_log_once (service : Nat → Service) (around : Nat → Surroundings)
    (paging : Paging) (user : Snowflake) (params : AuditParams) (q : Audit.Query)
    (readings : Readings service around paging q.guildId user) (spelled : params.Spells q)
    (asked : params.limit ≠ some 0) (below : paging.size params.limit < 0xFFFFFFFF) :
    ∃ pages, Pages service around q.guildId user 0 params pages ∧
      (∀ others, Pages service around q.guildId user 0 params others → others = pages) ∧
      Audit.NewestFirst (pages.flatMap (·.entries)) ∧
      (∀ e, e ∈ pages.flatMap (·.entries) ↔
        ((service 0).store.logOf q.guildId).get? e.id = some e ∧ e.Passes q) ∧
      ∀ page ∈ pages, page.Fits (paging.size params.limit) := by
  have keyed := (readings.reachable 0).keyed
  obtain ⟨pages, read, listed, fit⟩ := readings.pages spelled asked rfl below rfl
    fun e member => ((Store.mem_matching keyed).mp member).1
  refine ⟨pages, read, fun others read' => read.unique read', ?_, ?_, fit⟩
  · rw [listed]
    exact Store.matching_newestFirst keyed
  · intro e
    rw [listed, Store.mem_matching keyed, Audit.Entry.passes_iff]

/-- A guild whose log has an entry of its owner under each of these identifiers. -/
def loggedStore (ids : List Int) : Store :=
  (Store.empty.replay Store.foundedGuild).replay
    (ids.map fun id => (⟨0, 0⟩, .appendAudit (Store.ownersEntry (.wrap id) .roleCreate)))

theorem loggedStore_reachable (ids : List Int) : (loggedStore ids).Reachable :=
  (Store.Reachable.start.replay _).replay _

def arrival : Store.Changes :=
  [(⟨0, 0⟩, .appendAudit (Store.ownersEntry (.wrap 104) .roleCreate))]

/-- The service at each request: first with three entries, then with the one that came in. -/
def readSample (k : Nat) : Service :=
  ⟨(loggedStore [101, 102, 103]).replay (arrival.take k), 0, .empty⟩

/-- The filters of a request for the role creations of user 1. -/
def readQuery : Audit.Query where
  guildId := .wrap 1
  limit := 0
  actorId := some (.wrap 1)
  action := some .roleCreate

theorem readSample_readings :
    Readings readSample (fun _ => .sample) {} (.wrap 1) (.wrap 1) where
  reachable k := (loggedStore_reachable _).replay _
  sizes _ := rfl
  allowed k := by
    have arrived : arrival.take k = [] ∨ arrival.take k = arrival := by cases k <;> simp [arrival]
    unfold readSample
    rcases arrived with none | all
    · rw [none]
      exact ⟨_, rfl, by decide +kernel⟩
    · rw [all]
      exact ⟨_, rfl, by decide +kernel⟩
  grows k := by
    refine Store.replay_grows (s := loggedStore [101, 102, 103]) _ ?_
    intro n now e listed _ old held stored
    have read : arrival[n]? = some (now, .appendAudit e) := by
      rw [List.getElem?_take] at listed
      split at listed
      · exact listed
      · cases listed
    cases n with
    | zero =>
      cases read
      have older : ∀ entry ∈ ((loggedStore [101, 102, 103]).logOf (.wrap 1)).entries,
          entry.1 < .wrap 104 := by decide +kernel
      exact older (old, held) (KeyMap.mem_of_get? stored)
    | succ n => cases read

theorem pages_list_the_log_once_sample :
    let params : AuditParams := ⟨some " +1", some "ROLE_CREATE", none, none, none, none, some 2⟩
    ∃ pages, Pages readSample (fun _ => .sample) (.wrap 1) (.wrap 1) 0 params pages ∧
      (∀ page ∈ pages, page.Fits 2) ∧ ((readSample 1).store.logOf (.wrap 1)).size = 4 ∧
      (pages.flatMap (·.entries)).map (·.id) = [.wrap 103, .wrap 102, .wrap 101] := by
  intro params
  have spelled : params.Spells readQuery :=
    ⟨by decide +kernel, by decide +kernel, rfl, rfl, rfl, rfl⟩
  obtain ⟨pages, read, -, sorted, members, fit⟩ := pages_list_the_log_once readSample
    (fun _ => .sample) {} (.wrap 1) params readQuery readSample_readings spelled (by decide)
    (by decide)
  have keyed := (readSample_readings.reachable 0).keyed
  have listed : pages.flatMap (·.entries) = (readSample 0).store.matching readQuery := by
    refine sorted.ext (Store.matching_newestFirst keyed) fun e => ?_
    rw [members, Store.mem_matching keyed, Audit.Entry.passes_iff]
  exact ⟨pages, read, fit, by decide +kernel, by rw [listed]; decide +kernel⟩

/-- A request for a page of no entries is refused: the owner of a guild whose log has an entry gets
no page, though the smallest size of a page is one. -/
theorem no_page_for_limit_zero :
    let service : Service := ⟨loggedStore [101], 0, .empty⟩
    let params : AuditParams := { limit := some 0 }
    service.store.MayRead (.wrap 1) (.wrap 1) ∧
      params.Spells { guildId := .wrap 1, limit := 0 } ∧
      (service.store.logOf (.wrap 1)).size = 1 ∧
      Surroundings.sample.paging.size params.limit = 1 ∧
      service.handle .sample (.listAudit (.wrap 1) (.wrap 1) params) =
        (service, .error (.invalid "limit: Limit must be >= 1")) ∧
      ∀ pages,
        ¬ Pages (fun _ => service) (fun _ => .sample) (.wrap 1) (.wrap 1) 0 params pages := by
  intro service params
  have refused : service.handle .sample (.listAudit (.wrap 1) (.wrap 1) params) =
      (service, .error (.invalid "limit: Limit must be >= 1")) := rfl
  refine ⟨⟨_, rfl, by decide⟩, ⟨rfl, rfl, rfl, rfl, rfl, rfl⟩, by decide +kernel, rfl, refused,
    fun pages read => ?_⟩
  cases read with
  | last answered => cases refused.symm.trans answered
  | next answered => cases refused.symm.trans answered

end Service
end GuildAccess
