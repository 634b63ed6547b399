import GuildAccess.Proofs.ReadBack

/-!
Reordering roles. A request to move many roles is carried out as a whole or not at all, and it is
carried out exactly if every part of it is acceptable by itself: the walk through the list refuses
nothing that a check of each element and of the list of identifiers would let pass. Times aside, the
positions of the listed roles are all that changes, and the answer lists the roles of the guild as
they stand afterwards.
-/
namespace GuildAccess

namespace Request

theorem accept_ok {broken : List String} : accept broken = .ok () ↔ broken = [] := by
  unfold accept
  cases broken <;> simp

/-- No line is written about a list of moves exactly if every position is positive. -/
theorem moveLines_eq_empty {n : Nat} {asked : List RoleMove} :
    moveLines n asked = "" ↔ ∀ m ∈ asked, 1 ≤ m.position := by
  induction asked generalizing n with
  | nil => simp [moveLines]
  | cons move rest ih =>
    unfold moveLines
    rw [List.forall_mem_cons, ← @ih (n + 1)]
    split
    · next positive => simp [positive]
    · next broken => simp [broken, positionText]

end Request

/-- The limits of a request for new positions: how many there are, and that each is positive. -/
theorem ReorderRoles.validate_ok {request : ReorderRoles} : request.validate = .ok () ↔
    (1 ≤ request.positions.length ∧ request.positions.length ≤ 250) ∧
      ∀ m ∈ request.positions, 1 ≤ m.position := by
  unfold validate
  rw [Request.accept_ok, ← @Request.moveLines_eq_empty 0]
  split
  · next few => simp [few]
  · next many => simp [many]

namespace Judge
variable {s : Store} {g : GuildRows} {guild actor : Snowflake} {caller : Snapshot}

/-- Every move that was asked for was let through, to the role that its text names. -/
theorem AskedFor.parses {asked : List RoleMove} {positions : List (Snowflake × Int)}
    (asks : AskedFor asked positions) {m : RoleMove} (listed : m ∈ asked) :
    ∃ id, Snowflake.parse? m.id = some id ∧ (id, m.position) ∈ positions := by
  have paired : (Snowflake.parse? m.id, m.position) ∈ positions.map fun move =>
      (some move.1, move.2) := by
    rw [← asks.same]
    exact List.mem_map.mpr ⟨m, listed, rfl⟩
  obtain ⟨move, member, same⟩ := List.mem_map.mp paired
  obtain ⟨parsed, position⟩ := Prod.mk.inj same
  exact ⟨move.1, parsed.symm, position ▸ member⟩

/-- Every move that was let through was asked for. -/
theorem AskedFor.wanted {asked : List RoleMove} {positions : List (Snowflake × Int)}
    (asks : AskedFor asked positions) {move : Snowflake × Int} (member : move ∈ positions) :
    ∃ m ∈ asked, Snowflake.parse? m.id = some move.1 := by
  have paired : (some move.1, move.2) ∈ asked.map fun m =>
      (Snowflake.parse? m.id, m.position) := by
    rw [asks.same]
    exact List.mem_map.mpr ⟨move, member, rfl⟩
  obtain ⟨m, listed, same⟩ := List.mem_map.mp paired
  exact ⟨m, listed, (Prod.mk.inj same).1⟩

/-- No role is asked for twice, under whatever spellings. -/
theorem AskedFor.parsed_nodup {asked : List RoleMove} {positions : List (Snowflake × Int)}
    (asks : AskedFor asked positions) : (asked.map fun m => Snowflake.parse? m.id).Nodup := by
  have parsed : (asked.map fun m => Snowflake.parse? m.id) = (positions.map (·.1)).map some := by
    have read := congrArg (List.map Prod.fst) asks.same
    simpa [Function.comp_def] using read
  rw [parsed]
  exact List.pairwise_map.mpr (asks.distinct.imp fun apart same => apart (Option.some.inj same))

/-- The walk lets a list through if it may move each role of it and no role comes twice. -/
theorem moves_pass (unique : ∀ r ∈ caller.roles, ∀ r' ∈ caller.roles, r.id = r'.id → r = r')
    {seen : List Snowflake} {asked : List RoleMove}
    (may : ∀ m ∈ asked, ∃ id, Snowflake.parse? m.id = some id ∧ id ∉ seen ∧
      mayMove caller (id, m.position))
    (distinct : (asked.map fun m => Snowflake.parse? m.id).Nodup) :
    ∃ given, moves caller seen asked = .ok given := by
  induction asked generalizing seen with
  | nil => exact ⟨[], rfl⟩
  | cons move rest ih =>
    obtain ⟨⟨id, parsed, new, row, listed, rfl, plain, reach⟩, others⟩ :=
      List.forall_mem_cons.mp may
    obtain ⟨single, distinct⟩ := List.nodup_cons.mp distinct
    have found : caller.roles.find? (fun r => r.id = row.id) = some row :=
      find?_of_unique listed (by simp) fun r listed' same =>
        unique r listed' row listed (by simpa using same)
    have fromBelow : caller.isOwner = true ∨ row.position < caller.highest :=
      reach.imp_right And.left
    have toBelow : caller.isOwner = true ∨ move.position < caller.highest :=
      reach.imp_right And.right
    have later : ∀ m ∈ rest, ∃ id, Snowflake.parse? m.id = some id ∧ id ∉ row.id :: seen ∧
        mayMove caller (id, m.position) := by
      intro m member
      obtain ⟨id, parsed', new', may'⟩ := others m member
      refine ⟨id, parsed', fun again => ?_, may'⟩
      rcases List.mem_cons.mp again with rfl | earlier
      · exact single (List.mem_map.mpr ⟨m, member, parsed'.trans parsed.symm⟩)
      · exact new' earlier
    obtain ⟨given, passed⟩ := ih later distinct
    refine ⟨⟨row.id, row.position, move.position⟩ :: given, ?_⟩
    unfold moves
    rw [parsed, passes_bind]
    refine ⟨row.id, rfl, ?_⟩
    rw [if_neg (by simpa using new)]
    simp only [passes_bind, passes_must, passes_refuseIf, passes_outranksPosition,
      Store.passes_need]
    exact ⟨row, found, (), plain, (), fromBelow, (), toBelow, given, passed, rfl⟩

/-- A move may be made to the position asked for if that and the position left are within reach of
the caller, and the role is no everyone role. -/
theorem mayMove_rows (keyed : g.Keyed guild) {id : Snowflake} {position : Int} :
    mayMove (g.snapshot actor none) (id, position) ↔
      ∃ row, g.roles.get? id = some row ∧ row.isEveryone = false ∧
        g.MayReach actor row.position ∧ g.MayReach actor position := by
  constructor
  · rintro ⟨row, listed, rfl, plain, reach⟩
    exact ⟨row, role_listed keyed listed, plain, reach.imp_right And.left,
      reach.imp_right And.right⟩
  · rintro ⟨row, stored, plain, fromBelow, toBelow⟩
    refine ⟨row, GuildRows.mem_roleList.mpr ⟨id, stored⟩, keyed.role_id id row stored, plain, ?_⟩
    exact or_and_left.mpr ⟨fromBelow, toBelow⟩

end Judge

/-- A request for new positions in which everything is in order: it lists between 1 and 250 roles of
the guild, none of them twice and none an everyone role, with positive positions, and both where a
role stands and where it is to go are within reach of the actor. -/
structure ReorderRoles.Acceptable (request : ReorderRoles) (g : GuildRows) (actor : Snowflake) :
    Prop where
  few : 1 ≤ request.positions.length ∧ request.positions.length ≤ 250
  positive : ∀ m ∈ request.positions, 1 ≤ m.position
  movable : ∀ m ∈ request.positions, ∃ id row, Snowflake.parse? m.id = some id ∧
    g.roles.get? id = some row ∧ row.isEveryone = false ∧
    g.MayReach actor row.position ∧ g.MayReach actor m.position
  distinct : (request.positions.map fun m => Snowflake.parse? m.id).Nodup

namespace Judge
variable {s : Store} {g : GuildRows} {guild actor : Snowflake} {request : ReorderRoles}

/-- One who manages roles is judged by the rows of the guild. -/
theorem manageRoles_of_rows (rows : s.guilds.get? guild = some g)
    (inside : g.hasInsider actor = true) (may : (g.serverOf actor).has .manageRoles = true)
    (attempt : Audit.Attempt) :
    manageRoles s guild actor attempt = .ok (g.snapshot actor none) := by
  refine passes_gate.mpr ⟨passes_snapshot.mpr ⟨g, rows, inside, by simp, rfl⟩, .inr ?_⟩
  rw [List.any_cons, List.any_nil, Bool.or_false]
  exact may

/-- An acceptable request is planned, as one change of all positions. -/
theorem reorderRoles_planned (keyed : g.Keyed guild) (rows : s.guilds.get? guild = some g)
    (inside : g.hasInsider actor = true) (may : (g.serverOf actor).has .manageRoles = true)
    (acceptable : request.Acceptable g actor) :
    ∃ p, reorderRoles s guild actor request = .ok (.plan p) := by
  have unique : ∀ r ∈ g.roleList, ∀ r' ∈ g.roleList, r.id = r'.id → r = r' := by
    intro r listed r' listed' same
    have stored := role_listed keyed listed
    rw [same, role_listed keyed listed'] at stored
    exact (Option.some.inj stored).symm
  have free : ∀ m ∈ request.positions, ∃ id, Snowflake.parse? m.id = some id ∧ id ∉ [] ∧
      mayMove (g.snapshot actor none) (id, m.position) := by
    intro m listed
    obtain ⟨id, row, parsed, stored⟩ := acceptable.movable m listed
    exact ⟨id, parsed, List.not_mem_nil, (mayMove_rows keyed).mpr ⟨row, stored⟩⟩
  have walked : ∃ given, moves (g.snapshot actor none) [] request.positions = .ok given :=
    moves_pass unique free acceptable.distinct
  obtain ⟨given, passed⟩ := walked
  unfold reorderRoles
  simp only [passes_bind]
  exact ⟨_, _, manageRoles_of_rows rows inside may _, given, passed, rfl⟩

/-- What is planned is acceptable, the limits on its own aside. -/
theorem acceptable_of_planned {p : Plan} (keyed : g.Keyed guild)
    (rows : s.guilds.get? guild = some g) (valid : request.validate = .ok ())
    (planned : reorderRoles s guild actor request = .ok (.plan p)) :
    request.Acceptable g actor := by
  obtain ⟨few, positive⟩ := ReorderRoles.validate_ok.mp valid
  obtain ⟨caller, positions, passed, may, asks, -⟩ := reorderRoles_plan planned
  obtain ⟨g₀, rows₀, rfl⟩ := passes_gate_rows passed
  cases rows.symm.trans rows₀
  refine ⟨few, positive, fun m listed => ?_, asks.parsed_nodup⟩
  obtain ⟨id, parsed, member⟩ := asks.parses listed
  obtain ⟨row, stored⟩ := (mayMove_rows keyed).mp (may _ member)
  exact ⟨id, row, parsed, stored⟩

end Judge

/-- Positions are set where every role that is named can be moved. -/
theorem Store.setPositions_done {s : Store} {g : GuildRows} {guild : Snowflake}
    {positions : List (Snowflake × Int)} (rows : s.guilds.get? guild = some g)
    (movable : ∀ move ∈ positions, ∃ row, g.roles.get? move.1 = some row ∧ row.isEveryone = false)
    (now : Instant) : s.setPositions guild positions now =
      .ok (s.setRows guild (positions.foldl (moveRole now) g)) := by
  have free : positions.find? (fun move => !isMovable g move.1) = none := by
    refine List.find?_eq_none.mpr fun move listed => ?_
    obtain ⟨row, stored, plain⟩ := movable move listed
    simp [isMovable, stored, plain]
  unfold setPositions
  rw [passes_bind]
  exact ⟨g, passes_need.mpr rows, by rw [free]⟩

namespace GuildRows

/-- The roles of a guild before and after a request for new positions: each one listed stands where
it was asked to, written at that time and otherwise as before, and nothing else differs. -/
structure Reordered (now : Instant) (request : ReorderRoles) (g g' : GuildRows) : Prop where
  listed : ∀ m ∈ request.positions, ∃ id row, Snowflake.parse? m.id = some id ∧
    g.roles.get? id = some row ∧
    g'.roles.get? id = some { row with position := m.position, updatedAt := now }
  others : ∀ id, (∀ m ∈ request.positions, Snowflake.parse? m.id ≠ some id) →
    g'.roles.get? id = g.roles.get? id
  frame : g' = { g with roles := g'.roles }

/-- A list of all roles of a guild, each of them once, by position and then by identifier. -/
structure ListedByRank (g : GuildRows) (roles : List Role) : Prop where
  mem_iff : ∀ r, r ∈ roles ↔ ∃ id, g.roles.get? id = some r
  ascending : roles.Pairwise fun a b =>
    a.position < b.position ∨ (a.position = b.position ∧ a.id < b.id)

/-- Roles are listed strictly by rank, as no two of them have one identifier. -/
theorem Keyed.listedByRank {g : GuildRows} {guild : Snowflake} (keyed : g.Keyed guild) :
    g.ListedByRank g.roleList where
  mem_iff _ := mem_roleList
  ascending := by
    have apart := List.pairwise_map.mp keyed.roleList_nodup
    have sorted : g.roleList.Pairwise fun a b =>
        Rank.atMost (a.position, a.id) (b.position, b.id) = true := sortRanked_sorted _ _
    refine sorted.imp₂ (fun a b below different => ?_) apart
    have below := (Rank.atMost_iff _ _).mp below
    have unequal : a.id.toInt ≠ b.id.toInt := fun same => different (Snowflake.ext same)
    refine below.imp_right fun tie => ⟨tie.1, ?_⟩
    exact Int.lt_iff_le_and_ne.mpr ⟨tie.2, unequal⟩

end GuildRows

namespace Service
variable {service after : Service} {around : Surroundings} {guild actor : Snowflake}
  {g : GuildRows} {request : ReorderRoles} {p : Plan} {store : Store} {answer : Answer}

/-- A valid request that is planned succeeds where its change can be made. -/
theorem reorderRoles_done (valid : request.validate = .ok ())
    (planned : Judge.reorderRoles service.store guild actor request = .ok (.plan p))
    (applied : service.store.apply around.now p.change = .ok store) :
    (service.handle around (.reorderRoles guild actor request)).2 = .ok (p.answer store) := by
  have entered : (Call.reorderRoles guild actor request).enter service.store =
      .ok (some guild) := by
    rw [Call.enter, valid]
    rfl
  obtain ⟨after, handled, -⟩ := handle_made entered planned applied
  rw [handled]

/-- A request that breaks a limit of its own is refused before anything is looked at. -/
theorem valid_of_done (done : service.handle around (.reorderRoles guild actor request) =
    (after, .ok answer)) : request.validate = .ok () := by
  obtain ⟨lock, entered⟩ := enter_of_ok done
  cases valid : request.validate with
  | ok u => rfl
  | error cause =>
    rw [Call.enter, valid] at entered
    cases entered

/-- What a request for new positions writes. -/
theorem reordered_of_writeSet {now : Instant} {fresh : Snowflake} {g' : GuildRows}
    (written : Call.WriteSet now fresh guild g (.reorderRoles guild actor request) g') :
    g.Reordered now request g' := by
  cases written with
  | reorderRoles asks moved others =>
    refine ⟨fun m listed => ?_, fun id unnamed => others id fun move named same => ?_, rfl⟩
    · obtain ⟨id, parsed, member⟩ := asks.parses listed
      obtain ⟨row, stored, set⟩ := moved _ member
      exact ⟨id, row, parsed, stored, set⟩
    · obtain ⟨m, listed, parsed⟩ := asks.wanted named
      exact unnamed m listed (parsed.trans (congrArg some same))

/-- A request that succeeds was planned, and its change was made before the answer was read. -/
theorem reorderRoles_carried (keyed : service.store.Keyed)
    (rows : service.store.guilds.get? guild = some g)
    (done : service.handle around (.reorderRoles guild actor request) = (after, .ok answer)) :
    request.Acceptable g actor ∧ ∃ g' roles, service.Remakes after guild g g' ∧
      g.Reordered around.now request g' ∧ g'.ListedByRank roles ∧
      answer = .roles (roles.map Role.view) := by
  obtain ⟨ruling, ruled, carried⟩ := handle_ok done
  have ruled : Judge.reorderRoles service.store guild actor request = .ok ruling := ruled
  obtain ⟨-, p, rfl, -, told⟩ := Judge.reorderRoles_plans ruled
  cases carried with
  | @plan _ store _ applied same =>
    have acceptable := Judge.acceptable_of_planned (keyed guild g rows) rows (valid_of_done done)
      ruled
    have wrote : Call.Wrote service.store store around.now (around.idAt (service.issued + 1))
        (.reorderRoles guild actor request) := Judge.reorderRoles_wrote keyed ruled applied
    obtain ⟨_, _, g', home, rows₀, written, insert⟩ := wrote
    cases home
    cases rows.symm.trans rows₀
    have stored : store.guilds.get? guild = some g' := by
      rw [insert, KeyMap.get?_insert, if_pos rfl]
    have keyed' : g'.Keyed guild := Store.apply_keyed keyed applied guild g' stored
    refine ⟨acceptable, g', g'.roleList, remakes_of_insert rows insert same.tables,
      reordered_of_writeSet written, keyed'.listedByRank, ?_⟩
    rw [told]
    simp [Store.roleList, stored]

/-- An acceptable request of an insider who may manage roles succeeds. -/
theorem acceptable_done (keyed : service.store.Keyed)
    (rows : service.store.guilds.get? guild = some g) (inside : g.hasInsider actor = true)
    (may : (g.serverOf actor).has .manageRoles = true)
    (acceptable : request.Acceptable g actor) :
    (service.handle around (.reorderRoles guild actor request)).2.isOk = true := by
  have keyed := keyed guild g rows
  have valid := ReorderRoles.validate_ok.mpr ⟨acceptable.few, acceptable.positive⟩
  obtain ⟨p, planned⟩ := Judge.reorderRoles_planned keyed rows inside may acceptable
  obtain ⟨_, positions, passed, checked, -, change⟩ := Judge.reorderRoles_plan planned
  obtain ⟨g₀, rows₀, rfl⟩ := Judge.passes_gate_rows passed
  cases rows.symm.trans rows₀
  have movable : ∀ move ∈ positions, ∃ row, g.roles.get? move.1 = some row ∧
      row.isEveryone = false := by
    intro move listed
    obtain ⟨row, stored, plain, -⟩ := (Judge.mayMove_rows keyed).mp (checked move listed)
    exact ⟨row, stored, plain⟩
  have applied : service.store.apply around.now p.change =
      .ok (service.store.setRows guild (positions.foldl (Store.moveRole around.now) g)) := by
    rw [change]
    exact Store.setPositions_done rows movable around.now
  rw [reorderRoles_done valid planned applied]
  rfl

/-- Reordering is exact: for an insider who may manage roles it succeeds exactly if the request is
acceptable, where the rank of the actor is that of their highest role. Then each listed role stands
where it was asked to, nothing else of the rows differs, and the answer is the list of all roles of
the guild by rank. A request that fails moves nothing, however much of it was acceptable. -/
theorem reordering_is_exact (service : Service) (around : Surroundings) (guild actor : Snowflake)
    (request : ReorderRoles) (reach : service.store.Reachable)
    (rows : service.store.guilds.get? guild = some g) (inside : g.hasInsider actor = true)
    (may : (g.serverOf actor).has .manageRoles = true) :
    g.StandsAt actor (g.rankOf actor) ∧
    ((service.handle around (.reorderRoles guild actor request)).2.isOk = true ↔
      request.Acceptable g actor) ∧
    (∀ after answer, service.handle around (.reorderRoles guild actor request) =
        (after, .ok answer) →
      ∃ g' roles, service.Remakes after guild g g' ∧ g.Reordered around.now request g' ∧
        g'.ListedByRank roles ∧ answer = .roles (roles.map Role.view)) ∧
    ∀ after cause, service.handle around (.reorderRoles guild actor request) =
        (after, .error cause) →
      ∀ other, after.store.tables? other = service.store.tables? other := by
  have keyed := reach.keyed
  refine ⟨g.rankOf_cases actor, ⟨fun ok => ?_, acceptable_done keyed rows inside may⟩,
    fun after answer done => (reorderRoles_carried keyed rows done).2, fun after cause failed => ?_⟩
  · obtain ⟨answer, done⟩ := answer_of_isOk service around _ ok
    exact (reorderRoles_carried keyed rows done).1
  · rcases handle_cases service around (.reorderRoles guild actor request) with ⟨-, quiet⟩ |
      ⟨_, -, -, quiet⟩ | ⟨_, _, -, -, answered, -⟩
    · rw [failed] at quiet
      exact quiet.tables
    · rw [failed] at quiet
      exact quiet.tables
    · rw [failed] at answered
      cases answered

/-- In the small guild the owner swaps the two roles, whatever way their identifiers are written.
The moderator may move the role below theirs but not their own, so a request for both moves
neither. -/
theorem reordering_is_exact_sample :
    let swap : ReorderRoles := ⟨[⟨"10", 5⟩, ⟨" +11", 10⟩]⟩
    let uneven : ReorderRoles := ⟨[⟨"11", 7⟩, ⟨"10", 3⟩]⟩
    swap.Acceptable Store.sampleRows (.wrap 1) ∧
      (∃ after answer, ∃ g' : GuildRows,
        sample.handle .sample (.reorderRoles (.wrap 1) (.wrap 1) swap) = (after, .ok answer) ∧
        after.store.tables? (.wrap 1) = some g'.withoutLog ∧
        (g'.roles.get? (.wrap 10)).map (·.position) = some 5 ∧
        (g'.roles.get? (.wrap 11)).map (·.position) = some 10) ∧
      ¬ uneven.Acceptable Store.sampleRows (.wrap 2) ∧
      ∃ after cause,
        sample.handle .sample (.reorderRoles (.wrap 1) (.wrap 2) uneven) = (after, .error cause) ∧
        after.store.tables? (.wrap 1) = sample.store.tables? (.wrap 1) := by
  intro swap uneven
  have rows : sample.store.guilds.get? (.wrap 1) = some Store.sampleRows := (Option.some_get _).symm
  obtain ⟨-, accepts, swaps, -⟩ := reordering_is_exact sample .sample (.wrap 1) (.wrap 1) swap
    Store.sample_reachable rows (by decide) (by decide)
  obtain ⟨-, refuses, -, idles⟩ := reordering_is_exact sample .sample (.wrap 1) (.wrap 2) uneven
    Store.sample_reachable rows (by decide) (by decide)
  have ten : Snowflake.parse? "10" = some (.wrap 10) := by decide +kernel
  have eleven : Snowflake.parse? " +11" = some (.wrap 11) := by decide +kernel
  have acceptable : swap.Acceptable Store.sampleRows (.wrap 1) := by
    refine ⟨by decide, by decide, ?_, by decide +kernel⟩
    intro m listed
    rcases List.mem_cons.mp listed with rfl | later
    · exact ⟨.wrap 10, _, ten, rfl, rfl, .inl rfl, .inl rfl⟩
    · obtain rfl := List.mem_singleton.mp later
      exact ⟨.wrap 11, _, eleven, rfl, rfl, .inl rfl, .inl rfl⟩
  have unacceptable : ¬ uneven.Acceptable Store.sampleRows (.wrap 2) := fun acceptable =>
    absurd (refuses.mpr acceptable) (by decide +kernel)
  refine ⟨acceptable, ?_, unacceptable, ?_⟩
  · obtain ⟨answer, done⟩ := answer_of_isOk sample .sample _ (accepts.mpr acceptable)
    obtain ⟨g', roles, remade, reordered, -⟩ := swaps _ answer done
    refine ⟨_, answer, g', done, remade.rewritten, ?_, ?_⟩
    · obtain ⟨id, row, parsed, -, set⟩ := reordered.listed ⟨"10", 5⟩ (by simp [swap])
      cases ten.symm.trans parsed
      rw [set]
      rfl
    · obtain ⟨id, row, parsed, -, set⟩ := reordered.listed ⟨" +11", 10⟩ (by simp [swap])
      cases eleven.symm.trans parsed
      rw [set]
      rfl
  · cases failed : sample.handle .sample (.reorderRoles (.wrap 1) (.wrap 2) uneven) with
    | mk after result =>
      cases result with
      | error cause => exact ⟨after, cause, rfl, idles after cause failed (.wrap 1)⟩
      | ok answer => exact absurd (refuses.mp (by rw [failed]; rfl)) unacceptable

end Service

end GuildAccess
