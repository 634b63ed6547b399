import GuildAccess.Proofs.Store.Procedure

/-!
Requests to the store are carried out completely or leave no trace. That is not for want of writing
early: some changes write before they know whether they will fail, and then write what was there
already. Queries never fail and write nothing. After any sequence of requests, failed ones among
them, the store is what the successful changes alone make of it.
-/
namespace GuildAccess.Store

/-- What can be asked of the store. -/
inductive Query
  | guild (id : Snowflake)
  | channel (id : Snowflake)
  | channelList (guild : Snowflake)
  | role (id : Snowflake)
  | roleList (guild : Snowflake)
  | everyone (guild : Snowflake)
  | member (guild user : Snowflake)
  | memberPage (guild : Snowflake) (limit : Int) (after : Option Snowflake)
  | isMember (guild user : Snowflake)
  | memberRoles (guild user : Snowflake)
  | overrideList (channel : Snowflake)
  | override (channel : Snowflake) (target : OverrideTarget)
  | permissionInputs (guild user : Snowflake) (channel : Option Snowflake)
  | auditList (q : Audit.Query)

abbrev Query.Found : Query → Type
  | .guild _ => Option Guild
  | .channel _ => Option Channel
  | .channelList _ => List Channel
  | .role _ | .everyone _ => Option Role
  | .roleList _ => List Role
  | .member .. => Option Member
  | .memberPage .. => List Member
  | .isMember .. => Bool
  | .memberRoles .. => List Snowflake
  | .overrideList _ => List ChannelOverride
  | .override .. => Option ChannelOverride
  | .permissionInputs .. => Option PermissionInputs
  | .auditList _ => List Audit.Entry

def Query.answer (s : Store) : (q : Query) → q.Found
  | .guild id => s.guild? id
  | .channel id => s.channel? id
  | .channelList id => s.channelList id
  | .role id => s.role? id
  | .roleList id => s.roleList id
  | .everyone id => s.everyone? id
  | .member id user => s.member? id user
  | .memberPage id limit after => s.memberPage id limit after
  | .isMember id user => s.isMember id user
  | .memberRoles id user => s.memberRoles id user
  | .overrideList id => s.overrideList id
  | .override id target => s.override? id target
  | .permissionInputs id user within => s.permissionInputs? id user within
  | .auditList asked => s.auditList asked

/-- A request to the store. -/
inductive Request
  | query (q : Query)
  | change (change : Change)

abbrev Request.Given : Request → Type
  | .query q => q.Found
  | .change _ => Unit

def Request.procedure (now : Instant) : (request : Request) → Procedure request.Given
  | .query q => return q.answer (← get)
  | .change c => c.procedure now

/-- The store that steps leave, whether they failed or not. -/
def Procedure.left {α : Type} : EStateM.Result Fault Store α → Store
  | .ok _ s => s
  | .error _ s => s

def served (s : Store) (requests : List (Instant × Request)) : Store :=
  requests.foldl (fun s step => Procedure.left ((step.2.procedure step.1).run s)) s

def changesOf (requests : List (Instant × Request)) : Changes :=
  requests.filterMap fun step =>
    match step.2 with
    | .query _ => none
    | .change change => some (step.1, change)

variable {s after : Store} {now : Instant} {change : Change} {cause : Fault} {guild : Snowflake}
  {positions : List (Snowflake × Int)}

/-- A change fails write by write as it fails in one go, and nothing is left of it. -/
theorem Change.procedure_error (failed : (change.procedure now).run s = .error cause after) :
    after = s ∧ s.commit now change = (s, .error cause) := by
  rw [procedure_run] at failed
  unfold commit
  cases done : s.apply now change with
  | ok store =>
    rw [done] at failed
    cases failed
  | error cause =>
    rw [done] at failed
    cases failed
    exact ⟨rfl, rfl⟩

/-- A change succeeds write by write as it succeeds in one go. -/
theorem Change.procedure_ok (done : (change.procedure now).run s = .ok () after) :
    s.apply now change = .ok after := by
  rw [procedure_run] at done
  cases applied : s.apply now change with
  | ok store =>
    rw [applied] at done
    cases done
    rfl
  | error cause =>
    rw [applied] at done
    cases done

/-- One request leaves what the change that it is, if it is one, makes of the store. -/
theorem Request.left_eq (s : Store) (now : Instant) (request : Request) :
    Procedure.left ((request.procedure now).run s) =
      s.replay (changesOf [(now, request)]) := by
  cases request with
  | query q => rfl
  | change change =>
    show Procedure.left ((change.procedure now).run s) = (s.commit now change).1
    rw [Change.procedure_run]
    unfold commit
    cases s.apply now change <;> rfl

/-- Requests write by write come to what the changes among them do, each in one go or not at all. -/
theorem served_eq_replay (s : Store) (requests : List (Instant × Request)) :
    s.served requests = s.replay (changesOf requests) := by
  induction requests generalizing s with
  | nil => rfl
  | cons step rest ih =>
    obtain ⟨now, request⟩ := step
    show (Procedure.left ((request.procedure now).run s)).served rest = _
    rw [ih, Request.left_eq]
    cases request <;> rfl

/-- A role that a list names last with a position stands there once the list is carried out. -/
theorem movedTo_last (now : Instant) {first rest : List (Snowflake × Int)} {id : Snowflake}
    {position : Int} (last : ∀ later ∈ rest, later.1 ≠ id) (r : Role) :
    movedTo now (first ++ (id, position) :: rest) id r =
      { r with position := position, updatedAt := now } := by
  obtain ⟨earlier, time, before⟩ := movedTo_eq now first id r
  calc movedTo now (first ++ (id, position) :: rest) id r
      = movedTo now rest id ((movedTo now first id r).setPosition position now) := by
        unfold movedTo
        rw [List.foldl_append, List.foldl_cons, if_pos rfl]
    _ = (movedTo now first id r).setPosition position now := movedTo_of_not_mem last
    _ = { r with position := position, updatedAt := now } := by rw [before]; rfl

/-- The roles of a guild were moved: of each role that is listed the position is the last one listed
for it and the time of the last update is now, and nothing else in the store differs. -/
def Moved (now : Instant) (s after : Store) (guild : Snowflake)
    (positions : List (Snowflake × Int)) : Prop :=
  ∃ g roles, s.guilds.get? guild = some g ∧
    after.guilds.get? guild = some { g with roles := roles } ∧
    (∀ first rest id position, positions = first ++ (id, position) :: rest →
      (∀ later ∈ rest, later.1 ≠ id) →
        ∃ r, g.roles.get? id = some r ∧
          roles.get? id = some { r with position := position, updatedAt := now }) ∧
    (∀ id, (∀ move ∈ positions, move.1 ≠ id) → roles.get? id = g.roles.get? id) ∧
    (∀ other, other ≠ guild → after.guilds.get? other = s.guilds.get? other) ∧
    ∀ kind, after.index kind = s.index kind

theorem setPositions_moved (done : s.apply now (.setPositions guild positions) = .ok after) :
    s.Moved now after guild positions := by
  have index : ∀ kind, after.index kind = s.index kind := fun kind => by
    cases kind <;> exact apply_index done _
  have frame : ∀ other, other ≠ guild → after.guilds.get? other = s.guilds.get? other :=
    fun other elsewhere => apply_frame rfl done elsewhere
  simp only [apply, setPositions, passes_bind, passes_need] at done
  obtain ⟨g, found, done⟩ := done
  split at done
  · cases done
  · next movable =>
    cases done
    refine ⟨g, (positions.foldl (moveRole now) g).roles, found, ?_, ?_, ?_, frame, index⟩
    · rw [rows_setRows, ← moveRoles_frame]
    · intro first rest id position split last
      have listed : (id, position) ∈ positions := by simp [split]
      have here : isMovable g id = true := by
        simpa using List.find?_eq_none.mp movable _ listed
      obtain ⟨r, stored, -⟩ := (Option.any_eq_true _ _).mp here
      refine ⟨r, stored, ?_⟩
      rw [get?_moveRoles, stored, Option.map_some, split, movedTo_last now last]
    · intro id unnamed
      rw [get?_moveRoles]
      cases g.roles.get? id with
      | none => rfl
      | some r => rw [Option.map_some, movedTo_of_not_mem unnamed]

/-- Requests write by write leave the store that the changes among them make in one go each, and a
request that fails leaves it exactly as it found it: rows, logs and both indexes. Where the
positions of roles are set, each listed role ends at the last position listed for it, and nothing
else differs. -/
theorem failed_requests_leave_no_trace (history : List (Instant × Request)) (now : Instant) :
    empty.served history = empty.replay (changesOf history) ∧
    (∀ request cause after,
      (Request.procedure now request).run (empty.served history) = .error cause after →
        after = empty.served history ∧ ∃ change, request = .change change ∧
          (empty.served history).commit now change = (empty.served history, .error cause)) ∧
    ∀ guild positions after,
      ((Change.setPositions guild positions).procedure now).run (empty.served history) =
        .ok () after →
      (empty.served history).Moved now after guild positions := by
  refine ⟨served_eq_replay empty history, ?_, ?_⟩
  · intro request cause after failed
    cases request with
    | query q => cases failed
    | change change =>
      obtain ⟨same, committed⟩ := Change.procedure_error failed
      exact ⟨same, change, rfl, committed⟩
  · intro guild positions after done
    exact setPositions_moved (Change.procedure_ok done)

/-- A guild with role 10 and user 2, who has it; a query comes in between. -/
def sampleHistory : List (Instant × Request) :=
  let id := Snowflake.wrap
  let now : Instant := ⟨0, 0⟩
  [(now, .change (.createGuild (.new (id 1) "guild" (id 1) now) (.everyone (id 1) (id 1) now))),
    (now, .query (.roleList (id 1))),
    (now, .change (.createRole (.new (id 10) (id 1) "mod" (.only .manageRoles) now))),
    (now, .change (.createMember ((Member.new (id 1) (id 2) now).addRole (id 10) now)))]

/-- To assign the role once more fails after the member was written, and to move it to 3 and then to
7 leaves it at 7. -/
theorem failed_requests_leave_no_trace_sample :
    let s := empty.served sampleHistory
    let assign := Change.assignRole (.wrap 1) (.wrap 2) (.wrap 10)
    let positions : List (Snowflake × Int) := [(.wrap 10, 3), (.wrap 10, 7)]
    (∃ cause, (Request.procedure ⟨1, 0⟩ (.change assign)).run s = .error cause s ∧
      s.commit ⟨1, 0⟩ assign = (s, .error cause)) ∧
    ∃ after, ((Change.setPositions (.wrap 1) positions).procedure ⟨1, 0⟩).run s = .ok () after ∧
      s.Moved ⟨1, 0⟩ after (.wrap 1) positions := by
  intro s assign positions
  obtain ⟨-, fails, moves⟩ := failed_requests_leave_no_trace sampleHistory ⟨1, 0⟩
  constructor
  · have refused : (s.apply ⟨1, 0⟩ assign).isOk = false := by decide +kernel
    have run : (Request.procedure ⟨1, 0⟩ (.change assign)).run s = _ :=
      Change.procedure_run s ⟨1, 0⟩ assign
    cases applied : s.apply ⟨1, 0⟩ assign with
    | ok after => cases (applied ▸ refused)
    | error cause =>
      rw [applied] at run
      obtain ⟨-, change, same, committed⟩ := fails _ cause s run
      cases same
      exact ⟨cause, run, committed⟩
  · have carried : (s.apply ⟨1, 0⟩ (.setPositions (.wrap 1) positions)).isOk = true := by
      decide +kernel
    have run := Change.procedure_run s ⟨1, 0⟩ (.setPositions (.wrap 1) positions)
    cases applied : s.apply ⟨1, 0⟩ (.setPositions (.wrap 1) positions) with
    | ok after =>
      rw [applied] at run
      exact ⟨after, run, moves _ _ after run⟩
    | error cause => cases (applied ▸ carried)

end GuildAccess.Store
