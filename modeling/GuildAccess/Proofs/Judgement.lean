import GuildAccess.Service

/-!
Judgements read backwards. A judgement is a chain of checks, so each check has one lemma that says
what its success amounts to, and one for whether it can deny a permission: only the gate can.
-/
namespace GuildAccess

/-- A chain passes if its first step passes and the rest passes on what that step gave. -/
theorem passes_bind {ε α β : Type} {step : Except ε α} {next : α → Except ε β} {value : β} :
    (step >>= next) = .ok value ↔ ∃ given, step = .ok given ∧ next given = .ok value := by
  cases step with
  | error cause => simp [bind, Except.bind]
  | ok given => simp [bind, Except.bind]

@[simp] theorem mapError_ok {ε ε' α : Type} (wrap : ε → ε') (value : α) :
    (Except.ok value).mapError wrap = .ok value := rfl

@[simp] theorem mapError_error {ε ε' α : Type} (wrap : ε → ε') (cause : ε) :
    (Except.error cause : Except ε α).mapError wrap = .error (wrap cause) := rfl

theorem passes_mapError {ε ε' α : Type} {check : Except ε α} {wrap : ε → ε'} {value : α} :
    check.mapError wrap = .ok value ↔ check = .ok value := by
  cases check <;> simp

theorem Store.passes_need {α : Type} {row : Option α} {cause : Fault} {found : α} :
    Store.need row cause = .ok found ↔ row = some found := by
  cases row <;> simp [Store.need]

namespace GuildRows

/-- The ids of the roles listed for a user; one who is no member has none. -/
def heldBy (g : GuildRows) (user : Snowflake) : List Snowflake :=
  ((g.members.get? user).map (·.roles)).getD []

def hasInsider (g : GuildRows) (user : Snowflake) : Bool :=
  g.guild.isOwner user || (g.members.get? user).isSome

/-- The overrides of a channel of the guild; none without a channel. -/
def overridesIn (g : GuildRows) (channel : Option Snowflake) : List ChannelOverride :=
  match channel.bind g.channels.get? with
  | some c => g.overridesOf c.id
  | none => []

def snapshot (g : GuildRows) (user : Snowflake) (channel : Option Snowflake) : Snapshot :=
  ⟨user, g.roleList, g.heldBy user, g.guild.isOwner user, g.overridesIn channel⟩

/-- Highest position that a user holds. -/
def rankOf (g : GuildRows) (user : Snowflake) : Int :=
  Resolver.highest g.roleList (g.heldBy user)

end GuildRows

namespace Resolver

/-- A position is manageable for the owner and from above. -/
theorem passes_checkPosition {isOwner : Bool} {highest position : Int} :
    checkPosition isOwner highest position = .ok () ↔ isOwner = true ∨ position < highest := by
  unfold checkPosition
  split <;> simp_all

/-- What may be granted is what the actor has. -/
theorem passes_checkGrant {actor granted : Permissions} :
    checkGrant actor granted = .ok () ↔ ∀ f, granted.has f = true → actor.has f = true := by
  have emptied : (granted \ actor).isEmpty = true ↔
      ∀ f, granted.has f = true → actor.has f = true := by
    unfold Permissions.isEmpty
    rw [decide_eq_true_eq]
    constructor
    · intro gone f granted_f
      have cleared : (granted \ actor).has f = false := by rw [gone]; exact Permissions.has_empty f
      rw [Permissions.has_sdiff, granted_f] at cleared
      simpa using cleared
    · intro covered
      apply Permissions.ext_has
      intro f
      rw [Permissions.has_sdiff, Permissions.has_empty]
      cases granted_f : granted.has f with
      | false => rfl
      | true => simp [covered f granted_f]
  unfold checkGrant
  split
  · next gone => exact ⟨fun _ => emptied.mp gone, fun _ => rfl⟩
  · next left => exact ⟨fun h => (by cases h), fun covered => absurd (emptied.mpr covered) left⟩

/-- A member is manageable from above, and for the owner, unless the member is the owner. -/
theorem passes_checkMember {isOwner targetIsOwner : Bool} {highest targetHighest : Int} :
    checkMember isOwner highest targetIsOwner targetHighest = .ok () ↔
      targetIsOwner = false ∧ (isOwner = true ∨ targetHighest < highest) := by
  unfold checkMember
  split
  · simp_all
  · split <;> simp_all

end Resolver

namespace Judge

theorem passes_must {α : Type} {check : Except Fault α} {value : α} :
    must check = .ok value ↔ check = .ok value := passes_mapError

theorem passes_mustCall {α : Type} {check : Except CallError α} {value : α} :
    mustCall check = .ok value ↔ check = .ok value := passes_mapError

theorem passes_refuseIf {bad : Bool} {cause : Fault} {u : Unit} :
    refuseIf bad cause = .ok u ↔ bad = false := by
  cases bad <;> simp [refuseIf]

theorem passes_outranksPosition {actor : Snapshot} {position : Int} {u : Unit} :
    outranksPosition actor position = .ok u ↔ actor.isOwner = true ∨ position < actor.highest :=
  passes_must.trans Resolver.passes_checkPosition

/-- A snapshot is taken of insiders only, in the guild or in one of its channels, and holds what the
rows of the guild say. -/
theorem passes_snapshot {s : Store} {guild user : Snowflake} {channel : Option Snowflake}
    {taken : Snapshot} :
    Judge.snapshot s guild user channel = .ok taken ↔
      ∃ g, s.guilds.get? guild = some g ∧ g.hasInsider user = true ∧
        (∀ id, channel = some id → (g.channels.get? id).isSome = true) ∧
        taken = g.snapshot user channel := by
  unfold Judge.snapshot Store.permissionInputs?
  cases s.guilds.get? guild with
  | none => simp
  | some g =>
    simp only [Option.map_some, Option.some.injEq, exists_eq_left']
    -- The refusal tests for no member and no owner, which is the insider test turned around.
    by_cases inside : g.hasInsider user = true
    · have passed : ((g.members.get? user).isNone && !g.guild.isOwner user) = false := by
        unfold GuildRows.hasInsider at inside
        cases member : g.members.get? user <;> simp_all
      rw [passed]
      cases channel with
      | none =>
        simp only [Bool.false_eq_true, if_false, Except.ok.injEq]
        exact ⟨fun same => ⟨inside, fun _ none => (by cases none), same.symm⟩,
          fun parts => parts.2.2.symm⟩
      | some id =>
        cases row : g.channels.get? id with
        | none => simp [row]
        | some c =>
          have loaded : g.overridesIn (some id) = g.overridesOf c.id := by
            simp [GuildRows.overridesIn, row]
          simp only [Option.bind_some, row, Bool.false_eq_true, if_false, Except.ok.injEq,
            GuildRows.snapshot, loaded]
          refine ⟨fun same => ⟨inside, ?_, same.symm⟩, fun parts => parts.2.2.symm⟩
          rintro _ ⟨⟩
          rw [row]
          rfl
    · have stopped : ((g.members.get? user).isNone && !g.guild.isOwner user) = true := by
        unfold GuildRows.hasInsider at inside
        cases member : g.members.get? user <;> simp_all
      simp [stopped, inside]

/-- The gate lets pass who holds one of the flags. -/
theorem passes_gate {s : Store} {guild user : Snowflake} {channel : Option Snowflake}
    {flags : List Flag} {attempt : Audit.Attempt} {caller : Snapshot} :
    gate s guild channel user flags attempt = .ok caller ↔
      Judge.snapshot s guild user channel = .ok caller ∧
        (flags = [] ∨ flags.any (resolved caller channel).has = true) := by
  unfold gate
  rw [passes_bind]
  simp only [passes_mustCall]
  constructor
  · rintro ⟨taken, loaded, passed⟩
    split at passed
    · next held => cases passed; exact ⟨loaded, .inr held⟩
    · split at passed
      · cases passed; exact ⟨loaded, .inl rfl⟩
      · cases passed
  · rintro ⟨loaded, held⟩
    refine ⟨caller, loaded, ?_⟩
    rcases held with rfl | held
    · simp
    · rw [if_pos held]

/-- One who is judged by the rows of a guild outranks the insiders ranked below, the owner never. -/
theorem passes_outranksMember {s : Store} {guild user target : Snowflake} {g : GuildRows}
    {channel : Option Snowflake} (found : s.guilds.get? guild = some g) :
    outranksMember s (g.snapshot user channel) guild target = .ok () ↔
      g.hasInsider target = true ∧ g.guild.isOwner target = false ∧
        (g.guild.isOwner user = true ∨ g.rankOf target < g.rankOf user) := by
  unfold outranksMember
  rw [passes_bind]
  simp only [passes_snapshot, found, Option.some.injEq, passes_mapError,
    Resolver.passes_checkMember]
  constructor
  · rintro ⟨other, ⟨_, rfl, inside, -, rfl⟩, notOwner, above⟩
    exact ⟨inside, notOwner, above⟩
  · rintro ⟨inside, notOwner, above⟩
    exact ⟨g.snapshot target none, ⟨g, rfl, inside, by simp, rfl⟩, notOwner, above⟩

theorem passes_findChannel {s : Store} {id : Snowflake} {row : Channel} :
    findChannel s id = .ok row ↔ s.channel? id = some row := by
  unfold findChannel
  split <;> simp_all

theorem findChannel_bind {s : Store} {id : Snowflake} {row : Channel} {α : Type}
    {next : Channel → Except Refusal α} (found : s.channel? id = some row) :
    (mustCall (findChannel s id) >>= next) = next row := by
  rw [passes_findChannel.mpr found]
  rfl

theorem passes_findRole {s : Store} {guild id : Snowflake} {row : Role} :
    findRole s guild id = .ok row ↔ s.role? id = some row ∧ row.guildId = guild := by
  unfold findRole
  cases s.role? id with
  | none => simp
  | some found =>
    simp only [Option.some.injEq]
    split
    · next here =>
      rw [Except.ok.injEq]
      exact ⟨fun same => ⟨same, same ▸ here⟩, fun same => same.1⟩
    · next elsewhere =>
      refine ⟨fun same => (by cases same), fun same => absurd same.2 ?_⟩
      exact same.1 ▸ elsewhere

/-- Whether a check refuses for the lack of the flags that a text lists. -/
def Denies {α : Type} (check : Except Refusal α) (flags : String) : Prop :=
  ∃ refusal, check = .error refusal ∧ refusal.cause = .denied flags

section Denies
variable {s : Store} {guild user id : Snowflake} {flags : String}

@[simp] theorem denies_ok {α : Type} {value : α} : ¬ Denies (.ok value) flags := by
  simp [Denies]

@[simp] theorem denies_error {α : Type} {refusal : Refusal} :
    Denies (.error refusal : Except Refusal α) flags ↔ refusal.cause = .denied flags := by
  simp [Denies]

@[simp] theorem denies_bind {α β : Type} {step : Except Refusal α} {next : α → Except Refusal β} :
    Denies (step >>= next) flags ↔
      Denies step flags ∨ ∃ given, step = .ok given ∧ Denies (next given) flags := by
  cases step with
  | error refusal => simp [bind, Except.bind]
  | ok given => simp [bind, Except.bind]

@[simp] theorem denies_ite {α : Type} {c : Prop} [Decidable c] {yes no : Except Refusal α} :
    Denies (if c then yes else no) flags ↔ if c then Denies yes flags else Denies no flags := by
  split <;> rfl

@[simp] theorem denies_must {α : Type} {check : Except Fault α} : ¬ Denies (must check) flags := by
  cases check <;> simp [must, Refusal.cause]

@[simp] theorem denies_mustCall {α : Type} {check : Except CallError α} :
    Denies (mustCall check) flags ↔ check = .error (.denied flags) := by
  cases check <;> simp [mustCall, Refusal.cause]

@[simp] theorem denies_refuseIf {bad : Bool} {cause : Fault} :
    ¬ Denies (refuseIf bad cause) flags := by
  cases bad <;> simp [refuseIf, Refusal.cause]

@[simp] theorem denies_outranksPosition {actor : Snapshot} {position : Int} :
    ¬ Denies (outranksPosition actor position) flags := denies_must

@[simp] theorem snapshot_ne_denied {channel : Option Snowflake} :
    Judge.snapshot s guild user channel ≠ .error (.denied flags) := by
  unfold Judge.snapshot
  split
  · simp
  · dsimp only
    split
    · simp
    · split <;> simp

@[simp] theorem findChannel_ne_denied : findChannel s id ≠ .error (.denied flags) := by
  unfold findChannel
  split <;> simp

@[simp] theorem findRole_ne_denied : findRole s guild id ≠ .error (.denied flags) := by
  unfold findRole
  split
  · split <;> simp
  · simp

@[simp] theorem outranksMember_ne_denied {actor : Snapshot} :
    outranksMember s actor guild user ≠ .error (.denied flags) := by
  unfold outranksMember
  cases taken : Judge.snapshot s guild user none with
  | error cause =>
    intro denied
    have same : cause = .denied flags := by simpa [bind, Except.bind] using denied
    exact snapshot_ne_denied (same ▸ taken)
  | ok other =>
    simp only [bind, Except.bind]
    cases Resolver.checkMember actor.isOwner actor.highest other.isOwner
      (Resolver.highest actor.roles other.held) <;> simp

/-- The gate denies insiders who hold none of its flags, and nobody else. -/
theorem denies_gate {channel : Option Snowflake} {wanted : List Flag} {attempt : Audit.Attempt} :
    Denies (gate s guild channel user wanted attempt) flags ↔
      ∃ caller, Judge.snapshot s guild user channel = .ok caller ∧ wanted ≠ [] ∧
        wanted.any (resolved caller channel).has = false ∧
        " or ".intercalate (wanted.map Flag.name) = flags := by
  unfold gate
  simp only [denies_bind, denies_mustCall, snapshot_ne_denied, false_or, passes_mustCall]
  refine exists_congr fun caller => and_congr_right fun _ => ?_
  cases held : wanted.any (resolved caller channel).has with
  | true => simp
  | false =>
    cases wanted with
    | nil => simp
    | cons first others => simp [Refusal.cause]

end Denies
end Judge
end GuildAccess
