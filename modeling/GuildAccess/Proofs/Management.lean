import GuildAccess.Proofs.Permitted
import GuildAccess.Proofs.Relevance

/-!
Who may manage whom. Among the members of a guild and its owner management is a strict order: the
owner stands above everybody, and everybody else above those whose highest role is below theirs. So
no two members manage each other, and no chain of members comes back to where it started. The
question is refused only if it is about somebody from outside.
-/
namespace GuildAccess

namespace GuildRows
variable {g : GuildRows} {a b c : Snowflake}

theorem not_outranks_self (g : GuildRows) (a : Snowflake) : ¬ g.Outranks a a := by
  rintro ⟨plain, owner | below⟩
  · rw [plain] at owner
    cases owner
  · exact Int.lt_irrefl _ below

theorem Outranks.trans (above : g.Outranks a b) (below : g.Outranks b c) : g.Outranks a c := by
  refine ⟨below.1, above.2.imp_right fun higher => ?_⟩
  -- The one in the middle is managed, so they are not the owner and stand above by rank.
  rcases below.2 with owner | lower
  · rw [above.1] at owner
    cases owner
  · exact Int.lt_trans lower higher

/-- The owner stands above everybody else. -/
theorem outranks_of_owner (owner : g.guild.isOwner a = true) (other : b ≠ a) : g.Outranks a b := by
  refine ⟨?_, .inl owner⟩
  unfold Guild.isOwner at owner ⊢
  rw [decide_eq_true_eq] at owner
  exact decide_eq_false fun same => other (same.symm.trans owner)

/-- Nobody stands above the owner. -/
theorem not_outranks_owner (owner : g.guild.isOwner b = true) : ¬ g.Outranks a b := by
  rintro ⟨plain, -⟩
  cases owner.symm.trans plain

/-- Below the owner the highest roles decide. -/
theorem outranks_iff_rank (plain : g.guild.isOwner a = false) (plain' : g.guild.isOwner b = false) :
    g.Outranks a b ↔ g.rankOf b < g.rankOf a := by
  simp [Outranks, MayReach, plain, plain']

end GuildRows

/-- A refusal to act on a member is always one by rank. -/
theorem Resolver.checkMember_refused {isOwner targetIsOwner : Bool} {highest targetHighest : Int}
    {cause : Fault}
    (refused : checkMember isOwner highest targetIsOwner targetHighest = .error cause) :
    cause.kind = .forbidden := by
  unfold checkMember at refused
  split at refused
  · cases refused
    rfl
  · split at refused
    · cases refused
    · cases refused
      rfl

namespace Judge
variable {s : Store} {guild a b : Snowflake} {g : GuildRows}

/-- A decision without a channel is about insiders only. -/
theorem guildSnapshot_of_rows (rows : s.guilds.get? guild = some g) (user : Snowflake) :
    Judge.snapshot s guild user none =
      if g.hasInsider user then .ok (g.snapshot user none) else .error (.fault .unknownMember) :=
  snapshot_of_rows rows fun _ none => by cases none

/-- About insiders there is a plain answer, as a refusal by rank is told as false. -/
theorem canManageMember_of_insiders (rows : s.guilds.get? guild = some g)
    (inside : g.hasInsider a = true) (inside' : g.hasInsider b = true) :
    ∃ t, canManageMember s guild a b = .ok (.answer (.truth t)) ∧ (t = true ↔ g.Outranks a b) := by
  have ranked : outranksMember s (g.snapshot a none) guild b =
      (Resolver.checkMember (g.guild.isOwner a) (g.rankOf a) (g.guild.isOwner b)
        (g.rankOf b)).mapError .fault := by
    unfold outranksMember
    rw [guildSnapshot_of_rows rows, if_pos inside']
    rfl
  have above : Resolver.checkMember (g.guild.isOwner a) (g.rankOf a) (g.guild.isOwner b)
      (g.rankOf b) = .ok () ↔ g.Outranks a b := Resolver.passes_checkMember
  unfold canManageMember
  rw [guildSnapshot_of_rows rows, if_pos inside]
  simp only [mustCall, mapError_ok, bind, Except.bind, ranked]
  cases checked : Resolver.checkMember (g.guild.isOwner a) (g.rankOf a) (g.guild.isOwner b)
      (g.rankOf b) with
  | ok u => exact ⟨true, rfl, by simp [above.mp checked]⟩
  | error cause =>
    rw [checked] at above
    exact ⟨false, by simp [Resolver.checkMember_refused checked], by simpa using above⟩

/-- About anybody else the question is refused. -/
theorem canManageMember_of_outsider (rows : s.guilds.get? guild = some g)
    (outside : g.hasInsider a = false ∨ g.hasInsider b = false) :
    canManageMember s guild a b = .error (.error (.fault .unknownMember)) := by
  unfold canManageMember outranksMember
  rw [guildSnapshot_of_rows rows, guildSnapshot_of_rows rows]
  cases inside : g.hasInsider a with
  | false => rfl
  | true =>
    rw [outside.resolve_left (by simp [inside])]
    rfl

end Judge

namespace Service
variable {service : Service} {around : Surroundings} {guild a b c : Snowflake} {g : GuildRows}

/-- One user is found to be able to manage another. -/
def Manages (service : Service) (around : Surroundings) (guild a b : Snowflake) : Prop :=
  (service.handle around (.canManageMember guild a b)).2 = .ok (.truth true)

theorem handle_canManageMember : service.handle around (.canManageMember guild a b) =
    service.settle around (Judge.canManageMember service.store guild a b) := rfl

theorem asked_of_insiders (rows : service.store.guilds.get? guild = some g)
    (inside : g.hasInsider a = true) (inside' : g.hasInsider b = true) :
    ∃ t, (service.handle around (.canManageMember guild a b)).2 = .ok (.truth t) ∧
      (t = true ↔ g.Outranks a b) := by
  obtain ⟨t, answered, above⟩ := Judge.canManageMember_of_insiders rows inside inside'
  rw [handle_canManageMember, answered]
  exact ⟨t, rfl, above⟩

theorem asked_of_outsider (rows : service.store.guilds.get? guild = some g)
    (outside : g.hasInsider a = false ∨ g.hasInsider b = false) :
    (service.handle around (.canManageMember guild a b)).2 = .error (.fault .unknownMember) := by
  rw [handle_canManageMember, Judge.canManageMember_of_outsider rows outside]
  rfl

theorem asked_of_unknown (unknown : service.store.guilds.get? guild = none) :
    (service.handle around (.canManageMember guild a b)).2 =
      .error (.unknown "Guild" guild.render) := by
  have refused : Judge.snapshot service.store guild a none =
      .error (.unknown "Guild" guild.render) := by
    simp [Judge.snapshot, Store.permissionInputs?, unknown]
  rw [handle_canManageMember, Judge.canManageMember, refused]
  rfl

/-- Between insiders management is a matter of rank. -/
theorem manages_of_insiders (rows : service.store.guilds.get? guild = some g)
    (inside : g.hasInsider a = true) (inside' : g.hasInsider b = true) :
    service.Manages around guild a b ↔ g.Outranks a b := by
  obtain ⟨t, answered, above⟩ := asked_of_insiders rows inside inside'
  unfold Manages
  rw [answered, ← above]
  simp

/-- Management holds between insiders of one guild, from the one above to the one below. -/
theorem manages_iff : service.Manages around guild a b ↔
    ∃ g, service.store.guilds.get? guild = some g ∧ g.hasInsider a = true ∧
      g.hasInsider b = true ∧ g.Outranks a b := by
  constructor
  · intro manages
    unfold Manages at manages
    cases rows : service.store.guilds.get? guild with
    | none =>
      rw [asked_of_unknown rows] at manages
      cases manages
    | some g =>
      cases inside : g.hasInsider a with
      | false =>
        rw [asked_of_outsider rows (.inl inside)] at manages
        cases manages
      | true =>
        cases inside' : g.hasInsider b with
        | false =>
          rw [asked_of_outsider rows (.inr inside')] at manages
          cases manages
        | true =>
          exact ⟨g, rfl, inside, inside', (manages_of_insiders rows inside inside').mp manages⟩
  · rintro ⟨g, rows, inside, inside', above⟩
    exact (manages_of_insiders rows inside inside').mpr above

theorem Manages.irrefl (a : Snowflake) : ¬ service.Manages around guild a a := by
  intro manages
  obtain ⟨g, -, -, -, above⟩ := manages_iff.mp manages
  exact g.not_outranks_self a above

theorem Manages.trans (above : service.Manages around guild a b)
    (below : service.Manages around guild b c) : service.Manages around guild a c := by
  obtain ⟨g, rows, inside, -, first⟩ := manages_iff.mp above
  obtain ⟨g', rows', -, inside', second⟩ := manages_iff.mp below
  cases rows.symm.trans rows'
  exact manages_iff.mpr ⟨g, rows, inside, inside', first.trans second⟩

/-- Management is a strict order: nobody manages themselves, no two users manage each other, and who
manages somebody manages all whom that one manages. About members of the guild and its owner there
is always an answer: the owner manages everybody else and is managed by nobody, and of two others
the one manages the other whose highest role stands higher. About anybody else there is none. The
rank of a user is spelled out by `StandsAt`. -/
theorem management_is_a_strict_order (service : Service) (around : Surroundings)
    (guild : Snowflake) :
    (∀ a, ¬ service.Manages around guild a a) ∧
    (∀ a b, service.Manages around guild a b → ¬ service.Manages around guild b a) ∧
    (∀ a b c, service.Manages around guild a b → service.Manages around guild b c →
      service.Manages around guild a c) ∧
    (∀ g, service.store.guilds.get? guild = some g → (∀ a, g.StandsAt a (g.rankOf a)) ∧ ∀ a b,
      (g.hasInsider a = true → g.hasInsider b = true →
        (∃ t, (service.handle around (.canManageMember guild a b)).2 = .ok (.truth t)) ∧
        (g.guild.isOwner a = true → b ≠ a → service.Manages around guild a b) ∧
        (g.guild.isOwner b = true → ¬ service.Manages around guild a b) ∧
        (g.guild.isOwner a = false → g.guild.isOwner b = false →
          (service.Manages around guild a b ↔ g.rankOf b < g.rankOf a))) ∧
      (g.hasInsider a = false ∨ g.hasInsider b = false →
        (service.handle around (.canManageMember guild a b)).2 =
          .error (.fault .unknownMember))) ∧
    (service.store.guilds.get? guild = none → ∀ a b,
      (service.handle around (.canManageMember guild a b)).2 =
        .error (.unknown "Guild" guild.render)) := by
  refine ⟨Manages.irrefl, fun a b above below => Manages.irrefl a (above.trans below),
    fun a b c => Manages.trans, fun g rows => ⟨g.rankOf_cases, fun a b => ⟨fun inside inside' => ?_,
    asked_of_outsider rows⟩⟩, fun unknown a b => asked_of_unknown unknown⟩
  obtain ⟨t, answered, -⟩ := asked_of_insiders rows inside inside'
  rw [manages_of_insiders rows inside inside']
  exact ⟨⟨t, answered⟩, GuildRows.outranks_of_owner, GuildRows.not_outranks_owner,
    GuildRows.outranks_iff_rank⟩

/-- In the small guild the owner manages the moderator, and the moderator a member without a role.
About user 4, who is not there, nothing is answered. -/
theorem management_is_a_strict_order_sample :
    sample.Manages .sample (.wrap 1) (.wrap 1) (.wrap 2) ∧
    sample.Manages .sample (.wrap 1) (.wrap 2) (.wrap 3) ∧
    sample.Manages .sample (.wrap 1) (.wrap 1) (.wrap 3) ∧
    ¬ sample.Manages .sample (.wrap 1) (.wrap 3) (.wrap 2) ∧
    (sample.handle .sample (.canManageMember (.wrap 1) (.wrap 2) (.wrap 4))).2 =
      .error (.fault .unknownMember) := by
  obtain ⟨-, asymm, trans, order, -⟩ := management_is_a_strict_order sample .sample (.wrap 1)
  have rows : sample.store.guilds.get? (.wrap 1) = some Store.sampleRows := (Option.some_get _).symm
  have first : sample.Manages .sample (.wrap 1) (.wrap 1) (.wrap 2) :=
    (((order _ rows).2 (.wrap 1) (.wrap 2)).1 (by decide) (by decide)).2.1 (by decide) (by decide)
  have second : sample.Manages .sample (.wrap 1) (.wrap 2) (.wrap 3) :=
    ((((order _ rows).2 (.wrap 2) (.wrap 3)).1 (by decide) (by decide)).2.2.2 (by decide)
      (by decide)).mpr (by decide)
  exact ⟨first, second, trans _ _ _ first second, asymm _ _ second,
    ((order _ rows).2 (.wrap 2) (.wrap 4)).2 (by decide)⟩

end Service
end GuildAccess
