import GuildAccess.Proofs.OverrideEdits
import GuildAccess.Proofs.Precedence

/-!
Who resolves to an administrator. Server-wide, ADMINISTRATOR never comes without all other flags. In
a channel the same holds for administrators of the server, whatever the overrides say. Anyone else
is given ADMINISTRATOR in a channel by an override that allows it, and then it is one flag among
others: what the overrides withhold stays withheld.
-/
namespace GuildAccess

/-- Server-wide, whoever has ADMINISTRATOR has every flag. -/
theorem Resolver.server_of_administrator {roles : List Role} {held : List Snowflake}
    {isOwner : Bool} (admin : (server roles held isOwner).has .administrator = true) :
    server roles held isOwner = .all := by
  refine Permissions.ext_has fun f => ?_
  rw [Permissions.has_all, server_has, Bool.or_eq_true, List.any_eq_true]
  rw [server_has, Bool.or_eq_true, List.any_eq_true] at admin
  refine admin.imp_right ?_
  rintro ⟨r, listed, both⟩
  obtain ⟨counts, granted⟩ := (Bool.and_eq_true _ _).mp both
  exact ⟨r, listed, (Bool.and_eq_true _ _).mpr ⟨counts, Role.grants_of_administrator granted⟩⟩

namespace Snapshot
variable {s : Snapshot} {f : Flag}

/-- The overwrites of the loaded channel that apply to the user, in the order in which they do. -/
def layers (s : Snapshot) : List Overwrite :=
  Resolver.layers (sortRanked Resolver.rankOf (s.heldRoles.filter fun r => !r.isEveryone))
    (Resolver.overwriteOf? s.roleOverwrites) s.everyoneOverwrite? s.userOverwrite?

/-- The overwrites have the last word on a flag and allow it. -/
def Allows (s : Snapshot) (f : Flag) : Prop :=
  ∃ o, Overwrite.LastOn f s.layers o ∧ o.allow.has f = true

/-- The overwrites have the last word on a flag and do not allow it, or say nothing about it and
the user lacks it server-wide. -/
def Withholds (s : Snapshot) (f : Flag) : Prop :=
  (∃ o, Overwrite.LastOn f s.layers o ∧ o.allow.has f = false) ∨
    ((∀ o ∈ s.layers, o.mentions f = false) ∧ s.server.has f = false)

/-- The overwrites make an administrator of someone who is none server-wide, but do not give them
every flag. -/
def PromotesInPart (s : Snapshot) : Prop :=
  s.server.has .administrator = false ∧ s.Allows .administrator ∧ ∃ f, s.Withholds f

theorem channel_eq_foldl (plain : s.server.has .administrator = false) :
    s.channel = s.layers.foldl (fun p o => o.apply p) s.server :=
  Resolver.channel_eq_layers plain (Resolver.byRank_sortRanked _)
    (Resolver.overwriteOf?_isMapOf _) _ _

/-- Who is no administrator of the server lacks in the channel what is withheld there. -/
theorem channel_lacks_iff (plain : s.server.has .administrator = false) :
    s.channel.has f = false ↔ s.Withholds f := by
  rw [channel_eq_foldl plain]
  constructor
  · intro lacking
    rcases Overwrite.lastOn_or_silent f s.layers with ⟨o, last⟩ | silent
    · rw [last.decides] at lacking
      exact .inl ⟨o, last, lacking⟩
    · rw [Overwrite.has_foldl_of_silent silent] at lacking
      exact .inr ⟨silent, lacking⟩
  · rintro (⟨o, last, notAllowed⟩ | ⟨silent, lacking⟩)
    · rw [last.decides, notAllowed]
    · rw [Overwrite.has_foldl_of_silent silent, lacking]

/-- Who is no administrator of the server is one in the channel by its overwrites only. -/
theorem channel_administrator_iff (plain : s.server.has .administrator = false) :
    s.channel.has .administrator = true ↔ s.Allows .administrator := by
  rw [channel_eq_foldl plain, Overwrite.has_foldl_apply, plain]
  simp [Allows]

/-- Server-wide, and in a channel for administrators of the server, ADMINISTRATOR comes with every
flag. In a channel it does for everyone else exactly unless the overwrites allow it to a user from
whom they withhold some other flag. -/
theorem administrators_hold_every_flag (roles : List Role) (held : List Snowflake) (isOwner : Bool)
    (s : Snapshot) :
    ((Resolver.server roles held isOwner).has .administrator = true →
      Resolver.server roles held isOwner = .all) ∧
    (s.server.has .administrator = true → s.channel = .all) ∧
    ((s.channel.has .administrator = true → s.channel = .all) ↔ ¬ s.PromotesInPart) := by
  have bypass : s.server.has .administrator = true → s.channel = .all := fun admin => if_pos admin
  refine ⟨Resolver.server_of_administrator, bypass, fun closed promoted => ?_,
    fun spared admin => ?_⟩
  · obtain ⟨plain, allowed, f, withheld⟩ := promoted
    have whole := closed ((channel_administrator_iff plain).mpr allowed)
    have lacking := (channel_lacks_iff plain).mpr withheld
    rw [whole, Permissions.has_all] at lacking
    cases lacking
  · cases plain : s.server.has .administrator with
    | true => exact bypass plain
    | false =>
      refine Permissions.ext_has fun f => ?_
      rw [Permissions.has_all]
      cases lacking : s.channel.has f with
      | true => rfl
      | false =>
        exact absurd ⟨plain, (channel_administrator_iff plain).mp admin, f,
          (channel_lacks_iff plain).mp lacking⟩ spared

/-- What is loaded for user 2, who holds role 12 with the given mark, in a channel with an overwrite
for them. -/
def keeper (isAdmin : Bool) (overwrite : Overwrite) : Snapshot :=
  let id := Snowflake.wrap
  let now : Instant := ⟨0, 0⟩
  { userId := id 2
    roles := [.everyone (id 1) (id 1) now,
      { Role.new (id 12) (id 1) "keeper" (.only .manageRoles) now with isAdmin := isAdmin }]
    held := [id 12]
    isOwner := false
    overrides := [⟨id 20, id 1, .member (id 2), overwrite, now⟩] }

/-- The mark makes an administrator who can send although that is denied. Without the mark, to be
allowed ADMINISTRATOR in the channel does not give leave to ban. -/
theorem administrators_hold_every_flag_sample :
    let marked := keeper true ⟨∅, .only .sendMessages⟩
    let promoted := keeper false ⟨.only .administrator, ∅⟩
    marked.server.has .administrator = true ∧ marked.server = .all ∧ marked.channel = .all ∧
      promoted.PromotesInPart ∧
      ¬ (promoted.channel.has .administrator = true → promoted.channel = .all) := by
  intro marked promoted
  obtain ⟨whole, bypass, -⟩ :=
    administrators_hold_every_flag marked.roles marked.held marked.isOwner marked
  obtain ⟨-, -, closed⟩ := administrators_hold_every_flag [] [] false promoted
  have admin : marked.server.has .administrator = true := by decide
  have applied : promoted.layers = [⟨.only .administrator, ∅⟩] := by decide +kernel
  have inPart : promoted.PromotesInPart := by
    refine ⟨by decide, ⟨_, ⟨[], [], applied, by decide⟩, by decide⟩, .banMembers, .inr ⟨?_, ?_⟩⟩
    · rw [applied]
      decide
    · decide
  exact ⟨admin, whole admin, bypass admin, inPart, fun full => closed.mp full inPart⟩

end Snapshot

/-- The owner allows ADMINISTRATOR to member 3 in the channel. It is set there, and banning is still
refused to them. -/
theorem Service.channel_administrator_lacks_flags :
    let promote := Call.setOverride (.wrap 20) (.member (.wrap 3)) (.wrap 1)
      ⟨.only .administrator, ∅⟩
    let after := (channelSample.handle .sample promote).1
    Store.channelSample.Reachable ∧ (channelSample.handle .sample promote).2.isOk = true ∧
      (after.store.channelOf (.wrap 20) (.wrap 3)).has .administrator = true ∧
      (after.store.channelOf (.wrap 20) (.wrap 3)).has .banMembers = false ∧
      after.store.channelOf (.wrap 20) (.wrap 3) ≠ .all :=
  ⟨Store.channelSample_reachable, by decide +kernel, by decide +kernel, by decide +kernel,
    by decide +kernel⟩

end GuildAccess
