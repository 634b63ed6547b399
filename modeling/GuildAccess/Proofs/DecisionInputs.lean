import GuildAccess.Proofs.Store.Routing
import GuildAccess.Proofs.Reordering

/-!
What a decision reads at one moment against what is read row by row. The rows of a guild come with
the guild, while a channel alone is found through an index of all guilds; the two agree where the
index leads to the guild that has the channel. That is so all along as long as guilds do not share
identifiers of channels.
-/
namespace GuildAccess

/-- Of two keys with the same first part the second parts decide. -/
theorem Key.before_snd {α β : Type} [Key α] [Key β] {a : α} {b b' : β}
    (below : Key.before (a, b) (a, b') = true) : Key.before b b' = true := by
  have parts : (Key.before a a || (decide (a = a) && Key.before b b')) = true := below
  simpa [Key.irrefl] using parts

/-- Members come before roles, and targets of one kind by identifier. -/
theorem OverrideTarget.before_iff {a b : OverrideTarget} :
    Key.before a b = true ↔ a.kind < b.kind ∨ (a.kind = b.kind ∧ a.id < b.id) := by
  have apart : "member" < "role" ∧ ¬ "role" < "member" ∧ "member" ≠ "role" := by decide
  cases a <;> cases b <;> simp [Key.before, before, kind, OverrideTarget.id, apart] <;> rfl

namespace GuildRows
variable {g : GuildRows} {guild channel : Snowflake}

/-- A list of all overrides of a channel, each of them once, by kind of target and then by
identifier. -/
structure ListedByTarget (g : GuildRows) (channel : Snowflake) (overrides : List ChannelOverride) :
    Prop where
  mem_iff : ∀ o, o ∈ overrides ↔ g.overrides.get? (channel, o.target) = some o
  ascending : overrides.Pairwise fun a b =>
    a.target.kind < b.target.kind ∨ (a.target.kind = b.target.kind ∧ a.target.id < b.target.id)

/-- The order of the rows is that of their keys, which are told apart by the target in one
channel. -/
theorem Keyed.listedByTarget (keyed : g.Keyed guild) (channel : Snowflake) :
    g.ListedByTarget channel (g.overridesOf channel) where
  mem_iff _ := keyed.mem_overridesOf
  ascending := by
    let key (o : ChannelOverride) := (o.channelId, o.target)
    have rows : g.overrides.rows.Pairwise fun a b => Key.before (key a) (key b) = true :=
      g.overrides.rows_ascending keyed.override_id
    refine (rows.filter _).imp_of_mem fun listed listed' below => ?_
    have here := of_decide_eq_true (List.mem_filter.mp listed).2
    have here' := of_decide_eq_true (List.mem_filter.mp listed').2
    rw [show key _ = (channel, _) from Prod.ext here rfl,
      show key _ = (channel, _) from Prod.ext here' rfl] at below
    exact OverrideTarget.before_iff.mp (Key.before_snd below)

end GuildRows

namespace Store
variable {s : Store} {guild user channel : Snowflake} {g : GuildRows}

/-- A channel of a guild is found by its identifier exactly if the index leads to the guild. -/
theorem Keyed.channel?_in_guild (keyed : s.Keyed) (rows : s.guilds.get? guild = some g) :
    (s.channel? channel).filter (·.guildId = guild) = g.channels.get? channel ↔
      (s.has .channel guild channel = true → s.channelIndex.get? channel = some guild) := by
  have held : s.has .channel guild channel = (g.channels.get? channel).isSome := by
    rw [has, rows]
    rfl
  rw [held]
  cases stored : g.channels.get? channel with
  | none =>
    refine iff_of_true ?_ (by simp)
    rw [Option.filter_eq_none_iff]
    intro row found here
    obtain ⟨-, -, g', rows', stored'⟩ := keyed.channel_stored found
    rw [of_decide_eq_true here, rows, Option.some.injEq] at rows'
    rw [← rows', stored] at stored'
    cases stored'
  | some row =>
    obtain ⟨-, home⟩ := (keyed guild g rows).channel_id channel row stored
    constructor
    · intro same _
      obtain ⟨found, -⟩ := Option.filter_eq_some_iff.mp same
      exact home ▸ (keyed.channel_stored found).2.1
    · intro leads
      have indexed : s.channelIndex.get? channel = some guild := leads rfl
      have found : s.channel? channel = some row := by
        simp [channel?, rowsOfChannel?, indexed, rows, stored]
      rw [found]
      exact Option.filter_eq_some_iff.mpr ⟨rfl, decide_eq_true home⟩

/-- Inputs of a decision that are what is read row by row: the guild, the member and the roles of
the guild, the channel named if it belongs to the guild, and the overrides of that channel. -/
structure ReadsTogether (s : Store) (guild user : Snowflake) (channel : Option Snowflake)
    (inputs : PermissionInputs) : Prop where
  guild_row : s.guild? guild = some inputs.guild
  member_row : inputs.member = s.member? guild user
  role_list : inputs.roles = s.roleList guild
  channel_row : inputs.channel = (channel.bind s.channel?).filter (·.guildId = guild)
  override_list : ∀ c, inputs.channel = some c →
    channel = some c.id ∧ inputs.overrides = s.overrideList c.id
  no_overrides : inputs.channel = none → inputs.overrides = []

section Inputs
variable {named : Option Snowflake} {inputs : PermissionInputs}

/-- What the inputs of a decision are made of. -/
theorem permissionInputs?_eq_some :
    s.permissionInputs? guild user named = some inputs ↔ ∃ g, s.guilds.get? guild = some g ∧
      inputs = ⟨g.guild, g.members.get? user, g.roleList, named.bind g.channels.get?,
        g.overridesIn named⟩ := by
  unfold permissionInputs? GuildRows.overridesIn
  rw [Option.map_eq_some_iff]
  exact exists_congr fun g => and_congr_right fun _ => eq_comm

/-- A channel that is loaded is the one that was named. -/
theorem Keyed.loaded_channel (keyed : s.Keyed) (rows : s.guilds.get? guild = some g) {c : Channel}
    (loaded : named.bind g.channels.get? = some c) :
    named = some c.id ∧ g.channels.get? c.id = some c ∧
      g.overridesIn named = g.overridesOf c.id := by
  obtain ⟨id, rfl, stored⟩ := Option.bind_eq_some_iff.mp loaded
  obtain ⟨rfl, -⟩ := (keyed guild g rows).channel_id id c stored
  exact ⟨rfl, stored, by simp [GuildRows.overridesIn, stored]⟩

/-- The inputs are what is read row by row if, where the guild has the channel that is named, the
index leads to the guild. -/
theorem Keyed.readsTogether (keyed : s.Keyed)
    (leads : ∀ id, named = some id → s.has .channel guild id = true →
      s.channelIndex.get? id = some guild)
    (taken : s.permissionInputs? guild user named = some inputs) :
    s.ReadsTogether guild user named inputs := by
  obtain ⟨g, rows, rfl⟩ := permissionInputs?_eq_some.mp taken
  refine ⟨?_, ?_, ?_, ?_, fun c loaded => ?_, fun none => ?_⟩
  · rw [guild?, rows]
    rfl
  · rw [member?, rows]
    rfl
  · rw [roleList, rows]
    rfl
  · cases named with
    | none => rfl
    | some id => exact ((keyed.channel?_in_guild rows).mpr (leads id rfl)).symm
  · obtain ⟨rfl, stored, listed⟩ := keyed.loaded_channel rows loaded
    have indexed : s.channelIndex.get? c.id = some guild :=
      leads c.id rfl (has_iff.mpr ⟨g, rows, Option.isSome_iff_exists.mpr ⟨c, stored⟩⟩)
    refine ⟨rfl, listed.trans ?_⟩
    simp [overrideList, rowsOfChannel?, indexed, rows]
  · show g.overridesIn named = []
    rw [GuildRows.overridesIn, show named.bind g.channels.get? = Option.none from none]

/-- Roles are loaded strictly by rank, and overrides strictly by target. -/
theorem Keyed.inputs_listed (keyed : s.Keyed) (rows : s.guilds.get? guild = some g)
    (taken : s.permissionInputs? guild user named = some inputs) :
    g.ListedByRank inputs.roles ∧
      ∀ c, inputs.channel = some c → g.ListedByTarget c.id inputs.overrides := by
  obtain ⟨g', rows', rfl⟩ := permissionInputs?_eq_some.mp taken
  cases rows.symm.trans rows'
  refine ⟨(keyed guild g rows).listedByRank, fun c loaded => ?_⟩
  obtain ⟨-, -, listed⟩ := keyed.loaded_channel rows loaded
  show g.ListedByTarget c.id (g.overridesIn named)
  rw [listed]
  exact (keyed guild g rows).listedByTarget c.id

end Inputs

/-- Whatever changes are tried on the empty store, the inputs of a decision are there exactly if the
guild is, with the roles strictly by rank and the overrides strictly by target. They are what is read
row by row exactly if the index leads to the guild where it has the channel that is named, which it
does if guilds never shared an identifier of a channel; a channel of another guild then counts as
none. That identifiers are not shared is assumed of the whole history: where two guilds shared one
and only one of them is left with it, the index may have lost it. -/
theorem permission_inputs_agree (changes : Changes) (guild user : Snowflake)
    (channel : Option Snowflake) :
    let s := empty.replay changes
    (s.permissionInputs? guild user channel = none ↔ s.guild? guild = none) ∧
    ∀ inputs, s.permissionInputs? guild user channel = some inputs →
      (∃ g, s.guilds.get? guild = some g ∧ g.ListedByRank inputs.roles ∧
        ∀ c, inputs.channel = some c → g.ListedByTarget c.id inputs.overrides) ∧
      (s.ReadsTogether guild user channel inputs ↔
        ∀ id, channel = some id → s.has .channel guild id = true →
          s.channelIndex.get? id = some guild) ∧
      (empty.throughout (fun s change => !change.shares s .channel) changes = true →
        s.ReadsTogether guild user channel inputs) := by
  intro s
  have keyed : s.Keyed := (Reachable.start.replay changes).keyed
  refine ⟨?_, fun inputs taken => ?_⟩
  · rw [permissionInputs?, guild?, Option.map_eq_none_iff, Option.map_eq_none_iff]
  obtain ⟨g, rows, same⟩ := permissionInputs?_eq_some.mp taken
  refine ⟨⟨g, rows, keyed.inputs_listed rows taken⟩, ⟨fun together => ?_, fun leads => ?_⟩,
    fun unshared => ?_⟩
  · rintro id rfl
    refine (keyed.channel?_in_guild rows).mp (together.channel_row.symm.trans ?_)
    rw [same]
    rfl
  · exact keyed.readsTogether leads taken
  · have routes : s.Routes .channel := by
      have last := (routes_along_iff (empty_routes .channel) changes).mpr unshared changes.length
      rwa [List.take_length] at last
    exact keyed.readsTogether (fun id _ => (routes id guild).mpr) taken

/-- Two guilds with a channel each, and an override for a role and for a user in the first. -/
def neighbors : Changes :=
  let now : Instant := ⟨0, 0⟩
  let id := Snowflake.wrap
  let denied (target : OverrideTarget) : Change :=
    .putOverride ⟨id 20, id 1, target, ⟨∅, .only .sendMessages⟩, now⟩
  [(now, .createGuild (.new (id 1) "first" (id 1) now) (.everyone (id 1) (id 1) now)),
    (now, .createGuild (.new (id 2) "second" (id 2) now) (.everyone (id 2) (id 2) now)),
    (now, .createChannel (.new (id 20) (id 1) "hall" .text now)),
    (now, .createChannel (.new (id 21) (id 2) "yard" .text now)),
    (now, denied (.role (id 1))), (now, denied (.member (id 5)))]

/-- The second guild takes the identifier of the channel of the first and gives it up again. -/
def borrowed : Changes :=
  let now : Instant := ⟨0, 0⟩
  neighbors ++ [(now, .createChannel (.new (.wrap 20) (.wrap 2) "annex" .text now)),
    (now, .deleteChannel (.wrap 20))]

/-- The channel of the guild is read with both of its overrides, the member's first, and that of the
other guild is not read. Once another guild has had a channel of that identifier and deleted it, the
channel is read with the guild but no more by itself, though no identifier is shared any longer. -/
theorem permission_inputs_agree_sample :
    let s := empty.replay neighbors
    (∃ inputs, s.permissionInputs? (.wrap 1) (.wrap 5) (some (.wrap 20)) = some inputs ∧
      s.ReadsTogether (.wrap 1) (.wrap 5) (some (.wrap 20)) inputs ∧
      inputs.overrides.map (·.target) = [.member (.wrap 5), .role (.wrap 1)]) ∧
    (∃ inputs, s.permissionInputs? (.wrap 1) (.wrap 5) (some (.wrap 21)) = some inputs ∧
      s.ReadsTogether (.wrap 1) (.wrap 5) (some (.wrap 21)) inputs ∧
      inputs.channel = none ∧ (s.channel? (.wrap 21)).isSome = true) ∧
    let late := empty.replay borrowed
    ∃ inputs, late.permissionInputs? (.wrap 1) (.wrap 5) (some (.wrap 20)) = some inputs ∧
      late.has .channel (.wrap 1) (.wrap 20) = true ∧
      late.has .channel (.wrap 2) (.wrap 20) = false ∧
      ¬ late.ReadsTogether (.wrap 1) (.wrap 5) (some (.wrap 20)) inputs := by
  intro s
  have unshared : empty.throughout (fun s change => !change.shares s .channel) neighbors = true := by
    decide
  obtain ⟨-, own⟩ := permission_inputs_agree neighbors (.wrap 1) (.wrap 5) (some (.wrap 20))
  obtain ⟨-, foreign⟩ := permission_inputs_agree neighbors (.wrap 1) (.wrap 5) (some (.wrap 21))
  obtain ⟨-, shared⟩ := permission_inputs_agree borrowed (.wrap 1) (.wrap 5) (some (.wrap 20))
  have kept : (empty.replay borrowed).has .channel (.wrap 1) (.wrap 20) = true := by decide
  refine ⟨⟨_, rfl, (own _ rfl).2.2 unshared, by decide⟩,
    ⟨_, rfl, (foreign _ rfl).2.2 unshared, by decide, by decide⟩,
    _, rfl, kept, by decide, fun together => ?_⟩
  have leads := (shared _ rfl).2.1.mp together (.wrap 20) rfl kept
  have lost : (empty.replay borrowed).channelIndex.get? (.wrap 20) = none := by decide
  cases lost.symm.trans leads

end Store
end GuildAccess
