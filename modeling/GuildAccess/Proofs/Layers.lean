import GuildAccess.Proofs.Standing
import GuildAccess.Proofs.Store.Everyone

/-!
Permissions in a channel as layers. The overrides that concern a user are those of the everyone
role, of the roles they hold from the lowest rank to the highest, and their own; each is applied on
top of what those before it leave. Overrides of anybody else are never looked at.
-/
namespace GuildAccess
namespace Resolver

theorem applyOpt_has (o : Option Overwrite) (p : Permissions) (f : Flag) :
    (applyOpt o p).has f =
      ((p.has f && !o.any fun o => o.deny.has f) || o.any fun o => o.allow.has f) := by
  cases o <;> simp [applyOpt]

/-- The overwrites of targets, applied in turn. -/
def stack (look : OverrideTarget → Option Overwrite) (targets : List OverrideTarget)
    (p : Permissions) : Permissions :=
  targets.foldl (fun p target => applyOpt (look target) p) p

theorem stack_append (look : OverrideTarget → Option Overwrite) (first rest : List OverrideTarget)
    (p : Permissions) : stack look (first ++ rest) p = stack look rest (stack look first p) :=
  List.foldl_append

/-- A flag that each layer carries over is carried over by all of them. -/
theorem stack_carries {look look' : OverrideTarget → Option Overwrite}
    {targets : List OverrideTarget} {p p' : Permissions} {f : Flag}
    (layer : ∀ target ∈ targets, ∀ q q' : Permissions, (q.has f = true → q'.has f = true) →
      (applyOpt (look target) q).has f = true → (applyOpt (look' target) q').has f = true)
    (start : p.has f = true → p'.has f = true) :
    (stack look targets p).has f = true → (stack look' targets p').has f = true := by
  unfold stack
  refine List.foldl_rel ?_ layer
  exact start

/-- Layers that read the same leave the same. -/
theorem stack_congr {look look' : OverrideTarget → Option Overwrite}
    {targets : List OverrideTarget} (same : ∀ target ∈ targets, look target = look' target)
    (p : Permissions) : stack look targets p = stack look' targets p := by
  unfold stack
  refine List.foldl_rel rfl fun target member q q' equal => ?_
  rw [same target member, equal]

/-- A list that ascends is not rearranged. -/
theorem sortRanked_of_sorted {α : Type} {rank : α → Rank} {xs : List α}
    (sorted : xs.Pairwise fun a b => (rank a).atMost (rank b) = true) :
    sortRanked rank xs = xs := by
  induction xs with
  | nil => rfl
  | cons x rest ih =>
    unfold sortRanked at ih ⊢
    rw [List.foldr_cons, ih sorted.of_cons]
    cases rest with
    | nil => rfl
    | cons y rest =>
      have first : (rank x).atMost (rank y) = true :=
        List.rel_of_pairwise_cons sorted List.mem_cons_self
      unfold placeRanked
      rw [if_pos first]

/-- Where no key comes twice, nothing is dropped. -/
theorem dropRepeats_of_nodup {α : Type} {key : α → Snowflake} {xs : List α}
    {last : Option Snowflake} (distinct : (xs.map key).Nodup)
    (new : ∀ x ∈ xs, last ≠ some (key x)) : dropRepeats key last xs = xs := by
  induction xs generalizing last with
  | nil => rfl
  | cons x rest ih =>
    obtain ⟨apart, distinct⟩ := List.nodup_cons.mp distinct
    unfold dropRepeats
    rw [if_neg (new x List.mem_cons_self), ih distinct]
    rintro y member same
    exact apart (List.mem_map.mpr ⟨y, member, (Option.some.inj same).symm⟩)

/-- Held roles that are listed by rank apply in the order of the list. -/
theorem ranked_of_sorted {held : List Role} (overwrites : List (Snowflake × Overwrite))
    (plain : ∀ r ∈ held, r.isEveryone = false)
    (sorted : held.Pairwise fun a b => Rank.atMost (a.position, a.id) (b.position, b.id) = true)
    (distinct : (held.map (·.id)).Nodup) :
    ranked held overwrites =
      held.filterMap fun r => (overwriteOf? overwrites r.id).map fun o => (r, o) := by
  have named : ∀ {r : Role} {e : Role × Overwrite},
      (overwriteOf? overwrites r.id).map (fun o => (r, o)) = some e → e.1 = r := by
    intro r e found
    obtain ⟨o, -, rfl⟩ := Option.map_eq_some_iff.mp found
    rfl
  have kept : held.filter (fun r => !r.isEveryone) = held :=
    List.filter_eq_self.mpr fun r member => by simp [plain r member]
  unfold ranked
  simp only [kept]
  rw [sortRanked_of_sorted, dropRepeats_of_nodup]
  · rw [List.nodup_iff_pairwise_ne, List.pairwise_map, List.pairwise_filterMap]
    rw [List.nodup_iff_pairwise_ne, List.pairwise_map] at distinct
    refine distinct.imp fun apart e found e' found' => ?_
    rw [named found, named found']
    exact apart
  · simp
  · rw [List.pairwise_filterMap]
    refine sorted.imp fun below e found e' found' => ?_
    rw [named found, named found']
    exact below

end Resolver

/-- What the everyone overwrite is made into while its channel is locked: SEND_MESSAGES and
ADD_REACTIONS are no longer allowed and are denied, and all else stays. -/
structure Overwrite.IsLockdownOf (o before : Overwrite) : Prop where
  allow : o.allow = before.allow \ (.only .sendMessages ∪ .only .addReactions)
  deny : o.deny = before.deny ∪ (.only .sendMessages ∪ .only .addReactions)

theorem Overwrite.lockdown_isLockdownOf (previous : Option Overwrite) :
    (lockdown previous).IsLockdownOf (previous.getD {}) := by
  have flags : lockdownFlags = .only .sendMessages ∪ .only .addReactions := by decide
  unfold lockdown
  rw [flags]
  exact ⟨rfl, rfl⟩

theorem Overwrite.IsLockdownOf.eq {o : Overwrite} {previous : Option Overwrite}
    (locked : o.IsLockdownOf (previous.getD {})) : o = lockdown previous := by
  have form := lockdown_isLockdownOf previous
  have allow : o.allow = (lockdown previous).allow := locked.allow.trans form.allow.symm
  have deny : o.deny = (lockdown previous).deny := locked.deny.trans form.deny.symm
  calc o = ⟨o.allow, o.deny⟩ := rfl
    _ = lockdown previous := by rw [allow, deny]

namespace GuildRows
variable {g : GuildRows} {guild user channel : Snowflake}

/-- What is allowed and denied to a target in a channel. -/
def overwrite? (g : GuildRows) (channel : Snowflake) (target : OverrideTarget) :
    Option Overwrite :=
  (g.overrides.get? (channel, target)).map (·.overwrite)

/-- The overrides of a guild with that of one target written anew, or without it. -/
def withOverwrite (g : GuildRows) (channel guild : Snowflake) (target : OverrideTarget)
    (now : Instant) : Option Overwrite → KeyMap (Snowflake × OverrideTarget) ChannelOverride
  | some o => g.overrides.insert (channel, target) ⟨channel, guild, target, o, now⟩
  | none => g.overrides.erase (channel, target)

/-- Only the overwrite of the target changes, and only in the channel. -/
theorem overwrite?_withOverwrite {row : Guild} {roles : KeyMap Snowflake Role}
    {channels : KeyMap Snowflake Channel} {members : KeyMap Snowflake Member}
    {audit : KeyMap Snowflake Audit.Entry} {target : OverrideTarget} {now : Instant}
    {new : Option Overwrite} (channel' : Snowflake) (other : OverrideTarget) :
    overwrite? ⟨row, roles, channels, members, g.withOverwrite channel guild target now new, audit⟩
        channel' other =
      if (channel', other) = (channel, target) then new else g.overwrite? channel' other := by
  unfold overwrite?
  cases new with
  | some o =>
    simp only [withOverwrite, KeyMap.get?_insert]
    split <;> rfl
  | none =>
    simp only [withOverwrite, KeyMap.get?_erase]
    split <;> rfl

def heldRoles (g : GuildRows) (user : Snowflake) : List Role :=
  g.roleList.filter (Role.isHeld (g.heldBy user))

/-- Whose overrides concern a user, in the order in which they apply. -/
def layersOf (g : GuildRows) (user : Snowflake) : List OverrideTarget :=
  g.everyone?.toList.map (fun r => .role r.id) ++
    (g.heldRoles user).map (fun r => .role r.id) ++ [.member user]

/-- Permissions of a user in a channel by the rows of a guild. -/
def channelOf (g : GuildRows) (channel user : Snowflake) : Permissions :=
  (g.snapshot user (some channel)).channel

/-- A decision goes by the same everyone role that the store finds. -/
theorem snapshot_everyone? (one : g.OneEveryone) (user : Snowflake) (channel : Option Snowflake) :
    (g.snapshot user channel).everyone? = g.everyone? := by
  unfold Snapshot.everyone? snapshot
  cases found : g.everyone? with
  | none =>
    rw [List.find?_eq_none]
    intro r listed
    exact List.find?_eq_none.mp found r (KeyMap.mem_rows.mpr (mem_roleList.mp listed))
  | some r =>
    obtain ⟨⟨id, stored⟩, everyone⟩ := (everyone?_eq_some one).mpr found
    exact one.find? stored everyone (mem_roleList.mpr ⟨id, stored⟩) fun _ => mem_roleList.mp

theorem mem_heldRoles {r : Role} : r ∈ g.heldRoles user ↔ ∃ id, g.HasRole user id r := by
  simp only [hasRole_iff_isHeld]
  unfold heldRoles
  rw [List.mem_filter, mem_roleList]
  exact ⟨fun ⟨⟨id, stored⟩, held⟩ => ⟨id, stored, held⟩,
    fun ⟨id, stored, held⟩ => ⟨⟨id, stored⟩, held⟩⟩

theorem heldRoles_sorted : (g.heldRoles user).Pairwise fun a b =>
    Rank.atMost (a.position, a.id) (b.position, b.id) = true :=
  (sortRanked_sorted _ _).filter _

theorem Keyed.roleList_nodup (keyed : g.Keyed guild) : (g.roleList.map (·.id)).Nodup := by
  unfold roleList
  rw [((sortRanked_perm _ _).map _).nodup_iff]
  exact g.roles.rows_distinct keyed.role_id

theorem Keyed.heldRoles_nodup (keyed : g.Keyed guild) : ((g.heldRoles user).map (·.id)).Nodup :=
  keyed.roleList_nodup.sublist (List.filter_sublist.map _)

/-- The overrides of a channel are those stored under its identifier. -/
theorem Keyed.mem_overridesOf (keyed : g.Keyed guild) {o : ChannelOverride} :
    o ∈ g.overridesOf channel ↔ g.overrides.get? (channel, o.target) = some o := by
  unfold overridesOf
  rw [List.mem_filter, KeyMap.mem_rows, decide_eq_true_eq]
  constructor
  · rintro ⟨⟨key, stored⟩, rfl⟩
    rw [keyed.override_id key o stored]
    exact stored
  · intro stored
    exact ⟨⟨_, stored⟩, congrArg Prod.fst (keyed.override_id _ o stored)⟩

/-- Searching the overrides of a channel for a target finds the stored one. -/
theorem Keyed.find_override (keyed : g.Keyed guild) {listed : List ChannelOverride}
    {test : ChannelOverride → Bool} (target : OverrideTarget)
    (all : ∀ o, o ∈ listed ↔ o ∈ g.overridesOf channel)
    (tests : ∀ o, test o = true ↔ o.target = target) :
    listed.find? test = g.overrides.get? (channel, target) := by
  cases stored : g.overrides.get? (channel, target) with
  | none =>
    rw [List.find?_eq_none]
    intro o member here
    have found := keyed.mem_overridesOf.mp ((all o).mp member)
    rw [(tests o).mp here, stored] at found
    cases found
  | some o =>
    have here : o.target = target := congrArg Prod.snd (keyed.override_id _ o stored)
    refine find?_of_unique ((all o).mpr (keyed.mem_overridesOf.mpr (here ▸ stored)))
      ((tests o).mpr here) fun o' member here' => ?_
    have found := keyed.mem_overridesOf.mp ((all o').mp member)
    rw [(tests o').mp here', stored] at found
    exact (Option.some.inj found).symm

section
variable (keyed : g.Keyed guild) (inGuild : (g.channels.get? channel).isSome = true)
include keyed inGuild

theorem Keyed.overridesIn_eq : g.overridesIn (some channel) = g.overridesOf channel := by
  obtain ⟨row, stored⟩ := Option.isSome_iff_exists.mp inGuild
  simp [overridesIn, stored, (keyed.channel_id channel row stored).1]

theorem Keyed.overwriteOf?_eq (target : OverrideTarget) :
    (g.snapshot user (some channel)).overwriteOf? target = g.overwrite? channel target := by
  unfold Snapshot.overwriteOf? overwrite? snapshot
  rw [keyed.overridesIn_eq inGuild, keyed.find_override target (fun _ => Iff.rfl) (by simp)]

theorem Keyed.userOverwrite?_eq :
    (g.snapshot user (some channel)).userOverwrite? = g.overwrite? channel (.member user) := by
  unfold Snapshot.userOverwrite? overwrite? snapshot
  rw [keyed.overridesIn_eq inGuild,
    keyed.find_override (.member user) (fun _ => List.mem_reverse) (by simp)]

theorem Keyed.everyoneOverwrite?_eq (one : g.OneEveryone) :
    (g.snapshot user (some channel)).everyoneOverwrite? =
      g.everyone?.bind fun r => g.overwrite? channel (.role r.id) := by
  unfold Snapshot.everyoneOverwrite?
  rw [snapshot_everyone? one]
  cases g.everyone? with
  | none =>
    rw [Option.bind_none, Option.map_eq_none_iff, List.find?_eq_none]
    intro o _
    cases o.target <;> simp
  | some r =>
    unfold overwrite? snapshot
    rw [keyed.overridesIn_eq inGuild, Option.bind_some]
    have whole : ∀ o, o ∈ (g.overridesOf channel).reverse ↔ o ∈ g.overridesOf channel :=
      fun _ => List.mem_reverse
    refine congrArg _ (keyed.find_override (.role r.id) whole fun o => ?_)
    cases o.target <;> simp [eq_comm]

/-- A role other than the everyone role is given the overwrite that is stored for it. -/
theorem Keyed.roleOverwrites_eq (one : g.OneEveryone) {id : Snowflake} (plain : ¬ g.IsEveryone id) :
    Resolver.overwriteOf? (g.snapshot user (some channel)).roleOverwrites id =
      g.overwrite? channel (.role id) := by
  have other : ∀ r, g.everyone? = some r → r.id ≠ id := by
    rintro r found rfl
    obtain ⟨⟨key, stored⟩, everyone⟩ := (everyone?_eq_some one).mpr found
    exact plain ⟨r, (keyed.role_id key r stored).symm ▸ stored, everyone⟩
  unfold Resolver.overwriteOf? Snapshot.roleOverwrites overwrite?
  rw [snapshot_everyone? one, ← List.filterMap_reverse, List.find?_filterMap, Option.map_bind]
  rw [show (g.snapshot user (some channel)).overrides = g.overridesOf channel from
    keyed.overridesIn_eq inGuild]
  rw [keyed.find_override (.role id) fun _ => List.mem_reverse]
  · cases stored : g.overrides.get? (channel, .role id) with
    | none => rfl
    | some o =>
      have here : o.target = .role id := congrArg Prod.snd (keyed.override_id _ o stored)
      simpa [here] using other
  · intro o
    cases o.target with
    | member user => simp
    | role id' =>
      by_cases everyone : g.everyone?.map (·.id) = some id'
      · obtain ⟨r, found, rfl⟩ := Option.map_eq_some_iff.mp everyone
        simp [found, other r found]
      · simp [everyone]

/-- Permissions in a channel: all of them for an administrator, else what the layers that concern a
user leave of and add to their server-wide permissions. -/
theorem Keyed.channelOf_eq (one : g.OneEveryone) : g.channelOf channel user =
    if (g.serverOf user).has .administrator then .all
    else Resolver.stack (g.overwrite? channel) (g.layersOf user) (g.serverOf user) := by
  have server : (g.snapshot user (some channel)).server = g.serverOf user := rfl
  have held : (g.snapshot user (some channel)).heldRoles = g.heldRoles user := rfl
  have plain : ∀ r ∈ g.heldRoles user, r.isEveryone = false := by
    intro r member
    obtain ⟨id, holds⟩ := mem_heldRoles.mp member
    exact (keyed.hasRole_iff.mp holds).2.1
  have named : ∀ r ∈ g.heldRoles user, ¬ g.IsEveryone r.id := by
    rintro r member ⟨r', stored', everyone⟩
    obtain ⟨id, stored, -⟩ := mem_heldRoles.mp member
    rw [keyed.role_id id r stored] at stored'
    cases stored.symm.trans stored'
    rw [plain r member] at everyone
    cases everyone
  have roles : ∀ p, (Resolver.ranked (g.heldRoles user)
      (g.snapshot user (some channel)).roleOverwrites).foldl (fun p e => e.2.apply p) p =
      Resolver.stack (g.overwrite? channel) ((g.heldRoles user).map fun r => .role r.id) p := by
    intro p
    rw [Resolver.ranked_of_sorted _ plain heldRoles_sorted keyed.heldRoles_nodup]
    unfold Resolver.stack
    rw [List.foldl_filterMap, List.foldl_map]
    refine List.foldl_rel rfl fun r member q q' same => ?_
    rw [keyed.roleOverwrites_eq inGuild one (named r member), same]
    cases g.overwrite? channel (.role r.id) <;> rfl
  unfold channelOf Snapshot.channel Resolver.channel
  rw [server, held]
  split
  · rfl
  · dsimp only
    rw [roles, keyed.everyoneOverwrite?_eq inGuild one, keyed.userOverwrite?_eq inGuild]
    unfold layersOf
    rw [Resolver.stack_append, Resolver.stack_append]
    cases g.everyone? <;> rfl

end

end GuildRows
end GuildAccess
