import GuildAccess.Proofs.Relevance

/-!
Which overwrite decides a flag. The overwrites of a channel decision form one sequence: that of the
everyone role, those of the held roles by position and identifier, and that of the user. The last
one that mentions a flag decides it, and server-wide permissions decide what none of them mentions.
Nothing is assumed about the list of held roles: it may come in any order, repeat a role at one
position or at several, and contain everyone roles.
-/
namespace GuildAccess

namespace Permissions

/-- The number of a set has the bits of its flags and no others. -/
theorem testBit_toNat {p : Permissions} {bit : Nat} :
    p.toNat.testBit bit = true ↔ ∃ f : Flag, f.position = bit ∧ p.has f = true := by
  constructor
  · intro on
    have small : bit < 21 := by
      refine Nat.lt_of_not_le fun large => ?_
      have off := Nat.testBit_lt_two_pow (Nat.lt_of_lt_of_le p.bits.isLt
        (Nat.pow_le_pow_right (by decide) large))
      exact Bool.noConfusion (off.symm.trans on)
    have every : ∀ k : Fin 21, ∃ f ∈ Flag.all, f.position = k.val := by decide
    obtain ⟨f, -, rfl⟩ := every ⟨bit, small⟩
    exact ⟨f, rfl, on⟩
  · rintro ⟨f, rfl, on⟩
    exact on

end Permissions

namespace Overwrite

def mentions (o : Overwrite) (f : Flag) : Bool := o.allow.has f || o.deny.has f

/-- Applying an overwrite twice does no more than applying it once. -/
theorem apply_apply (o : Overwrite) (p : Permissions) : o.apply (o.apply p) = o.apply p := by
  refine Permissions.ext_has fun f => ?_
  simp only [has_apply]
  cases p.has f <;> cases o.deny.has f <;> cases o.allow.has f <;> rfl

/-- An overwrite leaves a flag alone that it does not mention. -/
theorem has_apply_of_silent {o : Overwrite} {f : Flag} (silent : o.mentions f = false)
    (p : Permissions) : (o.apply p).has f = p.has f := by
  obtain ⟨notAllowed, notDenied⟩ := Bool.or_eq_false_iff.mp silent
  simp [notAllowed, notDenied]

/-- An overwrite that mentions a flag decides it: what it allows is set. -/
theorem has_apply_of_mentions {o : Overwrite} {f : Flag} (mentioned : o.mentions f = true)
    (p : Permissions) : (o.apply p).has f = o.allow.has f := by
  unfold mentions at mentioned
  rw [has_apply]
  cases allowed : o.allow.has f with
  | true => simp
  | false =>
    have denied : o.deny.has f = true := by simpa [allowed] using mentioned
    simp [denied]

/-- An overwrite is the last of a sequence that mentions a flag. -/
def LastOn (f : Flag) (layers : List Overwrite) (o : Overwrite) : Prop :=
  ∃ first rest, layers = first ++ o :: rest ∧ o.mentions f = true ∧
    ∀ later ∈ rest, later.mentions f = false

theorem LastOn.cons {f : Flag} {layers : List Overwrite} {o : Overwrite}
    (last : LastOn f layers o) (front : Overwrite) : LastOn f (front :: layers) o := by
  obtain ⟨first, rest, rfl, mentioned, silent⟩ := last
  exact ⟨front :: first, rest, rfl, mentioned, silent⟩

/-- A sequence that is silent about a flag has no last overwrite on it. -/
theorem LastOn.not_silent {f : Flag} {layers : List Overwrite} {o : Overwrite}
    (last : LastOn f layers o) : ¬ ∀ layer ∈ layers, layer.mentions f = false := by
  intro silent
  obtain ⟨first, rest, rfl, mentioned, -⟩ := last
  have off := silent o (by simp)
  exact Bool.noConfusion (off.symm.trans mentioned)

/-- A sequence is silent about a flag, or one of its overwrites is the last to mention it. -/
theorem lastOn_or_silent (f : Flag) (layers : List Overwrite) :
    (∃ o, LastOn f layers o) ∨ ∀ layer ∈ layers, layer.mentions f = false := by
  induction layers with
  | nil => exact .inr (by simp)
  | cons front layers ih =>
    rcases ih with ⟨o, last⟩ | silent
    · exact .inl ⟨o, last.cons front⟩
    · cases mentioned : front.mentions f with
      | true => exact .inl ⟨front, [], layers, rfl, mentioned, silent⟩
      | false => exact .inr (List.forall_mem_cons.mpr ⟨mentioned, silent⟩)

/-- Overwrites that are silent about a flag leave it as it was. -/
theorem has_foldl_of_silent {f : Flag} {layers : List Overwrite}
    (silent : ∀ layer ∈ layers, layer.mentions f = false) (p : Permissions) :
    (layers.foldl (fun p o => o.apply p) p).has f = p.has f := by
  induction layers generalizing p with
  | nil => rfl
  | cons front layers ih =>
    obtain ⟨quiet, silent⟩ := List.forall_mem_cons.mp silent
    rw [List.foldl_cons, ih silent, has_apply_of_silent quiet]

/-- The last overwrite that mentions a flag decides it, whatever was set before. -/
theorem LastOn.decides {f : Flag} {layers : List Overwrite} {o : Overwrite}
    (last : LastOn f layers o) (p : Permissions) :
    (layers.foldl (fun p o => o.apply p) p).has f = o.allow.has f := by
  obtain ⟨first, rest, rfl, mentioned, silent⟩ := last
  rw [List.foldl_append, List.foldl_cons, has_foldl_of_silent silent,
    has_apply_of_mentions mentioned]

/-- After a sequence of overwrites a flag is set if the last one that mentions it allows it, or if
none mentions it and it was set before. -/
theorem has_foldl_apply (layers : List Overwrite) (p : Permissions) (f : Flag) :
    (layers.foldl (fun p o => o.apply p) p).has f = true ↔
      (∃ o, LastOn f layers o ∧ o.allow.has f = true) ∨
        ((∀ layer ∈ layers, layer.mentions f = false) ∧ p.has f = true) := by
  constructor
  · intro set
    rcases lastOn_or_silent f layers with ⟨o, last⟩ | silent
    · exact .inl ⟨o, last, (last.decides p).symm.trans set⟩
    · exact .inr ⟨silent, (has_foldl_of_silent silent p).symm.trans set⟩
  · rintro (⟨o, last, allowed⟩ | ⟨silent, set⟩)
    · rw [last.decides, allowed]
    · rw [has_foldl_of_silent silent, set]

end Overwrite

namespace Resolver
variable {overwrites : List (Snowflake × Overwrite)} {held held' order : List Role}

/-- Held roles listed by position and, at equal positions, by identifier; everyone roles are left
out. -/
structure ByRank (held order : List Role) : Prop where
  listed : order.Perm (held.filter fun r => !r.isEveryone)
  ascending : order.Pairwise fun a b =>
    a.position < b.position ∨ (a.position = b.position ∧ a.id.toInt ≤ b.id.toInt)

/-- A map that was filled with entries in turn: it holds of a role what the last entry for the role
says. -/
def IsMapOf (entries : List (Snowflake × Overwrite)) (find : Snowflake → Option Overwrite) : Prop :=
  ∀ role o, find role = some o ↔
    ∃ first rest, entries = first ++ (role, o) :: rest ∧ ∀ later ∈ rest, later.1 ≠ role

/-- The overwrites of a channel decision in the order in which they apply, for an order of the held
roles and a map of role overwrites. -/
def layers (order : List Role) (find : Snowflake → Option Overwrite)
    (everyone user : Option Overwrite) : List Overwrite :=
  everyone.toList ++ order.filterMap (fun r => find r.id) ++ user.toList

/-- Looking for an entry from the end of a list finds the last one. -/
theorem overwriteOf?_isMapOf (overwrites : List (Snowflake × Overwrite)) :
    IsMapOf overwrites (overwriteOf? overwrites) := by
  intro role o
  unfold overwriteOf?
  rw [Option.map_eq_some_iff]
  constructor
  · rintro ⟨⟨key, _⟩, found, rfl⟩
    obtain ⟨named, after, before, split, others⟩ := List.find?_eq_some_iff_append.mp found
    have named : key = role := of_decide_eq_true named
    subst named
    refine ⟨before.reverse, after.reverse, ?_, fun later listed => ?_⟩
    · simpa using congrArg List.reverse split
    · simpa using others later (List.mem_reverse.mp listed)
  · rintro ⟨first, rest, rfl, others⟩
    refine ⟨(role, o), List.find?_eq_some_iff_append.mpr ⟨decide_eq_true rfl, rest.reverse,
      first.reverse, by simp, fun later listed => ?_⟩, rfl⟩
    simpa using others later (List.mem_reverse.mp listed)

/-- Entries fill one map only. -/
theorem IsMapOf.eq {find : Snowflake → Option Overwrite} (map : IsMapOf overwrites find) :
    find = overwriteOf? overwrites :=
  funext fun role => Option.ext fun o =>
    (map role o).trans (overwriteOf?_isMapOf overwrites role o).symm

def rankOf (r : Role) : Rank := (r.position, r.id)

theorem ByRank.sorted (byRank : ByRank held order) :
    order.Pairwise fun a b => (rankOf a).atMost (rankOf b) = true :=
  byRank.ascending.imp fun below => (Rank.atMost_iff _ _).mpr below

/-- Held roles can be listed by rank. -/
theorem byRank_sortRanked (held : List Role) :
    ByRank held (sortRanked rankOf (held.filter fun r => !r.isEveryone)) where
  listed := sortRanked_perm _ _
  ascending := (sortRanked_sorted rankOf _).imp fun below => (Rank.atMost_iff _ _).mp below

/-- Ranks are listed in one order only. -/
theorem ranks_eq {α : Type} {rank : α → Rank} {xs ys : List α} (same : xs.Perm ys)
    (sorted : xs.Pairwise fun a b => (rank a).atMost (rank b) = true)
    (sorted' : ys.Pairwise fun a b => (rank a).atMost (rank b) = true) :
    xs.map rank = ys.map rank :=
  (same.map rank).eq_of_pairwise (fun _ _ _ _ => Rank.atMost_antisymm)
    (List.pairwise_map.mpr sorted) (List.pairwise_map.mpr sorted')

/-- The role with the overwrite found for it. -/
def withOverwrite? (overwrites : List (Snowflake × Overwrite)) (r : Role) :
    Option (Role × Overwrite) :=
  (overwriteOf? overwrites r.id).map fun o => (r, o)

theorem withOverwrite?_eq_some {r : Role} {e : Role × Overwrite} :
    withOverwrite? overwrites r = some e ↔ overwriteOf? overwrites r.id = some e.2 ∧ r = e.1 := by
  unfold withOverwrite?
  rw [Option.map_eq_some_iff]
  constructor
  · rintro ⟨o, found, rfl⟩
    exact ⟨found, rfl⟩
  · rintro ⟨found, rfl⟩
    exact ⟨e.2, found, rfl⟩

/-- Each pair has the overwrite found for the identifier of its role. -/
def Looked (overwrites : List (Snowflake × Overwrite)) (pairs : List (Role × Overwrite)) : Prop :=
  ∀ e ∈ pairs, overwriteOf? overwrites e.1.id = some e.2

theorem looked_filterMap (roles : List Role) :
    Looked overwrites (roles.filterMap (withOverwrite? overwrites)) := by
  intro e member
  obtain ⟨r, -, found⟩ := List.mem_filterMap.mp member
  obtain ⟨looked, rfl⟩ := withOverwrite?_eq_some.mp found
  exact looked

/-- Pairs apply by their ranks alone: the identifier says which overwrite is meant. -/
theorem Looked.foldl_eq {pairs : List (Role × Overwrite)} (looked : Looked overwrites pairs)
    (p : Permissions) : pairs.foldl (fun p e => e.2.apply p) p =
      (pairs.map fun e => rankOf e.1).foldl
        (fun p rank => applyOpt (overwriteOf? overwrites rank.2) p) p := by
  rw [List.foldl_map]
  refine List.foldl_rel rfl fun e member q q' same => ?_
  rw [same, show (rankOf e.1).2 = e.1.id from rfl, looked e member]
  rfl

/-- Dropping a repeated key changes nothing where the second step with a key does nothing. -/
theorem foldl_dropRepeats {α β : Type} {key : α → Snowflake} {step : β → α → β} {xs : List α}
    (again : ∀ x ∈ xs, ∀ y ∈ xs, key y = key x → ∀ b, step (step b x) y = step b x)
    {last : Option Snowflake} {b : β}
    (done : ∀ x ∈ xs, last = some (key x) → step b x = b) :
    (dropRepeats key last xs).foldl step b = xs.foldl step b := by
  induction xs generalizing last b with
  | nil => rfl
  | cons x rest ih =>
    have again' : ∀ y ∈ rest, ∀ z ∈ rest, key z = key y → ∀ b, step (step b y) z = step b y :=
      fun y inside z inside' =>
        again y (List.mem_cons_of_mem _ inside) z (List.mem_cons_of_mem _ inside')
    unfold dropRepeats
    split
    · next repeated =>
      rw [List.foldl_cons, done x List.mem_cons_self repeated]
      exact ih again' fun y inside => done y (List.mem_cons_of_mem _ inside)
    · rw [List.foldl_cons, List.foldl_cons]
      refine ih again' fun y inside same => ?_
      exact again x List.mem_cons_self y (List.mem_cons_of_mem _ inside)
        (Option.some.inj same).symm b

theorem Looked.foldl_dropRepeats {pairs : List (Role × Overwrite)}
    (looked : Looked overwrites pairs) (p : Permissions) :
    (dropRepeats (·.1.id) none pairs).foldl (fun p e => e.2.apply p) p =
      pairs.foldl (fun p e => e.2.apply p) p := by
  refine Resolver.foldl_dropRepeats (fun e member e' member' same q => ?_) (by simp)
  have equal : e'.2 = e.2 := by
    refine Option.some.inj ?_
    rw [← looked e member, ← looked e' member', same]
  rw [equal, Overwrite.apply_apply]

/-- The overwrites of held roles apply in the order of the ranks, whatever the order of the list. -/
theorem foldl_ranked (byRank : ByRank held order) (p : Permissions) :
    (ranked held overwrites).foldl (fun p e => e.2.apply p) p =
      (order.filterMap fun r => overwriteOf? overwrites r.id).foldl (fun p o => o.apply p) p := by
  let found := (held.filter fun r => !r.isEveryone).filterMap (withOverwrite? overwrites)
  let listed := order.filterMap (withOverwrite? overwrites)
  have permuted : listed.Perm found := byRank.listed.filterMap _
  have inFound : Looked overwrites (sortRanked (fun e => rankOf e.1) found) :=
    fun e member => looked_filterMap _ e ((sortRanked_perm _ _).mem_iff.mp member)
  have sorted : listed.Pairwise fun a b => (rankOf a.1).atMost (rankOf b.1) = true := by
    refine List.pairwise_filterMap.mpr (byRank.sorted.imp fun below e here e' here' => ?_)
    obtain ⟨-, rfl⟩ := withOverwrite?_eq_some.mp here
    obtain ⟨-, rfl⟩ := withOverwrite?_eq_some.mp here'
    exact below
  have ranks : (sortRanked (fun e => rankOf e.1) found).map (fun e => rankOf e.1) =
      listed.map fun e => rankOf e.1 :=
    ranks_eq ((sortRanked_perm _ _).trans permuted.symm) (sortRanked_sorted _ _) sorted
  have overwritesOf : listed.map (·.2) = order.filterMap fun r => overwriteOf? overwrites r.id := by
    simp [listed, withOverwrite?, List.map_filterMap, Option.map_map, Function.comp_def]
  calc (ranked held overwrites).foldl (fun p e => e.2.apply p) p
      = (sortRanked (fun e => rankOf e.1) found).foldl (fun p e => e.2.apply p) p :=
        inFound.foldl_dropRepeats p
    _ = listed.foldl (fun p e => e.2.apply p) p := by
        rw [inFound.foldl_eq, ranks, ← (looked_filterMap order).foldl_eq]
    _ = (listed.map (·.2)).foldl (fun p o => o.apply p) p := by rw [List.foldl_map]
    _ = _ := by rw [overwritesOf]

/-- Without the administrator flag, permissions in a channel are what the layers make of the
server-wide ones. -/
theorem channel_eq_layers {server : Permissions} {find : Snowflake → Option Overwrite}
    (plain : server.has .administrator = false) (byRank : ByRank held order)
    (map : IsMapOf overwrites find) (everyone user : Option Overwrite) :
    channel server held overwrites everyone user =
      (layers order find everyone user).foldl (fun p o => o.apply p) server := by
  unfold channel layers
  rw [plain, if_neg Bool.false_ne_true, List.foldl_append, List.foldl_append, map.eq]
  dsimp only
  rw [foldl_ranked byRank]
  cases everyone <;> cases user <;> rfl

/-- An administrator holds every flag in a channel. For everyone else the last overwrite that
mentions a flag decides it, and a flag that none mentions is as it is server-wide. The order in
which the held roles are listed does not matter, and no bit without a flag is ever set. -/
theorem channel_last_mention (server : Permissions) (held : List Role)
    (overwrites : List (Snowflake × Overwrite)) (everyone user : Option Overwrite) :
    (server.has .administrator = true → channel server held overwrites everyone user = .all) ∧
    (server.has .administrator = false →
      (∃ order, ByRank held order) ∧ (∃ find, IsMapOf overwrites find) ∧
      ∀ order find, ByRank held order → IsMapOf overwrites find → ∀ f : Flag,
        (channel server held overwrites everyone user).has f = true ↔
          (∃ o, Overwrite.LastOn f (layers order find everyone user) o ∧ o.allow.has f = true) ∨
          ((∀ o ∈ layers order find everyone user, o.mentions f = false) ∧
            server.has f = true)) ∧
    (∀ held', held'.Perm held →
      channel server held' overwrites everyone user =
        channel server held overwrites everyone user) ∧
    (∀ bit, (channel server held overwrites everyone user).toNat.testBit bit = true →
      ∃ f : Flag, f.position = bit) := by
  have administrator : server.has .administrator = true →
      ∀ held, channel server held overwrites everyone user = .all :=
    fun admin held => if_pos admin
  have map := overwriteOf?_isMapOf overwrites
  refine ⟨fun admin => administrator admin held,
    fun plain => ⟨⟨_, byRank_sortRanked held⟩, ⟨_, map⟩, ?_⟩, ?_, ?_⟩
  · intro order find byRank map f
    rw [channel_eq_layers plain byRank map, Overwrite.has_foldl_apply]
  · intro held' permuted
    cases admin : server.has .administrator with
    | true => rw [administrator admin, administrator admin]
    | false =>
      have byRank := byRank_sortRanked held
      have byRank' : ByRank held' _ :=
        ⟨byRank.listed.trans (permuted.filter _).symm, byRank.ascending⟩
      rw [channel_eq_layers admin byRank map, channel_eq_layers admin byRank' map]
  · intro bit on
    obtain ⟨f, here, -⟩ := Permissions.testBit_toNat.mp on
    exact ⟨f, here⟩

def roleAt (id position : Int) (everyone : Bool) : Role :=
  { Role.new (.wrap id) (.wrap 1) "" ∅ ⟨0, 0⟩ with position := position, isEveryone := everyone }

/-- Roles out of order, one of them at two positions and one listed twice, with an everyone role
among them. -/
def unsortedRoles : List Role :=
  [roleAt 7 3 false, roleAt 1 0 true, roleAt 5 3 false, roleAt 7 1 false, roleAt 5 3 false]

def overlapping : Overwrite := ⟨.ofFlags [.speak, .connect], .ofFlags [.connect, .sendMessages]⟩

/-- Role 7 has the last word on speaking and the user's own overwrite on sending. What is stored
for the everyone role among the held ones counts for nothing. -/
theorem channel_last_mention_sample :
    let server := Permissions.ofFlags [.viewChannel, .sendMessages, .speak]
    let quiet : Overwrite := ⟨∅, .only .speak⟩
    let own : Overwrite := ⟨.only .sendMessages, ∅⟩
    let overwrites : List (Snowflake × Overwrite) :=
      [(.wrap 5, quiet), (.wrap 7, overlapping), (.wrap 1, ⟨.only .kickMembers, ∅⟩)]
    let order := [roleAt 7 1 false, roleAt 5 3 false, roleAt 5 3 false, roleAt 7 3 false]
    let result := channel server unsortedRoles overwrites none (some own)
    server.has .administrator = false ∧ ByRank unsortedRoles order ∧
      result.has .speak = true ∧ result.has .sendMessages = true ∧
      result.has .kickMembers = false ∧ result.toNat.testBit 1 = true ∧
      unsortedRoles.reverse.Perm unsortedRoles ∧
      channel server unsortedRoles.reverse overwrites none (some own) = result := by
  intro server quiet own overwrites order result
  obtain ⟨-, law, permuted, -⟩ :=
    channel_last_mention server unsortedRoles overwrites none (some own)
  have plain : server.has .administrator = false := by decide
  have byRank : ByRank unsortedRoles order := ⟨by decide +kernel, by decide⟩
  have reversed : unsortedRoles.reverse.Perm unsortedRoles := List.reverse_perm _
  have map := overwriteOf?_isMapOf overwrites
  obtain ⟨-, -, decides⟩ := law plain
  have applied : layers order (overwriteOf? overwrites) none (some own) =
      [overlapping, quiet, quiet, overlapping, own] := by decide +kernel
  have speak : Overwrite.LastOn .speak (layers order (overwriteOf? overwrites) none (some own))
      overlapping := ⟨[overlapping, quiet, quiet], [own], applied, by decide, by decide⟩
  have send : Overwrite.LastOn .sendMessages
      (layers order (overwriteOf? overwrites) none (some own)) own :=
    ⟨[overlapping, quiet, quiet, overlapping], [], applied, by decide, by decide⟩
  refine ⟨plain, byRank, (decides order _ byRank map _).mpr (.inl ⟨_, speak, by decide⟩),
    (decides order _ byRank map _).mpr (.inl ⟨_, send, by decide⟩),
    Bool.eq_false_iff.mpr fun set => ?_, by decide +kernel, reversed, permuted _ reversed⟩
  rcases (decides order _ byRank map .kickMembers).mp set with ⟨o, last, -⟩ | ⟨-, set⟩
  · exact last.not_silent (by rw [applied]; decide)
  · exact absurd set (by decide)

end Resolver
end GuildAccess
