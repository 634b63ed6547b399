import GuildAccess.Proofs.Store.Queries

/-!
Reading the members of a guild page by page. Pages come by ascending user id, and each request goes
on behind the last member of the page before it, so the pages hold the members one by one, none
twice, and only the last page can be short.
-/
namespace GuildAccess

/-- Members by strictly ascending user id. -/
def Member.ByUser (members : List Member) : Prop := members.Pairwise fun a b => a.userId < b.userId

namespace Store
variable {s : Store} {guild : Snowflake} {limit : Int} {after : Option Snowflake} {m : Member}

/-- The members of a guild by ascending user id, only those behind a cursor if there is one. -/
def membersBehind (s : Store) (guild : Snowflake) (after : Option Snowflake) : List Member :=
  (((s.guilds.get? guild).map (·.members.rows)).getD []).filter fun m =>
    after.all fun cursor => cursor < m.userId

theorem memberPage_eq :
    s.memberPage guild limit after = (s.membersBehind guild after).take (memberPageSize limit) := by
  unfold memberPage membersBehind
  cases s.guilds.get? guild with
  | none => simp
  | some g => rfl

/-- The size of a page is what is asked for, held to the range from 1 to 1000. -/
theorem memberPageSize_eq : (memberPageSize limit : Int) = min (max limit 1) 1000 := by
  unfold memberPageSize
  omega

theorem memberPageSize_pos : 1 ≤ memberPageSize limit := by
  unfold memberPageSize
  omega

/-- Members are stored under their user. -/
theorem Keyed.member_stored (keyed : s.Keyed) {user : Snowflake}
    (stored : s.member? guild user = some m) : m.userId = user ∧ m.guildId = guild := by
  unfold member? at stored
  obtain ⟨g, found, stored⟩ := Option.bind_eq_some_iff.mp stored
  exact (keyed guild g found).member_id user m stored

theorem mem_membersBehind (keyed : s.Keyed) : m ∈ s.membersBehind guild after ↔
    s.member? guild m.userId = some m ∧ ∀ cursor, after = some cursor → cursor < m.userId := by
  unfold membersBehind member?
  rw [List.mem_filter, Option.all_eq_true]
  refine and_congr ?_ (by simp)
  cases found : s.guilds.get? guild with
  | none => simp
  | some g => exact KeyMap.mem_rows_of_named fun _ _ stored =>
      ((keyed guild g found).member_id _ _ stored).1

theorem membersBehind_byUser (keyed : s.Keyed) : Member.ByUser (s.membersBehind guild after) := by
  unfold membersBehind
  refine List.Pairwise.filter _ ?_
  cases found : s.guilds.get? guild with
  | none => exact .nil
  | some g =>
    have ascending := g.members.rows_ascending fun _ _ stored =>
      ((keyed guild g found).member_id _ _ stored).1
    exact ascending.imp fun below => of_decide_eq_true below

/-- Behind the end of a page stand the members that the page left. -/
theorem membersBehind_last (keyed : s.Keyed) {size : Nat} {last : Member}
    (ends : ((s.membersBehind guild after).take size).getLast? = some last) :
    s.membersBehind guild (some last.userId) = (s.membersBehind guild after).drop size := by
  have listed : last ∈ s.membersBehind guild after :=
    List.mem_of_mem_take (List.mem_of_getLast? ends)
  have beyond := ((mem_membersBehind keyed).mp listed).2
  rw [← filter_behind (fun a b : Member => a.userId < b.userId) Snowflake.lt_asymm
    (membersBehind_byUser keyed) ends]
  unfold membersBehind
  rw [List.filter_filter]
  refine List.filter_congr fun m _ => ?_
  -- What is behind the last member of the page is behind the cursor that led to the page.
  cases after with
  | none => simp
  | some cursor =>
    have onward : last.userId < m.userId → cursor < m.userId :=
      Snowflake.lt_trans (beyond cursor rfl)
    simpa using onward

/-- The pages of members that a reader gets behind a cursor: each request goes on behind the last
member of the page before it, and an empty page ends the reading. -/
inductive MemberPages (s : Store) (guild : Snowflake) (limit : Int) :
    Option Snowflake → List (List Member) → Prop
  | done {after : Option Snowflake} (ended : s.memberPage guild limit after = []) :
    MemberPages s guild limit after []
  | next {after : Option Snowflake} {page : List Member} {last : Member} {rest : List (List Member)}
    (read : s.memberPage guild limit after = page) (ends : page.getLast? = some last)
    (on : MemberPages s guild limit (some last.userId) rest) :
    MemberPages s guild limit after (page :: rest)

/-- A reader gets the same pages every time. -/
theorem MemberPages.unique {pages others : List (List Member)}
    (reading : MemberPages s guild limit after pages)
    (reading' : MemberPages s guild limit after others) : others = pages := by
  induction reading generalizing others with
  | done ended =>
    cases reading' with
    | done => rfl
    | next read ends =>
      rw [ended] at read
      rw [← read] at ends
      cases ends
  | next read ends _ ih =>
    cases reading' with
    | done ended =>
      rw [ended] at read
      rw [← read] at ends
      cases ends
    | next read' ends' on =>
      cases read.symm.trans read'
      cases ends.symm.trans ends'
      rw [ih on]

/-- A page is not empty and not over its size. -/
theorem MemberPages.page_within {pages : List (List Member)}
    (reading : MemberPages s guild limit after pages) :
    ∀ page ∈ pages, 1 ≤ page.length ∧ page.length ≤ memberPageSize limit := by
  induction reading with
  | done => exact nofun
  | next read ends _ ih =>
    rw [List.forall_mem_cons]
    refine ⟨⟨?_, ?_⟩, ih⟩
    · exact List.length_pos_of_mem (List.mem_of_getLast? ends)
    · rw [← read, memberPage_eq]
      exact List.length_take_le ..

/-- Where a reader gets nothing, nothing is left behind the cursor. -/
theorem MemberPages.nothing_left (reading : MemberPages s guild limit after []) :
    s.membersBehind guild after = [] := by
  cases reading with
  | done ended =>
    rw [memberPage_eq, List.take_eq_nil_iff] at ended
    exact ended.resolve_left (Nat.ne_of_gt memberPageSize_pos)

/-- The pages behind a cursor hold what is behind it, page by page. -/
theorem MemberPages.flatten_eq (keyed : s.Keyed) {pages : List (List Member)}
    (reading : MemberPages s guild limit after pages) :
    pages.flatten = s.membersBehind guild after := by
  induction reading with
  | done ended => exact (MemberPages.nothing_left (.done ended)).symm
  | next read ends _ ih =>
    subst read
    rw [memberPage_eq] at ends ⊢
    rw [List.flatten_cons, ih, membersBehind_last keyed ends, List.take_append_drop]

/-- Only the last page can be short. -/
theorem MemberPages.full (keyed : s.Keyed) {pages : List (List Member)}
    (reading : MemberPages s guild limit after pages) :
    ∀ page ∈ pages.dropLast, page.length = memberPageSize limit := by
  induction reading with
  | done => exact nofun
  | @next after page last rest read ends on ih =>
    subst read
    rw [memberPage_eq] at ends ⊢
    cases rest with
    | nil => exact nofun
    | cons second later =>
      rw [List.dropLast_cons_of_ne_nil (List.cons_ne_nil second later), List.forall_mem_cons]
      refine ⟨List.length_take_of_le ?_, ih⟩
      -- A page follows, so members are left behind this one.
      have onward := on.flatten_eq keyed
      rw [membersBehind_last keyed ends] at onward
      have some_left := (on.page_within second List.mem_cons_self).1
      have left := congrArg List.length onward
      rw [List.flatten_cons, List.length_append, List.length_drop] at left
      omega

/-- Reading behind a cursor comes to an end. -/
theorem exists_memberPages (keyed : s.Keyed) (guild : Snowflake) (limit : Int)
    (after : Option Snowflake) : ∃ pages, MemberPages s guild limit after pages := by
  -- Each page leaves fewer members behind its end.
  induction left : (s.membersBehind guild after).length using Nat.strongRecOn
    generalizing after with
  | _ _ ih =>
    cases ends : (s.memberPage guild limit after).getLast? with
    | none => exact ⟨[], .done (List.getLast?_eq_none_iff.mp ends)⟩
    | some last =>
      have there := List.length_pos_of_mem (List.mem_of_getLast? ends)
      have ends' := ends
      rw [memberPage_eq] at there ends'
      have fewer : (s.membersBehind guild (some last.userId)).length <
          (s.membersBehind guild after).length := by
        rw [membersBehind_last keyed ends', List.length_drop]
        have some_room : 1 ≤ memberPageSize limit := memberPageSize_pos
        rw [List.length_take] at there
        omega
      obtain ⟨rest, on⟩ := ih _ (left ▸ fewer) (some last.userId) rfl
      exact ⟨_, .next rfl ends on⟩

/-- Paging lists the members of a guild once. Whoever starts without a cursor, goes on behind the
last member of each page and stops at an empty page does stop, whatever size is asked for. The pages
then hold the members of the guild by ascending user id, none is empty or over the size of a page,
and all but the last have that size. -/
theorem member_pages_list_the_guild_once (s : Store) (guild : Snowflake) (limit : Int)
    (reach : s.Reachable) :
    ∃ pages, MemberPages s guild limit none pages ∧
      (∀ others, MemberPages s guild limit none others → others = pages) ∧
      Member.ByUser pages.flatten ∧
      (∀ user m, s.member? guild user = some m ↔ m ∈ pages.flatten ∧ m.userId = user) ∧
      (∀ page ∈ pages, page ≠ [] ∧ (page.length : Int) ≤ min (max limit 1) 1000) ∧
      ∀ page ∈ pages.dropLast, (page.length : Int) = min (max limit 1) 1000 := by
  have keyed := reach.keyed
  obtain ⟨pages, reading⟩ := exists_memberPages keyed guild limit none
  have listed := reading.flatten_eq keyed
  refine ⟨pages, reading, fun others reading' => reading.unique reading', ?_, ?_, ?_, ?_⟩
  · rw [listed]
    exact membersBehind_byUser keyed
  · intro user m
    rw [listed, mem_membersBehind keyed]
    constructor
    · intro stored
      obtain ⟨rfl, -⟩ := keyed.member_stored stored
      exact ⟨⟨stored, fun _ named => nomatch named⟩, rfl⟩
    · rintro ⟨⟨stored, -⟩, rfl⟩
      exact stored
  · intro page member
    obtain ⟨some_there, within⟩ := reading.page_within page member
    rw [← memberPageSize_eq]
    exact ⟨List.ne_nil_of_length_pos some_there, Int.ofNat_le.mpr within⟩
  · intro page member
    rw [reading.full keyed page member, memberPageSize_eq]

/-- The small store with two more members in its guild, one under a negative user id, and without
the moderator. -/
def crowdedSample : Store :=
  let now : Instant := ⟨0, 0⟩
  let id := Snowflake.wrap
  sample.commitAll now [
    .createMember (.new (id 1) (id (-7)) now),
    .createMember (.new (id 1) (id 1) now),
    .createMember (.new (id 1) (id 9) now),
    .deleteMember (id 1) (id 2)]

theorem member_pages_list_the_guild_once_sample :
    crowdedSample.Reachable ∧
      (∃ pages, MemberPages crowdedSample (.wrap 1) 3 none pages ∧
        pages.flatten.map (·.userId) = [.wrap (-7), .wrap 1, .wrap 3, .wrap 9] ∧
        ∀ page ∈ pages.dropLast, (page.length : Int) = 3) ∧
      ∃ pages, MemberPages crowdedSample (.wrap 1) (-5) none pages ∧
        pages.flatten.map (·.userId) = [.wrap (-7), .wrap 1, .wrap 3, .wrap 9] ∧
        ∀ page ∈ pages.dropLast, (page.length : Int) = 1 := by
  have reach : crowdedSample.Reachable := sample_reachable.commitAll _ _
  obtain ⟨pages, reading, -, -, -, -, full⟩ :=
    member_pages_list_the_guild_once crowdedSample (.wrap 1) 3 reach
  obtain ⟨pages', reading', -, -, -, -, full'⟩ :=
    member_pages_list_the_guild_once crowdedSample (.wrap 1) (-5) reach
  refine ⟨reach, ⟨pages, reading, ?_, full⟩, pages', reading', ?_, full'⟩
  · rw [reading.flatten_eq reach.keyed]
    decide +kernel
  · rw [reading'.flatten_eq reach.keyed]
    decide +kernel

end Store
end GuildAccess
