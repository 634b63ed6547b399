import GuildAccess.Proofs.Escalation

/-!
What an assignment hands out: all that the role grants. Edits of roles and overrides are held to the
flags of the actor, but an assignment is judged by rank alone, so an actor may hand out flags that
they lack, to others and to themselves.
-/
namespace GuildAccess

/-- With one more role, a user holds what they held before and what the role grants. -/
theorem GuildRows.serverOf_addRole {g : GuildRows} {guild user role : Snowflake} {m : Member}
    {row : Role} {f : Flag} {now : Instant} (keyed : g.Keyed guild)
    (listed : g.members.get? user = some m) (lacking : m.hasRole role = false)
    (stored : g.roles.get? role = some row) :
    (({ g with members := g.members.insert user (m.addRole role now) } : GuildRows).serverOf
        user).has f = true ↔
      (g.serverOf user).has f = true ∨ row.grants f = true := by
  generalize written :
    ({ g with members := g.members.insert user (m.addRole role now) } : GuildRows) = g'
  have held : g'.heldBy user = g.heldBy user ++ [role] := by
    subst written
    rw [heldBy_insert rfl, if_pos rfl, Member.addRole_roles lacking]
    simp [heldBy, listed]
  have guild_row : g'.guild = g.guild := by rw [← written]
  have roles : g'.roles = g.roles := by rw [← written]
  have counts_iff : ∀ {id r}, g.roles.get? id = some r →
      (r.contributes (g'.heldBy user) = true ↔
        r.contributes (g.heldBy user) = true ∨ id = role) := by
    intro id r found
    rw [keyed.contributes_iff found, keyed.contributes_iff found, held, List.mem_append,
      List.mem_singleton, or_assoc]
  rw [serverOf_has, serverOf_has, guild_row, roles]
  constructor
  · rintro (owner | ⟨id, r, found, counts, granted⟩)
    · exact .inl (.inl owner)
    · rcases (counts_iff found).mp counts with before | rfl
      · exact .inl (.inr ⟨id, r, found, before, granted⟩)
      · cases found.symm.trans stored
        exact .inr granted
  · rintro ((owner | ⟨id, r, found, counts, granted⟩) | granted)
    · exact .inl owner
    · exact .inr ⟨id, r, found, (counts_iff found).mpr (.inl counts), granted⟩
    · exact .inr ⟨role, row, stored, (counts_iff stored).mpr (.inr rfl), granted⟩

namespace Service
variable {service : Service} {around : Surroundings} {guild user role actor : Snowflake}

/-- What a successful assignment makes of the rows: the member lists one more role of the guild. -/
theorem handle_assignRole {answer : Answer}
    (done : (service.handle around (.assignRole guild user role actor)).2 = .ok answer) :
    ∃ g m row, service.store.guilds.get? guild = some g ∧ g.members.get? user = some m ∧
      m.hasRole role = false ∧ g.roles.get? role = some row ∧
      (service.handle around (.assignRole guild user role actor)).1.store.tables? guild =
        some ({ g with members := g.members.insert user (m.addRole role around.now) } :
          GuildRows).withoutLog := by
  rcases handle_cases service around (.assignRole guild user role actor) with ⟨⟨cause, failed⟩, -⟩ |
    ⟨ruling, judged, unplanned, -⟩ | ⟨p, store, judged, applied, -, quiet⟩
  · cases failed.symm.trans done
  · simp only [Call.judge, Judge.assignRole, passes_bind, Except.ok.injEq] at judged
    obtain ⟨_, -, _, -, rfl⟩ := judged
    exact absurd rfl (unplanned _)
  · obtain ⟨_, -, change⟩ := Judge.assignRole_plan judged
    rw [change] at applied
    have written : Store.Rewrites around.now service.store (.assignRole guild user role) store :=
      Store.assignRole_rewrites applied
    obtain ⟨home, g, g', about, rows, effect, after⟩ := written
    cases about
    cases effect with
    | @assignRole _ _ _ m known listed lacking =>
      obtain ⟨row, stored⟩ := Option.isSome_iff_exists.mp known
      refine ⟨g, m, row, rows, listed, lacking, stored, ?_⟩
      rw [changed_tables quiet, Store.tables?, after, KeyMap.get?_insert, if_pos rfl]
      rfl

/-- An assignment that succeeds hands out exactly what the role grants. It keeps to the flags of the
target and the actor exactly if the role does. -/
theorem assignRole_hands_out (service : Service) (around : Surroundings)
    (guild user role actor : Snowflake) (answer : Answer) (reach : service.store.Reachable)
    (done : (service.handle around (.assignRole guild user role actor)).2 = .ok answer) :
    ∃ row ∈ service.store.roleList guild, row.id = role ∧
      (∀ f, ((service.handle around (.assignRole guild user role actor)).1.store.serverOf guild
          user).has f = true ↔
        (service.store.serverOf guild user).has f = true ∨ row.grants f = true) ∧
      ((∀ f, ((service.handle around (.assignRole guild user role actor)).1.store.serverOf guild
            user).has f = true →
          (service.store.serverOf guild user).has f = true ∨
            (service.store.serverOf guild actor).has f = true) ↔
        ∀ f, row.grants f = true → (service.store.serverOf guild user).has f = true ∨
          (service.store.serverOf guild actor).has f = true) := by
  obtain ⟨g, m, row, rows, listed, lacking, stored, after⟩ := handle_assignRole done
  have keyed := reach.keyed guild g rows
  have before : service.store.tables? guild = some g.withoutLog := by
    rw [Store.tables?, rows]
    rfl
  have inside : g.hasInsider user = true := by simp [GuildRows.hasInsider, listed]
  have gained : ∀ f, ((service.handle around (.assignRole guild user role actor)).1.store.serverOf
      guild user).has f = true ↔
      (service.store.serverOf guild user).has f = true ∨ row.grants f = true := by
    intro f
    have inside' : ({ g with members := g.members.insert user (m.addRole role around.now) } :
        GuildRows).hasInsider user = true := by
      simp [GuildRows.hasInsider, KeyMap.get?_insert]
    rw [Store.serverOf_rows after, Store.serverOf_rows before, inside, inside', Bool.true_and,
      Bool.true_and]
    exact GuildRows.serverOf_addRole keyed listed lacking stored
  refine ⟨row, ?_, keyed.role_id role row stored, gained, ?_⟩
  · rw [Store.roleList, rows]
    exact GuildRows.mem_roleList.mpr ⟨role, stored⟩
  · constructor
    · exact fun bounded f granted => bounded f ((gained f).mpr (.inr granted))
    · intro covered f has
      rcases (gained f).mp has with old | granted
      · exact .inl old
      · exact covered f granted

theorem assignRole_hands_out_sample :
    ∃ row ∈ Store.sample.roleList (.wrap 1), row.id = .wrap 11 ∧
      ∀ f, ((sample.handle .sample (.assignRole (.wrap 1) (.wrap 3) (.wrap 11)
          (.wrap 2))).1.store.serverOf (.wrap 1) (.wrap 3)).has f = true ↔
        (sample.store.serverOf (.wrap 1) (.wrap 3)).has f = true ∨ row.grants f = true := by
  obtain ⟨row, listed, named, gained, -⟩ := assignRole_hands_out .sample .sample (.wrap 1)
    (.wrap 3) (.wrap 11) (.wrap 2) _ Store.sample_reachable rfl
  exact ⟨row, listed, named, gained⟩

/-- The moderator of the small store, who is not its owner and may not ban, takes the role below
their own that bans. -/
theorem assignRole_escalates :
    Store.sample.Reachable ∧
    (Store.sample.guild? (.wrap 1)).any (·.isOwner (.wrap 2)) = false ∧
    (sample.store.serverOf (.wrap 1) (.wrap 2)).has .banMembers = false ∧
    (∃ answer, (sample.handle .sample (.assignRole (.wrap 1) (.wrap 2) (.wrap 11) (.wrap 2))).2 =
      .ok answer) ∧
    ((sample.handle .sample (.assignRole (.wrap 1) (.wrap 2) (.wrap 11)
      (.wrap 2))).1.store.serverOf (.wrap 1) (.wrap 2)).has .banMembers = true :=
  ⟨Store.sample_reachable, by decide, by decide, ⟨_, rfl⟩, by decide⟩

end Service
end GuildAccess
