import GuildAccess.Proofs.Store.Effect

/-!
Logs. A log is a table of entries by identifier, one for each guild. Of all changes only one writes
to a log; the others leave every log as it is.
-/
namespace GuildAccess
namespace Store
variable {s after : Store} {now : Instant} {guild : Snowflake}

def logOf (s : Store) (guild : Snowflake) : KeyMap Snowflake Audit.Entry :=
  ((s.guilds.get? guild).map (·.audit)).getD .empty

/-- An entry was written to the log of a guild, and to no other log. -/
structure Puts (s after : Store) (guild : Snowflake) (e : Audit.Entry) : Prop where
  written : after.logOf guild = (s.logOf guild).insert e.id e
  others : ∀ other, other ≠ guild → after.logOf other = s.logOf other

/-- The log of a guild has one entry more, and no other log differs. -/
structure Adds (s after : Store) (guild : Snowflake) (e : Audit.Entry) : Prop
    extends Puts s after guild e where
  new : (s.logOf guild).get? e.id = none

/-- No log differs. -/
def Silent (s after : Store) : Prop := ∀ guild, after.logOf guild = s.logOf guild

theorem logOf_of_rows {g : GuildRows} (rows : s.guilds.get? guild = some g) :
    s.logOf guild = g.audit := by
  simp [logOf, rows]

theorem logOf_of_insert {home : Snowflake} {g' : GuildRows}
    (rows : after.guilds = s.guilds.insert home g') (guild : Snowflake) :
    after.logOf guild = if guild = home then g'.audit else s.logOf guild := by
  unfold logOf
  rw [rows, KeyMap.get?_insert]
  split <;> rfl

/-- Only a change that is there for it writes to a log. -/
theorem apply_silent {change : Change} (done : s.apply now change = .ok after)
    (plain : ∀ e, change ≠ .appendAudit e) : s.Silent after := by
  intro guild
  rcases apply_cases done with rfl | ⟨founded, everyone, -, absent, rows⟩ |
    ⟨home, g, g', -, found, effect, rows⟩
  · rfl
  · rw [logOf_of_insert rows]
    split
    · next here =>
      subst here
      simp [logOf, absent, GuildRows.new]
    · rfl
  · have kept : g'.audit = g.audit := by
      cases effect with
      | appendAudit => exact absurd rfl (plain _)
      | setPositions => rw [moveRoles_frame]
      | _ => rfl
    rw [logOf_of_insert rows]
    split
    · next here =>
      subst here
      exact kept.trans (logOf_of_rows found).symm
    · rfl

/-- No change takes a guild away. -/
theorem apply_known {change : Change} (done : s.apply now change = .ok after)
    (known : (s.guilds.get? guild).isSome = true) : (after.guilds.get? guild).isSome = true := by
  rcases apply_cases done with rfl | ⟨founded, everyone, -, -, rows⟩ | ⟨_, _, _, -, -, -, rows⟩
  · exact known
  all_goals
    rw [rows, KeyMap.get?_insert]
    split
    · rfl
    · exact known

/-- An entry for a guild that is there is written, and no role is touched. -/
theorem appendAudit_puts {e : Audit.Entry} (known : (s.guilds.get? e.guildId).isSome = true) :
    ∃ after, s.appendAudit e = .ok after ∧ s.Puts after e.guildId e ∧
      ∀ id, after.role? id = s.role? id := by
  obtain ⟨g, found⟩ := Option.isSome_iff_exists.mp known
  refine ⟨s.setRows e.guildId { g with audit := g.audit.insert e.id e }, ?_, ⟨?_, ?_⟩, ?_⟩
  · simp only [appendAudit, found, need]
    rfl
  · rw [logOf_of_insert rfl, if_pos rfl, logOf_of_rows found]
  · intro other elsewhere
    rw [logOf_of_insert rfl, if_neg elsewhere]
  · intro id
    unfold role? rowsOfRole?
    show ((s.roleIndex.get? id).bind (s.guilds.insert _ _).get?).bind _ = _
    cases s.roleIndex.get? id with
    | none => rfl
    | some home =>
      simp only [Option.bind_some, KeyMap.get?_insert]
      split
      · next here => simp [here, found]
      · rfl

/-- An append that is carried out puts the entry into the log of its guild. -/
theorem apply_puts {e : Audit.Entry} (done : s.apply now (.appendAudit e) = .ok after) :
    s.Puts after e.guildId e := by
  have written : Rewrites now s (.appendAudit e) after := appendAudit_rewrites done
  obtain ⟨home, g, g', about, rows, effect, insert⟩ := written
  cases about
  cases effect
  have rows : s.guilds.get? e.guildId = some g := rows
  refine ⟨?_, fun other elsewhere => ?_⟩
  · rw [logOf_of_insert insert, if_pos rfl, logOf_of_rows rows]
  · rw [logOf_of_insert insert, if_neg elsewhere]

theorem Silent.puts {mid : Store} {e : Audit.Entry} (silent : s.Silent mid)
    (puts : mid.Puts after guild e) : s.Puts after guild e where
  written := by rw [puts.written, silent guild]
  others other elsewhere := by rw [puts.others other elsewhere, silent other]

/-- What a log holds is replaced only under its own identifier. -/
theorem Puts.kept {e held : Audit.Entry} {home id : Snowflake} (puts : s.Puts after home e)
    (stored : (s.logOf guild).get? id = some held) (other : (home, e.id) ≠ (guild, id)) :
    (after.logOf guild).get? id = some held := by
  by_cases here : guild = home
  · subst here
    have different : id ≠ e.id := fun same => other (same ▸ rfl)
    rw [puts.written, KeyMap.get?_insert, if_neg different]
    exact stored
  · rw [puts.others guild here]
    exact stored

/-- What a log holds stays in it when an entry is added. -/
theorem Adds.kept {e held : Audit.Entry} {home id : Snowflake} (adds : s.Adds after home e)
    (stored : (s.logOf guild).get? id = some held) :
    (after.logOf guild).get? id = some held := by
  refine adds.toPuts.kept stored ?_
  rintro ⟨⟩
  cases stored.symm.trans adds.new

theorem Silent.kept {held : Audit.Entry} {id : Snowflake} (silent : s.Silent after)
    (stored : (s.logOf guild).get? id = some held) :
    (after.logOf guild).get? id = some held := by
  rw [silent guild]
  exact stored

end Store
end GuildAccess
