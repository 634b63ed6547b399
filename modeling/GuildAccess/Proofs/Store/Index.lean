import GuildAccess.Proofs.Judgement

/-!
The two indexes. An index changes only with the rows that it leads to: a row that is created is
entered under the guild it was created in, over whatever stood there, and a row that is deleted is
struck out.
-/
namespace GuildAccess

/-- The kinds of rows that an index leads to. -/
inductive Indexed
  | role
  | channel
deriving DecidableEq

namespace Store

def index (s : Store) : Indexed → KeyMap Snowflake Snowflake
  | .role => s.roleIndex
  | .channel => s.channelIndex

/-- The identifier that a change gives to a new row, and the guild that gets the row. -/
def Change.creates? : Change → Indexed → Option (Snowflake × Snowflake)
  | .createGuild guild everyone, .role => some (everyone.id, guild.id)
  | .createRole role, .role => some (role.id, role.guildId)
  | .createChannel channel, .channel => some (channel.id, channel.guildId)
  | _, _ => none

def Change.deletes? : Change → Indexed → Option Snowflake
  | .deleteRole id, .role => some id
  | .deleteChannel id, .channel => some id
  | _, _ => none

/-- What a change makes of an index. -/
def Change.reindexed (change : Change) (kind : Indexed) (index : KeyMap Snowflake Snowflake) :
    KeyMap Snowflake Snowflake :=
  match change.creates? kind, change.deletes? kind with
  | some (id, guild), _ => index.insert id guild
  | none, some id => index.erase id
  | none, none => index

/-- Whether a change creates or deletes a row that an index leads to. -/
def Change.reindexes : Change → Bool
  | .createGuild .. | .createChannel .. | .deleteChannel .. | .createRole .. | .deleteRole .. =>
    true
  | _ => false

/-- Checks that end in new rows for one guild at most. -/
def Rewriting (s : Store) (check : Except Fault Store) : Prop :=
  ∀ after, check = .ok after → after = s ∨ ∃ guild g, after = s.setRows guild g

variable {s after : Store} {now : Instant}

@[simp] theorem rewriting_self : s.Rewriting (.ok s) := by
  rintro after ⟨⟩
  exact .inl rfl

@[simp] theorem rewriting_setRows {guild : Snowflake} {g : GuildRows} :
    s.Rewriting (.ok (s.setRows guild g)) := by
  rintro after ⟨⟩
  exact .inr ⟨guild, g, rfl⟩

@[simp] theorem rewriting_error {cause : Fault} : s.Rewriting (.error cause) := by
  intro after done
  cases done

theorem rewriting_bind {α : Type} {step : Except Fault α} {next : α → Except Fault Store}
    (later : ∀ given, s.Rewriting (next given)) : s.Rewriting (step >>= next) := by
  intro after done
  obtain ⟨given, -, done⟩ := passes_bind.mp done
  exact later given after done

@[simp] theorem rewriting_ite {c : Prop} [Decidable c] {yes no : Except Fault Store} :
    s.Rewriting (if c then yes else no) ↔ if c then s.Rewriting yes else s.Rewriting no := by
  split <;> rfl

/-- A change that neither creates nor deletes such a row rewrites rows of one guild at most. -/
theorem apply_rewriting {change : Change} (plain : change.reindexes = false) :
    s.Rewriting (s.apply now change) := by
  cases change with
  | updateGuild | appendAudit | createMember | deleteMember =>
    exact rewriting_bind fun g => by simp
  | updateChannel | setLockdown | updateRole => exact rewriting_bind fun located => by simp
  | putOverride => exact rewriting_bind fun guild => rewriting_bind fun g => by simp
  | setPositions guild positions =>
    refine rewriting_bind fun g => ?_
    split <;> simp
  | assignRole guild user role =>
    refine rewriting_bind fun g => ?_
    split
    · exact rewriting_bind fun m => by simp
    · simp
  | unassignRole guild user role =>
    simp only [apply, unassignRole]
    split
    · split <;> simp
    · simp
  | deleteOverride channel target =>
    simp only [apply, deleteOverride]
    split
    · split <;> simp
    · simp
  | _ => cases plain

/-- A change that creates or deletes such a row enters it in the index or strikes it out. -/
theorem reindexing_index {change : Change} (reindexes : change.reindexes = true)
    (done : s.apply now change = .ok after) (kind : Indexed) :
    after.index kind = change.reindexed kind (s.index kind) := by
  cases change with
  | createGuild | createChannel =>
    simp only [apply, createGuild, createChannel, passes_bind] at done
    obtain ⟨g, -, done⟩ := done
    split at done <;> cases done
    cases kind <;> rfl
  | createRole role =>
    simp only [apply, createRole, passes_bind] at done
    obtain ⟨g, -, g', -, done⟩ := done
    cases done
    cases kind <;> rfl
  | deleteChannel id =>
    simp only [apply, deleteChannel, passes_bind] at done
    obtain ⟨located, -, done⟩ := done
    cases done
    cases kind <;> rfl
  | deleteRole id =>
    simp only [apply, deleteRole, passes_bind] at done
    obtain ⟨located, -, done⟩ := done
    split at done <;> cases done
    cases kind <;> rfl
  | _ => cases reindexes

/-- An index after a change that is carried out. -/
theorem apply_index {change : Change} (done : s.apply now change = .ok after) (kind : Indexed) :
    after.index kind = change.reindexed kind (s.index kind) := by
  cases reindexes : change.reindexes with
  | true => exact reindexing_index reindexes done kind
  | false =>
    have kept : after.index kind = s.index kind := by
      rcases apply_rewriting reindexes after done with rfl | ⟨guild, g, rfl⟩
      · rfl
      · cases kind <;> rfl
    have untouched : change.reindexed kind (s.index kind) = s.index kind := by
      cases change with
      | createGuild | createChannel | deleteChannel | createRole | deleteRole => cases reindexes
      | _ => rfl
    rw [kept, untouched]

/-- Only a channel that is created or deleted changes where the id of a channel leads. -/
theorem apply_channelIndex {change : Change} (done : s.apply now change = .ok after)
    (created : ∀ channel, change ≠ .createChannel channel)
    (deleted : ∀ id, change ≠ .deleteChannel id) : after.channelIndex = s.channelIndex := by
  have entered := apply_index done .channel
  cases change with
  | createChannel channel => exact absurd rfl (created channel)
  | deleteChannel id => exact absurd rfl (deleted id)
  | _ => exact entered

end Store
end GuildAccess
