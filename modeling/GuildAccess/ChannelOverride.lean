import GuildAccess.KeyMap
import GuildAccess.Instant
import GuildAccess.Overwrite

/-!
Overrides: what one role or one member is allowed and denied in one channel. The overrides of a
channel are listed by target, members before roles and each by id.
-/
namespace GuildAccess

/-- Whom an override is for. -/
inductive OverrideTarget
  | role (id : Snowflake)
  | member (id : Snowflake)
deriving DecidableEq

namespace OverrideTarget

def kind : OverrideTarget → String
  | .role _ => "role"
  | .member _ => "member"

def id : OverrideTarget → Snowflake
  | .role id => id
  | .member id => id

def isRole : OverrideTarget → Bool
  | .role _ => true
  | .member _ => false

/-- The target of a stored kind and id. -/
def ofParts? (kind : String) (id : Snowflake) : Option OverrideTarget :=
  if kind = "role" then some (.role id) else if kind = "member" then some (.member id) else none

/-- Order of targets: members first, then by id. -/
def before : OverrideTarget → OverrideTarget → Bool
  | .member a, .member b => Key.before a b
  | .member _, .role _ => true
  | .role _, .member _ => false
  | .role a, .role b => Key.before a b

instance : Key OverrideTarget where
  decEq := inferInstance
  before := before
  irrefl a := by cases a <;> exact Key.irrefl _
  trans := by
    intro a b c
    cases a <;> cases b <;> cases c <;> simp [before] <;> exact Key.trans
  connex := by
    intro a b
    cases a <;> cases b <;> simp [before] <;> exact Key.connex

end OverrideTarget

/-- Keys of two parts, ordered by the first and then by the second. -/
instance {α β : Type} [Key α] [Key β] : Key (α × β) where
  decEq := inferInstance
  before a b := Key.before a.1 b.1 || (decide (a.1 = b.1) && Key.before a.2 b.2)
  irrefl a := by simp [Key.irrefl]
  trans := by
    intro a b c
    simp only [Bool.or_eq_true, Bool.and_eq_true, decide_eq_true_eq]
    rintro (ab | ⟨ab, ab'⟩) (bc | ⟨bc, bc'⟩)
    · exact .inl (Key.trans ab bc)
    · exact .inl (bc ▸ ab)
    · exact .inl (ab ▸ bc)
    · exact .inr ⟨ab.trans bc, Key.trans ab' bc'⟩
  connex := by
    intro a b
    simp only [Bool.or_eq_false_iff, Bool.and_eq_false_iff, decide_eq_false_iff_not]
    rintro ⟨ab, ab'⟩ ⟨ba, ba'⟩
    have first := Key.connex ab ba
    rcases ab' with different | ab'
    · exact absurd first different
    · rcases ba' with different | ba'
      · exact absurd first.symm different
      · exact Prod.ext first (Key.connex ab' ba')

/-- The override of one target in one channel. -/
structure ChannelOverride where
  channelId : Snowflake
  guildId : Snowflake
  target : OverrideTarget
  overwrite : Overwrite
  updatedAt : Instant
deriving DecidableEq

namespace ChannelOverride

def roleId? (o : ChannelOverride) : Option Snowflake :=
  match o.target with
  | .role id => some id
  | .member _ => none

def userId? (o : ChannelOverride) : Option Snowflake :=
  match o.target with
  | .role _ => none
  | .member id => some id

end ChannelOverride
end GuildAccess
