import GuildAccess.Flag

/-!
Permission sets: one bit for each flag and no others, so every set that can be written down is made
of defined flags. A set is read through `has`, flag by flag.
-/
namespace GuildAccess

structure Permissions where
  bits : BitVec 21
deriving DecidableEq

namespace Permissions

/-- Whether a flag is in the set. Administrator is not special here. -/
def has (p : Permissions) (f : Flag) : Bool := p.bits.getLsbD f.position

instance : EmptyCollection Permissions := ⟨⟨0#21⟩⟩
instance : Union Permissions := ⟨fun p q => ⟨p.bits ||| q.bits⟩⟩
instance : Inter Permissions := ⟨fun p q => ⟨p.bits &&& q.bits⟩⟩
instance : SDiff Permissions := ⟨fun p q => ⟨p.bits &&& ~~~q.bits⟩⟩

def only (f : Flag) : Permissions := ⟨BitVec.twoPow 21 f.position⟩

def ofFlags (fs : List Flag) : Permissions := fs.foldl (fun p f => p ∪ only f) ∅

/-- Every flag: what owners and administrators hold. -/
def all : Permissions := ⟨BitVec.allOnes 21⟩

/-- What the everyone role of a new guild grants. -/
def standard : Permissions := ofFlags [
  .viewChannel, .sendMessages, .addReactions, .attachFiles, .connect, .speak, .embedLinks,
  .createInvite]

def isEmpty (p : Permissions) : Bool := p = ∅

def includes (p q : Permissions) : Bool := p ∩ q = q

/-- Whether some flag is in both. -/
def meets (p q : Permissions) : Bool := !(p ∩ q).isEmpty

def set (p : Permissions) (f : Flag) (on : Bool) : Permissions :=
  if on then p ∪ only f else p \ only f

def unionAll (ps : List Permissions) : Permissions := ps.foldl (· ∪ ·) ∅

def flags (p : Permissions) : List Flag := Flag.all.filter p.has

def names (p : Permissions) : List String := p.flags.map Flag.name

def nameList (p : Permissions) : String := ", ".intercalate p.names

def toNat (p : Permissions) : Nat := p.bits.toNat

/-- The set of a number's 21 lowest bits. -/
def ofNat (n : Nat) : Permissions := ⟨BitVec.ofNat 21 n⟩

@[simp] theorem has_empty (f : Flag) : (∅ : Permissions).has f = false := by
  simp [has, EmptyCollection.emptyCollection]

@[simp] theorem has_union (p q : Permissions) (f : Flag) :
    (p ∪ q).has f = (p.has f || q.has f) := by
  simp [has, Union.union]

@[simp] theorem has_inter (p q : Permissions) (f : Flag) :
    (p ∩ q).has f = (p.has f && q.has f) := by
  simp [has, Inter.inter]

@[simp] theorem has_sdiff (p q : Permissions) (f : Flag) :
    (p \ q).has f = (p.has f && !q.has f) := by
  simp [has, SDiff.sdiff, Flag.position_lt]

@[simp] theorem has_only (f g : Flag) : (only f).has g = decide (f = g) := by
  cases f <;> cases g <;> decide

@[simp] theorem has_all (f : Flag) : all.has f = true := by
  cases f <;> decide

/-- Only the one flag is set or cleared. -/
theorem has_set (p : Permissions) (f g : Flag) (on : Bool) :
    (p.set f on).has g = if f = g then on else p.has g := by
  by_cases here : f = g <;> cases on <;> simp [set, here]

/-- Two sets with the same flags are the same set. -/
theorem ext_has {p q : Permissions} (same : ∀ f, p.has f = q.has f) : p = q := by
  have bits : p.bits = q.bits := by
    apply BitVec.eq_of_getLsbD_eq
    intro i hi
    have reached : ∃ f : Flag, f.position = i := by
      have every : ∀ k : Fin 21, ∃ f ∈ Flag.all, f.position = k.val := by decide
      obtain ⟨f, _, at_i⟩ := every ⟨i, hi⟩
      exact ⟨f, at_i⟩
    obtain ⟨f, rfl⟩ := reached
    exact same f
  cases p; cases q; simp_all

end Permissions
end GuildAccess
