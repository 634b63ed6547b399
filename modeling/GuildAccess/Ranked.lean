import GuildAccess.Snowflake

/-!
Lists by rank: ascending position, and ascending identifier among equal positions. Items of equal
rank keep their order.
-/
namespace GuildAccess

/-- A position and the identifier that breaks ties. -/
abbrev Rank := Int × Snowflake

def Rank.atMost (a b : Rank) : Bool := a.1 < b.1 || (a.1 = b.1 && a.2.toInt ≤ b.2.toInt)

/-- Puts an item in front of the first one of at least its rank. -/
def placeRanked {α : Type} (rank : α → Rank) (x : α) : List α → List α
  | [] => [x]
  | y :: rest => if (rank x).atMost (rank y) then x :: y :: rest else y :: placeRanked rank x rest

def sortRanked {α : Type} (rank : α → Rank) (xs : List α) : List α :=
  xs.foldr (placeRanked rank) []

/-- Ranks are compared as pairs. -/
theorem Rank.atMost_iff (a b : Rank) :
    a.atMost b = true ↔ a.1 < b.1 ∨ (a.1 = b.1 ∧ a.2.toInt ≤ b.2.toInt) := by
  simp [atMost]

theorem placeRanked_perm {α : Type} (rank : α → Rank) (x : α) (xs : List α) :
    (placeRanked rank x xs).Perm (x :: xs) := by
  induction xs with
  | nil => exact List.Perm.refl _
  | cons y rest ih =>
    unfold placeRanked
    split
    · exact List.Perm.refl _
    · exact (ih.cons y).trans (List.Perm.swap x y rest)

/-- Sorting neither drops nor repeats an item. -/
theorem sortRanked_perm {α : Type} (rank : α → Rank) (xs : List α) :
    (sortRanked rank xs).Perm xs := by
  induction xs with
  | nil => exact List.Perm.refl _
  | cons x rest ih => exact (placeRanked_perm rank x _).trans (ih.cons x)

theorem placeRanked_sorted {α : Type} (rank : α → Rank) (x : α) {xs : List α}
    (sorted : xs.Pairwise fun a b => (rank a).atMost (rank b) = true) :
    (placeRanked rank x xs).Pairwise fun a b => (rank a).atMost (rank b) = true := by
  induction xs with
  | nil => simp [placeRanked]
  | cons y rest ih =>
    have above : ∀ z ∈ rest, (rank y).atMost (rank z) = true :=
      fun z member => List.rel_of_pairwise_cons sorted member
    unfold placeRanked
    split
    · rename_i first
      refine List.Pairwise.cons (fun z member => ?_) sorted
      rcases List.mem_cons.mp member with same | later
      · exact same ▸ first
      · have second := above z later
        rw [Rank.atMost_iff] at *
        omega
    · rename_i notFirst
      refine List.Pairwise.cons (fun z member => ?_) (ih (List.Pairwise.of_cons sorted))
      rcases List.mem_cons.mp ((placeRanked_perm rank x rest).mem_iff.mp member) with same | later
      · subst same
        rw [Rank.atMost_iff] at *
        omega
      · exact above z later

/-- The sorted list ascends. -/
theorem sortRanked_sorted {α : Type} (rank : α → Rank) (xs : List α) :
    (sortRanked rank xs).Pairwise fun a b => (rank a).atMost (rank b) = true := by
  induction xs with
  | nil => exact .nil
  | cons x rest ih => exact placeRanked_sorted rank x ih

end GuildAccess
