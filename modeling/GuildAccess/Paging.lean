/-!
Sizes of the pages in which the audit log is read.
-/
namespace GuildAccess

/-- Limits on the page size of the log. -/
structure Paging where
  standard : Nat := 50
  maximum : Nat := 100
deriving DecidableEq

/-- The page size used for a request. -/
def Paging.size (p : Paging) (requested : Option Nat) : Nat :=
  max 1 (min (requested.getD p.standard) (max p.maximum 1))

end GuildAccess
