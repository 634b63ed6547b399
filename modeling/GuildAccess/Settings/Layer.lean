import GuildAccess.Settings.Scalar

/-!
Layers of settings. A layer assigns values to paths, which lead through sections by name and through
lists by position. Layers are laid one over the other, and each assignment takes the place of
everything at, above and below its path; a list also takes the place of a section, and a section
that of a list. A list is as long as its last assigned position needs, and the positions before that
which nothing is assigned to hold no value.
-/
namespace GuildAccess.Settings

/-- A step of a path: to a name in a section, or to a position in a list. -/
inductive Step
  | name (s : String)
  | index (n : Nat)
deriving DecidableEq

/-- Steps from the outermost section to a setting. -/
abbrev Path := List Step

namespace Path

/-- Whether two paths cannot both have a value: one leads through the other, or they take the same
place for a section and for a list. -/
def meets : Path → Path → Bool
  | .name a :: p, .name b :: q => a = b && meets p q
  | .index a :: p, .index b :: q => a = b && meets p q
  | _, _ => true

/-- Whether a path leads to a place that a value at the other path brings about: that value, what it
lies in, or an earlier position of the list it lies in. -/
def reaches : Path → Path → Bool
  | [], _ => true
  | .name a :: p, .name b :: q => a = b && reaches p q
  | [.index a], .index b :: _ => a ≤ b
  | .index a :: p, .index b :: q => a = b && reaches p q
  | _, _ => false

end Path

abbrev Assignment := Path × Scalar

/-- Assignments, the later ones on top. -/
abbrev Layer := List Assignment

namespace Layer

/-- Lays one assignment over others. -/
def assign (l : Layer) (a : Assignment) : Layer := l.filter (fun b => !Path.meets b.1 a.1) ++ [a]

/-- Lays a layer over another. -/
def overlay (lower upper : Layer) : Layer := upper.foldl assign lower

def value? (l : Layer) (p : Path) : Option Scalar := (l.find? fun a => a.1 = p).map (·.2)

def reaches (l : Layer) (p : Path) : Bool := l.any fun a => Path.reaches p a.1

/-- The steps from a path to what is assigned below it, each once. -/
def steps (l : Layer) (p : Path) : List Step :=
  (l.filterMap fun a => if p.isPrefixOf a.1 then (a.1.drop p.length).head? else none).eraseDups

/-- Whether there is a list at a path. -/
def isList (l : Layer) (p : Path) : Bool :=
  (l.steps p).any fun
    | .index _ => true
    | .name _ => false

end Layer
end GuildAccess.Settings
