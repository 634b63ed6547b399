import GuildAccess.Double

/-!
JSON values. Whole numbers between -2^63 and 2^64 are kept apart from all other numbers, which are
of double precision: `0` and `0.0` are different values.
-/
namespace GuildAccess

/-- A JSON value. Fields keep their order and no name occurs twice. -/
inductive Json
  | null
  | bool (b : Bool)
  | int (n : Int)
  | real (d : Double)
  | str (s : String)
  | arr (items : List Json)
  | obj (fields : List (String × Json))

namespace Json

/-- A field of an object; anything else has no fields. -/
def field? (j : Json) (name : String) : Option Json :=
  match j with
  | .obj fields => (fields.find? fun f => f.1 = name).map (·.2)
  | _ => none

/-- Sets a field, in place if the name is there already. -/
def setField (fields : List (String × Json)) (name : String) (value : Json) :
    List (String × Json) :=
  match fields with
  | [] => [(name, value)]
  | f :: rest => if f.1 = name then (name, value) :: rest else f :: setField rest name value

def optStr : Option String → Json
  | some s => .str s
  | none => .null

def objOf (fields : List (String × Option Json)) : Json :=
  .obj (fields.filterMap fun f => f.2.map fun v => (f.1, v))

end Json
end GuildAccess
