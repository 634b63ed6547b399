import GuildAccess.CallError
import GuildAccess.Overwrite
import GuildAccess.Instant

/-!
What callers ask for, and the limits a request has to keep before anything else is looked at. All
limits that a request breaks are reported together, one line for each field in the order of the
field names. Lengths count code points.
-/
namespace GuildAccess

/-- A new role. -/
structure CreateRole where
  name : String
  color : Int := 0
  hoist : Bool := false
  permissions : Permissions := ∅
  isAdmin : Bool := false
  mentionable : Bool := false
  showTag : Bool := false
  tagStyle : Option String := none
  position : Option Int := none

/-- New values for some fields of a role. -/
structure UpdateRole where
  name : Option String := none
  color : Option Int := none
  hoist : Option Bool := none
  permissions : Option Permissions := none
  isAdmin : Option Bool := none
  mentionable : Option Bool := none
  showTag : Option Bool := none
  tagStyle : Option String := none

/-- A new position for the role that a text names. -/
structure RoleMove where
  id : String
  position : Int

/-- New positions for many roles. -/
structure ReorderRoles where
  positions : List RoleMove

/-- One flag to set or clear on a role. -/
structure ToggleFlag where
  flag : Flag
  enabled : Bool

/-- A request to lock or unlock a channel, with a reason for the log. -/
structure Lockdown where
  reason : Option String := none

/-- Filters for the log as the client wrote them, and the size of the page. -/
structure AuditParams where
  actorId : Option String := none
  action : Option String := none
  targetType : Option String := none
  after : Option Instant := none
  before : Option Instant := none
  beforeId : Option String := none
  limit : Option Nat := none

namespace Request

/-- A limit on a field: broken if the test fails. -/
def limit (field text : String) (kept : Bool) : List String :=
  if kept then [] else [field ++ ": " ++ text]

def nameLimit (name : String) : List String :=
  limit "name" "Role name must be 1-100 characters" (1 ≤ name.length && name.length ≤ 100)

def colorLimit (color : Int) : List String :=
  limit "color" "Color must be a 24-bit RGB value" (0 ≤ color && color ≤ 0xFFFFFF)

def tagStyleLimit (style : Option String) : List String :=
  limit "tag_style" "Tag style must be at most 32 characters" (style.all fun s => s.length ≤ 32)

def positionText : String := "Position must be >= 1"

def moveLines : Nat → List RoleMove → String
  | _, [] => ""
  | n, move :: rest =>
    (if 1 ≤ move.position then ""
      else "positions[" ++ toString n ++ "].position: " ++ positionText) ++ moveLines (n + 1) rest

def accept (broken : List String) : Except CallError Unit :=
  if broken.isEmpty then .ok () else .error (.invalid ("\n".intercalate broken))

end Request

def CreateRole.validate (r : CreateRole) : Except CallError Unit :=
  Request.accept <|
    Request.colorLimit r.color ++ Request.nameLimit r.name ++
    Request.limit "position" Request.positionText (r.position.all fun p => 1 ≤ p) ++
    Request.tagStyleLimit r.tagStyle

def UpdateRole.validate (r : UpdateRole) : Except CallError Unit :=
  Request.accept <|
    (r.color.map Request.colorLimit).getD [] ++ (r.name.map Request.nameLimit).getD [] ++
    Request.tagStyleLimit r.tagStyle

/-- Limits of a request for new positions. The positions are looked at only if their number is
right. -/
def ReorderRoles.validate (r : ReorderRoles) : Except CallError Unit :=
  Request.accept <|
    if 1 ≤ r.positions.length ∧ r.positions.length ≤ 250 then
      let lines := Request.moveLines 0 r.positions
      if lines.isEmpty then [] else [lines]
    else ["positions: Must reorder 1-250 roles"]

def Lockdown.validate (r : Lockdown) : Except CallError Unit :=
  Request.accept <|
    Request.limit "reason" "Reason must be at most 512 characters"
      (r.reason.all fun s => s.length ≤ 512)

def AuditParams.validate (r : AuditParams) : Except CallError Unit :=
  Request.accept <| Request.limit "limit" "Limit must be >= 1" (r.limit.all fun n => 1 ≤ n)

end GuildAccess
