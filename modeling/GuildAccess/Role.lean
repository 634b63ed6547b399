import GuildAccess.Snowflake
import GuildAccess.Instant
import GuildAccess.Permissions

/-!
Roles: named permission sets with a rank. `isAdmin` is stored beside the administrator bit; the
setters keep the two in step, but a stored role may hold one without the other, and either of them
makes an administrator.
-/
namespace GuildAccess

/-- A role of a guild. Exactly the everyone role is held by all members without being assigned. -/
structure Role where
  id : Snowflake
  guildId : Snowflake
  name : String
  color : Int
  hoist : Bool
  position : Int
  permissions : Permissions
  isAdmin : Bool
  mentionable : Bool
  showTag : Bool
  tagStyle : Option String
  isEveryone : Bool
  createdAt : Instant
  updatedAt : Instant
deriving DecidableEq

namespace Role

/-- A plain role created now, at the lowest rank. -/
def new (id guildId : Snowflake) (name : String) (permissions : Permissions) (now : Instant) :
    Role where
  id := id
  guildId := guildId
  name := name
  color := 0
  hoist := false
  position := 0
  permissions := permissions
  isAdmin := permissions.has .administrator
  mentionable := false
  showTag := false
  tagStyle := none
  isEveryone := false
  createdAt := now
  updatedAt := now

def everyone (id guildId : Snowflake) (now : Instant) : Role :=
  { new id guildId "@everyone" .standard now with isEveryone := true }

def grantsAdministrator (r : Role) : Bool := r.isAdmin || r.permissions.has .administrator

def outranks (r other : Role) : Bool := other.position < r.position

/-- Whether holders of the role may manage another. Nobody manages the everyone role by rank. -/
def canManage (r other : Role) : Bool := !other.isEveryone && r.outranks other

/-- The color as hexadecimal text of at least six digits, a negative one as its 32-bit word. -/
def colorHex (r : Role) : String := Text.hexPadded 6 (r.color % 0x100000000).toNat

def setName (r : Role) (name : String) (now : Instant) : Role :=
  { r with name := name, updatedAt := now }

def setColor (r : Role) (color : Int) (now : Instant) : Role :=
  { r with color := color, updatedAt := now }

/-- Replaces the permissions, and the stored administrator mark with them. -/
def setPermissions (r : Role) (p : Permissions) (now : Instant) : Role :=
  { r with permissions := p, isAdmin := p.has .administrator, updatedAt := now }

/-- Makes holders administrators or not, in the mark and in the bit. -/
def setAdmin (r : Role) (on : Bool) (now : Instant) : Role :=
  { r with isAdmin := on, permissions := r.permissions.set .administrator on, updatedAt := now }

def setPosition (r : Role) (position : Int) (now : Instant) : Role :=
  { r with position := position, updatedAt := now }

def setHoist (r : Role) (hoist : Bool) (now : Instant) : Role :=
  { r with hoist := hoist, updatedAt := now }

def setMentionable (r : Role) (mentionable : Bool) (now : Instant) : Role :=
  { r with mentionable := mentionable, updatedAt := now }

/-- Sets whether holders show a tag, and its style. -/
def setTag (r : Role) (showTag : Bool) (style : Option String) (now : Instant) : Role :=
  { r with showTag := showTag, tagStyle := style, updatedAt := now }

end Role
end GuildAccess
