import GuildAccess.Json
import GuildAccess.Permissions.Text
import GuildAccess.Instant.Rfc3339
import GuildAccess.ChannelOverride
import GuildAccess.Audit
import GuildAccess.Service.Request

/-!
Reading values and requests from JSON. Identifiers and permission sets may be numbers or text, a
number only counts if it is whole and within its range, and an unknown field of a request is
ignored. Where a text is refused as an identifier or a permission set, the error says why; all other
errors are without words.

Of several errors in a record the one that is come upon first counts. The values of an array are
read in turn; the fields of an object are read in the byte order of their names. That one is
missing, or that an array is too long, is noticed last.
-/
namespace GuildAccess.Wire

/-- Why a value cannot be read. -/
structure DecodeError where
  message : Option String := none
deriving DecidableEq

/-- A value of the wrong shape. -/
def misshapen {α : Type} : Except DecodeError α := .error {}

def refused {α : Type} (why : String) : Except DecodeError α := .error ⟨some why⟩

def given {α : Type} : Option α → Except DecodeError α
  | some a => .ok a
  | none => misshapen

/-- A whole number from `low` to `high`. -/
def int (low high : Int) : Json → Except DecodeError Int
  | .int n => if low ≤ n ∧ n ≤ high then .ok n else misshapen
  | _ => misshapen

def int16 : Json → Except DecodeError Int := int (-0x8000) 0x7FFF

def int32 : Json → Except DecodeError Int := int (-0x80000000) 0x7FFFFFFF

def int64 : Json → Except DecodeError Int := int (-0x8000000000000000) 0x7FFFFFFFFFFFFFFF

def nat (bits : Nat) (j : Json) : Except DecodeError Nat :=
  (int 0 ((Nat.pow 2 bits : Nat) - 1) j).map Int.toNat

def bool : Json → Except DecodeError Bool
  | .bool b => .ok b
  | _ => misshapen

def text : Json → Except DecodeError String
  | .str s => .ok s
  | _ => misshapen

def list {α : Type} (item : Json → Except DecodeError α) : Json → Except DecodeError (List α)
  | .arr items => items.mapM item
  | _ => misshapen

def id : Json → Except DecodeError Snowflake
  | .int n => given (Snowflake.ofInt? n)
  | .str s =>
    match Snowflake.parse? s with
    | some id => .ok id
    | none => refused Snowflake.malformed
  | _ => misshapen

/-- An identifier in a database row: a number. -/
def rowId (j : Json) : Except DecodeError Snowflake := do
  given (Snowflake.ofInt? (← int64 j))

def permissions : Json → Except DecodeError Permissions
  | .str s => (Permissions.parse s).mapError fun e => ⟨some e.message⟩
  | .int n =>
    if n < 0 then refused "permissions cannot be negative"
    else
      match Permissions.ofBits n.toNat with
      | .ok p => .ok p
      | .error _ => refused "unknown permission bits"
  | _ => misshapen

/-- A name out of a closed set: as text, or as the only field of an object, holding null. -/
def variant {α : Type} (ofName? : String → Option α) : Json → Except DecodeError α
  | .str s => given (ofName? s)
  | .obj [(name, .null)] => given (ofName? name)
  | _ => misshapen

def flag : Json → Except DecodeError Flag := variant Flag.ofName?

def action : Json → Except DecodeError Audit.Action := variant Audit.Action.ofName?

def targetKind : Json → Except DecodeError Audit.TargetKind := variant Audit.TargetKind.ofName?

def time : Json → Except DecodeError Instant
  | .str s => given (Instant.parse? s)
  | _ => misshapen

/-- Why a record cannot be read: what is wrong, and in which turn it was come upon. -/
structure Snag where
  turn : Nat
  cause : DecodeError

/-- A reading of some of the fields of a record. -/
def Reading (α : Type) : Type := Except Snag α

namespace Reading
variable {α β : Type}

/-- Both of two readings. Of two snags the one that was come upon first counts. -/
def seq (f : Reading (α → β)) (a : Reading α) : Reading β :=
  match f, a with
  | .ok f, .ok a => .ok (f a)
  | .ok _, .error e | .error e, .ok _ => .error e
  | .error d, .error e => .error (if e.turn < d.turn then e else d)

instance : Applicative Reading where
  pure a := .ok a
  seq f a := seq f (a ())

/-- What was read, or why it cannot be read. -/
def settle (r : Reading α) : Except DecodeError α := r.mapError Snag.cause

end Reading

/-- The fields of a record: what each holds, and in which turn it is read. -/
structure Fields where
  get? : String → Option Json
  turn : String → Nat
  inOrder : Bool

namespace Fields
variable {α : Type}

/-- Fields in the order of their names. The ones without an item come last. -/
def ofItems (names : List String) (items : List Json) : Fields :=
  ⟨fun name => (names.zip items).lookup name, fun name => names.idxOf name, true⟩

/-- Fields by their names, read in the byte order of the names. A missing one is noticed after
all others were read. -/
def ofNamed (names : List String) (named : Json) : Fields :=
  ⟨named.field?, fun name =>
    if (named.field? name).isSome then names.countP (· < name) else names.length, false⟩

/-- A reading of a field, in its turn. -/
def inTurn (f : Fields) (name : String) (r : Except DecodeError α) : Reading α :=
  r.mapError (Snag.mk (f.turn name))

/-- A field that has to be there. -/
def need (f : Fields) (name : String) (read : Json → Except DecodeError α) : Reading α :=
  f.inTurn name ((given (f.get? name)).bind read)

/-- A field with a default. Null is a value like any other. -/
def defaulted (f : Fields) (name : String) (read : Json → Except DecodeError α) (default : α) :
    Reading α :=
  f.inTurn name ((f.get? name).elim (.ok default) read)

/-- A field that may be null, and in an object may be left out. -/
def optional (f : Fields) (name : String) (read : Json → Except DecodeError α) :
    Reading (Option α) :=
  f.inTurn name <|
    match f.get? name with
    | some .null => .ok none
    | some j => (read j).map some
    | none => if f.inOrder then misshapen else .ok none

end Fields

/-- A record with the given fields: an object that names them, or an array of their values. Values
too many are noticed last. -/
def record {α : Type} (names : List String) (read : Fields → Reading α) :
    Json → Except DecodeError α
  | .arr items => do
    let a ← (read (.ofItems names items)).settle
    if items.length ≤ names.length then .ok a else misshapen
  | .obj named => (read (.ofNamed names (.obj named))).settle
  | _ => misshapen

def targetName? (s : String) : Option String := ["role", "member"].find? (· = s)

/-- A target of an override: its kind and its identifier, in this order also in an object. In an
array the kind is a text. -/
def overrideTarget : Json → Except DecodeError OverrideTarget
  | .arr (kind :: target :: more) => do
    let kind ← given (targetName? (← text kind))
    let target ← given (OverrideTarget.ofParts? kind (← id target))
    if more.isEmpty then .ok target else misshapen
  | .obj named => do
    let kind ← variant targetName? (← given ((Json.obj named).field? "type"))
    given (OverrideTarget.ofParts? kind (← id (← given ((Json.obj named).field? "id"))))
  | _ => misshapen

/-- A pair of flags to allow and to deny, each empty when left out. -/
def overwrite : Json → Except DecodeError Overwrite :=
  record ["allow", "deny"] fun f =>
    Overwrite.mk <$> f.defaulted "allow" permissions ∅ <*> f.defaulted "deny" permissions ∅

def createRole : Json → Except DecodeError CreateRole :=
  record ["name", "color", "hoist", "permissions", "is_admin", "mentionable", "show_tag",
      "tag_style", "position"] fun f =>
    CreateRole.mk <$> f.need "name" text <*> f.defaulted "color" int32 0 <*>
      f.defaulted "hoist" bool false <*> f.defaulted "permissions" permissions ∅ <*>
      f.defaulted "is_admin" bool false <*> f.defaulted "mentionable" bool false <*>
      f.defaulted "show_tag" bool false <*> f.optional "tag_style" text <*>
      f.optional "position" int32

def updateRole : Json → Except DecodeError UpdateRole :=
  record ["name", "color", "hoist", "permissions", "is_admin", "mentionable", "show_tag",
      "tag_style"] fun f =>
    UpdateRole.mk <$> f.optional "name" text <*> f.optional "color" int32 <*>
      f.optional "hoist" bool <*> f.optional "permissions" permissions <*>
      f.optional "is_admin" bool <*> f.optional "mentionable" bool <*>
      f.optional "show_tag" bool <*> f.optional "tag_style" text

def roleMove : Json → Except DecodeError RoleMove :=
  record ["id", "position"] fun f => RoleMove.mk <$> f.need "id" text <*> f.need "position" int32

def reorderRoles : Json → Except DecodeError ReorderRoles :=
  record ["positions"] fun f => ReorderRoles.mk <$> f.need "positions" (list roleMove)

def toggleFlag : Json → Except DecodeError ToggleFlag :=
  record ["flag", "enabled"] fun f =>
    ToggleFlag.mk <$> f.need "flag" flag <*> f.need "enabled" bool

def lockdown : Json → Except DecodeError Lockdown :=
  record ["reason"] fun f => Lockdown.mk <$> f.optional "reason" text

def auditParams : Json → Except DecodeError AuditParams :=
  record ["actor_id", "action", "target_type", "after", "before", "before_id", "limit"] fun f =>
    AuditParams.mk <$> f.optional "actor_id" text <*> f.optional "action" text <*>
      f.optional "target_type" text <*> f.optional "after" time <*> f.optional "before" time <*>
      f.optional "before_id" text <*> f.optional "limit" (nat 32)

end GuildAccess.Wire
