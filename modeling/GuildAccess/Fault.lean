import GuildAccess.Snowflake

/-!
What can be wrong with an operation on a guild: one constructor for each cause, with its wording,
the code a client sees, and the kind that decides the status of a response.
-/
namespace GuildAccess

/-- A cause of refusal. -/
inductive Fault
  | unknownGuild (id : Snowflake)
  | unknownChannel (id : Snowflake)
  | unknownRole (id : Snowflake)
  | unknownMember
  | unknownOverride
  | invalid (text : String)
  | unknownFlag (text : String)
  | badPermissions (text : String)
  | overlap (flags : String)
  | missingPermission (text : String)
  | notOwner
  | outranked
  | escalation (flags : String)
  | everyoneFixed
  | alreadyMember
  | alreadyHasRole
  | alreadyLocked
  | notLocked
  | everyoneKept
  | ownerProtected
  | storage (text : String)
  | internal (text : String)
deriving DecidableEq

/-- The kinds of refusal that clients tell apart. -/
inductive Fault.Kind
  | missing
  | forbidden
  | malformed
  | conflict
  | internal
deriving DecidableEq

def Fault.Kind.status : Fault.Kind → Nat
  | .missing => 404
  | .forbidden => 403
  | .malformed => 400
  | .conflict => 409
  | .internal => 500

namespace Fault

def message : Fault → String
  | .unknownGuild id => "Guild not found: " ++ id.render
  | .unknownChannel id => "Channel not found: " ++ id.render
  | .unknownRole id => "Role not found: " ++ id.render
  | .unknownMember => "Member not found in guild"
  | .unknownOverride => "Channel override not found"
  | .invalid text => "Validation error: " ++ text
  | .unknownFlag text => "Unknown permission flag: " ++ text
  | .badPermissions text => "Invalid permissions: " ++ text
  | .overlap flags => "Override both allows and denies: " ++ flags
  | .missingPermission text => "Missing permission: " ++ text
  | .notOwner => "Not guild owner"
  | .outranked => "Cannot modify higher role"
  | .escalation flags => "Cannot grant permissions you do not have: " ++ flags
  | .everyoneFixed => "Cannot modify @everyone role"
  | .alreadyMember => "Already a member of this guild"
  | .alreadyHasRole => "Already has this role"
  | .alreadyLocked => "Channel is already locked"
  | .notLocked => "Channel is not locked"
  | .everyoneKept => "Cannot delete @everyone role"
  | .ownerProtected => "Cannot manage guild owner"
  | .storage text => "Database error: " ++ text
  | .internal text => "Internal error: " ++ text

def code : Fault → String
  | .unknownGuild _ => "UNKNOWN_GUILD"
  | .unknownChannel _ => "UNKNOWN_CHANNEL"
  | .unknownRole _ => "UNKNOWN_ROLE"
  | .unknownMember => "UNKNOWN_MEMBER"
  | .unknownOverride => "UNKNOWN_OVERRIDE"
  | .invalid _ => "VALIDATION_ERROR"
  | .unknownFlag _ => "UNKNOWN_PERMISSION_FLAG"
  | .badPermissions _ => "INVALID_PERMISSIONS"
  | .overlap _ => "OVERLAPPING_OVERRIDE"
  | .missingPermission _ => "MISSING_PERMISSIONS"
  | .notOwner => "NOT_GUILD_OWNER"
  | .outranked => "CANNOT_MODIFY_HIGHER_ROLE"
  | .escalation _ => "CANNOT_ESCALATE"
  | .everyoneFixed => "CANNOT_MODIFY_EVERYONE_ROLE"
  | .alreadyMember => "ALREADY_MEMBER"
  | .alreadyHasRole => "ALREADY_HAS_ROLE"
  | .alreadyLocked => "CHANNEL_ALREADY_LOCKED"
  | .notLocked => "CHANNEL_NOT_LOCKED"
  | .everyoneKept => "CANNOT_DELETE_EVERYONE_ROLE"
  | .ownerProtected => "CANNOT_MANAGE_OWNER"
  | .storage _ => "DATABASE_ERROR"
  | .internal _ => "INTERNAL_ERROR"

def kind : Fault → Kind
  | .unknownGuild _ | .unknownChannel _ | .unknownRole _ | .unknownMember | .unknownOverride =>
    .missing
  | .missingPermission _ | .notOwner | .outranked | .escalation _ | .everyoneFixed
  | .ownerProtected => .forbidden
  | .invalid _ | .unknownFlag _ | .badPermissions _ | .overlap _ | .everyoneKept => .malformed
  | .alreadyMember | .alreadyHasRole | .alreadyLocked | .notLocked => .conflict
  | .storage _ | .internal _ => .internal

end Fault
end GuildAccess
