import GuildAccess.Fault

/-!
Errors as callers of the service and clients of the API see them. `CallError` is what a service call
ends with; `ApiError` is what a response is made from.
-/
namespace GuildAccess

/-- Why settings are refused. Besides, a variable can name a place that no list has: one before its
beginning, or one beyond all memory. -/
inductive SettingsError
  | unreadable
  | invalidValue (key text : String)
  | beforeList
  | beyondMemory
deriving DecidableEq

def SettingsError.message : SettingsError → String
  | .unreadable => "Failed to load configuration"
  | .invalidValue key text => "Invalid value for " ++ key ++ ": " ++ text
  | .beforeList => "attempt to subtract with overflow"
  | .beyondMemory => "capacity overflow"

/-- An error that becomes a response. -/
inductive ApiError
  | insufficient (text : String)
  | invalid (text : String)
  | badInput (text : String)
  | unknown (text : String)
  | conflict (text : String)
  | storage (text : String)
  | internal
  | fault (cause : Fault)
  | settings (cause : SettingsError)
deriving DecidableEq

namespace ApiError

/-- Wording. The cause of an internal error is not shown. -/
def message : ApiError → String
  | .insufficient text => "Insufficient permissions: " ++ text
  | .invalid text => "Validation error: " ++ text
  | .badInput text => "Invalid input: " ++ text
  | .unknown text => "Resource not found: " ++ text
  | .conflict text => "Conflict: " ++ text
  | .storage text => "Database error: " ++ text
  | .internal => "Internal server error"
  | .fault cause => cause.message
  | .settings cause => cause.message

def code : ApiError → String
  | .insufficient _ => "MISSING_PERMISSIONS"
  | .invalid _ => "VALIDATION_ERROR"
  | .badInput _ => "INVALID_INPUT"
  | .unknown _ => "NOT_FOUND"
  | .conflict _ => "CONFLICT"
  | .storage _ => "DATABASE_ERROR"
  | .internal => "INTERNAL_ERROR"
  | .fault cause => cause.code
  | .settings _ => "CONFIG_ERROR"

def status : ApiError → Nat
  | .insufficient _ => 403
  | .invalid _ => 400
  | .badInput _ => 400
  | .unknown _ => 404
  | .conflict _ => 409
  | .storage _ => 500
  | .internal => 500
  | .fault cause => cause.kind.status
  | .settings _ => 500

def isClient (e : ApiError) : Bool := 400 ≤ e.status ∧ e.status < 500

def isServer (e : ApiError) : Bool := 500 ≤ e.status

end ApiError

/-- What a service call ends with when it is not carried out. -/
inductive CallError
  | fault (cause : Fault)
  | api (cause : ApiError)
  | unknown (resource id : String)
  | denied (flags : String)
  | invalid (text : String)
  | conflict (text : String)
  | internal (text : String)
deriving DecidableEq

namespace CallError

def message : CallError → String
  | .fault cause => cause.message
  | .api cause => cause.message
  | .unknown resource id => resource ++ " not found: " ++ id
  | .denied flags => "Missing required permission: " ++ flags
  | .invalid text => "Validation error: " ++ text
  | .conflict text => "Conflict: " ++ text
  | .internal text => "Internal error: " ++ text

def code : CallError → String
  | .fault cause => cause.code
  | .api cause => cause.code
  | .unknown _ _ => "NOT_FOUND"
  | .denied _ => "MISSING_PERMISSIONS"
  | .invalid _ => "VALIDATION_ERROR"
  | .conflict _ => "CONFLICT"
  | .internal _ => "INTERNAL_ERROR"

def status : CallError → Nat
  | .fault cause => cause.kind.status
  | .api cause => cause.status
  | .unknown _ _ => 404
  | .denied _ => 403
  | .invalid _ => 400
  | .conflict _ => 409
  | .internal _ => 500

/-- Whether the caller lacks the right to make the call. -/
def isForbidden : CallError → Bool
  | .denied _ => true
  | .fault cause => cause.kind = .forbidden
  | .api cause => cause.status = 403
  | _ => false

/-- The error a response is made from. -/
def toApi : CallError → ApiError
  | .fault cause => .fault cause
  | .api cause => cause
  | .unknown resource id => .unknown (resource ++ " " ++ id)
  | .denied flags => .insufficient flags
  | .invalid text => .invalid text
  | .conflict text => .conflict text
  | .internal _ => .internal

end CallError
end GuildAccess
