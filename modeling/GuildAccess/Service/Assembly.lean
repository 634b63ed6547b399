import GuildAccess.Service
import GuildAccess.Snowflake.Mint

/-!
Putting a service together from its parts. Every part of the storage has to be there; the first one
that is missing is named.
-/
namespace GuildAccess

/-- The parts of the storage. -/
inductive StoragePart
  | guilds
  | channels
  | roles
  | members
  | overrides
  | inputs
  | audit
deriving DecidableEq

namespace StoragePart

/-- Every part, in the order in which they are asked for. -/
def all : List StoragePart := [.guilds, .channels, .roles, .members, .overrides, .inputs, .audit]

def name : StoragePart → String
  | .guilds => "guild_repo"
  | .channels => "channel_repo"
  | .roles => "role_repo"
  | .members => "member_repo"
  | .overrides => "override_repo"
  | .inputs => "snapshot_repo"
  | .audit => "audit_repo"

def ofName? (s : String) : Option StoragePart := all.find? fun part => part.name = s

end StoragePart

/-- A service put together: who makes its identifiers, its page sizes and its state. -/
structure Assembly where
  mint : Mint
  paging : Paging
  service : Service

namespace Assembly

def build (parts : List StoragePart) (mint : Mint) (paging : Paging) : Except CallError Assembly :=
  match StoragePart.all.find? fun part => !parts.contains part with
  | some part => .error (.invalid (part.name ++ " is required"))
  | none => .ok ⟨mint, paging, .new⟩

def describe (a : Assembly) : String :=
  "ServiceContext \x7b repositories: \"...\", worker_id: " ++ toString a.mint.worker ++
    ", audit_config: AuditConfig \x7b default_page_size: " ++ toString a.paging.standard ++
    ", max_page_size: " ++ toString a.paging.maximum ++
    " \x7d, guild_locks: GuildLocks \x7b guilds: " ++ toString a.service.lockCount ++ " \x7d \x7d"

end Assembly
end GuildAccess
