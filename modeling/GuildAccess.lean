import GuildAccess.Audit
import GuildAccess.CallError
import GuildAccess.Channel
import GuildAccess.ChannelOverride
import GuildAccess.Double
import GuildAccess.Double.Text
import GuildAccess.Fault
import GuildAccess.Flag
import GuildAccess.Guild
import GuildAccess.Instant
import GuildAccess.Instant.Rfc3339
import GuildAccess.Json
import GuildAccess.Json.Number
import GuildAccess.Json.Reader
import GuildAccess.Json.Writer
import GuildAccess.KeyMap
import GuildAccess.Member
import GuildAccess.Overwrite
import GuildAccess.Paging
import GuildAccess.Permissions
import GuildAccess.Permissions.Text
import GuildAccess.Ranked
import GuildAccess.Record
import GuildAccess.Resolver
import GuildAccess.Role
import GuildAccess.Service
import GuildAccess.Service.Assembly
import GuildAccess.Service.Channels
import GuildAccess.Service.Judgement
import GuildAccess.Service.Members
import GuildAccess.Service.Overrides
import GuildAccess.Service.Queries
import GuildAccess.Service.Request
import GuildAccess.Service.Roles
import GuildAccess.Service.View
import GuildAccess.Settings
import GuildAccess.Settings.Library
import GuildAccess.Settings.Layer
import GuildAccess.Settings.Scalar
import GuildAccess.Settings.Toml
import GuildAccess.Settings.Variables
import GuildAccess.Settings.StandIn
import GuildAccess.Snapshot
import GuildAccess.Snowflake
import GuildAccess.Snowflake.Mint
import GuildAccess.Store
import GuildAccess.Store.Change
import GuildAccess.Telemetry
import GuildAccess.Text.Blank
import GuildAccess.Text.Decimal
import GuildAccess.Text.Hidden
import GuildAccess.Text.Quoted
import GuildAccess.Wire.Decode
import GuildAccess.Wire.Encode
import GuildAccess.Wire.Settings
import GuildAccess.Proofs.Judgement
import GuildAccess.Proofs.Plans
import GuildAccess.Proofs.Store.Index
import GuildAccess.Proofs.Store.Effect
import GuildAccess.Proofs.Store.Logs
import GuildAccess.Proofs.Store.Reachable
import GuildAccess.Proofs.Store.Routing
import GuildAccess.Proofs.Store.Everyone
import GuildAccess.Proofs.Store.Representation
import GuildAccess.Proofs.RoleEdits
import GuildAccess.Proofs.Outcome
import GuildAccess.Proofs.Standing
import GuildAccess.Proofs.Permitted
import GuildAccess.Proofs.Mediation
import GuildAccess.Proofs.Steps
import GuildAccess.Proofs.Escalation
import GuildAccess.Proofs.Reach
import GuildAccess.Proofs.Assignment
import GuildAccess.Proofs.Hierarchy
import GuildAccess.Proofs.Layers
import GuildAccess.Proofs.WriteSets
import GuildAccess.Proofs.Lockdown
import GuildAccess.Proofs.Relevance
import GuildAccess.Proofs.OverrideEdits
import GuildAccess.Proofs.Integrity
import GuildAccess.Proofs.Notes
import GuildAccess.Proofs.AuditTrail
import GuildAccess.Proofs.Store.Queries
import GuildAccess.Proofs.Store.Retention
import GuildAccess.Proofs.Store.Growth
import GuildAccess.Proofs.Numerals
import GuildAccess.Proofs.AuditPaging
import GuildAccess.Proofs.Silence
import GuildAccess.Proofs.Store.Agreement
import GuildAccess.Proofs.Isolation
import GuildAccess.Proofs.Precedence
import GuildAccess.Proofs.Store.Reads
import GuildAccess.Proofs.Success
import GuildAccess.Proofs.ReadBack
import GuildAccess.Proofs.Toggling
import GuildAccess.Proofs.Store.Procedure
import GuildAccess.Proofs.Store.Atomicity
import GuildAccess.Proofs.Store.Deletion
import GuildAccess.Proofs.Administrators
import GuildAccess.Proofs.Management
import GuildAccess.Proofs.Reordering
import GuildAccess.Proofs.PermissionText
import GuildAccess.Proofs.RoleFields
import GuildAccess.Proofs.RoleHistory
import GuildAccess.Proofs.Repetition
import GuildAccess.Proofs.Identifiers
import GuildAccess.Proofs.Minting
import GuildAccess.Proofs.DecisionInputs
import GuildAccess.Proofs.DecimalText
import GuildAccess.Proofs.ServerPermissions
import GuildAccess.Proofs.PermissionReaders
import GuildAccess.Proofs.MemberPaging
import GuildAccess.Proofs.OverrideRemoval
import GuildAccess.Proofs.IdentifierReaders
import GuildAccess.Proofs.LockColumns
import GuildAccess.Proofs.Settings.Laws
import GuildAccess.Proofs.Settings.StandIn
import GuildAccess.Proofs.Settings.Loading
