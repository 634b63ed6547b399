import GuildAccess.Json
import GuildAccess.Telemetry
import GuildAccess.Service.Assembly

/-!
Writing settings, and what is set up from them, as JSON.
-/
namespace GuildAccess.Wire

def ofLogOutput (o : LogOutput) : Json :=
  .obj [("level", .str o.level.name), ("json", .bool o.json), ("span_events", .bool o.spanEvents),
    ("file_line", .bool o.fileLine), ("target", .bool o.target)]

def ofSettings (s : Settings) : Json :=
  .obj [
    ("app", .obj [("name", .str s.name), ("env", .str s.stage.name),
      ("production", .bool (s.stage = .production)),
      ("development", .bool (s.stage = .development))]),
    ("database", .obj [("url", .str s.database.url),
      ("max_connections", .int s.database.maxConnections),
      ("min_connections", .int s.database.minConnections),
      ("acquire_timeout_secs", .int s.database.acquireTimeout)]),
    ("audit", .obj [("default_page_size", .int s.audit.standard),
      ("max_page_size", .int s.audit.maximum)]),
    ("snowflake", .obj [("worker_id", .int s.worker)]),
    ("telemetry", .obj [("level", .str s.telemetry.level), ("json", .bool s.telemetry.json)]),
    ("tracing", ofLogOutput (.ofSettings s.telemetry s.stage))]

def ofAssembly (a : Assembly) : Json :=
  .obj [("worker_id", .int a.mint.worker), ("debug", .str a.describe),
    ("default_page_size", .int a.paging.standard), ("max_page_size", .int a.paging.maximum),
    ("locks_empty", .bool (a.service.lockCount = 0)), ("guilds", .int a.service.lockCount)]

end GuildAccess.Wire
