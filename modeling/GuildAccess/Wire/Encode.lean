import GuildAccess.Service

/-!
Writing rows, views, requests and errors as JSON. Identifiers and permission sets are text, so that
a reader with 53-bit numbers loses nothing. A row is written with all its fields, null where there
is no value; a view leaves absent fields out. Times are written by a function that the caller gives.
-/
namespace GuildAccess.Wire

def ofId (id : Snowflake) : Json := .str id.render

def ofPermissions (p : Permissions) : Json := .str p.render

def ofOpt {α : Type} (write : α → Json) : Option α → Json
  | some a => write a
  | none => .null

def ofIds (ids : List Snowflake) : Json := .arr (ids.map ofId)

/-- The names of the flags of a set. -/
def ofFlagNames (p : Permissions) : Json := .arr (p.names.map Json.str)

def ofOverwrite (o : Overwrite) : Json :=
  .obj [("allow", ofPermissions o.allow), ("deny", ofPermissions o.deny)]

def ofTarget (t : OverrideTarget) : Json := .obj [("type", .str t.kind), ("id", ofId t.id)]

def ofFault (cause : Fault) : Json :=
  .obj [("error", .str cause.code), ("message", .str cause.message)]

def ofCallError (e : CallError) : Json :=
  .obj [("error", .str e.code), ("status", .int e.status), ("forbidden", .bool e.isForbidden),
    ("message", .str e.message)]

def errorBody (e : ApiError) : Json :=
  .obj [("code", .str e.code), ("message", .str e.message)]

def ofGuild (g : Guild) : Json :=
  .obj [("id", ofId g.id), ("name", .str g.name), ("owner_id", ofId g.ownerId)]

def ofRole (r : Role) : Json :=
  .obj [("id", ofId r.id), ("guild_id", ofId r.guildId), ("name", .str r.name),
    ("color", .int r.color), ("hoist", .bool r.hoist), ("position", .int r.position),
    ("permissions", ofPermissions r.permissions), ("is_admin", .bool r.isAdmin),
    ("mentionable", .bool r.mentionable), ("show_tag", .bool r.showTag),
    ("tag_style", .optStr r.tagStyle), ("is_everyone", .bool r.isEveryone)]

def ofChannel (c : Channel) : Json :=
  .obj [("id", ofId c.id), ("guild_id", ofId c.guildId), ("name", .str c.name),
    ("type", .str c.kind.name), ("topic", .optStr c.topic), ("position", .int c.position),
    ("parent_id", ofOpt ofId c.parentId), ("locked", .bool c.locked),
    ("pre_lock_override", ofOpt ofOverwrite c.preLock)]

def ofRoleView (r : RoleView) : Json :=
  .objOf [("id", some (ofId r.id)), ("guild_id", some (ofId r.guildId)),
    ("name", some (.str r.name)), ("color", some (.int r.color)), ("hoist", some (.bool r.hoist)),
    ("position", some (.int r.position)), ("permissions", some (ofPermissions r.permissions)),
    ("is_admin", some (.bool r.isAdmin)), ("mentionable", some (.bool r.mentionable)),
    ("show_tag", some (.bool r.showTag)), ("tag_style", r.tagStyle.map .str),
    ("is_everyone", some (.bool r.isEveryone))]

def ofChannelView (c : ChannelView) : Json :=
  .objOf [("id", some (ofId c.id)), ("guild_id", some (ofId c.guildId)),
    ("name", some (.str c.name)), ("type", some (.int c.kind.code)),
    ("position", some (.int c.position)), ("parent_id", c.parentId.map ofId),
    ("locked", some (.bool c.locked))]

def ofEffective (e : EffectivePermissions) : Json :=
  .objOf [("guild_id", some (ofId e.guildId)), ("channel_id", e.channelId.map ofId),
    ("user_id", some (ofId e.userId)), ("permissions", some (ofPermissions e.permissions)),
    ("flags", some (ofFlagNames e.permissions))]

/-- Identifiers as a set: ascending, each once. -/
def ofIdSet (ids : List Snowflake) : Json :=
  ofIds ((ids.foldl (fun m id => m.insert id ()) (KeyMap.empty : KeyMap Snowflake Unit)).keys)

/-- The inputs of a decision with what follows from them. -/
def ofSnapshot (s : Snapshot) : Json :=
  .obj [("user_id", ofId s.userId), ("is_owner", .bool s.isOwner),
    ("held_role_ids", ofIdSet s.held), ("held_roles", ofIds (s.heldRoles.map (·.id))),
    ("everyone_role", ofOpt (fun r => ofId r.id) s.everyone?),
    ("role_ids", ofIds (s.roles.map (·.id))), ("override_count", .int s.overrides.length),
    ("highest_position", .int s.highest), ("server", ofPermissions s.server),
    ("channel", ofPermissions s.channel)]

def ofOptInt (n : Option Int) : Json := ofOpt .int n

def ofOptBool (b : Option Bool) : Json := ofOpt .bool b

def ofCreateRole (r : CreateRole) : Json :=
  .obj [("name", .str r.name), ("color", .int r.color), ("hoist", .bool r.hoist),
    ("permissions", ofPermissions r.permissions), ("is_admin", .bool r.isAdmin),
    ("mentionable", .bool r.mentionable), ("show_tag", .bool r.showTag),
    ("tag_style", .optStr r.tagStyle), ("position", ofOptInt r.position)]

def ofUpdateRole (r : UpdateRole) : Json :=
  .obj [("name", .optStr r.name), ("color", ofOptInt r.color), ("hoist", ofOptBool r.hoist),
    ("permissions", ofOpt ofPermissions r.permissions), ("is_admin", ofOptBool r.isAdmin),
    ("mentionable", ofOptBool r.mentionable), ("show_tag", ofOptBool r.showTag),
    ("tag_style", .optStr r.tagStyle)]

def ofRoleMove (m : RoleMove) : Json := .obj [("id", .str m.id), ("position", .int m.position)]

def ofToggleFlag (r : ToggleFlag) : Json :=
  .obj [("flag", .str r.flag.name), ("enabled", .bool r.enabled)]

def ofLockdown (r : Lockdown) : Json := .obj [("reason", .optStr r.reason)]

section Times
variable (time : Instant → Json)

def ofMember (m : Member) : Json :=
  .obj [("guild_id", ofId m.guildId), ("user_id", ofId m.userId),
    ("nickname", .optStr m.nickname), ("roles", ofIds m.roles), ("joined_at", time m.joinedAt)]

def ofOverride (o : ChannelOverride) : Json :=
  .obj [("channel_id", ofId o.channelId), ("guild_id", ofId o.guildId),
    ("target", ofTarget o.target), ("allow", ofPermissions o.overwrite.allow),
    ("deny", ofPermissions o.overwrite.deny), ("updated_at", time o.updatedAt)]

/-- The fields of an entry of the log, each with its value if it has one. -/
def entryFields (e : Audit.Entry) : List (String × Option Json) :=
  [("id", some (ofId e.id)), ("guild_id", some (ofId e.guildId)),
    ("actor_id", some (ofId e.actorId)), ("action", some (.str e.action.name)),
    ("target_type", e.targetKind.map fun k => .str k.name), ("target_id", e.targetId.map ofId),
    ("channel_id", e.channelId.map ofId), ("permission", e.permission.map fun f => .str f.name),
    ("verdict", some (.str e.verdict.name)), ("changes", e.changes),
    ("reason", e.reason.map .str), ("created_at", some (time e.createdAt))]

def ofEntry (e : Audit.Entry) : Json :=
  .obj ((entryFields time e).map fun f => (f.1, f.2.getD .null))

def ofEntryView (e : Audit.Entry) : Json := .objOf (entryFields time e)

def ofMemberView (m : MemberView) : Json :=
  .objOf [("guild_id", some (ofId m.guildId)), ("user_id", some (ofId m.userId)),
    ("nickname", m.nickname.map .str), ("roles", some (ofIds m.roles)),
    ("joined_at", some (time m.joinedAt))]

def ofOverrideView (o : OverrideView) : Json :=
  .obj [("channel_id", ofId o.channelId), ("type", .str o.target.kind),
    ("target_id", ofId o.target.id), ("allow", ofPermissions o.overwrite.allow),
    ("deny", ofPermissions o.overwrite.deny), ("updated_at", time o.updatedAt)]

def ofAuditPage (p : AuditPage) : Json :=
  .obj [("data", .arr (p.entries.map (ofEntryView time))),
    ("pagination", .objOf [("before", p.before.map ofId), ("has_more", some (.bool p.hasMore)),
      ("limit", some (.int p.limit))])]

def ofAuditParams (r : AuditParams) : Json :=
  .obj [("actor_id", .optStr r.actorId), ("action", .optStr r.action),
    ("target_type", .optStr r.targetType), ("after", ofOpt time r.after),
    ("before", ofOpt time r.before), ("before_id", .optStr r.beforeId),
    ("limit", ofOptInt (r.limit.map fun n => (n : Int)))]

def ofAnswer : Answer → Json
  | .done => .str "ok"
  | .role view => ofRoleView view
  | .roles views => .arr (views.map ofRoleView)
  | .member view => ofMemberView time view
  | .override view => ofOverrideView time view
  | .overrides views => .arr (views.map (ofOverrideView time))
  | .channel view => ofChannelView view
  | .permissions p => ofPermissions p
  | .effective e => ofEffective e
  | .truth b => .bool b
  | .snapshot s => ofSnapshot s
  | .auditPage page => ofAuditPage time page
  | .channelRow row => ofChannel row
  | .roleRow row => ofRole row

end Times

end GuildAccess.Wire
