import Mathlib.Control.Monad.Basic
import GuildAccess.Proofs.Settings.StandIn

/-!
Loading settings. The library reads the sources and merges them; what comes of that is decoded and
then checked against three rules, in a fixed order and whatever sources the values come from. What
the library is has no part in this, so everything here is for any library that keeps the laws.
-/
namespace GuildAccess.Settings

/-! ### The rules -/

/-- Settings that meet all three rules. -/
structure Sound (s : Settings) : Prop where
  worker : s.worker < 1024
  pageSize : s.audit.maximum ≠ 0
  connections : s.database.minConnections ≤ s.database.maxConnections

/-- The first rule that settings break: the name of the setting and what is wrong with its value. -/
inductive FirstBroken (s : Settings) : String → String → Prop
  | worker (large : 1024 ≤ s.worker) :
    FirstBroken s "snowflake.worker_id" (toString s.worker ++ " (must be < 1024)")
  | pageSize (worker : s.worker < 1024) (zero : s.audit.maximum = 0) :
    FirstBroken s "audit.max_page_size" "0"
  | connections (worker : s.worker < 1024) (pageSize : s.audit.maximum ≠ 0)
    (inverted : s.database.maxConnections < s.database.minConnections) :
    FirstBroken s "database.min_connections"
      (toString s.database.minConnections ++ " exceeds max_connections " ++
        toString s.database.maxConnections)

variable {s : Settings} {name text : String}

theorem Sound.check (sound : s.Sound) : s.check = .ok () := by
  unfold Settings.check Mint.workers
  rw [if_neg (Nat.not_le.mpr sound.worker), if_neg sound.pageSize,
    if_neg (Nat.not_lt.mpr sound.connections)]

theorem FirstBroken.check (broken : s.FirstBroken name text) :
    s.check = .error (.invalidValue name text) := by
  unfold Settings.check Mint.workers
  cases broken with
  | worker large => rw [if_pos large]
  | pageSize worker zero => rw [if_neg (Nat.not_le.mpr worker), if_pos zero]
  | connections worker pageSize inverted =>
    rw [if_neg (Nat.not_le.mpr worker), if_neg pageSize, if_pos inverted]

section Layers
variable {lib : Library} {sets? : lib.Source → Key → Option lib.Value}
  {parsed : String → lib.Value} {file : Option String} {environment : List (String × String)}
  {x y : lib.Source} {merged : lib.Merged}

/-- What the last variable that is named for a setting holds. -/
def Setting.spelledIn (environment : List (String × String)) (k : Setting) : Option String :=
  (environment.reverse.find? fun v =>
    Naming.dotted? ⟨"HAVEN", "__", "__", true⟩ v.1 = some k.key.dotted).map (·.2)

/-- The value of the highest layer that sets a setting: for the address of the database its own
variable, then the variable that is named for the setting, then the file, then what is built in. -/
def highest (lib : Library) (sets? : lib.Source → Key → Option lib.Value)
    (parsed : String → lib.Value) (x : lib.Source) (environment : List (String × String))
    (k : Setting) : lib.Value :=
  (((if k = .url then (environment.lookup "DATABASE_URL").map fun url => lib.plain (.text url)
    else none).or ((k.spelledIn environment).map parsed)).or (sets? x k.key)).getD
      (lib.plain k.standard)

/-- The layers as the library reads and merges them: what is built in, a file that may be missing,
the variables of the product, and over all the variable for the address of the database. -/
structure Stacked (lib : Library) (file : Option String) (environment : List (String × String))
    (x y : lib.Source) (merged : lib.Merged) : Prop where
  file_read : lib.ofFile false file = .ok x
  named_read : lib.ofEnvironment ⟨"HAVEN", "__", "__", true⟩ environment = .ok y
  merged_into : lib.merge (Setting.all.map fun k => (k.key, k.standard)) [x, y]
    ((environment.lookup "DATABASE_URL").toList.map fun url =>
      (⟨"database", "url"⟩, .text url)) = .ok merged

theorem Setting.key_isPlain (k : Setting) : k.key.IsPlain := by
  cases k <;> exact ⟨by decide +kernel, by decide +kernel⟩

theorem Setting.field_mem (k : Setting) : k.key.field ∈ k.fields := by
  cases k <;> decide

/-- Where sources are merged key by key, the field of a setting has the value of the highest layer
that sets it. -/
theorem Stacked.read_field (stacked : Stacked lib file environment x y merged)
    (lawful : lib.Lawful sets? parsed) (keys : lib.KeyByKey sets? [x, y]) (k : Setting)
    {read : String → Option lib.Value}
    (entries : lib.entries merged k.key.group k.fields = .ok read) :
    read k.key.field = some (highest lib sets? parsed x environment k) := by
  have value := keys _ _ merged stacked.merged_into _ _ read entries _ k.field_mem
  have named : sets? y k.key = (k.spelledIn environment).map parsed := by
    rw [lawful.named _ _ y stacked.named_read rfl k.key k.key_isPlain, Setting.spelledIn,
      Option.map_map]
    rfl
  have standard : (Setting.all.map fun k => (k.key, k.standard)).reverse.lookup k.key =
      some k.standard := by
    cases k <;> decide
  have address : ((environment.lookup "DATABASE_URL").toList.map fun url =>
      ((⟨"database", "url"⟩ : Key), Plain.text url)).reverse.lookup k.key =
        if k = .url then (environment.lookup "DATABASE_URL").map .text else none := by
    cases environment.lookup "DATABASE_URL" with
    | none => simp
    | some url => cases k <;> rfl
  have address' : (if k = .url then (environment.lookup "DATABASE_URL").map Plain.text
      else none).map lib.plain = if k = .url then (environment.lookup "DATABASE_URL").map
        fun url => lib.plain (.text url) else none := by
    split
    · rw [Option.map_map]
      rfl
    · rfl
  have sources : ([x, y].reverse.findSome? fun x => sets? x k.key) =
      (sets? y k.key).or (sets? x k.key) := by
    cases above : sets? y k.key <;> cases below : sets? x k.key <;> simp [above, below]
  rw [value, show (⟨k.key.group, k.key.field⟩ : Key) = k.key from rfl, standard, address, address',
    sources, named, Option.map_some, ← Option.or_assoc, Option.or_some]
  rfl

/-- So the setting is what that value reads as. -/
theorem Stacked.holds (stacked : Stacked lib file environment x y merged)
    (lawful : lib.Lawful sets? parsed) (keys : lib.KeyByKey sets? [x, y])
    (decoded : s.DecodedFrom lib merged) (k : Setting) :
    s.Holds lib k (highest lib sets? parsed x environment k) := by
  obtain ⟨read, entries, reads⟩ := decoded k
  rwa [stacked.read_field lawful keys k entries] at reads

end Layers

end GuildAccess.Settings
