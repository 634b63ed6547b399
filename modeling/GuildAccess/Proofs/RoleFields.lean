import GuildAccess.Proofs.PermissionText
import GuildAccess.Proofs.WriteSets

/-!
The fields of a role that a request can set, as the log records them. A recorded change holds the
old and the new value of each field that differs, written so that it can be read back: applied to
the role before the update it gives the role after, and the other way round.
-/
namespace GuildAccess
namespace Role

/-- A field of a role that a request can set. -/
inductive Field
  | name
  | color
  | hoist
  | mentionable
  | showTag
  | tagStyle
  | permissions
  | isAdmin
deriving DecidableEq

namespace Field

/-- Every field, in the order of the log. -/
def all : List Field :=
  [.name, .color, .hoist, .mentionable, .showTag, .tagStyle, .permissions, .isAdmin]

def label : Field → String
  | .name => "name"
  | .color => "color"
  | .hoist => "hoist"
  | .mentionable => "mentionable"
  | .showTag => "show_tag"
  | .tagStyle => "tag_style"
  | .permissions => "permissions"
  | .isAdmin => "is_admin"

def ofLabel? (label : String) : Option Field := all.find? fun f => f.label = label

def Value : Field → Type
  | .name => String
  | .color => Int
  | .hoist | .mentionable | .showTag | .isAdmin => Bool
  | .tagStyle => Option String
  | .permissions => Permissions

instance : (f : Field) → DecidableEq f.Value
  | .name => inferInstanceAs (DecidableEq String)
  | .color => inferInstanceAs (DecidableEq Int)
  | .hoist | .mentionable | .showTag | .isAdmin => inferInstanceAs (DecidableEq Bool)
  | .tagStyle => inferInstanceAs (DecidableEq (Option String))
  | .permissions => inferInstanceAs (DecidableEq Permissions)

def read (r : Role) : (f : Field) → f.Value
  | .name => r.name
  | .color => r.color
  | .hoist => r.hoist
  | .mentionable => r.mentionable
  | .showTag => r.showTag
  | .tagStyle => r.tagStyle
  | .permissions => r.permissions
  | .isAdmin => r.isAdmin

def write (r : Role) : (f : Field) → f.Value → Role
  | .name, v => { r with name := v }
  | .color, v => { r with color := v }
  | .hoist, v => { r with hoist := v }
  | .mentionable, v => { r with mentionable := v }
  | .showTag, v => { r with showTag := v }
  | .tagStyle, v => { r with tagStyle := v }
  | .permissions, v => { r with permissions := v }
  | .isAdmin, v => { r with isAdmin := v }

def toJson : (f : Field) → f.Value → Json
  | .name, v => .str v
  | .color, v => .int v
  | .hoist, v | .mentionable, v | .showTag, v | .isAdmin, v => .bool v
  | .tagStyle, v => .optStr v
  | .permissions, v => .str (toString v.toNat)

def ofJson? : (f : Field) → Json → Option f.Value
  | .name, .str v => some v
  | .color, .int v => some v
  | .hoist, .bool v | .mentionable, .bool v | .showTag, .bool v | .isAdmin, .bool v => some v
  | .tagStyle, .str v => some (some v)
  | .tagStyle, .null => some none
  | .permissions, .str v => (Permissions.parse v).toOption
  | _, _ => none

variable {r : Role} {f g : Field}

theorem mem_all (f : Field) : f ∈ all := by cases f <;> decide

@[simp] theorem ofLabel?_label (f : Field) : ofLabel? f.label = some f := by cases f <;> rfl

theorem label_inj (same : f.label = g.label) : f = g := by
  have found := congrArg ofLabel? same
  rwa [ofLabel?_label, ofLabel?_label, Option.some.injEq] at found

/-- What is written to the log can be read back. -/
@[simp] theorem ofJson?_toJson (f : Field) (v : f.Value) : f.ofJson? (f.toJson v) = some v := by
  cases f with
  | tagStyle => cases v <;> rfl
  | permissions => exact congrArg Except.toOption (Permissions.parse_render v)
  | _ => rfl

@[simp] theorem read_write (v : f.Value) : read (write r f v) f = v := by cases f <;> rfl

/-- The fields of a role are apart from each other. -/
theorem read_write_ne (other : g ≠ f) (v : f.Value) : read (write r f v) g = read r g := by
  cases f <;> cases g <;> first | rfl | exact absurd rfl other

end Field

/-- Two states of a role that differ in nothing but times and the fields that a request can set. -/
structure SameElsewhere (a b : Role) : Prop where
  id : a.id = b.id
  guildId : a.guildId = b.guildId
  position : a.position = b.position
  isEveryone : a.isEveryone = b.isEveryone
  createdAt : a.createdAt = b.createdAt

/-- The fields in which two states of a role differ, in the order of the log. -/
def differing (before after : Role) : List Field :=
  Field.all.filter fun f => f.read before ≠ f.read after

/-- What the log records of a field that differs. -/
def recorded (before after : Role) (f : Field) : String × Json :=
  (f.label, .obj [("old", f.toJson (f.read before)), ("new", f.toJson (f.read after))])

/-- Sets the fields of a role to one side of what was recorded of an update. -/
def applyRecorded? (side : String) : Role → List (String × Json) → Option Role
  | r, [] => some r
  | r, (label, change) :: rest => do
    let f ← Field.ofLabel? label
    let written ← change.field? side
    let value ← f.ofJson? written
    applyRecorded? side (f.write r value) rest

variable {a b r : Role} {f : Field}

theorem mem_differing : f ∈ differing a b ↔ f.read a ≠ f.read b := by
  simp [differing, Field.mem_all]

theorem differing_eq_nil : differing a b = [] ↔ ∀ f : Field, f.read a = f.read b := by
  simp [differing, Field.mem_all]

namespace SameElsewhere
variable {c : Role}

theorem refl (r : Role) : r.SameElsewhere r := ⟨rfl, rfl, rfl, rfl, rfl⟩

theorem symm (same : a.SameElsewhere b) : b.SameElsewhere a :=
  ⟨same.id.symm, same.guildId.symm, same.position.symm, same.isEveryone.symm, same.createdAt.symm⟩

theorem trans (first : a.SameElsewhere b) (second : b.SameElsewhere c) : a.SameElsewhere c where
  id := first.id.trans second.id
  guildId := first.guildId.trans second.guildId
  position := first.position.trans second.position
  isEveryone := first.isEveryone.trans second.isEveryone
  createdAt := first.createdAt.trans second.createdAt

/-- Roles that are the same elsewhere, in all fields and in the time of the last update are one. -/
theorem eq (same : a.SameElsewhere b) (fields : ∀ f : Field, f.read a = f.read b)
    (stamp : a.updatedAt = b.updatedAt) : a = b := by
  have name : a.name = b.name := fields .name
  have color : a.color = b.color := fields .color
  have hoist : a.hoist = b.hoist := fields .hoist
  have mentionable : a.mentionable = b.mentionable := fields .mentionable
  have showTag : a.showTag = b.showTag := fields .showTag
  have tagStyle : a.tagStyle = b.tagStyle := fields .tagStyle
  have permissions : a.permissions = b.permissions := fields .permissions
  have isAdmin : a.isAdmin = b.isAdmin := fields .isAdmin
  obtain ⟨id, guildId, position, isEveryone, createdAt⟩ := same
  cases a
  cases b
  simp_all

/-- Roles that are the same but for times look the same. -/
theorem view_eq (same : a.SameElsewhere b) (fields : ∀ f : Field, f.read a = f.read b) :
    a.view = b.view := by
  have later : ({ a with updatedAt := b.updatedAt } : Role).SameElsewhere b :=
    ⟨same.id, same.guildId, same.position, same.isEveryone, same.createdAt⟩
  have whole : { a with updatedAt := b.updatedAt } = b := by
    refine later.eq (fun f => Eq.trans ?_ (fields f)) rfl
    cases f <;> rfl
  rw [← whole]
  rfl

end SameElsewhere

def copied (source r : Role) (fields : List Field) : Role :=
  fields.foldl (fun r f => f.write r (f.read source)) r

/-- Once a field is copied it stays, so after all that differ no field does. -/
theorem read_copied {source : Role} {fields : List Field}
    (others : ∀ f : Field, f ∉ fields → f.read r = f.read source) (f : Field) :
    f.read (copied source r fields) = f.read source := by
  induction fields generalizing r with
  | nil => exact others f List.not_mem_nil
  | cons first rest ih =>
    refine ih fun g later => ?_
    by_cases here : g = first
    · subst here
      exact Field.read_write _
    · rw [Field.read_write_ne here]
      exact others g fun listed => (List.mem_cons.mp listed).elim here later

theorem copied_elsewhere (source r : Role) (fields : List Field) :
    (copied source r fields).SameElsewhere r ∧
      (copied source r fields).updatedAt = r.updatedAt := by
  induction fields generalizing r with
  | nil => exact ⟨.refl r, rfl⟩
  | cons first rest ih =>
    obtain ⟨same, stamp⟩ := ih (first.write r (first.read source))
    have step : (first.write r (first.read source)).SameElsewhere r ∧
        (first.write r (first.read source)).updatedAt = r.updatedAt := by
      cases first <;> exact ⟨⟨rfl, rfl, rfl, rfl, rfl⟩, rfl⟩
    exact ⟨same.trans step.1, stamp.trans step.2⟩

/-- Applying a side of a record copies the fields from the role that the side was taken from. -/
theorem applyRecorded?_map {side : String} {source : Role}
    (taken : ∀ f : Field, (recorded a b f).2.field? side = some (f.toJson (f.read source)))
    (fields : List Field) (r : Role) :
    applyRecorded? side r (fields.map (recorded a b)) = some (copied source r fields) := by
  induction fields generalizing r with
  | nil => rfl
  | cons first rest ih =>
    have label : (recorded a b first).1 = first.label := rfl
    rw [List.map_cons, applyRecorded?, label]
    simp only [Field.ofLabel?_label, taken, Field.ofJson?_toJson, Option.bind_eq_bind,
      Option.bind_some]
    exact ih _

/-- What was recorded of an update: each field that differs, with what it held before and after, in
a form that leads from either state to the other. -/
structure Records (before after : Role) (changes : List (String × Json)) : Prop where
  keys : changes.map (·.1) = (before.differing after).map Field.label
  values : ∀ f ∈ before.differing after, (Json.obj changes).field? f.label =
    some (.obj [("old", f.toJson (f.read before)), ("new", f.toJson (f.read after))])
  forth : before.applyRecorded? "new" changes = some { after with updatedAt := before.updatedAt }
  back : after.applyRecorded? "old" changes = some { before with updatedAt := after.updatedAt }

/-- What is recorded of a field is found by its label, as no two fields have one. -/
theorem field?_recorded {fields : List Field} (listed : f ∈ fields) :
    (Json.obj (fields.map (recorded a b))).field? f.label = some (recorded a b f).2 := by
  have found : (fields.map (recorded a b)).find? (fun change => change.1 = f.label) =
      some (recorded a b f) := by
    refine find?_of_unique (List.mem_map.mpr ⟨f, listed, rfl⟩) (decide_eq_true rfl) ?_
    intro change listed' named
    obtain ⟨g, -, rfl⟩ := List.mem_map.mp listed'
    rw [Field.label_inj (of_decide_eq_true named)]
  exact congrArg (Option.map Prod.snd) found

/-- With the fields in which it differs copied, a role is the other one, times aside. -/
theorem copied_differing (same : a.SameElsewhere b) {fields : List Field}
    (others : ∀ f : Field, f ∉ fields → f.read b = f.read a) :
    copied a b fields = { a with updatedAt := b.updatedAt } := by
  obtain ⟨kept, stamp⟩ := copied_elsewhere a b fields
  have elsewhere : (copied a b fields).SameElsewhere { a with updatedAt := b.updatedAt } :=
    kept.trans (same.symm.trans ⟨rfl, rfl, rfl, rfl, rfl⟩)
  refine elsewhere.eq (fun f => (read_copied others f).trans ?_) stamp
  cases f <;> rfl

theorem records_differing (same : b.SameElsewhere a) :
    a.Records b ((a.differing b).map (recorded a b)) where
  keys := by
    rw [List.map_map]
    rfl
  values f listed := field?_recorded listed
  forth := by
    have others : ∀ f : Field, f ∉ a.differing b → f.read a = f.read b := fun f unlisted =>
      Decidable.not_not.mp fun differs => unlisted (mem_differing.mpr differs)
    rw [applyRecorded?_map (fun _ => rfl), copied_differing same others]
  back := by
    have others : ∀ f : Field, f ∉ a.differing b → f.read b = f.read a := fun f unlisted =>
      Decidable.not_not.mp fun differs => unlisted (mem_differing.mpr (Ne.symm differs))
    rw [applyRecorded?_map (fun _ => rfl), copied_differing same.symm others]

end Role

namespace Judge
open Role (Field)

/-- The changes of an update are the record of the fields that differ. -/
theorem roleChanges_eq (before after : Role) :
    roleChanges before after = (before.differing after).map (Role.recorded before after) := by
  have one : ∀ f : Field, (if f.read before = f.read after then []
      else [Role.recorded before after f]) =
        ([f].filter fun f => f.read before ≠ f.read after).map (Role.recorded before after) := by
    intro f
    by_cases same : f.read before = f.read after <;> simp [same]
  have split : Field.all = [.name] ++ [.color] ++ [.hoist] ++ [.mentionable] ++ [.showTag] ++
      [.tagStyle] ++ [.permissions] ++ [.isAdmin] := rfl
  unfold Role.differing
  rw [split]
  simp only [List.filter_append, List.map_append, ← one]
  rfl

/-- A request changes nothing of a role but the fields that it can set, and times. -/
theorem updatedRole_elsewhere (before : Role) (request : UpdateRole) (now : Instant) :
    (updatedRole before request now).SameElsewhere before := by
  obtain ⟨id, position⟩ := updatedRole_kept before request now
  have fixed := updatedRole_fixed before request now
  exact ⟨id, (congrArg Role.guildId fixed).symm, position, (congrArg Role.isEveryone fixed).symm,
    (congrArg Role.createdAt fixed).symm⟩

end Judge
end GuildAccess
