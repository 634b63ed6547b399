import GuildAccess.Proofs.PermissionReaders
import GuildAccess.Record

/-!
The override that a lock has saved, in two columns of a row that can each be missing or unreadable.
What a channel has saved is read off the columns it is written to: none, an empty one and any other
stay apart. A row that was written otherwise is read leniently, and written again it is in that
form.
-/
namespace GuildAccess

namespace Permissions
variable {column : Option String} {s : String} {p : Permissions}

/-- What the lenient reader makes of a column: of one that spells a number the bits with a flag,
and of one that is missing or spells none no bit. -/
def ColumnHolds (column : Option String) (p : Permissions) : Prop :=
  (∃ s n, column = some s ∧ SpellsWord s n ∧ IsDefinedPart n p.toNat) ∨
    (∀ s n, column = some s → ¬ SpellsWord s n) ∧ p.toNat = 0

/-- The set that a column is read as. -/
def ofColumn (column : Option String) : Permissions := (column.map ofStored).getD ∅

theorem ofColumn_holds (column : Option String) : ColumnHolds column (ofColumn column) := by
  cases column with
  | none => exact .inr ⟨nofun, rfl⟩
  | some s =>
    rcases readers_cases s with ⟨n, spelled, -, stored⟩ | ⟨none, -, stored⟩
    · refine .inl ⟨s, n, rfl, spelled, ?_⟩
      show IsDefinedPart n (ofStored s).toNat
      rw [stored]
      exact testBit_toNat_ofNat n
    · refine .inr ⟨fun _ n same => Option.some.inj same ▸ none n, ?_⟩
      show (ofStored s).toNat = 0
      rw [stored]
      rfl

/-- A written set is read back from its column. -/
theorem ofColumn_render (p : Permissions) : ofColumn (some p.render) = p := ofStored_render p

end Permissions

namespace Overwrite
variable {allow deny : Option String} {o : Option Overwrite}

/-- Columns of which one is there are read one by one. -/
theorem ofColumns_of_some (one : ¬ (allow = none ∧ deny = none)) :
    ofColumns allow deny = some ⟨.ofColumn allow, .ofColumn deny⟩ := by
  cases allow with
  | none =>
    cases deny with
    | none => exact absurd ⟨rfl, rfl⟩ one
    | some deny => rfl
  | some allow => rfl

/-- What is saved is read off the columns it is written to. -/
theorem ofColumns_toColumns (o : Option Overwrite) :
    ofColumns (toColumns o).1 (toColumns o).2 = o := by
  cases o with
  | none => rfl
  | some o =>
    show some (Overwrite.mk (.ofColumn (some o.allow.render)) (.ofColumn (some o.deny.render))) = _
    rw [Permissions.ofColumn_render, Permissions.ofColumn_render]

/-- Different overrides are written to different columns. -/
theorem toColumns_inj {p : Option Overwrite} (same : toColumns o = toColumns p) : o = p := by
  rw [← ofColumns_toColumns o, same, ofColumns_toColumns]

end Overwrite

namespace Channel

theorem ofCode_code (kind : ChannelKind) : ChannelKind.ofCode kind.code = kind := by
  cases kind <;> rfl

/-- A channel is read off its row. -/
theorem toChannel_toRecord (c : Channel) : c.toRecord.toChannel = c := by
  simp only [toRecord, ChannelRecord.toChannel, ofCode_code, Overwrite.ofColumns_toColumns]

/-- The override saved by a lock survives its two columns. A channel is read off its row, so that no
override, an empty one and any other are told apart by the columns. Of any row, missing columns stay
missing; otherwise both are written, each as the decimal form of what it is read as, and are read so
from then on. -/
theorem saved_override_survives (c : Channel) (r : ChannelRecord) :
    c.toRecord.toChannel = c ∧
    ((c.preLock = none ↔ Overwrite.toColumns c.preLock = (none, none)) ∧
      (c.preLock = some ⟨∅, ∅⟩ ↔ Overwrite.toColumns c.preLock = (some "0", some "0")) ∧
      ∀ o, c.preLock = some o ↔ Overwrite.toColumns c.preLock =
        (some (toString o.allow.toNat), some (toString o.deny.toNat))) ∧
    (r.preLockAllow = none ∧ r.preLockDeny = none →
      r.toChannel.preLock = none ∧ Overwrite.toColumns r.toChannel.preLock = (none, none)) ∧
    (¬ (r.preLockAllow = none ∧ r.preLockDeny = none) →
      ∃ allow deny, Permissions.ColumnHolds r.preLockAllow allow ∧
        Permissions.ColumnHolds r.preLockDeny deny ∧
        r.toChannel.preLock = some ⟨allow, deny⟩ ∧
        Overwrite.toColumns r.toChannel.preLock =
          (some (toString allow.toNat), some (toString deny.toNat))) ∧
    r.toChannel.toRecord.toChannel = r.toChannel := by
  have written (o : Option Overwrite) :
      c.preLock = o ↔ Overwrite.toColumns c.preLock = Overwrite.toColumns o :=
    ⟨congrArg _, Overwrite.toColumns_inj⟩
  refine ⟨toChannel_toRecord c, ⟨written none, written (some ⟨∅, ∅⟩), fun o => written (some o)⟩,
    ?_, ?_, toChannel_toRecord _⟩
  · rintro ⟨allow, deny⟩
    have read : r.toChannel.preLock = none := by
      show Overwrite.ofColumns r.preLockAllow r.preLockDeny = none
      rw [allow, deny]
      rfl
    exact ⟨read, congrArg Overwrite.toColumns read⟩
  · intro one
    have read : r.toChannel.preLock = some _ := Overwrite.ofColumns_of_some one
    exact ⟨_, _, Permissions.ofColumn_holds _, Permissions.ofColumn_holds _, read,
      congrArg Overwrite.toColumns read⟩

/-- A row without columns stays so. Of a row with an unreadable column and one with a blank, a
leading zero and bit 40, the first is written again as no flags and the second as the two flags that
it has. -/
theorem saved_override_survives_sample :
    let c := Channel.new (.wrap 20) (.wrap 1) "general" .text (.ofMillis 0)
    let r := { c.toRecord with preLockAllow := some "none", preLockDeny := some " 01099511627779" }
    (c.toRecord.preLockAllow = none ∧ c.toRecord.preLockDeny = none) ∧
      Overwrite.toColumns c.toRecord.toChannel.preLock = (none, none) ∧
      ¬ (r.preLockAllow = none ∧ r.preLockDeny = none) ∧
      ∃ allow deny, Permissions.ColumnHolds r.preLockAllow allow ∧
        Permissions.ColumnHolds r.preLockDeny deny ∧
        Overwrite.toColumns r.toChannel.preLock =
          (some (toString allow.toNat), some (toString deny.toNat)) ∧
        (allow.toNat, deny.toNat) = (0, 3) := by
  intro c r
  have one : ¬ (r.preLockAllow = none ∧ r.preLockDeny = none) := nofun
  have value : r.toChannel.preLock.map (fun o => (o.allow.toNat, o.deny.toNat)) = some (0, 3) := by
    decide +kernel
  obtain ⟨-, -, missing, -⟩ := saved_override_survives c c.toRecord
  obtain ⟨-, -, -, there, -⟩ := saved_override_survives c r
  obtain ⟨allow, deny, first, second, read, columns⟩ := there one
  rw [read] at value
  exact ⟨⟨rfl, rfl⟩, (missing ⟨rfl, rfl⟩).2, one, allow, deny, first, second, columns,
    Option.some.inj value⟩

end Channel
end GuildAccess
