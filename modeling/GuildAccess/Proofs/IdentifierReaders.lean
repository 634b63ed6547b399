import GuildAccess.Proofs.DecimalText
import GuildAccess.Proofs.Identifiers
import GuildAccess.Wire.Decode
import GuildAccess.Wire.Encode

/-!
The readers of identifiers. Text and JSON are read as one signed number of 64 bits, and every
identifier is read off its text and its JSON. What is read has three parts, of which it is made up
and by which it is ordered.
-/
namespace GuildAccess

namespace Snowflake
variable {s : String} {a b id : Snowflake} {n v : Int}

/-- A text that is a whole number in decimal, blanks at its ends and a plus sign aside. -/
def SpellsInt (s : String) (v : Int) : Prop :=
  (∃ n, (Text.Spells s [] n ∨ Text.Spells s ['+'] n) ∧ v = n) ∨ ∃ n, Text.Spells s ['-'] n ∧ v = -n

/-- A number that 64 bits hold with a sign. -/
def InRange (v : Int) : Prop := -0x8000000000000000 ≤ v ∧ v < 0x8000000000000000

theorem ofInt?_eq_some : ofInt? v = some id ↔ InRange v ∧ id.toInt = v := by
  unfold ofInt?
  split
  · next bounds =>
    rw [Option.some.injEq]
    exact ⟨fun same => ⟨bounds, same ▸ rfl⟩, fun parts => Snowflake.ext parts.2.symm⟩
  · next outside =>
    constructor
    · intro same
      cases same
    · exact fun parts => absurd parts.1 outside

/-- A text is accepted exactly if it spells a number in range, and is that number. -/
theorem parse?_eq_some :
    (∃ id, parse? s = some id ∧ id.toInt = v) ↔ SpellsInt s v ∧ InRange v := by
  unfold parse? SpellsInt
  rw [← Text.signed?_trim]
  constructor
  · rintro ⟨id, read, rfl⟩
    obtain ⟨w, spelled, bounds⟩ := Option.bind_eq_some_iff.mp read
    obtain ⟨range, same⟩ := ofInt?_eq_some.mp bounds
    rw [same]
    exact ⟨spelled, range⟩
  · rintro ⟨spelled, range⟩
    refine ⟨⟨v, range.1, range.2⟩, ?_, rfl⟩
    rw [spelled]
    exact ofInt?_eq_some.mpr ⟨range, rfl⟩

/-- The decimal form of a whole number is accepted exactly if the number is in range. -/
theorem parse?_toString (n : Int) : parse? (toString n) = ofInt? n := by
  unfold parse?
  rw [Text.trim_toString, Text.signed?_toString]
  rfl

/-- An identifier is made up of its parts. -/
theorem toInt_eq_parts (id : Snowflake) :
    id.toInt = (id.timestamp - epoch) * 0x400000 + id.worker * 0x1000 + id.sequence := by
  unfold timestamp worker sequence
  omega

end Snowflake

namespace Wire
variable {id : Snowflake} {n : Int}

theorem given_eq_ok {α : Type} {a : α} {o : Option α} : given o = .ok a ↔ o = some a := by
  cases o <;> simp [given, misshapen]

theorem id_str {s : String} : Wire.id (.str s) = .ok id ↔ Snowflake.parse? s = some id := by
  simp only [Wire.id]
  cases Snowflake.parse? s <;> simp [refused]

theorem id_int : Wire.id (.int n) = .ok id ↔ Snowflake.ofInt? n = some id := given_eq_ok

/-- A number is accepted exactly if its decimal form is, and as the same identifier. -/
theorem id_int_iff_str : Wire.id (.int n) = .ok id ↔ Wire.id (.str (toString n)) = .ok id := by
  rw [id_int, id_str, Snowflake.parse?_toString]

end Wire

namespace Snowflake

/-- The readers of identifiers agree and undo the writers, and identifiers are made up of and
ordered by their parts. A text is accepted exactly if it spells a number of 64 bits with a sign, and
is that number. Every identifier is read off its text and its JSON, and a number in JSON is read as
its decimal form is, whatever its size. -/
theorem identifier_readers_agree (s : String) (a b : Snowflake) (n : Int) :
    (∀ v, (∃ id, parse? s = some id ∧ id.toInt = v) ↔ SpellsInt s v ∧ InRange v) ∧
    (parse? a.render = some a ∧ Wire.id (Wire.ofId a) = .ok a) ∧
    (∀ id, Wire.id (.int n) = .ok id ↔ Wire.id (.str (toString n)) = .ok id) ∧
    (a.toInt = (a.timestamp - epoch) * 0x400000 + a.worker * 0x1000 + a.sequence ∧
      a.worker < 1024 ∧ a.sequence < 4096) ∧
    (a < b ↔ a.timestamp < b.timestamp ∨ (a.timestamp = b.timestamp ∧
      (a.worker < b.worker ∨ (a.worker = b.worker ∧ a.sequence < b.sequence)))) := by
  refine ⟨fun _ => parse?_eq_some, ⟨parse?_render a, Wire.id_str.mpr (parse?_render a)⟩,
    fun _ => Wire.id_int_iff_str, ⟨toInt_eq_parts a, ?_, ?_⟩, lt_iff_parts⟩
  · unfold worker
    omega
  · unfold sequence
    omega

/-- The least identifier is read, the number below it is not, and the one before zero has the last
worker and sequence number of the millisecond before the epoch. -/
example : (parse? "\u2003-9223372036854775808\t").map toInt = some (-0x8000000000000000) ∧
    parse? "-9223372036854775809" = none ∧
    ((wrap (-1)).timestamp, (wrap (-1)).worker, (wrap (-1)).sequence) = (epoch - 1, 1023, 4095) := by
  decide +kernel

end Snowflake
end GuildAccess
