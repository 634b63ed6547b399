import GuildAccess.Proofs.DecimalText
import GuildAccess.Proofs.Judgement
import GuildAccess.Proofs.PermissionText
import GuildAccess.Wire.Encode
import GuildAccess.Wire.Decode

/-!
The readers of permission sets. Text from a client, stored text, JSON text and JSON numbers are all
read as one number below 2^64, of which the bits with a flag are kept. The readers differ only in
what they make of the other bits and of what is no such number; and what a set is written as is that
set to each of them.
-/
namespace GuildAccess

namespace Permissions
variable {s : String} {p : Permissions} {n u : Nat}

/-- A text that is a number below 2^64 in decimal, blanks at its ends and a plus sign aside. -/
def SpellsWord (s : String) (n : Nat) : Prop :=
  (Text.Spells s [] n ∨ Text.Spells s ['+'] n) ∧ n < 0x10000000000000000

/-- A number without a bit beyond the last flag. -/
def IsDefined (n : Nat) : Prop := ∀ bit, 20 < bit → n.testBit bit = false

/-- The bits of a number up to the last flag. -/
def IsDefinedPart (n part : Nat) : Prop :=
  ∀ bit, part.testBit bit = (n.testBit bit && decide (bit ≤ 20))

/-- The bits of a number beyond the last flag. -/
def IsUndefinedPart (n part : Nat) : Prop :=
  ∀ bit, part.testBit bit = (n.testBit bit && decide (20 < bit))

theorem word?_eq_some : word? s = some n ↔ SpellsWord s n := by
  unfold word? SpellsWord
  rw [← Text.unsigned?_trim]
  cases Text.unsigned? (Text.trim s.toList) with
  | none => simp
  | some m =>
    simp only [Option.some.injEq]
    split
    · next small => exact ⟨fun same => ⟨Option.some.inj same, Option.some.inj same ▸ small⟩,
        fun parts => congrArg some parts.1⟩
    · next large => exact ⟨nofun, fun parts => absurd (parts.1 ▸ parts.2) large⟩

/-- The set of a number has the bits of the number up to the last flag. -/
theorem testBit_toNat_ofNat (n bit : Nat) :
    (ofNat n).toNat.testBit bit = (n.testBit bit && decide (bit ≤ 20)) := by
  show (BitVec.ofNat 21 n).toNat.testBit bit = _
  rw [BitVec.toNat_ofNat, Nat.testBit_mod_two_pow, Bool.and_comm]
  exact congrArg _ (decide_eq_decide.mpr Nat.lt_succ_iff)

/-- The rest of a number has the bits beyond the last flag. -/
theorem testBit_unknown (n bit : Nat) :
    (unknown n).testBit bit = (n.testBit bit && decide (20 < bit)) := by
  have shifted : unknown n = 2 ^ 21 * (n / 2 ^ 21) := by
    unfold unknown
    omega
  rw [shifted, Nat.testBit_two_pow_mul, Nat.testBit_div_two_pow, Bool.and_comm]
  by_cases beyond : 21 ≤ bit
  · have inside : 20 < bit := beyond
    simp [beyond, inside]
  · have outside : ¬ 20 < bit := beyond
    simp [beyond, outside]

theorem unknown_eq_zero : unknown n = 0 ↔ IsDefined n := by
  constructor
  · intro zero bit beyond
    have off := testBit_unknown n bit
    simpa [zero, beyond] using off.symm
  · intro defined
    refine Nat.eq_of_testBit_eq fun bit => ?_
    rw [testBit_unknown, Nat.zero_testBit]
    by_cases beyond : 20 < bit
    · rw [defined bit beyond, Bool.false_and]
    · simp [beyond]

/-- Of a number without other bits nothing is lost. -/
theorem toNat_ofNat_of_isDefined (defined : IsDefined n) : (ofNat n).toNat = n := by
  refine Nat.eq_of_testBit_eq fun bit => ?_
  rw [testBit_toNat_ofNat]
  by_cases beyond : 20 < bit
  · rw [defined bit beyond, Bool.false_and]
  · simp [Nat.le_of_not_lt beyond]

theorem toNat_inj {q : Permissions} (same : p.toNat = q.toNat) : p = q := by
  rw [← ofNat_toNat p, same, ofNat_toNat]

/-- A number is a set exactly if it has no other bits. -/
theorem ofBits_eq_ok : ofBits n = .ok p ↔ IsDefined n ∧ p.toNat = n := by
  unfold ofBits
  split
  · next none =>
    have defined := unknown_eq_zero.mp none
    rw [Except.ok.injEq]
    refine ⟨fun same => ⟨defined, same ▸ toNat_ofNat_of_isDefined defined⟩, fun parts => ?_⟩
    exact toNat_inj ((toNat_ofNat_of_isDefined defined).trans parts.2.symm)
  · next some =>
    exact ⟨nofun, fun parts => absurd (unknown_eq_zero.mpr parts.1) some⟩

/-- A number is refused for exactly its other bits. -/
theorem ofBits_eq_unknownBits :
    ofBits n = .error (.unknownBits u) ↔ ¬ IsDefined n ∧ IsUndefinedPart n u := by
  unfold ofBits
  split
  · next none => exact ⟨nofun, fun parts => absurd (unknown_eq_zero.mp none) parts.1⟩
  · next some =>
    rw [Except.error.injEq, ReadError.unknownBits.injEq]
    constructor
    · rintro rfl
      exact ⟨fun defined => some (unknown_eq_zero.mpr defined), testBit_unknown n⟩
    · rintro ⟨-, bits⟩
      refine Nat.eq_of_testBit_eq fun bit => ?_
      rw [testBit_unknown, bits]

theorem ofBits_ne_malformed {t : String} : ofBits n ≠ .error (.malformed t) := by
  unfold ofBits
  split <;> simp

theorem SpellsWord.unique {m : Nat} (read : SpellsWord s n) (read' : SpellsWord s m) : m = n :=
  Option.some.inj ((word?_eq_some.mpr read').symm.trans (word?_eq_some.mpr read))

/-- A text that spells a number is read as that number; any other is malformed and stored text of
that kind grants nothing. -/
theorem readers_cases (s : String) :
    (∃ n, SpellsWord s n ∧ parse s = ofBits n ∧ ofStored s = ofNat n) ∨
      (∀ n, ¬ SpellsWord s n) ∧ parse s = .error (.malformed s) ∧ ofStored s = ∅ := by
  unfold parse ofStored
  cases read : word? s with
  | some n => exact .inl ⟨n, word?_eq_some.mp read, rfl, rfl⟩
  | none =>
    refine .inr ⟨fun n spelled => ?_, rfl, rfl⟩
    cases read.symm.trans (word?_eq_some.mpr spelled)

theorem parse_eq_ok :
    (∃ q, parse s = .ok q ∧ q.toNat = n) ↔ SpellsWord s n ∧ IsDefined n := by
  rcases readers_cases s with ⟨m, spelled, parsed, -⟩ | ⟨none, parsed, -⟩
  · simp only [parsed, ofBits_eq_ok]
    constructor
    · rintro ⟨q, ⟨defined, rfl⟩, rfl⟩
      exact ⟨spelled, defined⟩
    · rintro ⟨spelled', defined⟩
      obtain rfl := spelled.unique spelled'
      have same := toNat_ofNat_of_isDefined defined
      exact ⟨ofNat n, ⟨defined, same⟩, same⟩
  · simp [parsed, none]

theorem parse_eq_unknownBits : parse s = .error (.unknownBits u) ↔
    ∃ n, SpellsWord s n ∧ ¬ IsDefined n ∧ IsUndefinedPart n u := by
  rcases readers_cases s with ⟨m, spelled, parsed, -⟩ | ⟨none, parsed, -⟩
  · rw [parsed, ofBits_eq_unknownBits]
    constructor
    · exact fun parts => ⟨m, spelled, parts⟩
    · rintro ⟨n, spelled', parts⟩
      obtain rfl := spelled.unique spelled'
      exact parts
  · simp [parsed, none]

theorem parse_eq_malformed {t : String} :
    parse s = .error (.malformed t) ↔ t = s ∧ ∀ n, ¬ SpellsWord s n := by
  rcases readers_cases s with ⟨m, spelled, parsed, -⟩ | ⟨none, parsed, -⟩
  · rw [parsed]
    exact ⟨fun malformed => absurd malformed ofBits_ne_malformed,
      fun parts => absurd spelled (parts.2 m)⟩
  · rw [parsed, Except.error.injEq, ReadError.malformed.injEq]
    exact ⟨fun same => ⟨same.symm, none⟩, fun parts => parts.1.symm⟩

/-- Stored text is read as the client's is where that succeeds, loses other bits where it has some,
and grants nothing where it is malformed. -/
theorem ofStored_of_parse (s : String) :
    (∀ q, parse s = .ok q → ofStored s = q) ∧
    (∀ u, parse s = .error (.unknownBits u) →
      ∃ n, SpellsWord s n ∧ IsDefinedPart n (ofStored s).toNat) ∧
    ∀ t, parse s = .error (.malformed t) → ofStored s = ∅ := by
  rcases readers_cases s with ⟨m, spelled, parsed, stored⟩ | ⟨none, parsed, stored⟩
  · rw [parsed, stored]
    refine ⟨fun q read => ?_, fun _ _ => ⟨m, spelled, testBit_toNat_ofNat m⟩,
      fun t malformed => absurd malformed ofBits_ne_malformed⟩
    rw [← (ofBits_eq_ok.mp read).2, ofNat_toNat]
  · rw [parsed]
    exact ⟨nofun, nofun, fun _ _ => stored⟩

theorem ofStored_render (p : Permissions) : ofStored p.render = p :=
  (ofStored_of_parse p.render).1 p (parse_render p)

end Permissions

namespace Wire
variable {p : Permissions} {n : Nat}

theorem permissions_ofPermissions (p : Permissions) : permissions (ofPermissions p) = .ok p := by
  simp only [ofPermissions, permissions, Permissions.parse_render]
  rfl

/-- A JSON number is a set exactly if it has no other bits. -/
theorem permissions_int : permissions (.int n) = .ok p ↔ Permissions.ofBits n = .ok p := by
  have positive : ¬ (n : Int) < 0 := Int.not_lt_of_ge (Int.natCast_nonneg n)
  simp only [permissions, if_neg positive, Int.toNat_natCast]
  cases Permissions.ofBits n <;> simp [refused]

theorem permissions_str {s : String} :
    permissions (.str s) = .ok p ↔ Permissions.parse s = .ok p := passes_mapError

end Wire

namespace Permissions

/-- The decimal digits of a number below 2^64 spell it. -/
theorem spellsWord_toString {n : Nat} (small : n < 0x10000000000000000) :
    SpellsWord (toString n) n := by
  refine ⟨.inl ⟨[], Nat.toDigits 10 n, [], by simp, by simp, by simp, ?_⟩, small⟩
  exact ⟨Nat.toDigits_ne_nil, fun _ => Text.isDigit_of_mem_toDigits, Nat.ofDigitChars_ten_toDigits⟩

/-- The readers of permission sets agree and undo the writers. A client's text is accepted exactly
if it spells a number below 2^64 without bits beyond the last flag, and is that number; it is
refused for exactly the other bits where it has some, and as malformed where it spells no such
number. Stored text is read alike, but loses the other bits, and grants nothing where it is
malformed. Every set is read off its text and its JSON, and a JSON number is read as its digits
are. -/
theorem permission_readers_agree (s : String) (p : Permissions) (n : Nat) :
    (∀ v, (∃ q, parse s = .ok q ∧ q.toNat = v) ↔ SpellsWord s v ∧ IsDefined v) ∧
    (∀ u, parse s = .error (.unknownBits u) ↔
      ∃ v, SpellsWord s v ∧ ¬ IsDefined v ∧ IsUndefinedPart v u) ∧
    (∀ t, parse s = .error (.malformed t) ↔ t = s ∧ ∀ v, ¬ SpellsWord s v) ∧
    ((∀ q, parse s = .ok q → ofStored s = q) ∧
      (∀ u, parse s = .error (.unknownBits u) →
        ∃ v, SpellsWord s v ∧ IsDefinedPart v (ofStored s).toNat) ∧
      ∀ t, parse s = .error (.malformed t) → ofStored s = ∅) ∧
    (parse p.render = .ok p ∧ ofStored p.render = p ∧
      Wire.permissions (Wire.ofPermissions p) = .ok p) ∧
    (n < 0x10000000000000000 → ∀ q,
      Wire.permissions (.int n) = .ok q ↔ Wire.permissions (.str (toString n)) = .ok q) := by
  refine ⟨fun _ => parse_eq_ok, fun _ => parse_eq_unknownBits, fun _ => parse_eq_malformed,
    ofStored_of_parse s, ⟨parse_render p, ofStored_render p, Wire.permissions_ofPermissions p⟩,
    fun small q => ?_⟩
  have spelled := spellsWord_toString small
  rw [Wire.permissions_int, Wire.permissions_str]
  unfold parse
  rw [word?_eq_some.mpr spelled]

/-- Between blanks, behind a plus sign and with a zero in front: a client is refused for bit 40, and
from storage the two flags are kept. Bit 20 is a flag as a number and as its digits. -/
theorem permission_readers_agree_sample :
    let s := "\u2003+01099511627779\t"
    (∃ v, SpellsWord s v ∧ ¬ IsDefined v ∧ IsUndefinedPart v 0x10000000000) ∧
      (∃ v, SpellsWord s v ∧ IsDefinedPart v (ofStored s).toNat) ∧ (ofStored s).toNat = 3 ∧
      (∀ v, ¬ SpellsWord "- 1" v) ∧ parse (only .embedLinks).render = .ok (only .embedLinks) ∧
      Wire.permissions (.str (toString 0x100000)) = .ok (only .embedLinks) := by
  intro s
  have read : word? s = some (0x10000000000 + 3) := by decide +kernel
  have refused : parse s = .error (.unknownBits 0x10000000000) := by
    rw [parse, read]
    rfl
  have malformed : parse "- 1" = .error (.malformed "- 1") := rfl
  obtain ⟨-, unknown, -, ⟨-, kept, -⟩, ⟨written, -, -⟩, numbers⟩ :=
    permission_readers_agree s (only .embedLinks) 0x100000
  obtain ⟨-, -, none, -⟩ := permission_readers_agree "- 1" ∅ 0
  exact ⟨(unknown _).mp refused, kept _ refused, by decide +kernel, ((none _).mp malformed).2,
    written, (numbers (by decide) _).mp rfl⟩

end Permissions
end GuildAccess
