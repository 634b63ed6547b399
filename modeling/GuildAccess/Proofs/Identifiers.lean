import GuildAccess.Snowflake

/-!
The layout of identifiers. Every identifier is the one of its millisecond, worker and sequence
number, and identifiers are ordered by these parts, the millisecond first; that includes
milliseconds before the epoch, whose identifiers are negative. The same parts are laid out in the
64-bit word of the identifier by shifts and masks.
-/
namespace GuildAccess.Snowflake
variable {millis : Int} {number step : Nat} {a b : Snowflake}

/-- A millisecond whose distance from the epoch fits into 42 bits with a sign. -/
def Dated (millis : Int) : Prop := -0x20000000000 ≤ millis - epoch ∧ millis - epoch < 0x20000000000

instance (millis : Int) : Decidable (Dated millis) :=
  inferInstanceAs (Decidable (_ ∧ _))

/-- In range nothing is lost of the parts. -/
theorem ofParts_toInt (dated : Dated millis) (worker : number < 0x400) (sequence : step < 0x1000) :
    (ofParts millis number step).toInt =
      (millis - epoch) * 0x400000 + number * 0x1000 + step := by
  obtain ⟨lower, upper⟩ := dated
  show Int.bmod _ _ = _
  rw [Int.bmod_eq_of_le] <;> omega

theorem timestamp_ofParts (dated : Dated millis) (worker : number < 0x400)
    (sequence : step < 0x1000) : (ofParts millis number step).timestamp = millis := by
  unfold timestamp
  rw [ofParts_toInt dated worker sequence]
  omega

theorem worker_ofParts (dated : Dated millis) (worker : number < 0x400)
    (sequence : step < 0x1000) : (ofParts millis number step).worker = number := by
  unfold Snowflake.worker
  rw [ofParts_toInt dated worker sequence]
  omega

theorem sequence_ofParts (dated : Dated millis) (worker : number < 0x400)
    (sequence : step < 0x1000) : (ofParts millis number step).sequence = step := by
  unfold Snowflake.sequence
  rw [ofParts_toInt dated worker sequence]
  omega

/-- Every identifier is the one of its parts. -/
theorem ofParts_parts (id : Snowflake) : ofParts id.timestamp id.worker id.sequence = id := by
  have lower := id.lower
  have upper := id.upper
  have dated : Dated id.timestamp := by
    unfold Dated timestamp
    omega
  have worker : id.worker < 0x400 := by
    unfold Snowflake.worker
    omega
  have sequence : id.sequence < 0x1000 := by
    unfold Snowflake.sequence
    omega
  apply Snowflake.ext
  rw [ofParts_toInt dated worker sequence]
  unfold timestamp Snowflake.worker Snowflake.sequence
  omega

/-- Identifiers are ordered by millisecond, then by worker, then by sequence number. -/
theorem lt_iff_parts : a < b ↔ a.timestamp < b.timestamp ∨ (a.timestamp = b.timestamp ∧
    (a.worker < b.worker ∨ (a.worker = b.worker ∧ a.sequence < b.sequence))) := by
  show a.toInt < b.toInt ↔ _
  unfold timestamp worker sequence
  omega

/-- The 64-bit word of an identifier. -/
def word (id : Snowflake) : BitVec 64 := .ofInt 64 id.toInt

theorem word_toInt (id : Snowflake) : id.word.toInt = id.toInt := by
  have lower := id.lower
  have upper := id.upper
  rw [word, BitVec.toInt_ofInt, Int.bmod_eq_of_le] <;> omega

/-- The millisecond is what an arithmetic shift leaves of the word. -/
theorem timestamp_eq_shift (id : Snowflake) :
    id.timestamp = (id.word.sshiftRight 22).toInt + epoch := by
  rw [BitVec.toInt_sshiftRight, word_toInt, Int.shiftRight_eq_div_pow]
  rfl

/-- The bits of a word as a number without a sign. -/
theorem toNat_eq (x : BitVec 64) : x.toNat = (x.toInt % 0x10000000000000000).toNat := by
  have read := BitVec.toNat_ofInt (n := 64) x.toInt
  rwa [BitVec.ofInt_toInt] at read

/-- The worker is what a shift brings to the front and a mask of ten bits keeps. -/
theorem worker_eq_mask (id : Snowflake) :
    id.worker = (id.word.sshiftRight 12 &&& 0x3FF#64).toNat := by
  have shifted : (id.word.sshiftRight 12).toInt = id.toInt / 0x1000 := by
    rw [BitVec.toInt_sshiftRight, word_toInt, Int.shiftRight_eq_div_pow]
    rfl
  have masked := Nat.and_two_pow_sub_one_eq_mod (id.word.sshiftRight 12).toNat 10
  rw [BitVec.toNat_and]
  refine Eq.trans ?_ masked.symm
  rw [toNat_eq, shifted, worker]
  omega

/-- The sequence number is what a mask of twelve bits keeps. -/
theorem sequence_eq_mask (id : Snowflake) : id.sequence = (id.word &&& 0xFFF#64).toNat := by
  have masked := Nat.and_two_pow_sub_one_eq_mod id.word.toNat 12
  rw [BitVec.toNat_and]
  refine Eq.trans ?_ masked.symm
  rw [toNat_eq, word_toInt, sequence]
  omega

/-- Bits above and below a position do not meet. -/
theorem add_eq_or_of_shift {x y : BitVec 64} {n : Nat} (small : y.toNat < 1 <<< n) :
    (x <<< n) + y = (x <<< n) ||| y := by
  refine BitVec.add_eq_or_of_and_eq_zero _ _ (BitVec.eq_of_getLsbD_eq fun i _ => ?_)
  rw [BitVec.getLsbD_and, BitVec.getLsbD_shiftLeft, BitVec.getLsbD_zero]
  by_cases low : i < n
  · simp [low]
  · have high : y.getLsbD i = false := by
      rw [Nat.one_shiftLeft] at small
      rw [← BitVec.testBit_toNat]
      exact Nat.testBit_lt_two_pow (Nat.lt_of_lt_of_le small (Nat.pow_le_pow_right (by decide)
        (Nat.le_of_not_lt low)))
    simp [high]

/-- The word of a number is that of the identifier congruent to it. -/
theorem wrap_word (n : Int) : (wrap n).word = .ofInt 64 n := by
  rw [← BitVec.toInt_inj, word_toInt, BitVec.toInt_ofInt]
  rfl

/-- The word of an identifier is its parts side by side. -/
theorem ofParts_word (millis : Int) (worker : number < 0x400) (sequence : step < 0x1000) :
    (ofParts millis number step).word = (BitVec.ofInt 64 (millis - epoch) <<< 22) |||
      (BitVec.ofNat 64 number <<< 12) ||| BitVec.ofNat 64 step := by
  have behind : (BitVec.ofNat 64 number <<< 12) + BitVec.ofNat 64 step =
      (BitVec.ofNat 64 number <<< 12) ||| BitVec.ofNat 64 step := by
    refine add_eq_or_of_shift ?_
    rw [BitVec.toNat_ofNat]
    omega
  have small : ((BitVec.ofNat 64 number <<< 12) + BitVec.ofNat 64 step).toNat < 1 <<< 22 := by
    rw [BitVec.toNat_add, BitVec.toNat_shiftLeft, BitVec.toNat_ofNat, BitVec.toNat_ofNat,
      Nat.shiftLeft_eq]
    omega
  calc (ofParts millis number step).word
    _ = .ofInt 64 ((millis - epoch) * 0x400000 + number * 0x1000 + step) := wrap_word _
    _ = (BitVec.ofInt 64 (millis - epoch) <<< 22) +
        ((BitVec.ofNat 64 number <<< 12) + BitVec.ofNat 64 step) := by
      rw [BitVec.ofInt_add, BitVec.ofInt_add, BitVec.ofInt_mul, BitVec.ofInt_mul,
        BitVec.ofInt_natCast, BitVec.ofInt_natCast, BitVec.shiftLeft_eq_mul_twoPow,
        BitVec.shiftLeft_eq_mul_twoPow, BitVec.add_assoc]
      rfl
    _ = (BitVec.ofInt 64 (millis - epoch) <<< 22) |||
        ((BitVec.ofNat 64 number <<< 12) ||| BitVec.ofNat 64 step) := by
      rw [add_eq_or_of_shift small, behind]
    _ = _ := (BitVec.or_assoc _ _ _).symm

end GuildAccess.Snowflake
