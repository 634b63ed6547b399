import GuildAccess.Snowflake

/-!
Identifiers in text. What an identifier is written as is read as that identifier again, so a text
that was handed out can be handed back.
-/
namespace GuildAccess

namespace Text
variable {c : Char} {n : Nat}

theorem digit?_of_isDigit (digit : c.isDigit = true) : digit? c = some (c.toNat - '0'.toNat) := by
  have bounds : 48 ≤ c.toNat ∧ c.toNat ≤ 57 := Char.isDigit_iff_toNat.mp digit
  exact if_pos bounds

theorem not_blank_of_isDigit (digit : c.isDigit = true) : isBlank c = false := by
  have bounds : 48 ≤ c.toNat ∧ c.toNat ≤ 57 := Char.isDigit_iff_toNat.mp digit
  simp only [isBlank, Bool.or_eq_false_iff, Bool.and_eq_false_iff, decide_eq_false_iff_not,
    beq_eq_false_iff_ne]
  omega

/-- Reading digits computes the number that they are the digits of. -/
theorem digitsFrom_eq {cs : List Char} (digits : ∀ c ∈ cs, c.isDigit = true) (value : Nat) :
    digitsFrom value cs = some (Nat.ofDigitChars 10 cs value) := by
  induction cs generalizing value with
  | nil => rfl
  | cons c rest ih =>
    rw [Nat.ofDigitChars_cons, ← ih fun other later => digits other (List.mem_cons_of_mem c later)]
    simp only [digitsFrom, digit?_of_isDigit (digits c List.mem_cons_self)]

theorem isDigit_of_mem_toDigits (member : c ∈ Nat.toDigits 10 n) : c.isDigit = true :=
  Nat.isDigit_of_mem_toDigits (by decide) (by decide) member

theorem digits?_toDigits (n : Nat) : digits? (Nat.toDigits 10 n) = some n := by
  have some_digit : (Nat.toDigits 10 n).isEmpty = false := by
    rw [List.isEmpty_eq_false_iff]
    exact Nat.toDigits_ne_nil
  rw [digits?, some_digit, if_neg Bool.false_ne_true,
    digitsFrom_eq (fun _ => isDigit_of_mem_toDigits), Nat.ofDigitChars_ten_toDigits]

theorem not_sign_of_mem_toDigits (member : c ∈ Nat.toDigits 10 n) : c ≠ '-' ∧ c ≠ '+' := by
  have digit := isDigit_of_mem_toDigits member
  constructor <;> rintro rfl <;> cases digit

/-- Without a sign the digits are the whole text. -/
theorem unsigned?_toDigits (n : Nat) : unsigned? (Nat.toDigits 10 n) = some n := by
  have read := digits?_toDigits n
  cases text : Nat.toDigits 10 n with
  | nil => exact absurd text Nat.toDigits_ne_nil
  | cons first rest =>
    have plain : first ≠ '+' := (not_sign_of_mem_toDigits (n := n) (by simp [text])).2
    rw [text] at read
    unfold unsigned?
    split
    · next same => exact absurd (List.cons.inj same).1 plain
    · exact read

theorem signed?_minus (cs : List Char) :
    signed? ('-' :: cs) = (digits? cs).map fun n : Nat => -(n : Int) := by
  simp only [signed?]
  cases digits? cs <;> rfl

theorem signed?_of_plain {cs : List Char} (plain : ∀ rest, cs ≠ '-' :: rest) :
    signed? cs = (unsigned? cs).map fun n : Nat => (n : Int) := by
  unfold signed?
  split
  · next rest => exact absurd rfl (plain rest)
  · cases unsigned? cs <;> rfl

theorem signed?_toDigits (n : Nat) : signed? (Nat.toDigits 10 n) = some (n : Int) := by
  have plain : ∀ rest, Nat.toDigits 10 n ≠ '-' :: rest := fun rest text =>
    absurd rfl (not_sign_of_mem_toDigits (n := n) (c := '-') (by simp [text])).1
  rw [signed?_of_plain plain, unsigned?_toDigits, Option.map_some]

/-- The decimal form of a whole number is a sign, if it is negative, and its digits. -/
theorem toString_toList (n : Int) : (toString n).toList =
    (if n < 0 then ['-'] else []) ++ Nat.toDigits 10 n.natAbs := by
  show n.repr.toList = _
  rw [Int.repr_eq_if]
  by_cases negative : n < 0
  · have size : (-n).toNat = n.natAbs := by omega
    simp [negative, Int.not_le.mpr negative, Nat.repr_eq_ofList_toDigits, size]
  · have size : n.toNat = n.natAbs := by omega
    simp [negative, Int.not_lt.mp negative, Nat.repr_eq_ofList_toDigits, size]

theorem trim_toString (n : Int) : trim (toString n).toList = (toString n).toList := by
  refine trim_eq_self _ fun c member => ?_
  rw [toString_toList] at member
  rcases List.mem_append.mp member with sign | digit
  · split at sign
    · rw [List.mem_singleton.mp sign]
      rfl
    · cases sign
  · exact not_blank_of_isDigit (isDigit_of_mem_toDigits digit)

/-- What a whole number is written as is read as that number. -/
theorem signed?_toString (n : Int) : signed? (toString n).toList = some n := by
  rw [toString_toList]
  split
  · next negative =>
    have value : -(n.natAbs : Int) = n := by omega
    rw [List.cons_append, List.nil_append, signed?_minus, digits?_toDigits, Option.map_some, value]
  · next positive =>
    rw [List.nil_append, signed?_toDigits, Int.natAbs_of_nonneg (Int.not_lt.mp positive)]

end Text

namespace Snowflake

/-- What an identifier is written as is read as that identifier. -/
theorem parse?_render (id : Snowflake) : parse? id.render = some id := by
  unfold parse? render
  rw [Text.trim_toString, Text.signed?_toString]
  exact dif_pos ⟨id.lower, id.upper⟩

end Snowflake
end GuildAccess
