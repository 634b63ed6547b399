import GuildAccess.Proofs.Numerals

/-!
Which texts are numbers. Blanks at both ends are cut and a sign is taken off; what is left has to be
ASCII digits, at least one of them, of whatever length and with zeros in front or not. Each such
text is read as the value of its digits, and nothing else is read at all.
-/
namespace GuildAccess.Text

/-- At least one ASCII digit, of a value. -/
structure Digits (cs : List Char) (n : Nat) : Prop where
  some_digit : cs ≠ []
  digits : ∀ c ∈ cs, c.isDigit = true
  value : Nat.ofDigitChars 10 cs 0 = n

/-- A text that is a sign and digits of a value, blanks at its ends aside. -/
def Spells (s : String) (sign : List Char) (n : Nat) : Prop :=
  ∃ before digits after, s.toList = before ++ (sign ++ digits) ++ after ∧
    (∀ c ∈ before, isBlank c = true) ∧ (∀ c ∈ after, isBlank c = true) ∧ Digits digits n

variable {s : String} {cs sign : List Char} {c : Char} {value n d : Nat}

/-- Blanks at both ends are cut. -/
theorem trim_between {before core after : List Char} (blank : ∀ c ∈ before, isBlank c = true)
    (blank' : ∀ c ∈ after, isBlank c = true) (clean : ∀ c ∈ core, isBlank c = false) :
    trim (before ++ core ++ after) = core := by
  unfold trim
  rw [List.append_assoc, List.dropWhile_append_of_pos blank]
  cases core with
  | nil =>
    have gone : (after ++ []).dropWhile isBlank = [] := List.dropWhile_append_of_pos blank'
    rw [List.append_nil] at gone
    simp [gone]
  | cons first rest =>
    have kept : (first :: rest ++ after).dropWhile isBlank = first :: rest ++ after :=
      List.dropWhile_cons_of_neg (by simp [clean first List.mem_cons_self])
    rw [kept, List.reverse_append, List.dropWhile_append_of_pos (by simpa using blank'),
      dropWhile_of_clean fun c member => clean c (List.mem_reverse.mp member),
      List.reverse_reverse]

/-- What is cut from both ends is blank. -/
theorem exists_ends (cs : List Char) : ∃ before after, cs = before ++ trim cs ++ after ∧
    (∀ c ∈ before, isBlank c = true) ∧ ∀ c ∈ after, isBlank c = true := by
  let rest := cs.dropWhile isBlank
  have blank : ∀ l : List Char, ∀ c ∈ l.takeWhile isBlank, isBlank c = true :=
    fun l => List.all_eq_true.mp List.all_takeWhile
  have split : trim cs ++ (rest.reverse.takeWhile isBlank).reverse = rest := by
    show (rest.reverse.dropWhile isBlank).reverse ++ _ = rest
    rw [← List.reverse_append, List.takeWhile_append_dropWhile, List.reverse_reverse]
  refine ⟨cs.takeWhile isBlank, (rest.reverse.takeWhile isBlank).reverse, ?_, blank cs,
    fun c member => blank rest.reverse c (List.mem_reverse.mp member)⟩
  rw [List.append_assoc, split, List.takeWhile_append_dropWhile]

theorem isDigit_of_digit? (read : digit? c = some d) : c.isDigit = true := by
  unfold digit? at read
  split at read
  · next bounds => exact Char.isDigit_iff_toNat.mpr bounds
  · cases read

/-- Only digits are read as digits. -/
theorem isDigit_of_digitsFrom (read : digitsFrom value cs = some n) :
    ∀ c ∈ cs, c.isDigit = true := by
  induction cs generalizing value with
  | nil => simp
  | cons first rest ih =>
    unfold digitsFrom at read
    split at read
    · next digit => exact List.forall_mem_cons.mpr ⟨isDigit_of_digit? digit, ih read⟩
    · cases read

theorem digits?_eq_some : digits? cs = some n ↔ Digits cs n := by
  unfold digits?
  constructor
  · intro read
    split at read
    · cases read
    · next some_digit =>
      have digits := isDigit_of_digitsFrom read
      rw [digitsFrom_eq digits] at read
      exact ⟨by simpa using some_digit, digits, Option.some.inj read⟩
  · rintro ⟨some_digit, digits, rfl⟩
    rw [if_neg (by simpa using some_digit), digitsFrom_eq digits]

/-- Digits begin with no sign. -/
theorem Digits.head_ne (digits : Digits cs n) {sign : Char} (other : sign.isDigit = false)
    (rest : List Char) : cs ≠ sign :: rest := by
  rintro rfl
  rw [digits.digits sign List.mem_cons_self] at other
  cases other

/-- A text without a sign, or with a plus sign, is read as the value of its digits. -/
theorem unsigned?_eq_some : unsigned? cs = some n ↔
    Digits cs n ∨ ∃ digits, cs = '+' :: digits ∧ Digits digits n := by
  unfold unsigned?
  split
  · next rest =>
    rw [digits?_eq_some]
    constructor
    · exact fun read => .inr ⟨rest, rfl, read⟩
    · rintro (digits | ⟨_, same, read⟩)
      · exact absurd rfl (digits.head_ne (by decide) rest)
      · cases same
        exact read
  · next plain =>
    rw [digits?_eq_some]
    refine ⟨.inl, ?_⟩
    rintro (read | ⟨digits, same, -⟩)
    · exact read
    · exact absurd same (plain digits)

/-- What a text spells is what is left of it without its blank ends. -/
theorem spells_iff (clean : ∀ c ∈ sign, isBlank c = false) :
    Spells s sign n ↔ ∃ digits, trim s.toList = sign ++ digits ∧ Digits digits n := by
  constructor
  · rintro ⟨before, digits, after, text, blank, blank', read⟩
    refine ⟨digits, ?_, read⟩
    rw [text, trim_between blank blank']
    refine List.forall_mem_append.mpr ⟨clean, fun c member => ?_⟩
    exact not_blank_of_isDigit (read.digits c member)
  · rintro ⟨digits, core, read⟩
    obtain ⟨before, after, text, blank, blank'⟩ := exists_ends s.toList
    exact ⟨before, digits, after, core ▸ text, blank, blank', read⟩

theorem unsigned?_trim :
    unsigned? (trim s.toList) = some n ↔ Spells s [] n ∨ Spells s ['+'] n := by
  have plain : Spells s [] n ↔ Digits (trim s.toList) n := by
    rw [spells_iff (by simp)]
    simp
  have plus : Spells s ['+'] n ↔ ∃ digits, trim s.toList = '+' :: digits ∧ Digits digits n :=
    spells_iff (List.forall_mem_singleton.mpr rfl)
  rw [unsigned?_eq_some, plain, plus]

/-- A text with a minus sign is read as minus the value of its digits. -/
theorem signed?_eq_some {v : Int} : signed? cs = some v ↔
    (∃ n, unsigned? cs = some n ∧ v = n) ∨
      ∃ n digits, cs = '-' :: digits ∧ Digits digits n ∧ v = -n := by
  by_cases sign : ∃ rest, cs = '-' :: rest
  · obtain ⟨rest, rfl⟩ := sign
    have not_unsigned (n : Nat) : unsigned? ('-' :: rest) ≠ some n := by
      intro read
      rcases unsigned?_eq_some.mp read with digits | ⟨_, same, -⟩
      · exact absurd rfl (digits.head_ne (by decide) rest)
      · cases same
    rw [signed?_minus, Option.map_eq_some_iff]
    constructor
    · rintro ⟨n, read, rfl⟩
      exact .inr ⟨n, rest, rfl, digits?_eq_some.mp read, rfl⟩
    · rintro (⟨n, read, -⟩ | ⟨n, digits, same, read, rfl⟩)
      · exact absurd read (not_unsigned n)
      · cases same
        exact ⟨n, digits?_eq_some.mpr read, rfl⟩
  · have plain : ∀ rest, cs ≠ '-' :: rest := fun rest same => sign ⟨rest, same⟩
    rw [signed?_of_plain plain, Option.map_eq_some_iff]
    constructor
    · rintro ⟨n, read, rfl⟩
      exact .inl ⟨n, read, rfl⟩
    · rintro (⟨n, read, rfl⟩ | ⟨n, digits, same, -⟩)
      · exact ⟨n, read, rfl⟩
      · exact absurd same (plain digits)

theorem signed?_trim {v : Int} : signed? (trim s.toList) = some v ↔
    (∃ n, (Spells s [] n ∨ Spells s ['+'] n) ∧ v = n) ∨ ∃ n, Spells s ['-'] n ∧ v = -n := by
  have minus (n : Nat) :
      Spells s ['-'] n ↔ ∃ digits, trim s.toList = '-' :: digits ∧ Digits digits n :=
    spells_iff (List.forall_mem_singleton.mpr rfl)
  simp only [signed?_eq_some, unsigned?_trim, minus]
  constructor
  · rintro (unsigned | ⟨n, digits, text, read, value⟩)
    · exact .inl unsigned
    · exact .inr ⟨n, ⟨digits, text, read⟩, value⟩
  · rintro (unsigned | ⟨n, ⟨digits, text, read⟩, value⟩)
    · exact .inl unsigned
    · exact .inr ⟨n, digits, text, read, value⟩

end GuildAccess.Text
