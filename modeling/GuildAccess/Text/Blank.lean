/-!
White space of Unicode, and the text that remains when it is cut from both ends.
-/
namespace GuildAccess.Text

/-- The characters with the Unicode property White_Space. -/
def isBlank (c : Char) : Bool :=
  let n := c.toNat
  (9 ≤ n && n ≤ 13) || n == 0x20 || n == 0x85 || n == 0xA0 || n == 0x1680 ||
    (0x2000 ≤ n && n ≤ 0x200A) || n == 0x2028 || n == 0x2029 || n == 0x202F ||
    n == 0x205F || n == 0x3000

/-- Characters left after the blank ones at both ends are cut. -/
def trim (cs : List Char) : List Char :=
  ((cs.dropWhile isBlank).reverse.dropWhile isBlank).reverse

/-- What begins with no blank is left alone by cutting at its start. -/
theorem dropWhile_of_clean {cs : List Char} (clean : ∀ c ∈ cs, isBlank c = false) :
    cs.dropWhile isBlank = cs := by
  cases cs with
  | nil => rfl
  | cons c rest => simp [List.dropWhile, clean c List.mem_cons_self]

/-- A text without blanks at its ends is left alone. -/
theorem trim_eq_self (cs : List Char) (clean : ∀ c ∈ cs, isBlank c = false) : trim cs = cs := by
  unfold trim
  rw [dropWhile_of_clean clean, dropWhile_of_clean (by simpa using clean), List.reverse_reverse]

end GuildAccess.Text
