import GuildAccess.Permissions.Text
import GuildAccess.Proofs.Numerals

/-!
Permission sets in text. A set is written as a decimal number of known bits, which is read as that
set again.
-/
namespace GuildAccess.Permissions

theorem toNat_lt (p : Permissions) : p.toNat < 0x200000 := p.bits.isLt

@[simp] theorem ofNat_toNat (p : Permissions) : ofNat p.toNat = p := by
  simp [ofNat, toNat]

/-- A set is written in digits alone. -/
theorem render_toList (p : Permissions) : p.render.toList = Nat.toDigits 10 p.toNat := by
  show p.toNat.repr.toList = _
  rw [Nat.repr_eq_ofList_toDigits, String.toList_ofList]

theorem word?_render (p : Permissions) : word? p.render = some p.toNat := by
  have trimmed : Text.trim p.render.toList = p.render.toList := by
    refine Text.trim_eq_self _ fun c member => ?_
    rw [render_toList] at member
    exact Text.not_blank_of_isDigit (Text.isDigit_of_mem_toDigits member)
  have small : p.toNat < 0x10000000000000000 := Nat.lt_trans p.toNat_lt (by decide)
  unfold word?
  rw [trimmed, render_toList, Text.unsigned?_toDigits]
  exact if_pos small

/-- What a set is written as is read as that set. -/
theorem parse_render (p : Permissions) : parse p.render = .ok p := by
  have known : unknown p.toNat = 0 := by
    unfold unknown
    rw [Nat.mod_eq_of_lt p.toNat_lt, Nat.sub_self]
  unfold parse ofBits
  rw [word?_render]
  dsimp only
  rw [if_pos known, ofNat_toNat]

end GuildAccess.Permissions
