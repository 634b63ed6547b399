import GuildAccess.KeyMap
import GuildAccess.Text.Blank
import GuildAccess.Text.Decimal

/-!
Time-ordered identifiers: signed 64-bit numbers made of a millisecond count since `epoch`, ten bits
of worker and twelve bits of sequence. Their order is the order of these three parts.
-/
namespace GuildAccess

structure Snowflake where
  toInt : Int
  lower : -0x8000000000000000 ≤ toInt
  upper : toInt < 0x8000000000000000
deriving DecidableEq

namespace Snowflake

@[ext] theorem ext {a b : Snowflake} (same : a.toInt = b.toInt) : a = b := by
  cases a; cases b; simp_all

instance : LT Snowflake := ⟨fun a b => a.toInt < b.toInt⟩
instance (a b : Snowflake) : Decidable (a < b) := inferInstanceAs (Decidable (a.toInt < b.toInt))

instance : Key Snowflake where
  decEq := inferInstance
  before a b := decide (a.toInt < b.toInt)
  irrefl a := by simp
  trans := by intro a b c; simp; omega
  connex := by intro a b; simp; intro h k; exact ext (by omega)

def ofInt? (n : Int) : Option Snowflake :=
  if h : -0x8000000000000000 ≤ n ∧ n < 0x8000000000000000 then some ⟨n, h.1, h.2⟩ else none

/-- The identifier congruent to a number modulo 2^64. -/
def wrap (n : Int) : Snowflake :=
  ⟨n.bmod 0x10000000000000000, by have := @Int.le_bmod n 0x10000000000000000 (by decide); omega,
    by have := @Int.bmod_lt n 0x10000000000000000 (by decide); omega⟩

/-- Milliseconds between the Unix epoch and 2024-01-01T00:00:00Z. -/
def epoch : Int := 1704067200000

/-- Milliseconds since the Unix epoch. -/
def timestamp (id : Snowflake) : Int := id.toInt / 0x400000 + epoch

def worker (id : Snowflake) : Nat := (id.toInt / 0x1000 % 0x400).toNat

def sequence (id : Snowflake) : Nat := (id.toInt % 0x1000).toNat

def ofParts (millis : Int) (worker sequence : Nat) : Snowflake :=
  wrap ((millis - epoch) * 0x400000 + worker * 0x1000 + sequence)

def render (id : Snowflake) : String := toString id.toInt

instance : ToString Snowflake := ⟨render⟩

/-- Reads a signed decimal number in range, blanks at the ends aside. -/
def parse? (s : String) : Option Snowflake := Text.signed? (Text.trim s.toList) >>= ofInt?

def malformed : String := "invalid snowflake format"

end Snowflake
end GuildAccess
