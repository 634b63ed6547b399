import GuildAccess.Snowflake

/-!
Making identifiers from clock readings. The mint never goes back: a reading before the last used
millisecond counts as that millisecond, and when its 4096 sequence numbers are spent the mint waits
for a later reading.
-/
namespace GuildAccess

/-- A mint with what it used last. -/
structure Mint where
  worker : Nat
  last : Int
  sequence : Nat

namespace Mint

/-- Workers are numbered below this. -/
def workers : Nat := 1024

def badWorker : String := "Worker ID must be < 1024"

def new? (worker : Nat) : Option Mint :=
  if worker < workers then some ⟨worker, 0, 0⟩ else none

def use (m : Mint) (millis : Int) (sequence : Nat) : Snowflake × Mint :=
  (Snowflake.ofParts millis m.worker sequence, { m with last := millis, sequence := sequence })

/-- Makes the next identifier from the readings of a clock, and gives the readings left over. There
is none only if the readings run out first. -/
def next (m : Mint) : List Int → Option ((Snowflake × Mint) × List Int)
  | [] => none
  | reading :: later =>
    if m.last < reading then some (m.use reading 0, later)
    else if (m.sequence + 1) % 4096 ≠ 0 then
      some (m.use m.last ((m.sequence + 1) % 4096), later)
    else
      match later.dropWhile fun r => r ≤ m.last with
      | [] => none
      | reading :: rest => some (m.use reading 0, rest)

def take (m : Mint) (readings : List Int) : Nat → List Snowflake
  | 0 => []
  | n + 1 =>
    match m.next readings with
    | some ((id, after), rest) => id :: after.take rest n
    | none => []

end Mint
end GuildAccess
