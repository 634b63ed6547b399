import GuildAccess.Instant
import GuildAccess.Text.Blank
import GuildAccess.Text.Decimal

/-!
Instants in text. Written form: RFC 3339 in UTC with the fewest of 0, 3, 6 or 9 fractional digits
that lose nothing. The reader takes RFC 3339 with any offset and is lenient about blanks between the
parts, digits left out, and the separators of the offset; it never takes a time without an offset.
Each reader below takes a part off the front of a text and gives the rest.
-/
namespace GuildAccess.Instant

def skipBlanks (cs : List Char) : List Char := cs.dropWhile Text.isBlank

def readNumber (width : Nat) (cs : List Char) : Option (Nat × List Char) :=
  let run := (cs.take width).takeWhile Char.isDigit
  (Text.digits? run).map fun n => (n, cs.drop run.length)

def readChar (c : Char) : List Char → Option (Unit × List Char)
  | d :: rest => if d = c then some ((), rest) else none
  | [] => none

/-- A year: up to four digits, or any number of them behind a sign. -/
def readYear (cs : List Char) : Option (Int × List Char) :=
  match skipBlanks cs with
  | '-' :: rest => (readNumber rest.length rest).map fun (n, rest) => (-(n : Int), rest)
  | '+' :: rest => (readNumber rest.length rest).map fun (n, rest) => ((n : Int), rest)
  | cs => (readNumber 4 cs).map fun (n, rest) => ((n : Int), rest)

def readField (cs : List Char) : Option (Nat × List Char) := readNumber 2 (skipBlanks cs)

/-- Three fields with a separator between them, blanks allowed before each. -/
def readThree {α : Type} (first : List Char → Option (α × List Char)) (separator : Char)
    (cs : List Char) : Option ((α × Nat × Nat) × List Char) := do
  let (a, cs) ← first cs
  let (_, cs) ← readChar separator (skipBlanks cs)
  let (b, cs) ← readField cs
  let (_, cs) ← readChar separator (skipBlanks cs)
  let (c, cs) ← readField cs
  some ((a, b, c), cs)

/-- Nanoseconds behind a point; digits after the ninth are dropped. -/
def readFraction : List Char → Option (Nat × List Char)
  | '.' :: rest => do
    let (n, after) ← readNumber 9 rest
    let used := rest.length - after.length
    some (n * Nat.pow 10 (9 - used), after.dropWhile Char.isDigit)
  | cs => some (0, cs)

def readPair : List Char → Option (Nat × List Char)
  | a :: b :: rest => do
    let high ← Text.digit? a
    let low ← Text.digit? b
    some (10 * high + low, rest)
  | _ => none

/-- Seconds east of UTC: `Z`, `UTC`, or a sign, hours and minutes. -/
def readOffset (cs : List Char) : Option (Int × List Char) :=
  if (cs.take 3).map Char.toUpper = ['U', 'T', 'C'] then some (0, cs.drop 3)
  else
    match cs with
    | [] => none
    | sign :: rest =>
      if sign = 'Z' ∨ sign = 'z' then some (0, rest)
      else if sign = '+' ∨ sign = '-' ∨ sign = '\u2212' then do
        let (hours, cs) ← readPair rest
        let (minutes, cs) ← readPair (cs.dropWhile fun c => c = ':' ∨ Text.isBlank c)
        let size : Int := hours * 3600 + minutes * 60
        if minutes < 60 ∧ size < 86400 then some (if sign = '+' then size else -size, cs) else none
      else none

def parse? (s : String) : Option Instant := do
  let ((year, month, day), cs) ← readThree readYear '-' s.toList
  let (_, cs) ← match cs with
    | c :: rest => if c = 'T' ∨ c = 't' ∨ c = ' ' then some ((), rest) else none
    | [] => none
  let ((hour, minute, second), cs) ← readThree readField ':' cs
  let (nanos, cs) ← readFraction cs
  let (offset, cs) ← readOffset (skipBlanks cs)
  let date : Day := ⟨year, month, day⟩
  if (skipBlanks cs).isEmpty ∧ date.isValid ∧ hour < 24 ∧ minute < 60 ∧ second ≤ 60 then
    let second' := min second 59
    let seconds := date.toNumber * 86400 + hour * 3600 + minute * 60 + second' - offset
    let year := (Day.ofNumber (seconds / 86400)).year
    if Day.years.1 ≤ year ∧ year ≤ Day.years.2 then
      some ⟨seconds, if second = 60 then 1000000000 + nanos else nanos⟩
    else none
  else none

/-- A year: four digits from 0 to 9999, otherwise signed. -/
def renderYear (year : Int) : String :=
  if 0 ≤ year ∧ year ≤ 9999 then Text.padded 4 year.toNat
  else (if year < 0 then "-" else "+") ++ Text.padded 4 year.natAbs

/-- Fraction of a second with the fewest digits out of 0, 3, 6 and 9. -/
def renderFraction (nanos : Nat) : String :=
  if nanos = 0 then ""
  else if nanos % 1000000 = 0 then "." ++ Text.padded 3 (nanos / 1000000)
  else if nanos % 1000 = 0 then "." ++ Text.padded 6 (nanos / 1000)
  else "." ++ Text.padded 9 nanos

def render (t : Instant) : String :=
  let date := Day.ofNumber (t.seconds / 86400)
  let clock := (t.seconds % 86400).toNat
  let leap := if t.nanos < 1000000000 then 0 else 1
  renderYear date.year ++ "-" ++ Text.padded 2 date.month ++ "-" ++ Text.padded 2 date.day ++ "T" ++
    Text.padded 2 (clock / 3600) ++ ":" ++ Text.padded 2 (clock / 60 % 60) ++ ":" ++
    Text.padded 2 (clock % 60 + leap) ++ renderFraction (t.nanos - leap * 1000000000) ++ "Z"

end GuildAccess.Instant
