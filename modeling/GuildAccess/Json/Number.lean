import GuildAccess.Json
import GuildAccess.Text.Decimal

/-!
Numbers in JSON text. A whole number within the whole range is exact. Any other number is computed
in a few steps, each of which rounds: the leading digits, as many as 64 bits hold, are taken as one
number of double precision, and that is multiplied or divided by a power of ten. The outcome can
differ in its last bit from the number nearest to the text.
-/
namespace GuildAccess.Json

def readDigits (cs : List Char) : List Char × List Char :=
  (cs.takeWhile Char.isDigit, cs.dropWhile Char.isDigit)

def readExponent : List Char → Option (Option Int × List Char)
  | c :: rest =>
    if c = 'e' ∨ c = 'E' then
      let (negative, rest) := match rest with
        | '-' :: rest => (true, rest)
        | '+' :: rest => (false, rest)
        | rest => (false, rest)
      let (run, rest) := readDigits rest
      (Text.digits? run).map fun n => (some (if negative then -(n : Int) else n), rest)
    else some (none, c :: rest)
  | [] => some (none, [])

/-- Takes digits behind a number as long as 64 bits hold the outcome, and gives the digits left. -/
def gather (value : Nat) : List Char → Nat × List Char
  | [] => (value, [])
  | c :: rest =>
    match Text.digit? c with
    | some d =>
      if 10 * value + d < 0x10000000000000000 then gather (10 * value + d) rest
      else (value, c :: rest)
    | none => (value, c :: rest)

/-- Multiplies or divides by a power of ten, in steps of 308 places; none if that leaves the
range. -/
def shift (x : Double) (exponent : Int) : Option Double :=
  if exponent.natAbs ≤ 308 then
    if 0 ≤ exponent then
      match x.multiply (.tenTo exponent.natAbs) with
      | .finite negative mantissa scale => some (.finite negative mantissa scale)
      | _ => none
    else some (x.divide (.tenTo exponent.natAbs))
  else if x.isZero then some x
  else if 0 ≤ exponent then none
  else shift (x.divide (.tenTo 308)) (exponent + 308)
termination_by exponent.natAbs
decreasing_by omega

/-- The number of double precision for digits before and behind the point and an exponent. -/
def approximate (negative : Bool) (whole fraction : List Char) (exponent : Int) : Option Double :=
  let (value, dropped) := gather 0 whole
  let (value, ignored) := gather value fraction
  let used := fraction.length - ignored.length
  shift (.ofQuotient negative value 1) (exponent + dropped.length - used)

/-- A number. Only one without point and exponent is whole, and only within the whole range. What no
number of double precision comes near is refused. -/
def readNumber (cs : List Char) : Option (Json × List Char) := do
  let (negative, cs) := match cs with
    | '-' :: rest => (true, rest)
    | cs => (false, cs)
  let (whole, cs) := readDigits cs
  let size ← Text.digits? whole
  if whole.length > 1 ∧ whole.head? = some '0' then none
  let (fraction, cs) ← match cs with
    | '.' :: rest =>
      let (run, rest) := readDigits rest
      if run.isEmpty then none else some (run, rest)
    | cs => some ([], cs)
  let (exponent, cs) ← readExponent cs
  let value : Int := if negative then -(size : Int) else size
  if fraction.isEmpty ∧ exponent.isNone ∧ ¬ (negative ∧ size = 0) ∧
      -0x8000000000000000 ≤ value ∧ value < 0x10000000000000000 then
    some (.int value, cs)
  else
    (approximate negative whole fraction (exponent.getD 0)).map fun d => (.real d, cs)

end GuildAccess.Json
