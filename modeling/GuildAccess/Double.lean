/-!
Numbers of double precision, as an integer times a power of two. Reading a decimal rounds it to the
nearest such number; the decimal written back is the shortest one that is read as the same number,
and among the shortest the nearest.
-/
namespace GuildAccess

/-- A number of double precision: not a number, infinite, or `mantissa` times two to the power of
`scale`. -/
inductive Double
  | nan
  | infinite (negative : Bool)
  | finite (negative : Bool) (mantissa : Nat) (scale : Int)
deriving DecidableEq

namespace Double

/-- The whole number nearest to a quotient; a half goes to the even neighbour. -/
def roundQuotient (numerator denominator : Nat) : Nat :=
  let below := numerator / denominator
  let twice := 2 * (numerator % denominator)
  if twice < denominator then below
  else if denominator < twice then below + 1
  else below + below % 2

/-- The greatest power of two that is at most a quotient of numbers other than zero. -/
def binaryOrder (numerator denominator : Nat) : Int :=
  let guess : Int := (numerator.log2 : Int) - denominator.log2
  if denominator * Nat.pow 2 guess.toNat ≤ numerator * Nat.pow 2 (-guess).toNat then guess
  else guess - 1

/-- The number nearest to a quotient. The mantissa has 53 bits, fewer only next to zero. -/
def ofQuotient (negative : Bool) (numerator denominator : Nat) : Double :=
  if numerator = 0 then .finite negative 0 (-1074)
  else
    let scale := max (-1074) (binaryOrder numerator denominator - 52)
    let mantissa := roundQuotient (numerator * Nat.pow 2 (-scale).toNat)
      (denominator * Nat.pow 2 scale.toNat)
    let (mantissa, scale) :=
      if mantissa = 0x20000000000000 then (0x10000000000000, scale + 1) else (mantissa, scale)
    if 971 < scale then .infinite negative else .finite negative mantissa scale

/-- The number nearest to `digits` times ten to the power of `exponent`. Beyond 10^400 all is
infinite, and below 10^-400 all is zero. -/
def ofDecimal (negative : Bool) (digits : Nat) (exponent : Int) : Double :=
  let size := (Nat.toDigits 10 digits).length + exponent
  if digits = 0 ∨ size < -400 then .finite negative 0 (-1074)
  else if 400 < size then .infinite negative
  else
    ofQuotient negative (digits * Nat.pow 10 exponent.toNat) (Nat.pow 10 (-exponent).toNat)

def multiply : Double → Double → Double
  | .finite negative m p, .finite _ n q =>
    ofQuotient negative (m * n * Nat.pow 2 (p + q).toNat) (Nat.pow 2 (-(p + q)).toNat)
  | a, _ => a

def divide : Double → Double → Double
  | .finite negative m p, .finite _ n q =>
    ofQuotient negative (m * Nat.pow 2 (p - q).toNat) (n * Nat.pow 2 (q - p).toNat)
  | a, _ => a

def tenTo (exponent : Nat) : Double := ofDecimal false 1 exponent

def isZero : Double → Bool
  | .finite _ mantissa _ => mantissa = 0
  | _ => false

/-- The nearest whole number, a half rounded up. -/
def roundHalfUp (mantissa : Nat) (scale : Int) : Nat :=
  let divisor := Nat.pow 2 (-scale).toNat
  (2 * (mantissa * Nat.pow 2 scale.toNat) + divisor) / (2 * divisor)

/-- The nearest unsigned number of 64 bits; what is not a number counts as zero. -/
def toWord : Double → Nat
  | .nan => 0
  | .infinite negative => if negative then 0 else 0xFFFFFFFFFFFFFFFF
  | .finite negative mantissa scale =>
    if negative then 0 else min 0xFFFFFFFFFFFFFFFF (roundHalfUp mantissa scale)

/-- Whether the gap to the number below is half the gap to the number above. -/
def isNarrowBelow (mantissa : Nat) (scale : Int) : Bool :=
  mantissa = 0x10000000000000 ∧ -1074 < scale

/-- The multiple of ten to the power of `exponent` that is read as the number, the nearer one if
there are two, and the greater one if both are as near. The ends of the interval that is read as the
number belong to it if the mantissa is even. -/
def onGrid? (mantissa : Nat) (scale exponent : Int) : Option Nat :=
  let unit := Nat.pow 2 (scale - 2).toNat * Nat.pow 10 (-exponent).toNat
  let step := Nat.pow 2 (2 - scale).toNat * Nat.pow 10 exponent.toNat
  let low := (4 * mantissa - if isNarrowBelow mantissa scale then 1 else 2) * unit
  let high := (4 * mantissa + 2) * unit
  let readsBack (n : Nat) : Bool :=
    if mantissa % 2 = 0 then low ≤ n * step ∧ n * step ≤ high
    else low < n * step ∧ n * step < high
  let value := 4 * mantissa * unit
  let below := value / step
  match readsBack below, readsBack (below + 1) with
  | true, true => some (if 2 * value < (2 * below + 1) * step then below else below + 1)
  | true, false => some below
  | false, true => some (below + 1)
  | false, false => none

/-- The shortest digits that are read as a number other than zero, and their power of ten: those on
the coarsest grid. -/
def shortest (mantissa : Nat) (scale : Int) : Nat × Int :=
  ((List.range 700).findSome? fun (n : Nat) =>
    (onGrid? mantissa scale (310 - n)).map fun digits => (digits, 310 - (n : Int))).getD
    (mantissa * Nat.pow 2 scale.toNat * Nat.pow 5 (-scale).toNat, -((-scale).toNat : Int))

end Double
end GuildAccess
