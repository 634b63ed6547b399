import GuildAccess.Double
import GuildAccess.Text.Decimal

/-!
Numbers of double precision in text. They are written positionally, whatever their size, and a whole
number without a point.
-/
namespace GuildAccess.Double

/-- An exponent: nothing, or a mark with a whole number behind it. -/
def readExponent : List Char → Option Int
  | [] => some 0
  | c :: rest => if c = 'e' ∨ c = 'E' then Text.signed? rest else none

/-- Digits with an optional point and an optional exponent; at least one digit is needed. -/
def parseDecimal? (negative : Bool) (cs : List Char) : Option Double := do
  let whole := cs.takeWhile Char.isDigit
  let behind := cs.dropWhile Char.isDigit
  let (fraction, behind) := match behind with
    | '.' :: rest => (rest.takeWhile Char.isDigit, rest.dropWhile Char.isDigit)
    | _ => ([], behind)
  let digits ← Text.digits? (whole ++ fraction)
  let exponent ← readExponent behind
  some (ofDecimal negative digits (exponent - fraction.length))

/-- A number behind an optional sign: a decimal, or a word for what no decimal reaches. -/
def parse? (s : String) : Option Double :=
  let (negative, cs) := match s.toList with
    | '-' :: rest => (true, rest)
    | '+' :: rest => (false, rest)
    | cs => (false, cs)
  let word := String.ofList (cs.map Char.toLower)
  if word = "inf" ∨ word = "infinity" then some (.infinite negative)
  else if word = "nan" then some .nan
  else parseDecimal? negative cs

/-- Digits with the point where a power of ten puts it. -/
def position (digits : List Char) (exponent : Int) : List Char :=
  if 0 ≤ exponent then digits ++ List.replicate exponent.toNat '0'
  else
    let places := (-exponent).toNat
    if places < digits.length then
      digits.take (digits.length - places) ++ '.' :: digits.drop (digits.length - places)
    else '0' :: '.' :: List.replicate (places - digits.length) '0' ++ digits

def render : Double → String
  | .nan => "NaN"
  | .infinite negative => if negative then "-inf" else "inf"
  | .finite negative mantissa scale =>
    let digits :=
      if mantissa = 0 then ['0']
      else
        let (digits, exponent) := shortest mantissa scale
        position (Nat.toDigits 10 digits) exponent
    (if negative then "-" else "") ++ String.ofList digits

end GuildAccess.Double
