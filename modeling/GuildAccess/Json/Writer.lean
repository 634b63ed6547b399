import GuildAccess.Json
import GuildAccess.Double.Text

/-!
Compact JSON text. Fields are written in the byte order of their names, and only quotes, backslashes
and control characters are escaped.
-/
namespace GuildAccess.Json

/-- How a character is written inside a string. -/
def writeChar (c : Char) : String :=
  match c with
  | '"' => "\\\""
  | '\\' => "\\\\"
  | '\n' => "\\n"
  | '\r' => "\\r"
  | '\t' => "\\t"
  | _ =>
    if c.toNat = 8 then "\\b"
    else if c.toNat = 12 then "\\f"
    else if c.toNat < 32 then "\\u" ++ Text.hexPadded 4 c.toNat
    else c.toString

def writeString (s : String) : String :=
  s.toList.foldl (fun out c => out ++ writeChar c) "\"" ++ "\""

/-- The digits of a real number other than zero with their power of ten: positional from 10^-5 up to
10^16, beyond that with an exponent, and never without a point or an exponent. -/
def writeDigits (digits : List Char) (exponent : Int) : List Char :=
  let size := digits.length + exponent
  if 0 ≤ exponent ∧ size ≤ 16 then Double.position digits exponent ++ ['.', '0']
  else if -5 < size ∧ size ≤ 16 then Double.position digits exponent
  else
    let mark := 'e' :: (toString (size - 1)).toList
    match digits with
    | first :: second :: rest => first :: '.' :: second :: rest ++ mark
    | digits => digits ++ mark

/-- A real number. What is not finite has no form of its own. -/
def writeReal : Double → String
  | .finite negative mantissa scale =>
    let digits :=
      if mantissa = 0 then ['0', '.', '0']
      else
        let (digits, exponent) := Double.shortest mantissa scale
        writeDigits (Nat.toDigits 10 digits) exponent
    (if negative then "-" else "") ++ String.ofList digits
  | _ => "null"

/-- Puts a written field at its place among fields in ascending order of names. -/
def placeField (name text : String) : List (String × String) → List (String × String)
  | [] => [(name, text)]
  | f :: rest => if name < f.1 then (name, text) :: f :: rest else f :: placeField name text rest

mutual

def render : Json → String
  | .null => "null"
  | .bool true => "true"
  | .bool false => "false"
  | .int n => toString n
  | .real d => writeReal d
  | .str s => writeString s
  | .arr items => "[" ++ ",".intercalate (renderItems items) ++ "]"
  | .obj fields =>
    "\x7b" ++ ",".intercalate ((renderFields fields).map fun f => writeString f.1 ++ ":" ++ f.2) ++
      "\x7d"

def renderItems : List Json → List String
  | [] => []
  | item :: rest => render item :: renderItems rest

/-- Written forms of the fields of an object, by ascending name. -/
def renderFields : List (String × Json) → List (String × String)
  | [] => []
  | (name, value) :: rest => placeField name (render value) (renderFields rest)

end

end GuildAccess.Json
