import GuildAccess.Settings.Layer

/-!
Settings files: sections of keys with whole numbers, quoted text or truth values, in a subset of
TOML. A file that breaks the format anywhere is refused as a whole.
-/
namespace GuildAccess.Settings.Toml

def isBlank (c : Char) : Bool := c = ' ' ∨ c = '\t'

def isKeyChar (c : Char) : Bool := c.isAlphanum || c = '_' || c = '-'

def skipBlanks (cs : List Char) : List Char := cs.dropWhile isBlank

/-- Whether a character may stand for itself in quoted text and in a comment. -/
def isPlain (c : Char) : Bool := c = '\t' || (32 ≤ c.toNat && c.toNat ≠ 127)

/-- Whether nothing but a comment is left of a line. -/
def isEnd (cs : List Char) : Bool :=
  match skipBlanks cs with
  | [] => true
  | '#' :: comment => comment.all isPlain
  | _ => false

/-- A bare key and the text behind it. -/
def readKey (cs : List Char) : Option (String × List Char) :=
  let key := cs.takeWhile isKeyChar
  if key.isEmpty then none else some (String.ofList key, cs.dropWhile isKeyChar)

/-- The character of a code point in hexadecimal digits. -/
def codePoint? (digits : List Char) : Option Char := do
  let n ← Text.digitsIn? 16 digits
  if n < 0xD800 ∨ (0xE000 ≤ n ∧ n < 0x110000) then some (Char.ofNat n) else none

def escape? : Char → Option Char
  | 'b' => some (Char.ofNat 8)
  | 't' => some '\t'
  | 'n' => some '\n'
  | 'f' => some (Char.ofNat 12)
  | 'r' => some '\r'
  | '"' => some '"'
  | '\\' => some '\\'
  | _ => none

def before (c : Option Char) (tail : Option (List Char × List Char)) :
    Option (List Char × List Char) := do
  let c ← c
  let (text, rest) ← tail
  some (c :: text, rest)

/-- Quoted text up to its closing quote, and what is behind it. -/
def readQuoted : List Char → Option (List Char × List Char)
  | [] => none
  | '"' :: rest => some ([], rest)
  | '\\' :: 'u' :: a :: b :: c :: d :: rest => before (codePoint? [a, b, c, d]) (readQuoted rest)
  | '\\' :: 'U' :: a :: b :: c :: d :: e :: f :: g :: h :: rest =>
    before (codePoint? [a, b, c, d, e, f, g, h]) (readQuoted rest)
  | '\\' :: c :: rest => before (escape? c) (readQuoted rest)
  | c :: rest => before (if isPlain c then some c else none) (readQuoted rest)

/-- Digits without the underscores that may stand between two of them. -/
def ungroup : List Char → Option (List Char)
  | [] => some []
  | '_' :: _ => none
  | [_, '_'] => none
  | c :: '_' :: rest => (ungroup rest).map (c :: ·)
  | c :: rest => (ungroup rest).map (c :: ·)

/-- A number of base ten without a sign: one digit, or more that do not begin with zero. -/
def unsigned? (cs : List Char) : Option Nat := do
  match ← ungroup cs with
  | '0' :: _ :: _ => none
  | digits => Text.digits? digits

/-- A whole number: of base ten with an optional sign, or without one of base 16, 8 or 2. -/
def number? : List Char → Option Int
  | '0' :: 'x' :: cs => do some (← Text.digitsIn? 16 (← ungroup cs) : Nat)
  | '0' :: 'o' :: cs => do some (← Text.digitsIn? 8 (← ungroup cs) : Nat)
  | '0' :: 'b' :: cs => do some (← Text.digitsIn? 2 (← ungroup cs) : Nat)
  | '-' :: cs => do some (-(← unsigned? cs : Nat))
  | '+' :: cs => do some (← unsigned? cs : Nat)
  | cs => do some (← unsigned? cs : Nat)

def word? (cs : List Char) : Option Scalar :=
  if cs = ['t', 'r', 'u', 'e'] then some (.truth true)
  else if cs = ['f', 'a', 'l', 's', 'e'] then some (.truth false)
  else
    match number? cs with
    | some n => if -0x8000000000000000 ≤ n ∧ n < 0x8000000000000000 then some (.whole n) else none
    | none => none

def readValue : List Char → Option (Scalar × List Char)
  | '"' :: cs => (readQuoted cs).map fun (text, rest) => (.text (String.ofList text), rest)
  | cs =>
    let inWord (c : Char) : Bool := !isBlank c && c != '#'
    (word? (cs.takeWhile inWord)).map fun v => (v, cs.dropWhile inWord)

/-- What a line says. -/
inductive Line
  | empty
  | section (name : String)
  | setting (key : String) (value : Scalar)

def readLine (cs : List Char) : Option Line :=
  if isEnd cs then some .empty
  else
    match skipBlanks cs with
    | '[' :: cs => do
      let (name, cs) ← readKey (skipBlanks cs)
      match skipBlanks cs with
      | ']' :: cs => if isEnd cs then some (.section name) else none
      | _ => none
    | cs => do
      let (key, cs) ← readKey cs
      match skipBlanks cs with
      | '=' :: cs =>
        let (value, cs) ← readValue (skipBlanks cs)
        if isEnd cs then some (.setting key value) else none
      | _ => none

/-- The lines of a text, each without its end; `line` is the line begun, backwards. -/
def lines : List Char → List Char → List (List Char)
  | line, [] => [line.reverse]
  | line, '\r' :: '\n' :: rest => line.reverse :: lines [] rest
  | line, '\n' :: rest => line.reverse :: lines [] rest
  | line, c :: rest => lines (c :: line) rest

/-- A file as far as it was read: the section begun, every path used, and the assignments. -/
structure Progress where
  current : List String
  used : List (List String)
  layer : Layer

/-- Takes a path into use. None may be used twice. -/
def Progress.use (p : Progress) (path : List String) : Option Progress :=
  if p.used.contains path then none else some { p with used := path :: p.used }

/-- Reads a further line. -/
def Progress.step (p : Progress) (cs : List Char) : Option Progress := do
  match ← readLine cs with
  | .empty => some p
  | .section name =>
    let p ← p.use [name]
    some { p with current := [name] }
  | .setting key value =>
    let path := p.current ++ [key]
    let p ← p.use path
    some { p with layer := p.layer ++ [(path.map fun name => .name (lower name), value)] }

end Toml

/-- The settings of a file. Names count without regard to case, but a name that is spelled the same
way twice breaks the format. -/
def Layer.ofToml? (source : String) : Option Layer :=
  let cs := match source.toList with
    | '\ufeff' :: cs => cs
    | cs => cs
  ((Toml.lines [] cs).foldlM Toml.Progress.step ⟨[], [], []⟩).map (·.layer)

end GuildAccess.Settings
