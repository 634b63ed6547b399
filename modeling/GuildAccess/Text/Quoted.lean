import GuildAccess.Text.Hidden
import GuildAccess.Text.Decimal

/-!
Text between double quotes for messages: a reader of the message sees every character of the text,
those without a glyph of their own by their code point.
-/
namespace GuildAccess.Text

/-- How a character is shown between the quotes. -/
def quotedChar (c : Char) : String :=
  match c with
  | '\t' => "\\t"
  | '\r' => "\\r"
  | '\n' => "\\n"
  | '"' => "\\\""
  | '\\' => "\\\\"
  | _ =>
    if c.toNat = 0 then "\\0"
    else if isHidden c then "\\u\x7b" ++ hex c.toNat ++ "\x7d"
    else c.toString

def quoted (s : String) : String :=
  s.toList.foldl (fun out c => out ++ quotedChar c) "\"" ++ "\""

end GuildAccess.Text
