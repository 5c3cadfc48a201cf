import Textbase.Text.Hex
import Textbase.Text.Printable

/-! Text in double quotes, with escapes for what could not be read off the page. -/
namespace Textbase.Text

def quotedChar (c : Char) : Text :=
  if c = '\x00' then "\\0".toList
  else if c = '\t' then "\\t".toList
  else if c = '\r' then "\\r".toList
  else if c = '\n' then "\\n".toList
  else if c = '\\' then "\\\\".toList
  else if c = '"' then "\\\"".toList
  else if isShown c then [c]
  else "\\u\x7b".toList ++ hex c.toNat ++ "\x7d".toList

def quoted (t : Text) : Text := '"' :: t.flatMap quotedChar ++ ['"']

end Textbase.Text
