import CsrMap.Text.Numeral
import CsrMap.Text.Visible

/-!
Quoted text, as messages show names and paths: in double quotes, with a reverse solidus before
what would end the text or could not be seen in it.
-/

namespace CsrMap.Text

def quotedChar (c : Char) : String :=
  match c with
  | '"' => "\\\""
  | '\\' => "\\\\"
  | '\t' => "\\t"
  | '\r' => "\\r"
  | '\n' => "\\n"
  | '\x00' => "\\0"
  | c => if isVisible c then c.toString else "\\u\x7b" ++ Numeral.hex c.toNat ++ "\x7d"

def quoted (s : String) : String :=
  "\"" ++ String.join (s.toList.map quotedChar) ++ "\""

end CsrMap.Text
