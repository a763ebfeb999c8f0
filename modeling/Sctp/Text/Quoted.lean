import Sctp.Text.Radix
import Sctp.Text.Visible

/-! Text in double quotes. Quotes, backslashes and hidden characters are escaped, so that a quoted text is
one line and ends at its second plain quote. -/
namespace Sctp.Text.Quoted

def escape (c : Char) : String :=
  if c = '"' then "\\\""
  else if c = '\\' then "\\\\"
  else if c = '\t' then "\\t"
  else if c = '\r' then "\\r"
  else if c = '\n' then "\\n"
  else if c = Char.ofNat 0 then "\\0"
  else if isVisible c then c.toString
  else "\\u\x7b" ++ hex c.toNat ++ "\x7d"

def encode (text : String) : String := "\"" ++ String.join (text.toList.map escape) ++ "\""

end Sctp.Text.Quoted
