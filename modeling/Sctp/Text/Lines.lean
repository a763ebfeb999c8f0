/-! Text made of lines, each of which ends with a newline. -/
namespace Sctp.Text

def unlines (lines : List String) : String := String.join (lines.map (· ++ "\n"))

end Sctp.Text
