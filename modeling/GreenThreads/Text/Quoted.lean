import GreenThreads.Text.Extender
import GreenThreads.Text.Invisible

/-!
# Quoted text

A quoted text stands between double quotes, with marks for the characters that would be misread: the
quote, the backslash, the invisible characters, and those drawn on the character before them.
-/

namespace GreenThreads.Text

/-- A character as it stands in a quoted text. A mark by number holds the code point in
hexadecimal. -/
def escape (c : Char) : String :=
  if c = '"' then "\\\""
  else if c = '\\' then "\\\\"
  else if c = '\t' then "\\t"
  else if c = '\n' then "\\n"
  else if c = '\r' then "\\r"
  else if c.toNat = 0 then "\\0"
  else if isExtender c || isInvisible c then
    "\\u\x7b" ++ String.ofList (Nat.toDigits 16 c.toNat) ++ "\x7d"
  else String.singleton c

def quoted (text : String) : String :=
  "\"" ++ String.join (text.toList.map escape) ++ "\""

end GreenThreads.Text
