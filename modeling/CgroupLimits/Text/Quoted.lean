import CgroupLimits.Text.Shown

/-! Texts between double quotes, as log records show them.

    A backslash announces a character that is not written as it is: a double quote, a backslash,
    the four control characters that have a letter, and any character that is not shown, which is
    written by its number in braces. A single quote is nothing special. -/

namespace CgroupLimits.Text

/-- A hexadecimal number in lower case. -/
def hex (n : Nat) : String := String.ofList (Nat.toDigits 16 n)

/-- A character between quotes. -/
def quotedChar (c : Char) : String :=
  if c = '\x00' then "\\0"
  else if c = '\t' then "\\t"
  else if c = '\n' then "\\n"
  else if c = '\r' then "\\r"
  else if c = '\\' then "\\\\"
  else if c = '"' then "\\\""
  else if isShown c then c.toString
  else "\\u\x7b" ++ hex c.toNat ++ "\x7d"

/-- A text between double quotes. -/
def quoted (s : String) : String :=
  "\"" ++ String.join (s.toList.map quotedChar) ++ "\""

end CgroupLimits.Text
