import CgroupLimits.Text.Quoted

/-! Texts and objects of the JSON format, laid out over several lines.

    Quotes, backslashes and the control characters below the space are escaped and nothing else
    is. An object has a line for each field, indented by two spaces, in the order given. -/

namespace CgroupLimits.Text.Json

/-- A character of a string. -/
def char (c : Char) : String :=
  if c = '"' then "\\\""
  else if c = '\\' then "\\\\"
  else if c = '\n' then "\\n"
  else if c = '\t' then "\\t"
  else if c = '\r' then "\\r"
  else if c = '\x08' then "\\b"
  else if c = '\x0c' then "\\f"
  else if c.toNat < 0x20 then (if c.toNat < 0x10 then "\\u000" else "\\u00") ++ hex c.toNat
  else c.toString

/-- A string. -/
def string (s : String) : String := "\"" ++ String.join (s.toList.map char) ++ "\""

/-- A string that may be absent. -/
def string? : Option String → String
  | some s => string s
  | none => "null"

/-- The line of a field whose value is already written. -/
def field (entry : String × String) : String := "  " ++ string entry.1 ++ ": " ++ entry.2

/-- An object with at least one field. -/
def object (fields : List (String × String)) : String :=
  "\x7b\n" ++ String.intercalate ",\n" (fields.map field) ++ "\n\x7d"

end CgroupLimits.Text.Json
