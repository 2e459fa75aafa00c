import TaskQueue.Text.Escaped

/-!
# Quoted text for diagnostics

`Text.quoted` writes a string between double quotes for a reader: the quote, the
backslash, NUL, tab, carriage return and line feed are written with a backslash, and
the characters of `escapedRanges` (controls, separators, invisible format characters,
unassigned code points and combining marks) as `\u{hex}`.
-/

namespace TaskQueue.Text

/-- The lowercase hexadecimal digits of a number, without leading zeros. -/
def hexDigits (n : Nat) : String :=
  String.ofList (Nat.toDigits 16 n)

/-- One character inside quotes. -/
def quoteChar (c : Char) : String :=
  if c = '"' then "\\\""
  else if c = '\\' then "\\\\"
  else if c.toNat = 0 then "\\0"
  else if c = '\t' then "\\t"
  else if c = '\r' then "\\r"
  else if c = '\n' then "\\n"
  else if isEscaped c then "\\u" ++ "\x7b" ++ hexDigits c.toNat ++ "\x7d"
  else c.toString

/-- A string between double quotes, escaped for a reader. -/
def quoted (s : String) : String :=
  "\"" ++ String.join (s.toList.map quoteChar) ++ "\""

end TaskQueue.Text
