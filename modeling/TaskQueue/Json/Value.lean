/-!
# JSON values

`Json` is a JSON value as written: object members keep their order and may repeat a key,
and numbers keep the form they were written in.  `unreadable` stands for a well-formed
string, or an object with such a key, whose text is not Unicode (a lone surrogate escape,
or bytes that are not UTF-8): it may be skipped but not read.

`Json.render` writes a value compactly: no blanks, members in order, and in strings only
the quote, the backslash and the control characters escaped, these as `\b`, `\t`, `\n`,
`\f`, `\r` or `\u00xx`.
-/

namespace TaskQueue

/-- A JSON number as written: `±mantissa · 10^exponent`; `integral` when it was written
without a fraction or an exponent. -/
structure JsonNumber where
  negative : Bool
  mantissa : Nat
  exponent : Int
  integral : Bool
  deriving DecidableEq, Repr

/-- The text of a number. -/
def JsonNumber.render (n : JsonNumber) : String :=
  let sign := if n.negative then "-" else ""
  if n.exponent = 0 then sign ++ toString n.mantissa
  else sign ++ toString n.mantissa ++ "e" ++ toString n.exponent

/-- A JSON value. -/
inductive Json where
  | null
  | bool (b : Bool)
  | num (n : JsonNumber)
  | str (s : String)
  | arr (items : List Json)
  | obj (members : List (String × Json))
  | unreadable
  deriving Repr

namespace Json

/-- A non-negative integer. -/
def nat (n : Nat) : Json := .num ⟨false, n, 0, true⟩

/-- An integer. -/
def int (n : Int) : Json := .num ⟨n < 0, n.natAbs, 0, true⟩

/-- The lowercase hexadecimal digit of a value below 16. -/
def hexDigit (n : Nat) : Char :=
  if n < 10 then Char.ofNat (48 + n) else Char.ofNat (87 + n)

/-- The escaped form of one character inside a string. -/
def escapeChar (c : Char) : List Char :=
  if c = '"' then ['\\', '"']
  else if c = '\\' then ['\\', '\\']
  else if c.toNat = 8 then ['\\', 'b']
  else if c.toNat = 12 then ['\\', 'f']
  else if c = '\n' then ['\\', 'n']
  else if c = '\r' then ['\\', 'r']
  else if c = '\t' then ['\\', 't']
  else if c.toNat < 32 then ['\\', 'u', '0', '0', hexDigit (c.toNat / 16), hexDigit (c.toNat % 16)]
  else [c]

/-- A string literal. -/
def quote (s : String) : String :=
  "\"" ++ String.ofList (s.toList.flatMap escapeChar) ++ "\""

mutual

/-- The compact text of a value. -/
def render : Json → String
  | null => "null"
  | bool b => if b then "true" else "false"
  | num n => n.render
  | str s => quote s
  | arr items => "[" ++ renderItems items ++ "]"
  | obj members => "\x7b" ++ renderMembers members ++ "\x7d"
  | unreadable => "null"

/-- Items separated by commas. -/
def renderItems : List Json → String
  | [] => ""
  | [x] => render x
  | x :: rest => render x ++ "," ++ renderItems rest

/-- Members separated by commas. -/
def renderMembers : List (String × Json) → String
  | [] => ""
  | [(k, v)] => quote k ++ ":" ++ render v
  | (k, v) :: rest => quote k ++ ":" ++ render v ++ "," ++ renderMembers rest

end

/-- The value of a key, the first when it repeats. -/
def lookup (members : List (String × Json)) (key : String) : Option Json :=
  (members.find? (·.1 == key)).map (·.2)

end Json

end TaskQueue
