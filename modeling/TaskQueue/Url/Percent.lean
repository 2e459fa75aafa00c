/-!
# Percent-encoding

A character outside a set of plain ASCII characters is written as the bytes of its UTF-8
form, each as `%XX` with uppercase hexadecimal digits.  The sets here are those of the
WHATWG URL Standard; every one of them encodes the C0 controls and every code point above
`~`, so an encoded text is printable ASCII.  Form encoding, used for query pairs, keeps
only letters, digits and `*-._`, and writes a space as `+`.
-/

namespace TaskQueue.Url

/-- The uppercase hexadecimal digit of a number below 16. -/
def hexUpper (n : Nat) : Char :=
  if n < 10 then Char.ofNat (48 + n) else Char.ofNat (55 + n)

/-- One byte as `%XX`. -/
def percentByte (b : UInt8) : String :=
  String.ofList ['%', hexUpper (b.toNat / 16), hexUpper (b.toNat % 16)]

/-- The UTF-8 bytes of a character. -/
def utf8 (c : Char) : List UInt8 :=
  c.toString.toUTF8.toList

/-- A character as itself, or its bytes percent-encoded when it is in the set. -/
def encodeChar (inSet : Char → Bool) (c : Char) : String :=
  if inSet c then String.join ((utf8 c).map percentByte) else c.toString

/-- Characters percent-encoded by one set. -/
def encodeWith (inSet : Char → Bool) (cs : List Char) : String :=
  String.join (cs.map (encodeChar inSet))

/-- The C0 control set: the controls below the space, and every code point above `~`. -/
def controlSet (c : Char) : Bool :=
  c.toNat < 0x20 || c.toNat > 0x7E

/-- The fragment set: controls, the space, the double quote, `<`, `>` and the grave accent. -/
def fragmentSet (c : Char) : Bool :=
  controlSet c || c == ' ' || c == '"' || c == '<' || c == '>' || c.toNat == 0x60

/-- The query set: controls, the space, the double quote, `#`, `<` and `>`. -/
def querySet (c : Char) : Bool :=
  controlSet c || c == ' ' || c == '"' || c == '#' || c == '<' || c == '>'

/-- The query set of the special schemes, which also encodes the apostrophe. -/
def specialQuerySet (c : Char) : Bool :=
  querySet c || c.toNat == 0x27

/-- The path set: the fragment set with `#`, `?` and the two curly brackets. -/
def pathSet (c : Char) : Bool :=
  fragmentSet c || c == '#' || c == '?' || c.toNat == 0x7B || c.toNat == 0x7D

/-- The userinfo set: the path set with `/ : ; = @ [ \ ] ^ |`. -/
def userinfoSet (c : Char) : Bool :=
  pathSet c || c == '/' || c == ':' || c == ';' || c == '=' || c == '@' || c == '['
    || c == '\\' || c == ']' || c == '^' || c == '|'

/-- The set for one path segment added to a URL: the path set with `/` and `%`, and for
the special schemes also the backslash. -/
def segmentSet (special : Bool) (c : Char) : Bool :=
  pathSet c || c == '/' || c == '%' || (special && c == '\\')

/-- One byte in form encoding. -/
def formByte (b : UInt8) : String :=
  let c := Char.ofNat b.toNat
  if b < 128 && (c.isAlphanum || c == '*' || c == '-' || c == '.' || c == '_') then c.toString
  else if c == ' ' then "+"
  else percentByte b

/-- A name or value of a query pair in form encoding. -/
def formEncode (s : String) : String :=
  String.join (s.toUTF8.toList.map formByte)

/-- The value of a hexadecimal digit, as a byte. -/
def hexByte? (b : UInt8) : Option Nat :=
  if 48 ≤ b && b ≤ 57 then some (b.toNat - 48)
  else if 65 ≤ b && b ≤ 70 then some (b.toNat - 55)
  else if 97 ≤ b && b ≤ 102 then some (b.toNat - 87)
  else none

/-- Percent-decoding: `%` and two hexadecimal digits become that byte, and every other
byte stays as it is. -/
def percentDecode : List UInt8 → List UInt8
  | [] => []
  | 37 :: h :: l :: tail =>
    match hexByte? h, hexByte? l with
    | some x, some y => (x * 16 + y).toUInt8 :: percentDecode tail
    | _, _ => 37 :: percentDecode (h :: l :: tail)
  | b :: rest => b :: percentDecode rest
termination_by bs => bs.length

end TaskQueue.Url
