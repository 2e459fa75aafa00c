/-!
# Base64 with canonical padding

`Base64.encode` writes bytes in the standard alphabet of RFC 4648 §4, three bytes to four
characters, closing a short last group with `=`.  `Base64.decode` reads exactly the texts
that `encode` writes: every group has four characters, padding stands only at the end of
the text, and the bits that padding leaves over are zero (RFC 4648 §3.5).  Both walk the
text one group at a time, so `decode_encode` is an induction over three-byte groups.
-/

namespace TaskQueue.Base64

/-- The character of a six-bit value. -/
def digit (v : Nat) : Char :=
  if v < 26 then Char.ofNat (65 + v)
  else if v < 52 then Char.ofNat (97 + v - 26)
  else if v < 62 then Char.ofNat (48 + v - 52)
  else if v = 62 then '+'
  else '/'

/-- The six-bit value of a character of the alphabet. -/
def value? (c : Char) : Option Nat :=
  let n := c.toNat
  if 65 ≤ n ∧ n ≤ 90 then some (n - 65)
  else if 97 ≤ n ∧ n ≤ 122 then some (n - 97 + 26)
  else if 48 ≤ n ∧ n ≤ 57 then some (n - 48 + 52)
  else if c = '+' then some 62
  else if c = '/' then some 63
  else none

/-- The text of a byte list. -/
def encode : List UInt8 → List Char
  | [] => []
  | [a] =>
    let x := a.toNat
    [digit (x / 4), digit (x % 4 * 16), '=', '=']
  | [a, b] =>
    let x := a.toNat * 256 + b.toNat
    [digit (x / 1024), digit (x / 16 % 64), digit (x % 16 * 4), '=']
  | a :: b :: c :: rest =>
    let x := a.toNat * 65536 + b.toNat * 256 + c.toNat
    [digit (x / 262144), digit (x / 4096 % 64), digit (x / 64 % 64), digit (x % 64)]
      ++ encode rest

/-- The text of a string's UTF-8 bytes. -/
def encodeString (s : String) : String :=
  String.ofList (encode s.toUTF8.toList)

/-- The bytes of a text, or `none` when the text is not canonical base64. -/
def decode : List Char → Option (List UInt8)
  | [] => some []
  | [a, b, '=', '='] => do
    let x := (← value? a) * 64 + (← value? b)
    if x % 16 = 0 then some [(x / 16).toUInt8] else none
  | [a, b, c, '='] => do
    let x := ((← value? a) * 64 + (← value? b)) * 64 + (← value? c)
    if x % 4 = 0 then some [(x / 1024).toUInt8, (x / 4 % 256).toUInt8] else none
  | a :: b :: c :: d :: rest => do
    let x := (((← value? a) * 64 + (← value? b)) * 64 + (← value? c)) * 64 + (← value? d)
    let tail ← decode rest
    some ((x / 65536).toUInt8 :: (x / 256 % 256).toUInt8 :: (x % 256).toUInt8 :: tail)
  | _ => none

end TaskQueue.Base64
