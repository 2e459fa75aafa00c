import TaskQueue.Json.Value

/-!
# Reading JSON

`Json.parse` reads one JSON value from UTF-8 bytes, with blanks (space, tab, line feed,
carriage return) around it and nothing else.  It is strict in form: no leading zeros, no
trailing commas, no control characters inside strings, only the standard escapes.  It is
lenient in what the form holds: a number is kept as written, whatever its size, nesting is
as deep as the text, and a string whose escapes or bytes are not Unicode is read as
`Json.unreadable`, as is an object with such a key.  A reader of records refuses those
values where it needs them and skips them elsewhere.
-/

namespace TaskQueue

namespace Json

/-- The blank bytes of JSON. -/
def isSpace (b : UInt8) : Bool :=
  b == 32 || b == 9 || b == 10 || b == 13

def skipSpace (bs : List UInt8) : List UInt8 :=
  bs.dropWhile isSpace

def isDigitByte (b : UInt8) : Bool :=
  48 ≤ b && b ≤ 57

/-- The value of a hexadecimal digit. -/
def hexValue? (b : UInt8) : Option Nat :=
  if 48 ≤ b ∧ b ≤ 57 then some (b.toNat - 48)
  else if 65 ≤ b ∧ b ≤ 70 then some (b.toNat - 55)
  else if 97 ≤ b ∧ b ≤ 102 then some (b.toNat - 87)
  else none

/-- A piece of a string as written: a raw byte, or a 16-bit code unit from an escape. -/
inductive Piece where
  | byte (b : UInt8)
  | unit (u : Nat)

/-- The UTF-8 bytes of a code point. -/
def utf8Bytes (c : Nat) : List UInt8 :=
  if c < 0x80 then [c.toUInt8]
  else if c < 0x800 then [(0xC0 + c / 64).toUInt8, (0x80 + c % 64).toUInt8]
  else if c < 0x10000 then
    [(0xE0 + c / 4096).toUInt8, (0x80 + c / 64 % 64).toUInt8, (0x80 + c % 64).toUInt8]
  else
    [(0xF0 + c / 262144).toUInt8, (0x80 + c / 4096 % 64).toUInt8,
     (0x80 + c / 64 % 64).toUInt8, (0x80 + c % 64).toUInt8]

/-- The bytes of the pieces of a string, or `none` when a surrogate escape is not half
of a pair. -/
def pieceBytes : List Piece → Option (List UInt8)
  | [] => some []
  | .byte b :: rest => (pieceBytes rest).map (b :: ·)
  | .unit u :: rest =>
    if 0xD800 ≤ u ∧ u < 0xDC00 then
      match rest with
      | .unit l :: rest' =>
        if 0xDC00 ≤ l ∧ l < 0xE000 then
          (pieceBytes rest').map (utf8Bytes (0x10000 + (u - 0xD800) * 1024 + (l - 0xDC00)) ++ ·)
        else none
      | _ => none
    else if 0xDC00 ≤ u ∧ u < 0xE000 then none
    else (pieceBytes rest).map (utf8Bytes u ++ ·)

/-- The text of the pieces of a string, when it is Unicode. -/
def piecesText? (ps : List Piece) : Option String :=
  (pieceBytes ps).bind fun bs => String.fromUTF8? (ByteArray.mk bs.toArray)

/-- Reads the rest of a string after its opening quote, as pieces in reverse. -/
def readPieces : List UInt8 → List Piece → Option (List Piece × List UInt8)
  | [], _ => none
  | 34 :: rest, acc => some (acc, rest)
  | 92 :: e :: rest, acc =>
    if e == 34 || e == 92 || e == 47 then readPieces rest (.byte e :: acc)
    else if e == 98 then readPieces rest (.byte 8 :: acc)
    else if e == 102 then readPieces rest (.byte 12 :: acc)
    else if e == 110 then readPieces rest (.byte 10 :: acc)
    else if e == 114 then readPieces rest (.byte 13 :: acc)
    else if e == 116 then readPieces rest (.byte 9 :: acc)
    else if e == 117 then
      match rest with
      | a :: b :: c :: d :: rest' =>
        match hexValue? a, hexValue? b, hexValue? c, hexValue? d with
        | some a, some b, some c, some d =>
          readPieces rest' (.unit (((a * 16 + b) * 16 + c) * 16 + d) :: acc)
        | _, _, _, _ => none
      | _ => none
    else none
  | b :: rest, acc => if b < 32 then none else readPieces rest (.byte b :: acc)

/-- Reads a string after its opening quote: its text, `none` when it is not Unicode. -/
def readString (bs : List UInt8) : Option (Option String × List UInt8) :=
  (readPieces bs []).map fun (ps, rest) => (piecesText? ps.reverse, rest)

/-- The value of a list of decimal digit bytes. -/
def digitBytesValue (ds : List UInt8) : Nat :=
  ds.foldl (fun acc d => acc * 10 + (d.toNat - 48)) 0

/-- Reads a number: a sign, an integer part without leading zeros, a fraction and an
exponent. -/
def readNumber (bs : List UInt8) : Option (JsonNumber × List UInt8) := do
  let (negative, bs) := match bs with
    | 45 :: rest => (true, rest)
    | _ => (false, bs)
  let intDigits := bs.takeWhile isDigitByte
  let bs := bs.drop intDigits.length
  if intDigits.isEmpty then none
  if intDigits.length > 1 ∧ intDigits.head? = some 48 then none
  let (fracDigits, hasFrac, bs) ← match bs with
    | 46 :: rest =>
      let ds := rest.takeWhile isDigitByte
      if ds.isEmpty then none else some (ds, true, rest.drop ds.length)
    | _ => some ([], false, bs)
  let (exp, hasExp, bs) ← match bs with
    | e :: rest =>
      if e == 101 || e == 69 then
        let (sign, rest) : Int × List UInt8 := match rest with
          | 43 :: r => (1, r)
          | 45 :: r => (-1, r)
          | r => (1, r)
        let ds := rest.takeWhile isDigitByte
        if ds.isEmpty then none
        else some (sign * (digitBytesValue ds : Int), true, rest.drop ds.length)
      else some (0, false, bs)
    | [] => some (0, false, bs)
  pure (⟨negative, digitBytesValue (intDigits ++ fracDigits), exp - fracDigits.length,
    !hasFrac && !hasExp⟩, bs)

mutual

/-- Reads a value; `fuel` bounds the recursion. -/
def readValue : Nat → List UInt8 → Option (Json × List UInt8)
  | 0, _ => none
  | fuel + 1, bs =>
    match skipSpace bs with
    | 110 :: 117 :: 108 :: 108 :: rest => some (.null, rest)
    | 116 :: 114 :: 117 :: 101 :: rest => some (.bool true, rest)
    | 102 :: 97 :: 108 :: 115 :: 101 :: rest => some (.bool false, rest)
    | 34 :: rest => (readString rest).map fun (s, rest) => (s.elim .unreadable .str, rest)
    | 91 :: rest =>
      match skipSpace rest with
      | 93 :: rest' => some (.arr [], rest')
      | _ => readItems fuel rest []
    | 123 :: rest =>
      match skipSpace rest with
      | 125 :: rest' => some (.obj [], rest')
      | _ => readMembers fuel rest [] true
    | bs' => (readNumber bs').map fun (n, rest) => (.num n, rest)

/-- Reads the items of an array from the first one on; `acc` holds those read, in
reverse. -/
def readItems : Nat → List UInt8 → List Json → Option (Json × List UInt8)
  | 0, _, _ => none
  | fuel + 1, bs, acc => do
    let (v, rest) ← readValue fuel bs
    match skipSpace rest with
    | 44 :: rest' => readItems fuel rest' (v :: acc)
    | 93 :: rest' => some (.arr (v :: acc).reverse, rest')
    | _ => none

/-- Reads the members of an object from the first one on; `readable` is false once a key
was not Unicode. -/
def readMembers : Nat → List UInt8 → List (String × Json) → Bool →
    Option (Json × List UInt8)
  | 0, _, _, _ => none
  | fuel + 1, bs, acc, readable => do
    let (key, rest) ← match skipSpace bs with
      | 34 :: rest => readString rest
      | _ => none
    let rest ← match skipSpace rest with
      | 58 :: rest => some rest
      | _ => none
    let (v, rest) ← readValue fuel rest
    let acc := match key with
      | some k => (k, v) :: acc
      | none => acc
    let readable := readable && key.isSome
    match skipSpace rest with
    | 44 :: rest' => readMembers fuel rest' acc readable
    | 125 :: rest' => some (if readable then .obj acc.reverse else .unreadable, rest')
    | _ => none

end

/-- Reads a whole text of UTF-8 bytes as one value. -/
def parse (bs : List UInt8) : Option Json := do
  let (v, rest) ← readValue (2 * bs.length + 2) bs
  if (skipSpace rest).isEmpty then some v else none

end Json

end TaskQueue
