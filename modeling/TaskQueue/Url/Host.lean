import TaskQueue.Url.Percent
import TaskQueue.Url.Idna

/-!
# Hosts

The host of a URL, read as the WHATWG URL Standard says and written in its serialized
form.  Between brackets stands an IPv6 address, written in lowercase hexadecimal with the
longest run of two or more zero pieces shortened to `::`.  The host of a special scheme is
percent-decoded and made ASCII by IDNA (`Idna.toAscii`); a name whose last label is a
number is an IPv4 address, read in decimal, octal (`0` first) or hexadecimal (`0x` first)
parts and written as four decimal bytes.  The host of any other scheme is opaque: it is
kept, with controls and non-ASCII percent-encoded.
-/

namespace TaskQueue.Url

/-- The value of a hexadecimal digit. -/
def hexValue? (c : Char) : Option Nat :=
  if c.isDigit then some (c.toNat - 48)
  else if 'a' ≤ c && c ≤ 'f' then some (c.toNat - 87)
  else if 'A' ≤ c && c ≤ 'F' then some (c.toNat - 55)
  else none

/-- The digits of a number in a base, or nothing when a character is not such a digit. -/
def digitsValue? (base : Nat) (cs : List Char) : Option Nat :=
  cs.foldlM (fun acc c =>
    (hexValue? c).bind fun d => if d < base then some (acc * base + d) else none) 0

/-! ## IPv4 -/

/-- One part of an IPv4 address: hexadecimal after `0x`, octal after a leading `0`,
decimal otherwise; `0x` alone is zero. -/
def ipv4Part? (cs : List Char) : Option Nat :=
  match cs with
  | [] => none
  | '0' :: x :: rest =>
    if x == 'x' || x == 'X' then digitsValue? 16 rest else digitsValue? 8 (x :: rest)
  | _ => digitsValue? 10 cs

/-- The parts of a dotted name, without one empty part at the end. -/
def dottedParts (cs : List Char) : List (List Char) :=
  let parts := cs.splitOn '.'
  if parts.getLast? == some [] then parts.dropLast else parts

/-- Whether a name's last label is a number, which makes the name an IPv4 address. -/
def endsInNumber (cs : List Char) : Bool :=
  match (dottedParts cs).getLast? with
  | some last => (!last.isEmpty && last.all Char.isDigit) || (ipv4Part? last).isSome
  | none => false

/-- An IPv4 address as a 32-bit value: at most four parts, every part but the last a
byte, the last filling the bytes left. -/
def ipv4? (cs : List Char) : Except UrlError Nat := do
  let parts := dottedParts cs
  if parts.length > 4 then throw .invalidIpv4
  let numbers ← match parts.mapM ipv4Part? with
    | some ns => pure ns
    | none => throw .invalidIpv4
  match numbers.getLast? with
  | none => throw .invalidIpv4
  | some last =>
    let front := numbers.dropLast
    if Nat.pow 256 (4 - front.length) ≤ last then throw .invalidIpv4
    if front.any (255 < ·) then throw .invalidIpv4
    pure (front.zipIdx.foldl (fun acc (n, i) => acc + n * Nat.pow 256 (3 - i)) last)

/-- An IPv4 address as four decimal bytes. -/
def ipv4Text (v : Nat) : String :=
  ".".intercalate ([24, 16, 8, 0].map fun s => toString (v / Nat.pow 2 s % 256))

/-! ## IPv6 -/

/-- Up to four hexadecimal digits: how many were read, their value, and the rest. -/
def hexPiece : Nat → List Char → Nat × Nat × List Char
  | 0, cs => (0, 0, cs)
  | n + 1, c :: cs =>
    match hexValue? c with
    | some d =>
      let (k, v, rest) := hexPiece n cs
      (k + 1, d * Nat.pow 16 k + v, rest)
    | none => (0, 0, c :: cs)
  | _ + 1, [] => (0, 0, [])

/-- A decimal byte without leading zeros, and the rest. -/
def decimalByte? (cs : List Char) : Option (Nat × List Char) :=
  let ds := cs.takeWhile Char.isDigit
  let rest := cs.dropWhile Char.isDigit
  match ds with
  | [] => none
  | [d] => some (d.toNat - 48, rest)
  | '0' :: _ => none
  | _ =>
    let v := ds.foldl (fun acc d => acc * 10 + (d.toNat - 48)) 0
    if v ≤ 255 then some (v, rest) else none

/-- The four bytes of a dotted IPv4 address at the end of an IPv6 address, as two pieces. -/
def ipv4Tail? (cs : List Char) : Option (List Nat) := do
  let (a, r) ← decimalByte? cs
  let r ← match r with | '.' :: r => some r | _ => none
  let (b, r) ← decimalByte? r
  let r ← match r with | '.' :: r => some r | _ => none
  let (c, r) ← decimalByte? r
  let r ← match r with | '.' :: r => some r | _ => none
  let (d, r) ← decimalByte? r
  if r.isEmpty then some [a * 256 + b, c * 256 + d] else none

/-- Reads the pieces of an IPv6 address.  `pieces` are those read so far, a place skipped
by `::` counted as a zero piece, and `compress` is where the `::` stands. -/
def ipv6Pieces : Nat → List Char → List Nat → Option Nat → Option (List Nat × Option Nat)
  | 0, _, _, _ => none
  | _ + 1, [], pieces, compress => some (pieces, compress)
  | fuel + 1, c :: cs, pieces, compress =>
    if pieces.length = 8 then none
    else if c = ':' then
      if compress.isSome then none
      else ipv6Pieces fuel cs (pieces ++ [0]) (some (pieces.length + 1))
    else
      let (k, v, rest) := hexPiece 4 (c :: cs)
      match rest with
      | '.' :: _ =>
        if k = 0 || 6 < pieces.length then none
        else (ipv4Tail? (c :: cs)).map fun tail => (pieces ++ tail, compress)
      | ':' :: [] => none
      | ':' :: rest => if k = 0 then none else ipv6Pieces fuel rest (pieces ++ [v]) compress
      | [] => if k = 0 then none else some (pieces ++ [v], compress)
      | _ => none

/-- The eight pieces of an IPv6 address. -/
def ipv6? (cs : List Char) : Except UrlError (List Nat) :=
  let start : Option (List Char × List Nat × Option Nat) :=
    match cs with
    | ':' :: ':' :: rest => some (rest, [0], some 1)
    | ':' :: _ => none
    | _ => some (cs, [], none)
  match start with
  | none => .error .invalidIpv6
  | some (rest, pieces, compress) =>
    if cs.length < 2 then .error .invalidIpv6
    else match ipv6Pieces (rest.length + 1) rest pieces compress with
      | some (ps, some at_) => .ok (ps.take at_ ++ List.replicate (8 - ps.length) 0 ++ ps.drop at_)
      | some (ps, none) => if ps.length = 8 then .ok ps else .error .invalidIpv6
      | none => .error .invalidIpv6

/-- The longest run of two or more zero pieces, the first of equal ones: where it
starts and how long it is. -/
def longestZeros (ps : List Nat) : Option (Nat × Nat) :=
  let step := fun (acc : Option (Nat × Nat) × Option Nat) (p : Nat × Nat) =>
    let (best, runStart) := acc
    let (v, i) := p
    if v = 0 then
      let s := runStart.getD i
      let len := i + 1 - s
      let best := match best with
        | some (_, l) => if l < len then some (s, len) else best
        | none => some (s, len)
      (best, some s)
    else (best, none)
  match (ps.zipIdx.foldl step (none, none)).1 with
  | some (s, l) => if 2 ≤ l then some (s, l) else none
  | none => none

/-- A piece in lowercase hexadecimal without leading zeros. -/
def pieceText (v : Nat) : String :=
  String.ofList (Nat.toDigits 16 v)

/-- An IPv6 address in its shortest form, without brackets. -/
def ipv6Text (ps : List Nat) : String :=
  match longestZeros ps with
  | some (s, l) =>
    ":".intercalate ((ps.take s).map pieceText) ++ "::" ++
      ":".intercalate ((ps.drop (s + l)).map pieceText)
  | none => ":".intercalate (ps.map pieceText)

/-! ## Names -/

/-- Characters that no host may hold. -/
def isForbiddenHostChar (c : Char) : Bool :=
  c.toNat = 0 || c == '\t' || c == '\n' || c == '\r' || c == ' ' || c == '#' || c == '/'
    || c == ':' || c == '<' || c == '>' || c == '?' || c == '@' || c == '[' || c == '\\'
    || c == ']' || c == '^' || c == '|'

/-- The host of a special scheme, not empty: an IPv6 address, an IPv4 address or a domain. -/
def specialHost (cs : List Char) : Except UrlError String := do
  match cs with
  | '[' :: rest =>
    if rest.getLast? != some ']' then throw .invalidIpv6
    pure ("[" ++ ipv6Text (← ipv6? rest.dropLast) ++ "]")
  | _ =>
    let bytes := percentDecode (String.ofList cs).toUTF8.toList
    let text ← match String.fromUTF8? ⟨bytes.toArray⟩ with
      | some t => pure t
      | none => throw .idna
    let domain ← Idna.toAscii text
    if domain.isEmpty then throw .emptyHost
    if endsInNumber domain.toList then pure (ipv4Text (← ipv4? domain.toList))
    else pure domain

/-- The host of any other scheme: an IPv6 address, or opaque text. -/
def opaqueHost (cs : List Char) : Except UrlError String := do
  match cs with
  | '[' :: rest =>
    if rest.getLast? != some ']' then throw .invalidIpv6
    pure ("[" ++ ipv6Text (← ipv6? rest.dropLast) ++ "]")
  | _ =>
    if cs.any isForbiddenHostChar then throw .invalidDomainCharacter
    pure (encodeWith controlSet cs)

end TaskQueue.Url
