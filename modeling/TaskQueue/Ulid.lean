/-!
# ULIDs

A ULID is a 128-bit number: 48 bits of milliseconds since the Unix epoch, then 80 bits
that tell ULIDs of the same millisecond apart.  Its text is 26 characters of Crockford's
base32, most significant first; reading accepts either case, refuses `I`, `L`, `O` and
`U`, and keeps the low 128 bits of what the 26 characters spell.
-/

namespace TaskQueue

/-- A 128-bit ULID. -/
structure Ulid where
  val : Nat
  deriving DecidableEq, Repr

namespace Ulid

/-- Crockford's base32 alphabet. -/
def alphabet : List Char := "0123456789ABCDEFGHJKMNPQRSTVWXYZ".toList

/-- The value of a character of the alphabet, in either case. -/
def digitValue? (c : Char) : Option Nat :=
  alphabet.idxOf? c.toUpper

/-- A ULID from a millisecond timestamp, of which the low 48 bits count, and a number,
of which the low 80 bits count. -/
def ofParts (millis random : Nat) : Ulid :=
  ⟨millis % Nat.pow 2 48 * Nat.pow 2 80 + random % Nat.pow 2 80⟩

/-- The timestamp part. -/
def millis (u : Ulid) : Nat := u.val / Nat.pow 2 80 % Nat.pow 2 48

/-- The 26 characters of a ULID. -/
def toText (u : Ulid) : String :=
  String.ofList ((List.range 26).map fun i =>
    alphabet.getD (u.val / Nat.pow 2 (125 - 5 * i) % 32) '0')

/-- Reads 26 characters of the alphabet. -/
def ofText? (s : String) : Option Ulid :=
  if s.utf8ByteSize = 26 then
    (s.toList.foldlM (fun acc c => (digitValue? c).map fun v => (acc * 32 + v) % Nat.pow 2 128)
      0).map
      Ulid.mk
  else none

/-- `count` ULIDs of one millisecond, told apart by the numbers 1 to `count`. -/
def sequence (millis count : Nat) : List Ulid :=
  (List.range count).map fun n => ofParts millis (n + 1)

end Ulid

end TaskQueue
