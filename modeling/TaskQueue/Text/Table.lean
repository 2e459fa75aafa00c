/-!
# Tables of code points written as text

The large Unicode tables of this library are kept as text, which costs little to build and
is read once: records separated by spaces, each an optional tag (an uppercase letter)
followed by lowercase hexadecimal numbers separated by dots.  In most tables a record's
first number is its distance from the start of the record before it, so that a table of
ranges lists only where each range starts.

`Table.lastAtMost?` looks a code point up in such a table once it is read: the last entry
that starts at or before it, by binary search.
-/

namespace TaskQueue.Text.Table

/-- One record of a table: its tag, if it has one, and its numbers. -/
structure Record where
  tag : Option Char
  numbers : List Nat
  deriving Repr

/-- The value of a lowercase hexadecimal digit. -/
def hexDigit? (c : Char) : Option Nat :=
  if '0' ≤ c && c ≤ '9' then some (c.toNat - 48)
  else if 'a' ≤ c && c ≤ 'f' then some (c.toNat - 87)
  else none

/-- The value of lowercase hexadecimal digits; a character that is none counts as zero. -/
def hexValue (cs : List Char) : Nat :=
  cs.foldl (fun acc c => acc * 16 + (hexDigit? c).getD 0) 0

/-- Reads one record. -/
def Record.ofText (s : String) : Record :=
  let (tag, rest) := match s.toList with
    | c :: rest => if 'A' ≤ c && c ≤ 'Z' then (some c, rest) else (none, c :: rest)
    | [] => (none, [])
  ⟨tag, (rest.splitOn '.').map hexValue⟩

/-- The records of a table's text. -/
def records (text : String) : List Record :=
  ((text.splitOn " ").filter (!·.isEmpty)).map Record.ofText

/-- Each record with the code point it starts at, when each record's first number is the
distance from the start of the one before. -/
def withStarts (rs : List Record) : List (Nat × Record) :=
  (rs.foldl (fun (acc : List (Nat × Record) × Nat) r =>
    let start := acc.2 + r.numbers.headD 0
    ((start, r) :: acc.1, start)) ([], 0)).1.reverse

/-- The index of the last entry in `lo ≤ i < hi` whose key is at most `n`, when the keys
increase along the array and the key at `lo` is at most `n`. -/
def searchBetween {α : Type} (a : Array α) (key : α → Nat) (n lo hi : Nat) : Nat :=
  if _h : lo + 1 < hi then
    match a[(lo + hi) / 2]? with
    | some x =>
      if key x ≤ n then searchBetween a key n ((lo + hi) / 2) hi
      else searchBetween a key n lo ((lo + hi) / 2)
    | none => lo
  else lo
termination_by hi - lo

/-- The last entry of `a` whose key is at most `n`, when the keys increase along `a`. -/
def lastAtMost? {α : Type} (a : Array α) (key : α → Nat) (n : Nat) : Option α := do
  let first ← a[0]?
  if key first ≤ n then a[searchBetween a key n 0 a.size]? else none

end TaskQueue.Text.Table
