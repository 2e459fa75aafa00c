/-!
# Punycode

The bootstring encoding of RFC 3492 with the Punycode parameters: base 36, thresholds 1
and 26, skew 38, damping 700, initial bias 72 and initial code point 128.  The basic
(ASCII) code points of a label are copied first, followed by `-` when there are any; then
each other code point, in increasing order of value, is written as a variable-length
number in base 36 that says how far the insertion point moves.

`decode` reads such a text back: the part before the last `-` holds the basic code points,
and each number after it says where the next code point goes and by how much the code
point grows.  Every counter of the decoder is a 32-bit number; a text that would take one
past that, or make a code point that is not a character, does not decode.
-/

namespace TaskQueue.Url.Punycode

/-- The digit for a value below 36: `a` to `z`, then `0` to `9`. -/
def digit (d : Nat) : Char :=
  if d < 26 then Char.ofNat (97 + d) else Char.ofNat (22 + d)

/-- The threshold of the digit at position `k` under a bias. -/
def threshold (k bias : Nat) : Nat :=
  if k ≤ bias then 1 else if bias + 26 ≤ k then 26 else k - bias

theorem threshold_pos (k bias : Nat) : 0 < threshold k bias := by
  unfold threshold
  split
  · omega
  · split <;> omega

theorem threshold_le (k bias : Nat) : threshold k bias ≤ 26 := by
  unfold threshold
  split
  · omega
  · split <;> omega

/-- Divides the delta by 35 while it exceeds 455, counting 36 per step. -/
def scaleDown (delta k : Nat) : Nat × Nat :=
  if 455 < delta then scaleDown (delta / 35) (k + 36) else (delta, k)
termination_by delta
decreasing_by omega

/-- The bias after a code point was written with this delta. -/
def adapt (delta points : Nat) (first : Bool) : Nat :=
  let d := if first then delta / 700 else delta / 2
  let (d, k) := scaleDown (d + d / points) 0
  k + 36 * d / (d + 38)

/-- A number as a variable-length sequence of digits, from position `k` on. -/
def digits (bias k q : Nat) : List Char :=
  let t := threshold k bias
  if h : q < t then [digit q]
  else
    have : (q - t) / (36 - t) < q := by
      have := threshold_pos k bias
      have := threshold_le k bias
      exact Nat.lt_of_le_of_lt (Nat.div_le_self _ _) (by omega)
    digit (t + (q - t) % (36 - t)) :: digits bias (k + 36) ((q - t) / (36 - t))
termination_by q

/-- The encoder's state: text written, delta, bias and how many code points are handled. -/
structure State where
  out : List Char
  delta : Nat
  bias : Nat
  handled : Nat

/-- One pass over the label for the code point `m`: code points below it move the delta,
and each occurrence of it is written. -/
def pass (basic m : Nat) (s : State) (c : Nat) : State :=
  if c < m then { s with delta := s.delta + 1 }
  else if c = m then
    { out := s.out ++ digits s.bias 36 s.delta, delta := 0,
      bias := adapt s.delta (s.handled + 1) (s.handled == basic), handled := s.handled + 1 }
  else s

/-- Writes the code points `ms`, given in increasing order, the last one written being
`n - 1`. -/
def writeAll (label : List Nat) (basic : Nat) : List Nat → Nat → State → State
  | [], _, s => s
  | m :: ms, n, s =>
    let s := { s with delta := s.delta + (m - n) * (s.handled + 1) }
    let s := label.foldl (pass basic m) s
    writeAll label basic ms (m + 1) { s with delta := s.delta + 1 }

/-- Inserts into an increasing list without repeats. -/
def insertSorted (x : Nat) : List Nat → List Nat
  | [] => [x]
  | y :: ys => if x < y then x :: y :: ys else if x = y then y :: ys else y :: insertSorted x ys

/-- The Punycode form of a label. -/
def encode (label : List Char) : List Char :=
  let points := label.map Char.toNat
  let basic := label.filter (·.toNat < 128)
  let others := (points.filter (128 ≤ ·)).foldr insertSorted []
  let start : State := ⟨basic ++ (if basic.isEmpty then [] else ['-']), 0, 72, basic.length⟩
  (writeAll points basic.length others 128 start).out

/-! ## Decoding -/

/-- The value of a digit: `a` to `z` (or `A` to `Z`) are 0 to 25, `0` to `9` are 26 to
35. -/
def digitValue? (c : Char) : Option Nat :=
  if 'a' ≤ c && c ≤ 'z' then some (c.toNat - 97)
  else if 'A' ≤ c && c ≤ 'Z' then some (c.toNat - 65)
  else if '0' ≤ c && c ≤ '9' then some (c.toNat - 22)
  else none

/-- The largest value a counter of the decoder may hold. -/
def counterLimit : Nat := 0xFFFFFFFF

/-- Reads one variable-length number from position `k` on, with weight `w`, adding it to
`i`: the new `i` and the rest of the text. -/
def readNumber (bias : Nat) : List Char → Nat → Nat → Nat → Option (Nat × List Char)
  | [], _, _, _ => none
  | c :: rest, k, w, i => do
    let d ← digitValue? c
    if counterLimit < d * w || counterLimit < i + d * w then none
    let t := threshold k bias
    if d < t then some (i + d * w, rest)
    else if counterLimit < w * (36 - t) then none
    else readNumber bias rest (k + 36) (w * (36 - t)) (i + d * w)

/-- Reading a number consumes at least one character. -/
theorem readNumber_length (bias : Nat) :
    ∀ (cs : List Char) (k w i : Nat) (r : Nat × List Char),
      readNumber bias cs k w i = some r → r.2.length < cs.length
  | [], _, _, _, _, h => by simp [readNumber] at h
  | c :: rest, k, w, i, r, h => by
    simp only [readNumber] at h
    cases hd : digitValue? c with
    | none => simp [hd] at h
    | some d =>
      simp only [hd, Option.bind_eq_bind, Option.bind_some] at h
      split at h
      · simp at h
      · split at h
        · cases h
          simp
        · split at h
          · simp at h
          · have := readNumber_length bias rest _ _ _ r h
            simp only [List.length_cons]
            omega

/-- Whether a number is the code point of a character. -/
def isCharCode (n : Nat) : Bool :=
  n < 0xD800 || (0xDFFF < n && n < 0x110000)

/-- Inserts the code points that the numbers of `cs` describe into `out`, given the bias,
the code point `n` and the insertion counter `i` so far. -/
def insertAll (bias n i : Nat) (out : List Char) (cs : List Char) : Option (List Char) :=
  match cs with
  | [] => some out
  | c :: rest =>
    match h : readNumber bias (c :: rest) 36 1 i with
    | none => none
    | some (i', after) =>
      let points := out.length + 1
      let n' := n + i' / points
      if counterLimit < n' || !isCharCode n' then none
      else
        have : after.length < rest.length + 1 := by
          have := readNumber_length bias (c :: rest) 36 1 i (i', after) h
          simpa using this
        insertAll (adapt (i' - i) points (i == 0)) n' (i' % points + 1)
          (out.insertIdx (i' % points) (Char.ofNat n')) after
termination_by cs.length

/-- The label a Punycode text stands for, when it is one. -/
def decode (text : List Char) : Option (List Char) :=
  let (basic, numbers) : List Char × List Char :=
    match text.reverse.span (· != '-') with
    | (numbersRev, _ :: basicRev) => (basicRev.reverse, numbersRev.reverse)
    | (numbersRev, []) => ([], numbersRev.reverse)
  if basic.any (128 ≤ ·.toNat) then none
  else insertAll 72 128 0 basic numbers

end TaskQueue.Url.Punycode
