import TaskQueue.Text.CombiningClass
import TaskQueue.Text.Decomposition

/-!
# Normalization Form C

`Text.nfc` puts text into Normalization Form C: every character is decomposed canonically
all the way down, each run of marks is sorted by combining class (a stable sort, so marks
of one class keep their order), and then each mark or starter is joined to the last
starter before it whenever they have a primary composite and nothing between them blocks
it.  A character between blocks when its class is 0 or not below the class of the one
that would join.  Hangul syllables decompose into their jamo, and jamo compose back, by
arithmetic.
-/

namespace TaskQueue.Text

/-! ## Hangul -/

/-- The first Hangul syllable. -/
def hangulFirst : Nat := 0xAC00

/-- The number of Hangul syllables. -/
def hangulCount : Nat := 11172

/-- The first leading consonant, vowel and trailing consonant jamo; the trailing one is
the place before the first trailing consonant, which stands for none. -/
def leadingFirst : Nat := 0x1100
def vowelFirst : Nat := 0x1161
def trailingBase : Nat := 0x11A7

/-- How many leading consonants, vowels and trailing places (none included) there are. -/
def leadingCount : Nat := 19
def vowelCount : Nat := 21
def trailingCount : Nat := 28

/-- Whether a code point is a Hangul syllable. -/
def isHangulSyllable (c : Nat) : Bool :=
  hangulFirst ≤ c && c < hangulFirst + hangulCount

/-- The jamo of a Hangul syllable: a leading consonant, a vowel and, when there is one, a
trailing consonant. -/
def hangulJamo (c : Nat) : List Nat :=
  let i := c - hangulFirst
  let t := i % trailingCount
  [leadingFirst + i / (vowelCount * trailingCount),
    vowelFirst + i % (vowelCount * trailingCount) / trailingCount] ++
    (if t = 0 then [] else [trailingBase + t])

/-- The Hangul syllable two code points compose to: a leading consonant and a vowel, or a
syllable without a trailing consonant and a trailing consonant. -/
def hangulComposite? (a b : Nat) : Option Nat :=
  if leadingFirst ≤ a && a < leadingFirst + leadingCount &&
      vowelFirst ≤ b && b < vowelFirst + vowelCount then
    some (hangulFirst + ((a - leadingFirst) * vowelCount + (b - vowelFirst)) * trailingCount)
  else if isHangulSyllable a && (a - hangulFirst) % trailingCount = 0 &&
      trailingBase < b && b < trailingBase + trailingCount then
    some (a + (b - trailingBase))
  else none

/-! ## The three steps -/

/-- The full canonical decomposition of a code point: itself when it has none. -/
def decompose (c : Nat) : List Nat :=
  if isHangulSyllable c then hangulJamo c else (decomposition? c).getD [c]

/-- Puts a mark into text kept in reverse: after every character before it whose class is
not above its own, so past only the marks of a greater class. -/
def insertMark (c : Nat) : List Nat → List Nat
  | [] => [c]
  | x :: xs =>
    if combiningClass c < combiningClass x then x :: insertMark c xs else c :: x :: xs

/-- Sorts each run of marks by combining class, keeping the order of marks of one class. -/
def canonicalOrder (cs : List Nat) : List Nat :=
  (cs.foldl (fun acc c => if combiningClass c = 0 then c :: acc else insertMark c acc) []).reverse

/-- The primary composite of two code points, Hangul included. -/
def composite? (a b : Nat) : Option Nat :=
  (hangulComposite? a b).or (composition? a b)

/-- The state of composition: the text before the last starter, in reverse; the last
starter, once there is one; the characters after it that were not joined to it, in
reverse; and the class of the last of those, 0 when there are none. -/
structure Composer where
  before : List Nat
  starter : Option Nat
  after : List Nat
  lastClass : Nat

/-- Takes one more character into the composition. -/
def Composer.push (s : Composer) (c : Nat) : Composer :=
  let cls := combiningClass c
  match s.starter with
  | none =>
    if cls = 0 then { s with starter := some c, lastClass := 0 }
    else { s with before := c :: s.before, lastClass := cls }
  | some st =>
    let unblocked := s.after.isEmpty || s.lastClass < cls
    match (if unblocked then composite? st c else none) with
    | some k => { s with starter := some k }
    | none =>
      if cls = 0 then ⟨s.after ++ st :: s.before, some c, [], 0⟩
      else { s with after := c :: s.after, lastClass := cls }

/-- The composed text. -/
def Composer.result (s : Composer) : List Nat :=
  match s.starter with
  | some st => (s.after ++ st :: s.before).reverse
  | none => s.before.reverse

/-- Canonical composition of decomposed, canonically ordered text. -/
def compose (cs : List Nat) : List Nat :=
  (cs.foldl Composer.push ⟨[], none, [], 0⟩).result

/-- Text in Normalization Form C. -/
def nfc (cs : List Char) : List Char :=
  (compose (canonicalOrder (cs.flatMap fun c => decompose c.toNat))).map Char.ofNat

/-- Whether text is in Normalization Form C. -/
def isNfc (cs : List Char) : Bool :=
  nfc cs == cs

end TaskQueue.Text
