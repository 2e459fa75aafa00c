/-!
# Blank and control characters

`isBlank` is the Unicode property White_Space: 25 code points, the ASCII tab to carriage
return and space among them.  `isControl` is the general category Cc.  `trim` removes blank
characters from both ends of a string; `isBlank_of_isWhitespace` says that every character
that core's `Char.isWhitespace` accepts is blank, so this trim removes at least as much.
-/

namespace TaskQueue.Text

/-- The Unicode property White_Space. -/
def isBlank (c : Char) : Bool :=
  let n := c.toNat
  (9 ≤ n && n ≤ 13) || n == 32 || n == 0x85 || n == 0xA0 || n == 0x1680
    || (0x2000 ≤ n && n ≤ 0x200A) || n == 0x2028 || n == 0x2029 || n == 0x202F
    || n == 0x205F || n == 0x3000

/-- The Unicode general category Cc: C0 controls, delete, and C1 controls. -/
def isControl (c : Char) : Bool :=
  let n := c.toNat
  n < 32 || (0x7F ≤ n && n ≤ 0x9F)

/-- A list of characters without its blank characters at both ends. -/
def trimList (cs : List Char) : List Char :=
  ((cs.dropWhile isBlank).reverse.dropWhile isBlank).reverse

/-- A string without its blank characters at both ends. -/
def trim (s : String) : String :=
  String.ofList (trimList s.toList)

theorem isBlank_of_isWhitespace (c : Char) (h : c.isWhitespace = true) : isBlank c = true := by
  simp only [Char.isWhitespace, Bool.or_eq_true, decide_eq_true_eq] at h
  simp only [isBlank, Bool.or_eq_true, Bool.and_eq_true, decide_eq_true_eq, beq_iff_eq]
  rcases h with ((h | h) | h) | h <;> subst h <;> decide

end TaskQueue.Text
