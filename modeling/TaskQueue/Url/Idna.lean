import TaskQueue.Url.Error
import TaskQueue.Url.IdnaMapping
import TaskQueue.Url.Punycode
import TaskQueue.Text.Normalization
import TaskQueue.Text.BidiClass
import TaskQueue.Text.JoiningType
import TaskQueue.Text.Mark

/-!
# Domain names in ASCII

`Idna.toAscii` writes the domain of a special URL in ASCII as the URL Standard asks of
IDNA (Unicode Technical Standard 46): nontransitional processing that checks joiners and
bidi text but neither hyphens nor lengths, with the URL's forbidden characters refused.

1. Each character is mapped: kept, dropped or replaced; a disallowed one is refused.
2. The text is put into Normalization Form C; a forbidden character in it is refused.
3. The text is cut into labels at `.`.  A label that starts with `xn--` must be ASCII
   after it and not end in `-`, and must decode as Punycode to a label that is not all
   ASCII, does not itself start with `xn--`, holds neither `.` nor a forbidden character,
   is in Form C, and holds only valid characters.
4. No label may start with a mark.  A zero width joiner must follow a virama; a zero
   width non-joiner must follow a virama, or stand between a character that joins on its
   right and one that joins on its left, with only transparent characters between.
5. When some label holds a right-to-left letter or an Arabic digit, every label must keep
   the bidi rule for labels.
6. A label that is not ASCII is written in Punycode after `xn--`.
-/

namespace TaskQueue.Url.Idna

open Text

/-- The characters a domain may not hold: the C0 controls, the space, DEL and
`#%/:<>?@[\]^|`. -/
def isForbidden (c : Char) : Bool :=
  c.toNat ≤ 0x20 || c.toNat = 0x7F || "#%/:<>?@[\\]^|".contains c

/-- Whether a character is ASCII. -/
def isAscii (c : Char) : Bool :=
  c.toNat < 128

/-- The mapped text, or nothing when a character is disallowed. -/
def map (cs : List Char) : Option (List Char) :=
  (cs.mapM fun c =>
    match idnaStatus c with
    | .valid => some [c]
    | .ignored => some []
    | .mapped image => some image
    | .disallowed => none).map List.flatten

/-! ## Labels -/

/-- The label that the text after `xn--` stands for, when it passes: ASCII, not ending in
`-`, decoding as Punycode to a label that is not all ASCII, does not start with `xn--`,
holds neither `.` nor a forbidden character, and is in Form C with only valid
characters. -/
def decodeLabel? (rest : List Char) : Option (List Char) := do
  if rest.isEmpty || !rest.all isAscii || rest.getLast? == some '-' then none
  let label ← Punycode.decode rest
  if label.any (fun c => c == '.' || isForbidden c) || label.all isAscii then none
  if label.take 4 == ['x', 'n', '-', '-'] then none
  if !isNfc label || !label.all (idnaStatus · == .valid) then none
  pure label

/-- Whether the first character of a text that is not transparent has a joining type
that `ok` accepts. -/
def joinsBy (ok : JoiningType → Bool) : List Char → Bool
  | [] => false
  | c :: cs =>
    if ok (joiningType c) then true
    else if joiningType c == .transparent then joinsBy ok cs
    else false

/-- Whether a character is a virama: its combining class is 9. -/
def isVirama (c : Char) : Bool :=
  combiningClass c.toNat = 9

/-- Whether a joiner stands where the joiner rules allow, given the text before it in
reverse and the text after it. -/
def joinerAllowed (joiner : Char) (before after : List Char) : Bool :=
  match before with
  | [] => false
  | p :: _ =>
    isVirama p ||
      (joiner.toNat = 0x200C &&
        joinsBy (fun t => t == .leftJoining || t == .dualJoining) before &&
        joinsBy (fun t => t == .rightJoining || t == .dualJoining) after)

/-- Whether every joiner of a label stands where the joiner rules allow; `before` is the
text already passed, in reverse. -/
def joinersAllowed (before : List Char) : List Char → Bool
  | [] => true
  | c :: after =>
    (!(c.toNat = 0x200C || c.toNat = 0x200D) || joinerAllowed c before after) &&
      joinersAllowed (c :: before) after

/-- A label checked and, when it was written in Punycode, decoded. -/
def checkLabel (label : List Char) : Except UrlError (List Char) := do
  let label ← match label with
    | 'x' :: 'n' :: '-' :: '-' :: rest =>
      match decodeLabel? rest with
      | some l => pure l
      | none => throw .idna
    | _ => pure label
  if label.head?.any isMark || !joinersAllowed [] label then throw .idna
  pure label

/-! ## The bidi rule -/

/-- Whether a character makes a domain one with right-to-left text. -/
def isRightToLeft (c : Char) : Bool :=
  match bidiClass c with
  | .rightToLeft | .arabicLetter | .arabicNumber => true
  | _ => false

/-- The classes that may stand inside a left-to-right label. -/
def insideLeftToRight : BidiClass → Bool
  | .leftToRight | .europeanNumber | .europeanSeparator | .commonSeparator
  | .europeanTerminator | .otherNeutral | .boundaryNeutral | .nonspacingMark => true
  | _ => false

/-- The classes that may stand inside a right-to-left label. -/
def insideRightToLeft : BidiClass → Bool
  | .rightToLeft | .arabicLetter | .arabicNumber | .europeanNumber | .europeanSeparator
  | .commonSeparator | .europeanTerminator | .otherNeutral | .boundaryNeutral
  | .nonspacingMark => true
  | _ => false

/-- Whether a label keeps the bidi rule: it starts with a left-to-right or right-to-left
letter; its last character that is not a nonspacing mark is a left-to-right letter or a
European digit in a left-to-right label, and a right-to-left letter or a digit in a
right-to-left one; the characters between are of the classes its direction allows; and a
right-to-left label does not hold both European and Arabic digits. -/
def keepsBidiRule : List Char → Bool
  | [] => true
  | first :: tail =>
    let ltr := bidiClass first == .leftToRight
    if !(ltr || bidiClass first == .rightToLeft || bidiClass first == .arabicLetter) then false
    else
      let body := (tail.reverse.dropWhile (bidiClass · == .nonspacingMark)).reverse
      match body.getLast? with
      | none => true
      | some last =>
        let lastClass := bidiClass last
        if ltr then
          (lastClass == .leftToRight || lastClass == .europeanNumber) &&
            body.dropLast.all (insideLeftToRight ∘ bidiClass)
        else
          (lastClass == .rightToLeft || lastClass == .arabicLetter ||
              lastClass == .europeanNumber || lastClass == .arabicNumber) &&
            body.dropLast.all (insideRightToLeft ∘ bidiClass) &&
            !(body.any (bidiClass · == .europeanNumber) && body.any (bidiClass · == .arabicNumber))

/-! ## The whole domain -/

/-- A domain written in ASCII. -/
def toAscii (domain : String) : Except UrlError String := do
  let text ← match map domain.toList with
    | some cs => pure (nfc cs)
    | none => throw .idna
  if text.any isForbidden then throw .idna
  let labels ← (text.splitOn '.').mapM checkLabel
  if labels.any (·.any isRightToLeft) && !labels.all keepsBidiRule then throw .idna
  pure (".".intercalate (labels.map fun l =>
    if l.all isAscii then String.ofList l else "xn--" ++ String.ofList (Punycode.encode l)))

end TaskQueue.Url.Idna
