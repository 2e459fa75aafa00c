import TaskQueue.Log
import TaskQueue.Text.Blank

/-!
# Log filters

A filter is a list of directives separated by commas.  A directive that reads whole as a
level is a level for every target: `off`, `error`, `warn`, `info`, `debug`, `trace` in any
case, or a decimal number from 0 to 5 (`+` and leading zeros allowed).  Any other directive
is a target, then an optional span in brackets, then an optional `=level`:

* the target is the text before the first `[` or `=`, taken as it is (blanks, dots and level
  names included); when empty, the directive is for every target;
* a span `[name{fields}]` ends at the first `]`; its fields, when braces are given, must
  not be empty, and nothing may stand between the closing brace and the bracket;
* after the span, only `=level` or the end may follow;
* the level after `=` is read as above, the empty text reading as `error`; without `=`, the
  directive lets every level through;
* a directive with a level may not start with a blank.

A directive with a span applies only inside spans.  This program opens none, so such a
directive never lets an event through.

An event passes when the most specific directive that applies to it allows its level: a
longer target before a shorter one and any target before none, then the greater target; of
two directives alike in these, the later one.  When no directive applies, the event does
not pass.
-/

namespace TaskQueue

/-- One directive of a filter: the start of the targets it applies to (every target when
none), the most verbose rank it lets through (0 lets nothing through), and whether it
applies only inside spans. -/
structure Directive where
  target : Option String
  upTo : Nat
  inSpans : Bool
  deriving DecidableEq, Repr

/-- Why a directive does not read: its shape, or its level. -/
inductive DirectiveError where
  | shape
  | level
  deriving DecidableEq, Repr

/-- The warning text of a directive that does not read. -/
def DirectiveError.message : DirectiveError → String
  | .shape => "invalid filter directive"
  | .level =>
    "error parsing level filter: expected one of \"off\", \"error\", \"warn\", \"info\", " ++
      "\"debug\", \"trace\", or a number 0-5"

namespace Directive

/-- The value of a decimal number with an optional `+` in front. -/
def decimal? (cs : List Char) : Option Nat :=
  let ds := match cs with
    | '+' :: rest => rest
    | _ => cs
  if !ds.isEmpty && ds.all Char.isDigit then
    some (ds.foldl (fun acc c => acc * 10 + (c.toNat - 48)) 0)
  else none

/-- The rank a level allows: a level name in any case, a number from 0 to 5, or the empty
text, which reads as `error`. -/
def levelRank? (s : String) : Option Nat :=
  match decimal? s.toList with
  | some n => if n ≤ 5 then some n else none
  | none =>
    match s.toLower with
    | "" | "error" => some 1
    | "off" => some 0
    | "warn" => some 2
    | "info" => some 3
    | "debug" => some 4
    | "trace" => some 5
    | _ => none

/-- Whether the text between a span's brackets reads: a name, then nothing or non-empty
fields in braces that close at the end. -/
def spanReads (cs : List Char) : Bool :=
  match cs.dropWhile (· != '{') with
  | [] => true
  | _ :: fields =>
    match fields.dropWhile (· != '}') with
    | ['}'] => !(fields.takeWhile (· != '}')).isEmpty
    | _ => false

/-- Reads the optional span at the front: whether there is one, and the rest. -/
def readSpan : List Char → Except DirectiveError (Bool × List Char)
  | '[' :: rest =>
    match rest.dropWhile (· != ']') with
    | ']' :: after =>
      if spanReads (rest.takeWhile (· != ']')) then .ok (true, after) else .error .shape
    | _ => .error .shape
  | cs => .ok (false, cs)

/-- Reads one directive. -/
def parse (s : String) : Except DirectiveError Directive :=
  match levelRank? s with
  | some r => .ok ⟨none, r, false⟩
  | none => do
    let cs := s.toList
    let targetChars := cs.takeWhile fun c => c != '[' && c != '='
    let target := if targetChars.isEmpty then none else some (String.ofList targetChars)
    let (inSpans, rest) ← readSpan (cs.drop targetChars.length)
    match rest with
    | [] => pure ⟨target, 5, inSpans⟩
    | '=' :: level =>
      match levelRank? (String.ofList level) with
      | none => throw .level
      | some r =>
        if cs.head?.any Text.isBlank then throw .shape
        else pure ⟨target, r, inSpans⟩
    | _ => throw .shape

/-- How two directives compare in specificity: the length of the target (any target
before none), then the target. -/
def compareSpecific (d e : Directive) : Ordering :=
  let byTarget : Option String → Option String → Ordering
    | none, none => .eq
    | none, some _ => .lt
    | some _, none => .gt
    | some a, some b => compare a b
  (compare (d.target.map String.length) (e.target.map String.length)).then
    (byTarget d.target e.target)

/-- Whether a directive applies to an event outside any span. -/
def appliesTo (d : Directive) (e : LogEvent) : Bool :=
  !d.inSpans && d.target.all fun t => e.target.startsWith t

end Directive

/-- A filter of log events. -/
abbrev LogFilter := List Directive

namespace LogFilter

/-- The directives of a filter's text: the comma-separated parts that are not empty. -/
def directives (s : String) : List String :=
  (s.splitOn ",").filter (!·.isEmpty)

/-- A filter whose directives must all read. -/
def parse? (s : String) : Option LogFilter :=
  ((directives s).mapM Directive.parse).toOption

/-- A filter of the directives that read, and the directives that do not with the reason. -/
def parseLossy (s : String) : LogFilter × List (String × DirectiveError) :=
  (directives s).foldl (fun (f, bad) d =>
    match Directive.parse d with
    | .ok x => (f ++ [x], bad)
    | .error e => (f, bad ++ [(d, e)])) ([], [])

/-- The directive that decides an event: the most specific that applies, the later of
two alike. -/
def decisive? (f : LogFilter) (e : LogEvent) : Option Directive :=
  (f.filter (·.appliesTo e)).foldl (fun best d =>
    match best with
    | some b => if Directive.compareSpecific d b == .lt then best else some d
    | none => some d) none

/-- Whether an event passes the filter. -/
def allows (f : LogFilter) (e : LogEvent) : Bool :=
  match f.decisive? e with
  | some d => e.level.rank ≤ d.upTo
  | none => false

end LogFilter

end TaskQueue
