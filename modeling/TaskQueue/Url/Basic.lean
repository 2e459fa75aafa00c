import TaskQueue.Url.Host

/-!
# URLs

An absolute URL as the WHATWG URL Standard reads it without a base, and its serialized
text.  The special schemes (`http`, `https`, `ws`, `wss`, `ftp`, `file`) always have a
host and a path that starts with `/`; any slashes after their colon are skipped.  Another
scheme has a host only after `//`; without one, a path that does not start with `/` is
opaque, and such a URL cannot be a base for others.

`Url.parse` strips leading and trailing controls and spaces, drops tabs and newlines,
and reads scheme, userinfo, host, the number after the host, path, query and fragment in
turn, percent-encoding each with its own set; `.` and `..` segments of a path are resolved as it is read.
`Url.text` writes the parts back, without a host number that is the scheme's default.
-/

namespace TaskQueue

namespace Url

/-- The userinfo, host and host number of a URL. -/
structure Authority where
  username : String
  password : String
  host : String
  portNumber : Option Nat
  deriving DecidableEq, Repr

end Url

/-- A URL in parts, each in serialized form; `path` is either empty, a sequence of
segments each after a `/`, or an opaque path. -/
structure Url where
  scheme : String
  authority : Option Url.Authority
  path : String
  query : Option String
  fragment : Option String
  deriving DecidableEq, Repr

namespace Url

/-- The default host number of each special scheme; `file` is special and has none. -/
def specialPort? : String → Option (Option Nat)
  | "http" => some (some 80)
  | "https" => some (some 443)
  | "ws" => some (some 80)
  | "wss" => some (some 443)
  | "ftp" => some (some 21)
  | "file" => some none
  | _ => none

/-- Whether a scheme is special. -/
def isSpecial (scheme : String) : Bool :=
  (specialPort? scheme).isSome

/-- The serialized URL. -/
def text (u : Url) : String :=
  let auth := match u.authority with
    | some a =>
      let user :=
        if a.username.isEmpty && a.password.isEmpty then ""
        else a.username ++ (if a.password.isEmpty then "" else ":" ++ a.password) ++ "@"
      "//" ++ user ++ a.host ++ (match a.portNumber with | some p => ":" ++ toString p | none => "")
    | none => if u.path.startsWith "//" then "/." else ""
  u.scheme ++ ":" ++ auth ++ u.path ++ (match u.query with | some q => "?" ++ q | none => "")
    ++ (match u.fragment with | some f => "#" ++ f | none => "")

/-- Whether other URLs can be built on this one: it has a host or its path starts
with `/`. -/
def canBeBase (u : Url) : Bool :=
  u.authority.isSome || u.path.startsWith "/"

/-! ## Reading -/

/-- Characters of a scheme after its first letter. -/
def isSchemeChar (c : Char) : Bool :=
  c.isAlphanum || c == '+' || c == '-' || c == '.'

/-- The scheme, lowercased, and what follows its colon. -/
def readScheme (cs : List Char) : Except UrlError (String × List Char) :=
  match cs with
  | c :: rest =>
    if c.isAlpha then
      match rest.span isSchemeChar with
      | (name, ':' :: after) => .ok (String.ofList ((c :: name).map Char.toLower), after)
      | _ => .error .relativeWithoutBase
    else .error .relativeWithoutBase
  | [] => .error .relativeWithoutBase

/-- Whether a segment is `..`, with either dot possibly written `%2e`. -/
def isDoubleDot (cs : List Char) : Bool :=
  match cs.map Char.toLower with
  | ['.', '.'] | ['.', '%', '2', 'e'] | ['%', '2', 'e', '.'] => true
  | ['%', '2', 'e', '%', '2', 'e'] => true
  | _ => false

/-- Whether a segment is `.` or `%2e`. -/
def isSingleDot (cs : List Char) : Bool :=
  match cs.map Char.toLower with
  | ['.'] | ['%', '2', 'e'] => true
  | _ => false

/-- Whether two characters are a drive letter, such as `C:` or `c|`. -/
def isDriveLetter : List Char → Bool
  | [c, d] => c.isAlpha && (d == ':' || d == '|')
  | _ => false

/-- What a path makes of drive letters (`C:`, `c|`): nothing outside `file` URLs.  In a
`file` URL, `..` never removes a drive letter, and a first segment that begins with `C:` and
goes on is cut after the colon; where `colon` holds, a first segment that is a drive letter
is written with `:`. -/
inductive DriveLetters where
  | ignored
  | kept (colon : Bool)
  deriving DecidableEq, Repr

/-- Adds one segment of a path being read; `last` tells that no slash follows it. -/
def addSegment (drives : DriveLetters) (segments : List String) (piece : List Char)
    (last : Bool) : List String :=
  let tail := if last then [""] else []
  let plain := segments ++ [encodeWith pathSet piece]
  if isDoubleDot piece then
    let keep := match drives, segments.getLast? with
      | .kept _, some s => isDriveLetter s.toList
      | _, _ => false
    (if keep then segments else segments.dropLast) ++ tail
  else if isSingleDot piece then segments ++ tail
  else
    match drives, segments, piece with
    | .kept colon, [], d :: c :: rest =>
      if !isDriveLetter [d, c] then plain
      else if rest.isEmpty then [String.ofList [d, if colon then ':' else c]]
      else if c == ':' then addSegment drives [String.ofList [d, c]] rest last
      else plain
    | _, _, _ => plain

/-- The segments of a path, from the text after its first slash. -/
def readSegments (special : Bool) (drives : DriveLetters) (cs : List Char) : List String :=
  let pieces := cs.splitOnP fun c => c == '/' || (special && c == '\\')
  let rec go : List (List Char) → List String → List String
    | [], acc => acc
    | [p], acc => addSegment drives acc p true
    | p :: ps, acc => go ps (addSegment drives acc p false)
  go pieces []

/-- The path, query and fragment of a URL from the text after its host.  The path of a
special scheme always holds a segment, and one `/` (or `\` there) before it is skipped. -/
def readRest (special : Bool) (drives : DriveLetters) (cs : List Char) :
    String × Option String × Option String :=
  let (pathPart, tail) := cs.span fun c => c != '?' && c != '#'
  let path :=
    match pathPart with
    | c :: rest =>
      if c == '/' || (special && c == '\\') then readSegments special drives rest
      else readSegments special drives pathPart
    | [] => if special then readSegments special drives [] else []
  let pathText := String.join (path.map ("/" ++ ·))
  let (queryPart, fragmentPart) := tail.span (· != '#')
  let query := match queryPart with
    | '?' :: q => some (encodeWith (if special then specialQuerySet else querySet) q)
    | _ => none
  let fragment := match fragmentPart with
    | '#' :: f => some (encodeWith fragmentSet f)
    | _ => none
  (pathText, query, fragment)

/-- The opaque path, query and fragment of a URL that has no host and no `/`. -/
def readOpaque (cs : List Char) : String × Option String × Option String :=
  let (pathPart, tail) := cs.span fun c => c != '?' && c != '#'
  let (queryPart, fragmentPart) := tail.span (· != '#')
  let query := match queryPart with
    | '?' :: q => some (encodeWith querySet q)
    | _ => none
  let fragment := match fragmentPart with
    | '#' :: f => some (encodeWith fragmentSet f)
    | _ => none
  (encodeWith controlSet pathPart, query, fragment)

/-- The number after a host: digits up to 65535, ended by `/`, `\`, `?`, `#` or the end;
none when there are no digits or it is the scheme's default. -/
def readPort (scheme : String) (cs : List Char) : Except UrlError (Option Nat × List Char) := do
  let (ds, rest) := cs.span Char.isDigit
  match rest with
  | c :: _ =>
    if !(c == '/' || c == '\\' || c == '?' || c == '#') then throw .invalidPort
  | [] => pure ()
  let value := ds.foldl (fun acc d => acc * 10 + (d.toNat - 48)) 0
  if 65535 < value then throw .invalidPort
  if ds.isEmpty || some value == (specialPort? scheme).join then pure (none, rest)
  else pure (some value, rest)

/-- The host text and what follows it: up to a `:` outside brackets. -/
def splitHost : List Char → Bool → List Char × List Char
  | [], _ => ([], [])
  | c :: cs, inBrackets =>
    if c == ':' && !inBrackets then ([], c :: cs)
    else
      let inBrackets := if c == '[' then true else if c == ']' then false else inBrackets
      let (h, rest) := splitHost cs inBrackets
      (c :: h, rest)

/-- Splits at the last `@`: the userinfo before it, if there is one, and the rest. -/
def splitUserinfo (cs : List Char) : Option (List Char) × List Char :=
  match (cs.reverse.span (· != '@')) with
  | (afterRev, '@' :: beforeRev) => (some beforeRev.reverse, afterRev.reverse)
  | _ => (none, cs)

/-- A URL with a host, from the text after the scheme's colon and slashes.  The host may
be empty only in a URL of a scheme that is not special, with neither userinfo nor a host
number; an `@` with nothing before it counts for nothing, unless the path, query or
fragment follows it at once. -/
def readAuthority (scheme : String) (cs : List Char) : Except UrlError Url := do
  let special := isSpecial scheme
  let (auth, rest) := cs.span fun c =>
    !(c == '/' || c == '?' || c == '#' || (special && c == '\\'))
  let (userinfo, hostPort) := splitUserinfo auth
  if userinfo == some [] && hostPort.isEmpty && !rest.isEmpty then throw .emptyHost
  let (user, pass) := match userinfo with
    | some u =>
      let (name, passPart) := u.span (· != ':')
      (encodeWith userinfoSet name, encodeWith userinfoSet (passPart.drop 1))
    | none => ("", "")
  let (hostChars, portPart) := splitHost hostPort false
  if hostChars.isEmpty && (special || !user.isEmpty || !pass.isEmpty || !portPart.isEmpty) then
    throw .emptyHost
  let host ← if special then specialHost hostChars else opaqueHost hostChars
  let (portNumber, afterPort) ← match portPart with
    | ':' :: p => readPort scheme (p ++ rest)
    | _ => pure (none, rest)
  let (path, query, fragment) := readRest special .ignored afterPort
  pure ⟨scheme, some ⟨user, pass, host, portNumber⟩, path, query, fragment⟩

/-- A `file` URL from the text after its colon. -/
def readFile (cs : List Char) : Except UrlError Url := do
  let isSlash := fun (c : Char) => c == '/' || c == '\\'
  match cs with
  | a :: b :: rest =>
    if isSlash a && isSlash b then
      let (hostChars, after) := rest.span fun c => !(isSlash c || c == '?' || c == '#')
      if isDriveLetter hostChars then
        let (path, query, fragment) := readRest true (.kept true) (hostChars ++ after)
        pure ⟨"file", some ⟨"", "", "", none⟩, path, query, fragment⟩
      else
        let host ← if hostChars.isEmpty then pure "" else specialHost hostChars
        let host := if host == "localhost" then "" else host
        let (path, query, fragment) := readRest true (.kept false) after
        pure ⟨"file", some ⟨"", "", host, none⟩, path, query, fragment⟩
    else
      let (path, query, fragment) := readRest true (.kept true) cs
      pure ⟨"file", some ⟨"", "", "", none⟩, path, query, fragment⟩
  | _ =>
    let (path, query, fragment) := readRest true (.kept true) cs
    pure ⟨"file", some ⟨"", "", "", none⟩, path, query, fragment⟩

/-- Controls and the space, which are stripped from both ends of a URL. -/
def isStripped (c : Char) : Bool :=
  c.toNat ≤ 0x20

/-- Reads an absolute URL. -/
def parse (input : String) : Except UrlError Url := do
  let cs := ((input.toList.dropWhile isStripped).reverse.dropWhile isStripped).reverse
  let cs := cs.filter fun c => !(c == '\t' || c == '\n' || c == '\r')
  let (scheme, rest) ← readScheme cs
  if scheme == "file" then readFile rest
  else if isSpecial scheme then
    readAuthority scheme (rest.dropWhile fun c => c == '/' || c == '\\')
  else
    match rest with
    | '/' :: '/' :: after => readAuthority scheme after
    | '/' :: _ =>
      let (path, query, fragment) := readRest false .ignored rest
      pure ⟨scheme, none, path, query, fragment⟩
    | _ =>
      let (path, query, fragment) := readOpaque rest
      pure ⟨scheme, none, path, query, fragment⟩

/-! ## Building request URLs -/

/-- Whether a list of characters starts with a drive letter followed by nothing or by `/`,
`\`, `?` or `#`. -/
def startsWithDriveLetter : List Char → Bool
  | c :: d :: rest =>
    isDriveLetter [c, d] &&
      match rest with
      | [] => true
      | e :: _ => e == '/' || e == '\\' || e == '?' || e == '#'
  | _ => false

/-- A path that ends with `/`, less its last segment before that `/`, as a `..` added to it
takes it away.  Nothing goes when the path is only `/` or the segment is a drive
letter. -/
def dropLastSegment (path : List Char) : List Char :=
  let before := path.dropLast
  let last := (before.reverse.takeWhile (· != '/')).reverse
  if before.isEmpty || startsWithDriveLetter (last ++ ['/']) then path
  else before.take (before.length - last.length)

/-- Adds one segment to a path as the segment setter of a URL does.  The segments `.` and
`..` are skipped.  Tabs and newlines are dropped from the others; one that is then `..`
takes the last segment away, one that is then `.` adds an empty segment, and any other is
added percent-encoded whole, its slashes and percent signs included.  A path that is only
`/` holds no segment yet, so the first one takes the place of the empty one. -/
def pushSegment (special : Bool) (path : String) (s : String) : String :=
  if s == "." || s == ".." then path
  else
    let cs := s.toList.filter fun c => !(c == '\t' || c == '\n' || c == '\r')
    let path := if path.length == 1 then path else path ++ "/"
    if cs == ['.', '.'] then String.ofList (dropLastSegment path.toList)
    else if cs == ['.'] then path
    else path ++ encodeWith (segmentSet special) cs

/-- A path less one trailing `/`, unless it is only `/`. -/
def dropTrailingSlash (path : String) : String :=
  if 1 < path.length && path.endsWith "/" then path.dropEnd 1 |>.toString else path

/-- Adds segments to the path of a URL that can be a base, after taking away one trailing
`/` unless the path is only `/`. -/
def addSegments (u : Url) (segments : List String) : Url :=
  { u with path := segments.foldl (pushSegment (isSpecial u.scheme)) (dropTrailingSlash u.path) }

/-- Appends form-encoded pairs to the query, after a `&` when the query holds text. -/
def addQuery (u : Url) (pairs : List (String × String)) : Url :=
  let q := pairs.foldl (fun q (k, v) =>
    (if q.isEmpty then q else q ++ "&") ++ formEncode k ++ "=" ++ formEncode v) (u.query.getD "")
  { u with query := if q.isEmpty then none else some q }

/-- Whether the URL names a host: an empty host, as in `file:///`, counts as none. -/
def hasHost (u : Url) : Bool :=
  u.authority.any (!·.host.isEmpty)

/-- The URL without username and password. -/
def withoutUserinfo (u : Url) : Url :=
  { u with authority := u.authority.map fun a => { a with username := "", password := "" } }

end Url

end TaskQueue
