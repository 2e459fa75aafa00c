import TaskQueue.Url.Basic
import TaskQueue.Fault
import TaskQueue.Json.Parse
import TaskQueue.Json.Read

/-!
# The HTTP gateway

A gateway publishes the operations of a queue store over HTTP.  A request goes to the
gateway's base URL with path segments added (`queues`, the queue name, and then
`messages`, a message id or `metadata`) and, for some operations, form-encoded query
pairs.  The base must be an absolute URL that other URLs can be built on.

A reply is read by its status and body (`Gateway.answer`).  A success passes.  A conflict
answering a queue creation is an existing queue.  Any other failure is named by the body's
error code when the code is a known one, with the request's queue (the stem, for a
listing) and message id, and is otherwise a bare status with the body's code and text.
The code is read from the body as a record with one optional text field `code`: from an
object with at most one `code` member, or from an array of at most one item.

How the gateway answers is a parameter, a `Reply` for each request: the connection is
refused, it times out, or the gateway replies with a status and a body (`Gateway.call`).
A refused connection's fault names the URL of the request (`Gateway.send`).  A user name
and password in the base are sent as basic authorization and left out of that URL.  A base
without a host, an access token that cannot stand in a header, and a scheme other than
`http` or `https` fail before anything is sent, whatever the gateway would answer.  The
body of a successful reply is read by the operation; a body it cannot read is an invalid
response.  A service started without one talks to a gateway that no request reaches
(`Gateway.unreachable`).
-/

namespace TaskQueue

namespace Gateway

/-- A request to the gateway: which operation, on which queue or message. -/
inductive Request where
  | createQueue (queue : String)
  | deleteQueue (queue : String)
  | putMessage (queue : String)
  | getMessages (queue : String) (visibilitySecs maxCount : Nat)
  | deleteMessage (queue id receipt : String)
  | updateMessage (queue id receipt : String) (visibilitySecs : Nat)
  | getMetadata (queue : String)
  | setMetadata (queue : String)
  | listQueues (stem : String) (marker : Option String) (withMetadata : Bool)
  deriving DecidableEq, Repr

namespace Request

/-- The HTTP method of a request. -/
def method : Request → String
  | createQueue _ | updateMessage _ _ _ _ | setMetadata _ => "PUT"
  | deleteQueue _ | deleteMessage _ _ _ => "DELETE"
  | putMessage _ => "POST"
  | getMessages _ _ _ | getMetadata _ | listQueues _ _ _ => "GET"

/-- The path segments a request adds to the base URL. -/
def segments : Request → List String
  | createQueue q | deleteQueue q => ["queues", q]
  | putMessage q | getMessages q _ _ => ["queues", q, "messages"]
  | deleteMessage q id _ | updateMessage q id _ _ => ["queues", q, "messages", id]
  | getMetadata q | setMetadata q => ["queues", q, "metadata"]
  | listQueues _ _ _ => ["queues"]

/-- The query pairs of a request; a get asks for 1 to 32 messages. -/
def query : Request → List (String × String)
  | getMessages _ v n =>
    [("numOfMessages", toString (min (max n 1) 32)), ("visibilityTimeout", toString v)]
  | deleteMessage _ _ r => [("popReceipt", r)]
  | updateMessage _ _ r v => [("popReceipt", r), ("visibilityTimeout", toString v)]
  | listQueues stem marker withMetadata =>
    [("prefix", stem)] ++ (marker.map (("marker", ·))).toList ++
      (if withMetadata then [("include", "metadata")] else [])
  | _ => []

/-- The queue a failed request names: its queue, or the stem of a listing. -/
def queue : Request → String
  | createQueue q | deleteQueue q | putMessage q | getMessages q _ _ | deleteMessage q _ _
  | updateMessage q _ _ _ | getMetadata q | setMetadata q => q
  | listQueues stem _ _ => stem

/-- The message id a failed request names: empty unless the request is on one message. -/
def messageId : Request → String
  | deleteMessage _ id _ | updateMessage _ id _ _ => id
  | _ => ""

end Request

end Gateway

/-- A client of a queue gateway. -/
structure Gateway where
  base : Url
  token : Option String
  deriving DecidableEq, Repr

namespace Gateway

/-- A client for an endpoint, or why the endpoint cannot be used. -/
def connect (endpoint : String) (token : Option String) : Except Fault Gateway :=
  match Url.parse endpoint with
  | .error e => .error (.invalidEndpoint (endpoint ++ ": " ++ e.message))
  | .ok u =>
    if u.canBeBase then .ok ⟨u, token⟩
    else .error (.invalidEndpoint (endpoint ++ " cannot be used as a base url"))

/-- Whether percent-decoded text is UTF-8. -/
def decodesToText (s : String) : Bool :=
  (String.fromUTF8? ⟨(Url.percentDecode s.toUTF8.toList).toArray⟩).isSome

/-- Whether the credentials of a URL are sent as basic authorization and taken out of the
URL: the user name must decode to text, and be non-empty or come with a password that
decodes to text. -/
def sendsCredentials (a : Url.Authority) : Bool :=
  decodesToText a.username &&
    (!a.username.isEmpty || (!a.password.isEmpty && decodesToText a.password))

/-- The URL a request goes to: the segments added to the base path, then the query pairs,
and the credentials taken out when they are sent apart. -/
def url (g : Gateway) (segments : List String) (query : List (String × String)) : Url :=
  let u := g.base.addSegments segments
  let u := if query.isEmpty then u else u.addQuery query
  if u.authority.any sendsCredentials then u.withoutUserinfo else u

/-- Whether a character may stand in a header value: a tab, or neither a control nor
delete. -/
def isHeaderChar (c : Char) : Bool :=
  c == '\t' || (32 ≤ c.toNat && c.toNat != 127)

/-- The URL a request is sent to, or why it cannot be sent.  A base without a host fails at
once, naming the path without the query; then an access token that cannot stand in a
header; then a scheme other than `http` and `https`. -/
def target (g : Gateway) (r : Request) : Except Fault Url :=
  let bare := g.base.addSegments r.segments
  if !bare.hasHost then .error (.transport ("builder error for url (" ++ bare.text ++ ")"))
  else if g.token.any (!·.all isHeaderChar) then .error (.transport "builder error")
  else
    let u := g.url r.segments r.query
    if u.scheme == "http" || u.scheme == "https" then .ok u
    else .error (.transport ("builder error for url (" ++ u.text ++ ")"))

/-- The fault of a request whose connection is refused: it names the URL the request was
sent to, unless the request could not be sent at all. -/
def send (g : Gateway) (r : Request) : Fault :=
  match g.target r with
  | .ok u => .transport ("error sending request for url (" ++ u.text ++ ")")
  | .error f => f

/-! ## Replies -/

/-- The error code of a reply's body, read as a record with one optional text field
`code`: from an object with at most one `code` member, or from an array of at most one
item.  A missing or `null` code gives none, and so does a body that cannot be read as
that record: text that is not JSON, a code that is not text, a repeated `code` member, an
array of more items, or any other value. -/
def errorCode (body : String) : Option String :=
  match Json.parse body.toUTF8.toList with
  | some (.obj members) =>
    if Json.keyCount members "code" = 1 then (Json.lookup members "code").bind Json.string?
    else none
  | some (.arr [item]) => Json.string? item
  | _ => none

/-- Whether a status is a success. -/
def isSuccess (status : Nat) : Bool :=
  200 ≤ status && status < 300

/-- The fault of a reply that is not a success: a known error code names it, with the
queue and message id given, and any other reply is a bare status with the body's code and
text. -/
def failure (status : Nat) (body queue messageId : String) : Fault :=
  match errorCode body with
  | some "QueueNotFound" => .queueNotFound queue
  | some "QueueAlreadyExists" => .queueAlreadyExists queue
  | some "MessageNotFound" => .messageNotFound queue messageId
  | some "PopReceiptMismatch" => .popReceiptMismatch queue messageId
  | code => .status status code body

/-- Checks a reply: a success passes, and anything else is its failure. -/
def check (status : Nat) (body queue messageId : String) : Except Fault Unit :=
  if isSuccess status then .ok () else .error (failure status body queue messageId)

/-- The outcome of a reply to a request: a conflict answering a queue creation is an
existing queue, and every other reply is checked. -/
def answer (r : Request) (status : Nat) (body : String) : Except Fault Unit :=
  match r with
  | .createQueue q =>
    if status = 409 then .error (.queueAlreadyExists q) else check status body q ""
  | _ => check status body r.queue r.messageId

/-- How the gateway answers a request: it refuses the connection, lets it time out, or
replies with a status and a body. -/
inductive Reply where
  | refused
  | timedOut
  | replied (status : Nat) (body : String)
  deriving DecidableEq, Repr

/-- A gateway that no request reaches: every connection is refused. -/
def unreachable : Request → Reply :=
  fun _ => .refused

/-- The value `read` takes from a body; a body that is not JSON, or that `read` refuses, is
an invalid response. -/
def readBody {α : Type} (read : Json → Option α) (body : String) : Except Fault α :=
  match Json.parse body.toUTF8.toList >>= read with
  | some a => .ok a
  | none => .error (.invalidResponse "error decoding response body")

/-- One request answered by `reply`.  A request that cannot be sent fails as `target`
says, and a refused one as `send` says; a reply is checked by `answer`, and the body of a
success is read by `read`. -/
def call {α : Type} (g : Gateway) (r : Request) (reply : Reply)
    (read : String → Except Fault α) : Except Fault α :=
  match g.target r, reply with
  | .error f, _ => .error f
  | .ok _, .refused => .error (g.send r)
  | .ok _, .timedOut => .error .timeout
  | .ok _, .replied status body => (answer r status body).bind fun () => read body

end Gateway

end TaskQueue
