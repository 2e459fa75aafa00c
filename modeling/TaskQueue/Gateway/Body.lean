import TaskQueue.Gateway
import TaskQueue.Store.Basic

/-!
# Bodies of the gateway's replies

The operations that answer something read it from the body of a successful reply: a get
its messages, an update the new pop receipt, a queue's properties its metadata and message
count, and a listing one page.  Each is a record, read by name from an object or in order
from an array.  A field that may be left out takes its default (no metadata, a count of 0,
no queues, no next marker) and is refused as `null` unless it may be absent (a listed
queue's metadata, the next marker).  Metadata is an object of texts, a later key winning
over an earlier one; a message count is an unsigned 64-bit integer; an empty next marker is
none.
-/

namespace TaskQueue

namespace Gateway

/-- Metadata: an object whose members are texts, a later key winning over an earlier one. -/
def metadata? : Json → Option Metadata
  | .obj members =>
    (members.mapM fun (m : String × Json) => (Json.string? m.2).map (m.1, ·)).map Metadata.ofList
  | _ => none

/-- A field that may be left out: `default` when it is, and otherwise what `read` takes
from it. -/
def withDefault {α : Type} (default : α) (read : Json → Option α) : Option Json → Option α
  | none => some default
  | some j => read j

/-- A value that may be `null`. -/
def nullable {α : Type} (read : Json → Option α) : Json → Option (Option α)
  | .null => some none
  | j => (read j).map some

/-- A message of a get: its id, pop receipt and text, all required. -/
def message? (j : Json) : Option RawMessage := do
  let [id, receipt, text] ← Json.fields? ["messageId", "popReceipt", "messageText"] j | none
  pure ⟨← Json.string? id, ← Json.string? receipt, ← Json.string? text⟩

/-- The messages of a get: an array of messages. -/
def messages? : Json → Option (List RawMessage)
  | .arr items => items.mapM message?
  | _ => none

/-- The new pop receipt of an update. -/
def receipt? (j : Json) : Option String := do
  let [receipt] ← Json.fields? ["popReceipt"] j | none
  Json.string? receipt

/-- A queue's properties: its metadata and its message count. -/
def properties? (j : Json) : Option QueueProperties := do
  let [metadata, count] ← Json.optionalFields? ["metadata", "approximateMessageCount"] j | none
  pure ⟨← withDefault [] metadata? metadata, ← withDefault 0 Json.u64? count⟩

/-- A queue of a listing: its name, required, and its metadata, none when left out or
`null`. -/
def listing? (j : Json) : Option Listing := do
  let [name, metadata] ← Json.optionalFields? ["name", "metadata"] j | none
  pure ⟨← name.bind Json.string?, ← withDefault none (nullable metadata?) metadata⟩

/-- The queues of a listing: an array of them. -/
def listings? : Json → Option (List Listing)
  | .arr items => items.mapM listing?
  | _ => none

/-- A page of a listing: its queues, and where the next page starts, none when that is
left out, `null` or empty. -/
def page? (j : Json) : Option ListPage := do
  let [queues, marker] ← Json.optionalFields? ["queues", "nextMarker"] j | none
  let queues ← withDefault [] listings? queues
  let marker ← withDefault none (nullable Json.string?) marker
  pure ⟨queues, marker.filter (!·.isEmpty)⟩

end Gateway

end TaskQueue
