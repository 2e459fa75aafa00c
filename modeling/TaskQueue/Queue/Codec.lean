import TaskQueue.Domain.Message
import TaskQueue.Json.Parse
import TaskQueue.Encoding.Base64

/-!
# Message text

A message travels as the standard base64 of the UTF-8 bytes of its compact JSON form.
`Codec.decode` trims blank characters from both ends of the text, reads the base64, then
reads the JSON and the record; the two failures have errors of their own.
-/

namespace TaskQueue.Codec

/-- The text of a message's JSON form. -/
def encode (j : Json) : String :=
  String.ofList (Base64.encode j.render.toUTF8.toList)

/-- The error for a text that is not base64. -/
def notBase64 : QueueError := QueueError.codec "message is not valid base64"

/-- The error for bytes that are not the JSON of a record. -/
def notPayload : QueueError := QueueError.codec "message is not a valid JSON payload"

/-- The JSON value of a message text. -/
def decodeJson (text : String) : Except QueueError (Option Json) :=
  match Base64.decode (Text.trimList text.toList) with
  | none => .error notBase64
  | some bytes => .ok (Json.parse bytes)

/-- Reads a message text as a record. -/
def decode {α : Type} (read : Json → Option α) (text : String) : Except QueueError α := do
  match ← decodeJson text with
  | some j => match read j with
    | some a => .ok a
    | none => .error notPayload
  | none => .error notPayload

end TaskQueue.Codec
