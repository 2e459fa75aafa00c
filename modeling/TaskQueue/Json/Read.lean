import TaskQueue.Json.Value

/-!
# Reading records from JSON

A record of named fields is read from an object or from an array.  From an object each
field is taken by name: other members are skipped, and a field named twice is refused.
From an array the items are the fields in order, exactly one each.  A record whose fields
may be left out (`optionalFields?`) is read the same way, but a field may be missing from
the object, and an array may stop before the last fields.  A field of a record is a
string, an unsigned 32-bit or 64-bit number written as an integer, or the name of a case,
written as a string or as an object with that one key and the value `null`.
-/

namespace TaskQueue.Json

/-- How many members carry a key. -/
def keyCount (members : List (String × Json)) (key : String) : Nat :=
  (members.filter (·.1 == key)).length

/-- The fields `names` of a record, in that order. -/
def fields? (names : List String) : Json → Option (List Json)
  | .obj members =>
    if names.any (fun n => keyCount members n > 1) then none
    else names.mapM (lookup members)
  | .arr items => if items.length = names.length then some items else none
  | _ => none

/-- The fields `names` of a record whose fields may be left out, in that order, each
`none` when it is left out: from an object as `fields?` takes them, and from an array of at
most one item per field, whose items are the first fields. -/
def optionalFields? (names : List String) : Json → Option (List (Option Json))
  | .obj members =>
    if names.any (fun n => keyCount members n > 1) then none
    else some (names.map (lookup members))
  | .arr items =>
    if items.length ≤ names.length then
      some (items.map some ++ List.replicate (names.length - items.length) none)
    else none
  | _ => none

/-- A string. -/
def string? : Json → Option String
  | .str s => some s
  | _ => none

/-- An integer from 0 to 2³² − 1, written without fraction or exponent. -/
def u32? : Json → Option UInt32
  | .num n =>
    if !n.negative && n.integral && n.mantissa < Nat.pow 2 32 then some n.mantissa.toUInt32
    else none
  | _ => none

/-- An integer from 0 to 2⁶⁴ − 1, written without fraction or exponent. -/
def u64? : Json → Option Nat
  | .num n =>
    if !n.negative && n.integral && n.mantissa < Nat.pow 2 64 then some n.mantissa else none
  | _ => none

/-- The name of a case without data: `"name"` or `{"name": null}`. -/
def caseName? : Json → Option String
  | .str s => some s
  | .obj [(k, .null)] => some k
  | _ => none

end TaskQueue.Json
