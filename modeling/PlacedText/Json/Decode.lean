import PlacedText.Json.Basic

/-! # Reading records from JSON

A record is read from an object by the names of its fields, or from an array by their order; members
with other names are ignored. A value of the wrong type makes the record unreadable.
-/

namespace PlacedText.Json

/-- The fields of a record: the members of an object, or the items of an array that is not longer
than the list of field names. -/
def fields? (names : List String) : Json → Option (List (String × Json))
  | object members => some members
  | array items => if items.length ≤ names.length then some (names.zip items) else none
  | _ => none

def bool? : Json → Option Bool
  | bool value => some value
  | _ => none

def string? : Json → Option String
  | string text => some text
  | _ => none

def float? : Json → Option Float
  | integer value => some (Float.ofInt value)
  | float value => some value
  | _ => none

/-- A whole number from zero up to below `2 ^ width`. -/
def count? (width : Nat) : Json → Option Nat
  | integer value => if 0 ≤ value ∧ value < Nat.pow 2 width then some value.toNat else none
  | _ => none

def array? : Json → Option (List Json)
  | array items => some items
  | _ => none

/-- A value that may be null. -/
def nullable? {β : Type} (read : Json → Option β) : Json → Option (Option β)
  | null => some none
  | value => (read value).map some

/-- Items that can all be read. -/
def list? {β : Type} (read : Json → Option β) (value : Json) : Option (List β) :=
  value.array? >>= fun items => items.mapM read

/-- A field that has to be there. -/
def required {β : Type} (fields : List (String × Json)) (name : String)
    (read : Json → Option β) : Option β :=
  fields.lookup name >>= read

/-- A field that has a value of its own when it is missing. -/
def optional {β : Type} (fields : List (String × Json)) (name : String) (missing : β)
    (read : Json → Option β) : Option β :=
  match fields.lookup name with
  | some value => read value
  | none => some missing

end PlacedText.Json
