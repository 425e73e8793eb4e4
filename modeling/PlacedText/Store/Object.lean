import PlacedText.Fault.Basic
import PlacedText.Scalar.Basic
import PlacedText.Text.Utf8

/-! # Objects

The values that a document is made of. Names, keys and strings are bytes, and a dictionary keeps its
entries in the order they were added.
-/

namespace PlacedText

/-- An object of a document. A reference names another object by its number. -/
inductive Object where
  | null
  | boolean (value : Bool)
  | integer (value : Int)
  | real (value : Float)
  | name (bytes : Bytes)
  | string (bytes : Bytes)
  | array (items : List Object)
  | dictionary (entries : List (Bytes × Object))
  | stream (entries : List (Bytes × Object)) (data : Bytes)
  | reference (id : Nat)

abbrev Dictionary := List (Bytes × Object)

namespace Object

instance : Inhabited Object := ⟨null⟩

def type : Object → ObjectType
  | null => .null
  | boolean _ => .boolean
  | integer _ => .integer
  | real _ => .real
  | name _ => .name
  | string _ => .string
  | array _ => .array
  | dictionary _ => .dictionary
  | stream .. => .stream
  | reference _ => .reference

def integer? : Object → Option Int
  | integer value => some value
  | _ => none

/-- The number of an integer or a real. -/
def number? {α : Type} [Scalar α] : Object → Option α
  | integer value => some (Scalar.ofInt value)
  | real value => some (Scalar.ofFloat value)
  | _ => none

def name? : Object → Option Bytes
  | name bytes => some bytes
  | _ => none

def string? : Object → Option Bytes
  | string bytes => some bytes
  | _ => none

def array? : Object → Option (List Object)
  | array items => some items
  | _ => none

def dictionary? : Object → Option Dictionary
  | dictionary entries => some entries
  | _ => none

def stream? : Object → Option (Dictionary × Bytes)
  | stream entries data => some (entries, data)
  | _ => none

def reference? : Object → Option Nat
  | reference id => some id
  | _ => none

end Object

namespace Dictionary

/-- The value of a key. -/
def get? (dictionary : Dictionary) (key : Bytes) : Option Object := dictionary.lookup key

/-- The value of a key that is a word. -/
def find? (dictionary : Dictionary) (key : String) : Option Object :=
  get? dictionary (Text.Utf8.encode key)

/-- Gives a key a value, in its place if the key is there and else at the end. -/
def put (key : Bytes) (value : Object) : Dictionary → Dictionary
  | [] => [(key, value)]
  | (other, present) :: rest =>
    if other = key then (other, value) :: rest else (other, present) :: put key value rest

/-- Gives a key that is a word a value. -/
def set (dictionary : Dictionary) (key : String) (value : Object) : Dictionary :=
  put (Text.Utf8.encode key) value dictionary

/-- Removes a key, in the place of which the last entry comes. -/
def remove (key : Bytes) : Dictionary → Dictionary
  | [] => []
  | (other, value) :: rest =>
    if other = key then rest.getLast?.toList ++ rest.dropLast else (other, value) :: remove key rest

/-- Removes a key that is a word. -/
def erase (dictionary : Dictionary) (key : String) : Dictionary :=
  remove (Text.Utf8.encode key) dictionary

/-- The dictionary of some entries; a key that comes again replaces the value before. -/
def ofEntries (entries : List (Bytes × Object)) : Dictionary :=
  entries.foldl (fun dictionary (key, value) => put key value dictionary) []

end Dictionary

namespace Object

/-- The stream of some data. Its dictionary says how long the data is, whatever it said before. -/
def ofData (entries : Dictionary) (data : Bytes) : Object :=
  stream (entries.set "Length" (integer data.length)) data

end Object

end PlacedText
