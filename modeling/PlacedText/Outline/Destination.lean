import PlacedText.Outline.Basic
import PlacedText.Store.TextString
import PlacedText.Store.Basic

/-! # Reading destinations

A destination is an array that begins with a page and a kind of view. An outline item holds one, or
the name of one, or an action that goes to one.
-/

namespace PlacedText

variable {α : Type} [Scalar α]

namespace Store

/-- A coordinate of a destination; null stands for none. -/
def coordinate? (store : Store) (items : List Object) (position : Nat) : Option α :=
  items[position]? >>= fun item => (store.resolve item).number?

/-- The view that the items of a destination describe; only the kind `XYZ` has a point. -/
def destinationView (store : Store) (items : List Object) : DestinationView α :=
  if (items[1]? >>= Object.name?) = some (Text.Utf8.encode "XYZ") then
    .xyz (store.coordinate? items 2) (store.coordinate? items 3)
  else .other

/-- The destination that an array describes; it begins with a reference to a page. -/
def explicitDestination? (store : Store) (items : List Object) : Option (Destination Nat α) :=
  (items.head? >>= Object.reference?).map fun page => ⟨page, store.destinationView items⟩

/-- The destination of a name: an array, or a dictionary that holds one. -/
def definedDestination? (store : Store) (value : Object) : Option (Destination Nat α) :=
  match store.resolve value with
  | .array items => store.explicitDestination? items
  | .dictionary entries => store.array? entries "D" >>= store.explicitDestination?
  | _ => none

/-- What the destination entry of an outline item leads to. -/
def destinationTarget (store : Store) (value : Object) : OutlineTarget Nat α :=
  match store.resolve value with
  | .array items =>
    match store.explicitDestination? items with
    | some destination => .explicit destination
    | none => .unsupported
  | .string bytes => .named (Text.ofStringObject bytes)
  | .name bytes => .named (Text.Utf8.decodeLossy bytes)
  | _ => .unsupported

/-- What an action leads to; only the kind `GoTo` leads anywhere. -/
def actionTarget (store : Store) (action : Dictionary) : OutlineTarget Nat α :=
  if (store.value? action "S" >>= Object.name?) = some (Text.Utf8.encode "GoTo") then
    match store.value? action "D" with
    | some value => store.destinationTarget value
    | none => .unsupported
  else .unsupported

/-- What a node of the outline leads to: its destination, or else that of its action. -/
def outlineTarget (store : Store) (node : Dictionary) : OutlineTarget Nat α :=
  match store.value? node "Dest" with
  | some value => store.destinationTarget value
  | none =>
    match store.dictionary? node "A" with
    | some action => store.actionTarget action
    | none => .unsupported

end Store

end PlacedText
