import PlacedText.Store.PageTree

/-! # The content of a page

The content streams of a page are joined with a blank between them.
-/

namespace PlacedText

namespace Store

/-- The parts of a page's content: the items of an array, or else the one object. -/
def contentParts (store : Store) (page : Dictionary) : List Object :=
  match page.find? "Contents" with
  | none => []
  | some contents =>
    match store.resolve contents with
    | .array items => items.map store.resolve
    | other => [other]

/-- Joins the decoded data of content parts, with a blank behind anything that is there already. -/
def joinParts (store : Store) (joined : Bytes) : List Object → Except ReadFault Bytes
  | [] => .ok joined
  | part :: parts =>
    match part with
    | .stream entries data =>
      let opened := if joined.isEmpty then joined else joined ++ [0x20]
      match store.decoded entries data with
      | .error fault => .error (.object fault)
      | .ok decoded => joinParts store (opened ++ decoded) parts
    | _ => .error (.structural .contentsNotStream)

/-- The decoded content of a page; a page without any has none. -/
def pageContent (store : Store) (page : Nat) : Except ReadFault Bytes :=
  match store.dictionary page with
  | .error fault => .error (.object fault)
  | .ok entries => store.joinParts [] (store.contentParts entries)

end Store

end PlacedText
