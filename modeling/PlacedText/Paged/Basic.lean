import PlacedText.Geometry.Box
import PlacedText.Store.PageTree

/-! # Documents page by page

A document is opened with the list of its pages, which then stays as it is. The boxes and the
rotation of a page are its own or inherited.
-/

namespace PlacedText

variable {α β : Type} [Scalar α]

/-- A document and its pages in order, by their object numbers. -/
structure PagedStore where
  store : Store
  pageIds : List Nat

namespace PagedStore

/-- Opens a document; one that is encrypted is not opened. -/
def ofStore (store : Store) : Except ReadFault PagedStore :=
  if store.isEncrypted then .error (.process .passwordRequired) else .ok ⟨store, store.pages⟩

def pageCount (paged : PagedStore) : Nat := paged.pageIds.length

/-- The object number of the page at an index. -/
def pageId (paged : PagedStore) (index : Nat) : Except ReadFault Nat :=
  match paged.pageIds[index]? with
  | some page => .ok page
  | none => .error (.pageOutOfRange index paged.pageCount)

/-! ## Boxes -/

/-- The rectangle between the corners that four numbers give. -/
def rectOf? (store : Store) (value : Object) : Option (Rect α) := do
  match ← store.numbers? (← value.array?) with
  | [x₀, y₀, x₁, y₁] => some (Rect.ofCorners x₀ y₀ x₁ y₁)
  | _ => none

/-- A rectangle of a page, its own or inherited. -/
def rect? (paged : PagedStore) (index : Nat) (key : String) :
    Except ReadFault (Option (Rect α)) := do
  let page ← paged.pageId index
  match ← paged.store.inherited page key with
  | none => return none
  | some value =>
    match rectOf? paged.store value with
    | some rect => return some rect
    | none => throw (.structural (.notFourNumbers key))

/-- The media box of a page: the sheet it is on. -/
def mediaBox (paged : PagedStore) (index : Nat) : Except ReadFault (Rect α) := do
  match ← paged.rect? index "MediaBox" with
  | some rect => return rect
  | none => throw (.missingMediaBox index)

/-- The crop box of a page: the part of the sheet that is shown, all of it if nothing else is
said. -/
def cropBox (paged : PagedStore) (index : Nat) : Except ReadFault (Rect α) := do
  match ← paged.rect? index "CropBox" with
  | some rect => return rect
  | none => paged.mediaBox index

/-! ## Rotation -/

/-- Degrees rounded down to a right angle: 0, 90, 180 or 270. -/
def rightAngle (degrees : Int) : Nat := (degrees % 360).toNat / 90 * 90

/-- The rotation of a page, its own or inherited; a page that has none is not rotated. -/
def rotation (paged : PagedStore) (index : Nat) : Except ReadFault Nat := do
  let page ← paged.pageId index
  let value? ← paged.store.inherited page "Rotate"
  return rightAngle ((value? >>= Object.integer?).getD 0)

/-- The entry of the page itself that rotates it. -/
def ownRotation? (paged : PagedStore) (index : Nat) : Except ReadFault (Option Object) := do
  let page ← paged.pageId index
  match paged.store.dictionary page with
  | .ok entries => return entries.find? "Rotate"
  | .error fault => throw (.object fault)

end PagedStore

/-! ## Changes -/

/-- A computation that may change the document. What was changed before a fault stays changed. -/
abbrev PageEdit (β : Type) := EStateM ReadFault PagedStore β

namespace PageEdit

/-- Reads something of the document. -/
def read (question : PagedStore → Except ReadFault β) : PageEdit β := fun paged =>
  match question paged with
  | .ok answer => .ok answer paged
  | .error fault => .error fault paged

/-- Changes the dictionary of a page. -/
def changePage (index : Nat) (change : Dictionary → Dictionary) : PageEdit Unit := do
  let page ← read fun paged => paged.pageId index
  let paged ← get
  match paged.store.modifyDictionary page change with
  | .ok store => set { paged with store }
  | .error fault => throw (.object fault)

/-- Rotates a page by an entry of its own. -/
def setRotation (index degrees : Nat) : PageEdit Unit :=
  changePage index fun entries => entries.set "Rotate" (.integer (degrees % 360 : Nat))

/-- Puts back the entry that rotates a page, or takes it away if there was none. -/
def restoreRotation (index : Nat) (own? : Option Object) : PageEdit Unit :=
  changePage index fun entries =>
    match own? with
    | some entry => entries.set "Rotate" entry
    | none => entries.erase "Rotate"

end PageEdit

end PlacedText
