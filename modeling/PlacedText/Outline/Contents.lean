import PlacedText.Document.Basic
import PlacedText.Outline.Basic

/-! # The table of contents

Outline items become entries of the table of contents by looking up the pages that they lead to.
-/

namespace PlacedText

variable {ι α : Type}

namespace DestinationView

/-- The point of a view; a coordinate that is not given is zero. -/
def point [Scalar α] (view : DestinationView α) : Point α :=
  match view with
  | xyz left? top? => ⟨left?.getD 0.0, top?.getD 0.0⟩
  | other => ⟨0.0, 0.0⟩

end DestinationView

namespace OutlineItem

/-- The place that an item leads to, if it leads to a page and its name is defined. -/
def destination? (named : NamedDestinations ι α) (item : OutlineItem ι α) :
    Option (Destination ι α) :=
  match item.target with
  | .named name => named.get? name
  | .explicit destination => some destination
  | .unsupported => none

/-- The entry of an item that leads to one of the pages, at the first position of that page. -/
def resolve? [DecidableEq ι] [Scalar α] (named : NamedDestinations ι α) (pages : List ι)
    (item : OutlineItem ι α) : Option (ContentsEntry α) := do
  let destination ← item.destination? named
  let page ← pages.findIdx? (· == destination.page)
  let place := destination.view.point
  return { title := item.title, level := item.level, left := place.x, top := place.y, page }

end OutlineItem

/-- The table of contents of some outline items: the entries in the order of their pages, those of
one page in the order of the items. -/
def tableOfContents [DecidableEq ι] [Scalar α] (named : NamedDestinations ι α) (pages : List ι)
    (items : List (OutlineItem ι α)) : List (ContentsEntry α) :=
  (items.filterMap (OutlineItem.resolve? named pages)).mergeSort
    fun first second => first.page ≤ second.page

end PlacedText
