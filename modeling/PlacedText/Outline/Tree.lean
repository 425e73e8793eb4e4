import PlacedText.Outline.Destination
import Std.Data.HashSet

/-! # Reading the outline

The nodes of an outline are chained to their next sibling and to their first child. They are read
depth first, each node once, so that an outline whose links run in circles comes to an end.
-/

namespace PlacedText

variable {α : Type}

/-- What has been read of an outline: the nodes that were met and the items in order. -/
structure OutlineWalk (α : Type) where
  met : Std.HashSet Nat
  items : Array (OutlineItem Nat α)

namespace OutlineWalk

def start : OutlineWalk α := ⟨∅, #[]⟩

def meet (walk : OutlineWalk α) (id : Nat) : OutlineWalk α :=
  { walk with met := walk.met.insert id }

def push (walk : OutlineWalk α) (item : OutlineItem Nat α) : OutlineWalk α :=
  { walk with items := walk.items.push item }

end OutlineWalk

namespace Store

variable [Scalar α]

/-- The deepest level of the outline that is read. -/
def maxOutlineLevel : Nat := 64

/-- The most siblings that are read below one node. -/
def maxSiblings : Nat := 10000

/-- The node that another node refers to by a key. -/
def linked? (node : Dictionary) (key : String) : Option Nat :=
  node.find? key >>= Object.reference?

/-- The item of a node at a level. -/
def outlineItem (store : Store) (level : Nat) (node : Dictionary) : OutlineItem Nat α where
  title := ((store.value? node "Title" >>= Object.string?).map Text.ofStringObject).getD ""
  level := level
  target := store.outlineTarget node

/-- Reads a node and its later siblings, at most so many, each followed by what is below it. It ends
at a node that was met before and at a link that leads to no dictionary. -/
def readSiblings (store : Store) (level : Nat)
    (readBelow : Nat → OutlineWalk α → OutlineWalk α) :
    (left : Nat) → Option Nat → OutlineWalk α → OutlineWalk α
  | _, none, walk => walk
  | 0, some id, walk => walk.meet id
  | left + 1, some id, walk =>
    if walk.met.contains id then walk
    else
      let walk := walk.meet id
      match store.dictionary id with
      | .error _ => walk
      | .ok node =>
        let walk := walk.push (store.outlineItem level node)
        let walk := match linked? node "First" with
          | some child => readBelow child walk
          | none => walk
        readSiblings store level readBelow left (linked? node "Next") walk

/-- Reads the level that begins with a node, and so many levels in all. -/
def readLevels (store : Store) :
    (levels : Nat) → (level first : Nat) → OutlineWalk α → OutlineWalk α
  | 0, _, _, walk => walk
  | levels + 1, level, first, walk =>
    store.readSiblings level (store.readLevels levels (level + 1)) maxSiblings (some first) walk

/-- The node that the outline begins with. -/
def outlineRoot? (store : Store) : Option Nat := do
  linked? (← store.dictionary? (← store.catalog?) "Outlines") "First"

/-- The items of the outline, each before those below it. -/
def outline (store : Store) : List (OutlineItem Nat α) :=
  match store.outlineRoot? with
  | some first => (store.readLevels maxOutlineLevel 1 first .start).items.toList
  | none => []

end Store

end PlacedText
