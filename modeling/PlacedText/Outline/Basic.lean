import PlacedText.Scalar.Basic
import Std.Data.HashMap

/-! # Outline items and destinations

An outline is flattened into items, each with the nesting level of its node and the place it leads
to. Named destinations are places that items refer to by name. Pages are told apart by their names
in a type `ι`, such as the numbers of their objects.
-/

namespace PlacedText

/-- Where a destination points on its page. -/
inductive DestinationView (α : Type) where
  /-- A point; a coordinate that is missing stays as it is. -/
  | xyz (left? top? : Option α)
  /-- A view without a point. -/
  | other

/-- A place in the document: a page and a view of it. -/
structure Destination (ι α : Type) where
  page : ι
  view : DestinationView α

/-- What an outline item leads to. -/
inductive OutlineTarget (ι α : Type) where
  | named (name : String)
  | explicit (destination : Destination ι α)
  /-- Anything but a page of this document. -/
  | unsupported

/-- A node of the outline; the roots have level one. -/
structure OutlineItem (ι α : Type) where
  title : String
  level : Nat
  target : OutlineTarget ι α

/-- Destinations by name. -/
structure NamedDestinations (ι α : Type) where
  byName : Std.HashMap String (Destination ι α)

namespace NamedDestinations

variable {ι α : Type}

def empty : NamedDestinations ι α := ⟨∅⟩

def get? (named : NamedDestinations ι α) (name : String) : Option (Destination ι α) :=
  named.byName[name]?

def contains (named : NamedDestinations ι α) (name : String) : Bool := named.byName.contains name

/-- Defines a name; the first definition of a name stays. -/
def define (named : NamedDestinations ι α) (name : String) (destination : Destination ι α) :
    NamedDestinations ι α :=
  ⟨named.byName.insertIfNew name destination⟩

def size (named : NamedDestinations ι α) : Nat := named.byName.size

end NamedDestinations

end PlacedText
