import PlacedText.Fault.Warning
import PlacedText.Outline.Destination
import PlacedText.Text.Quoted
import Std.Data.HashSet

/-! # Reading named destinations

Named destinations stand in a tree, whose nodes hold names and further nodes, and in a dictionary of
the catalog. The first definition of a name stays, and every later one is reported.
-/

namespace PlacedText

variable {ι α : Type}

/-- A name with its destination. -/
structure DestinationDefinition (ι α : Type) where
  name : String
  destination : Destination ι α

namespace NamedDestinations

/-- The warning about a name that is defined again. -/
def duplicateWarning (name : String) : Warning :=
  .of .duplicateDestination ("duplicate named destination " ++ Text.quoted name)

/-- Adds a definition, or a warning if the name is defined already. -/
def addDefinition (known : NamedDestinations ι α × Array Warning)
    (definition : DestinationDefinition ι α) : NamedDestinations ι α × Array Warning :=
  if known.1.contains definition.name then
    (known.1, known.2.push (duplicateWarning definition.name))
  else (known.1.define definition.name definition.destination, known.2)

/-- The destinations that some definitions come to, and the warnings about the later ones of each
name. -/
def ofDefinitions (definitions : List (DestinationDefinition ι α)) :
    NamedDestinations ι α × List Warning :=
  let (named, warnings) := definitions.foldl addDefinition (empty, #[])
  (named, warnings.toList)

end NamedDestinations

/-- What has been read of a tree of names: the nodes that were met, and the definitions in order. -/
structure NameWalk (α : Type) where
  met : Std.HashSet Nat
  definitions : Array (DestinationDefinition Nat α)

namespace Store

variable [Scalar α]

/-- The deepest level of a tree of names that is read, the root having level zero. -/
def maxNameTreeLevel : Nat := 32

/-- The definitions in a list of names that are each followed by a destination. A pair that has no
name or no destination defines nothing. -/
def pairedDefinitions (store : Store) : List Object → List (DestinationDefinition Nat α)
  | key :: value :: rest =>
    match (store.resolve key).string?, store.definedDestination? value with
    | some name, some destination =>
      ⟨Text.ofStringObject name, destination⟩ :: pairedDefinitions store rest
    | _, _ => pairedDefinitions store rest
  | _ => []

/-- Reads a child of a node, unless it is referred to and was met before. -/
def readKid (store : Store) (readNode : Dictionary → NameWalk α → NameWalk α)
    (walk : NameWalk α) (kid : Object) : NameWalk α :=
  let enter (walk : NameWalk α) : NameWalk α :=
    match store.resolve kid with
    | .dictionary node => readNode node walk
    | _ => walk
  match kid.reference? with
  | some id =>
    if walk.met.contains id then walk else enter { walk with met := walk.met.insert id }
  | none => enter walk

/-- Reads the names of a node and then its children, so many levels in all. -/
def readNameTree (store : Store) : (levels : Nat) → Dictionary → NameWalk α → NameWalk α
  | 0, _, walk => walk
  | levels + 1, node, walk =>
    let own : List (DestinationDefinition Nat α) :=
      store.pairedDefinitions ((store.array? node "Names").getD [])
    ((store.array? node "Kids").getD []).foldl (store.readKid (store.readNameTree levels))
      { walk with definitions := walk.definitions ++ own }

/-- The definitions in the tree of names of the catalog. -/
def treeDefinitions (store : Store) (catalog : Dictionary) : List (DestinationDefinition Nat α) :=
  match store.dictionary? catalog "Names" >>= fun names => store.dictionary? names "Dests" with
  | some tree => (store.readNameTree (maxNameTreeLevel + 1) tree ⟨∅, #[]⟩).definitions.toList
  | none => []

/-- The definitions in the dictionary of destinations of the catalog. -/
def entryDefinitions (store : Store) (catalog : Dictionary) : List (DestinationDefinition Nat α) :=
  ((store.dictionary? catalog "Dests").getD []).filterMap fun (key, value) =>
    (store.definedDestination? value).map fun destination =>
      ⟨Text.Utf8.decodeLossy key, destination⟩

/-- The definitions of named destinations: those of the tree, then those of the dictionary. -/
def destinationDefinitions (store : Store) : List (DestinationDefinition Nat α) :=
  match store.catalog? with
  | some catalog => store.treeDefinitions catalog ++ store.entryDefinitions catalog
  | none => []

/-- The named destinations of the document, and the warnings about names defined again. -/
def namedDestinations (store : Store) : NamedDestinations Nat α × List Warning :=
  NamedDestinations.ofDefinitions store.destinationDefinitions

end Store

end PlacedText
