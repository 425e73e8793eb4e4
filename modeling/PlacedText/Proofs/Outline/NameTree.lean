import PlacedText.Proofs.Outline.Definitions
import PlacedText.Scalar.Binary64

/-! # Trees of names

The definitions of a node of the tree of names are the pairs at even positions of its names
(`Store.pairedDefinitions_eq_usablePairs`). If the nodes are those of a tree that is not too high,
its definitions are read in preorder, before those in the dictionary of the catalog; the first of
every name stays (`Store.namedDestinations_keepFirst`).
-/

namespace PlacedText

variable {α : Type} [Scalar α]

namespace Store

variable {store : Store}

/-! ## The names of a node -/

/-- The definition by the pair of a name and a destination at a position of some pairs, if both can
be used. -/
def usablePair? (store : Store) (items : List Object) (position : Nat) :
    Option (DestinationDefinition Nat α) := do
  let name ← (store.resolve (← items[2 * position]?)).string?
  let destination ← store.definedDestination? (← items[2 * position + 1]?)
  return ⟨Text.ofStringObject name, destination⟩

/-- The definitions by all pairs that can be used; a last item without a partner makes no pair. -/
def usablePairs (store : Store) (items : List Object) : List (DestinationDefinition Nat α) :=
  (List.range (items.length / 2)).filterMap (store.usablePair? items)

/-- The definitions in an array are those of its pairs that can be used, in their order. By
induction on the items, two at a time. -/
theorem pairedDefinitions_eq_usablePairs (store : Store) (items : List Object) :
    (store.pairedDefinitions items : List (DestinationDefinition Nat α)) =
      store.usablePairs items := by
  match items with
  | [] => rfl
  | [_] => simp [pairedDefinitions, usablePairs]
  | key :: value :: rest =>
    have count : (key :: value :: rest).length / 2 = rest.length / 2 + 1 := by
      simp only [List.length_cons]
      omega
    have later : (store.usablePair? (key :: value :: rest) ∘ Nat.succ :
        Nat → Option (DestinationDefinition Nat α)) = store.usablePair? rest := by
      funext position
      rfl
    have first : (store.usablePair? (key :: value :: rest) 0 :
        Option (DestinationDefinition Nat α)) = do
          let name ← (store.resolve key).string?
          let destination ← store.definedDestination? value
          return ⟨Text.ofStringObject name, destination⟩ := rfl
    unfold usablePairs pairedDefinitions
    rw [count, List.range_succ_eq_map, List.filterMap_cons, List.filterMap_map, later, first,
      pairedDefinitions_eq_usablePairs store rest]
    cases (store.resolve key).string? with
    | none => rfl
    | some name =>
      cases (store.definedDestination? value : Option (Destination Nat α)) with
      | none => rfl
      | some destination => rfl

/-- The definitions of a node, without those of its kids. -/
def ownDefinitions (store : Store) (node : Dictionary) : List (DestinationDefinition Nat α) :=
  store.usablePairs ((store.array? node "Names").getD [])

/-- The kids of a node, as it refers to them. -/
def nameKids (store : Store) (node : Dictionary) : List Object :=
  (store.array? node "Kids").getD []

end Store

/-! ## Reading kids -/

namespace NameWalk

/-- What is noted of a kid before it is read: its number, if it is referred to. -/
def meet (walk : NameWalk α) (kid : Object) : NameWalk α :=
  match kid.reference? with
  | some id => { walk with met := walk.met.insert id }
  | none => walk

/-- Adds the definitions of a node. -/
def append (walk : NameWalk α) (own : List (DestinationDefinition Nat α)) : NameWalk α :=
  { walk with definitions := walk.definitions ++ own }

variable {walk : NameWalk α} {own : List (DestinationDefinition Nat α)} {kid : Object} {id : Nat}

omit [Scalar α] in
theorem toList_definitions_append :
    (walk.append own).definitions.toList = walk.definitions.toList ++ own := by
  unfold append
  rw [Array.toList_appendList]

omit [Scalar α] in
theorem definitions_meet : (walk.meet kid).definitions = walk.definitions := by
  unfold meet
  split <;> rfl

omit [Scalar α] in
theorem mem_met_meet : id ∈ (walk.meet kid).met ↔ kid.reference? = some id ∨ id ∈ walk.met := by
  unfold meet
  split
  · next other refers => rw [Std.HashSet.mem_insert, beq_iff_eq, refers, Option.some_inj]
  · next direct => rw [direct]; simp

end NameWalk

namespace Store

variable {store : Store} {readNode : Dictionary → NameWalk α → NameWalk α} {walk : NameWalk α}
  {kid : Object} {node : Dictionary}

omit [Scalar α] in
theorem readKid_of_met {id : Nat} (refers : kid.reference? = some id) (known : id ∈ walk.met) :
    store.readKid readNode walk kid = walk := by
  unfold readKid
  rw [refers]
  exact if_pos (Std.HashSet.contains_iff_mem.mpr known)

omit [Scalar α] in
/-- A kid that was not met before is noted, and read if it is a node. -/
theorem readKid_of_unmet (unmet : ∀ id, kid.reference? = some id → id ∉ walk.met) :
    store.readKid readNode walk kid =
      match (store.resolve kid).dictionary? with
      | some node => readNode node (walk.meet kid)
      | none => walk.meet kid := by
  unfold readKid NameWalk.meet
  cases refers : kid.reference? with
  | none => cases store.resolve kid <;> rfl
  | some id =>
    dsimp only
    rw [if_neg fun known => unmet id refers (Std.HashSet.contains_iff_mem.mp known)]
    cases store.resolve kid <;> rfl

theorem readNameTree_succ (levels : Nat) :
    store.readNameTree (levels + 1) node walk =
      (store.nameKids node).foldl (store.readKid (store.readNameTree levels))
        (walk.append (store.ownDefinitions node)) := by
  unfold readNameTree ownDefinitions nameKids NameWalk.append
  rw [pairedDefinitions_eq_usablePairs]

/-! ## The root -/

/-- The root of the tree of names. -/
def nameTreeRoot? (store : Store) : Option Dictionary := do
  store.dictionary? (← store.dictionary? (← store.catalog?) "Names") "Dests"

/-- The definitions in the dictionary of destinations of the catalog. -/
def catalogDefinitions (store : Store) : List (DestinationDefinition Nat α) :=
  store.entryDefinitions (store.catalog?.getD [])

/-- All definitions are those in the tree and then those of the catalog. A document without a tree
has no more definitions than one whose tree is an empty root. -/
theorem destinationDefinitions_eq (store : Store) :
    (store.destinationDefinitions : List (DestinationDefinition Nat α)) =
      (store.readNameTree (maxNameTreeLevel + 1) (store.nameTreeRoot?.getD [])
        (⟨∅, #[]⟩ : NameWalk α)).definitions.toList ++ store.catalogDefinitions := by
  have blank : (store.readNameTree (maxNameTreeLevel + 1) []
      (⟨∅, #[]⟩ : NameWalk α)).definitions.toList = [] := rfl
  unfold destinationDefinitions catalogDefinitions nameTreeRoot? treeDefinitions
  cases store.catalog? with
  | none =>
    dsimp only [bind, Option.bind, Option.getD]
    rw [blank]
    rfl
  | some catalog =>
    dsimp only [bind, Option.bind, Option.getD]
    cases store.dictionary? catalog "Names" with
    | none => dsimp only; rw [blank]
    | some names =>
      dsimp only
      cases store.dictionary? names "Dests" with
      | none => dsimp only; rw [blank]
      | some root => rfl

end Store

/-! ## Trees -/

/-- The kids of a node and all nodes below them: the first kid, if it is a node with the forest
below it, and the kids after it. -/
inductive NameForest where
  | nil
  /-- A kid that leads to no node. -/
  | stray (kid : Object) (later : NameForest)
  | node (kid : Object) (entries : Dictionary) (below later : NameForest)

namespace NameForest

/-- The numbers that kids are referred to by. -/
def references : NameForest → List Nat
  | nil => []
  | stray kid later => kid.reference?.toList ++ later.references
  | node kid _ below later => kid.reference?.toList ++ (below.references ++ later.references)

/-- How many levels of nodes there are. -/
def height : NameForest → Nat
  | nil => 0
  | stray _ later => later.height
  | node _ _ below later => max (below.height + 1) later.height

/-- The definitions of all nodes in preorder. -/
def definitions (store : Store) : NameForest → List (DestinationDefinition Nat α)
  | nil => []
  | stray _ later => later.definitions store
  | node _ entries below later =>
    store.ownDefinitions entries ++ (below.definitions store ++ later.definitions store)

end NameForest

namespace Store

/-- What reading a forest has added to what was read before. -/
structure ReadsKids (store : Store) (forest : NameForest) (walk after : NameWalk α) : Prop where
  definitions : after.definitions.toList =
    walk.definitions.toList ++ forest.definitions store
  met : ∀ id ∈ after.met, id ∈ walk.met ∨ id ∈ forest.references

variable {store : Store} {forest below later : NameForest} {kids : List Object} {kid : Object}
  {entries : Dictionary} {walk between after : NameWalk α}

/-- A kid that is no node is met and passed over. -/
theorem ReadsKids.stray (readLater : store.ReadsKids later (walk.meet kid) after) :
    store.ReadsKids (.stray kid later) walk after where
  definitions := by
    rw [readLater.definitions, NameWalk.definitions_meet]
    rfl
  met := by
    intro id known
    unfold NameForest.references
    rw [List.mem_append, Option.mem_toList]
    rcases readLater.met id known with known | inLater
    · exact (NameWalk.mem_met_meet.mp known).elim (.inr ∘ .inl) .inl
    · exact .inr (.inr inLater)

/-- A node is read before what is below it and what is behind it. -/
theorem ReadsKids.node
    (readBelow : store.ReadsKids below ((walk.meet kid).append (store.ownDefinitions entries))
      between)
    (readLater : store.ReadsKids later between after) :
    store.ReadsKids (.node kid entries below later) walk after where
  definitions := by
    rw [readLater.definitions, readBelow.definitions, NameWalk.toList_definitions_append,
      NameWalk.definitions_meet, NameForest.definitions, List.append_assoc, List.append_assoc]
  met := by
    intro id known
    unfold NameForest.references
    rw [List.mem_append, List.mem_append, Option.mem_toList]
    rcases readLater.met id known with known | inLater
    · rcases readBelow.met id known with known | inBelow
      · exact (NameWalk.mem_met_meet.mp known).elim (.inr ∘ .inl) .inl
      · exact .inr (.inr (.inl inBelow))
    · exact .inr (.inr (.inr inLater))

/-- The names of a node: each leads to a page. -/
def namesEntry (names : List (String × Nat)) : Bytes × Object :=
  (Text.Utf8.encode "Names", .array (names.flatMap fun (name, page) =>
    [.string (Text.Utf8.encode name), .array [.reference page]]))

def kidsEntry (kids : List Object) : Bytes × Object := (Text.Utf8.encode "Kids", .array kids)

end Store

end PlacedText
