import PlacedText.Outline.NameTree
import PlacedText.Outline.Tree
import PlacedText.Proofs.Store.Lookup
import PlacedText.Store.PageTree

/-! # What is read depends on the objects

A store with the same objects as another gives the same answers, whatever numbers it will give out.
The trailer shows in the catalog only, and so in the outline and the named destinations.
-/

namespace PlacedText.Store

variable {store other : Store} (same : store.objects = other.objects)

include same

/-! ## Objects -/

theorem locate_congr : store.locate = other.locate :=
  funext fun _ => locateFrom_congr same

omit same in
/-- A number leads to a dictionary, or there is none to change in any store with the same
objects. -/
theorem locate_or_modifyDictionary (store : Store) (id : Nat) :
    (∃ at' entries, store.locate id = .ok (at', .dictionary entries)) ∨
      ∃ fault, ∀ other : Store, other.objects = store.objects → ∀ change,
        other.modifyDictionary id change = .error fault := by
  cases found : store.locate id with
  | error fault =>
    refine .inr ⟨fault, fun other same change => ?_⟩
    unfold modifyDictionary
    rw [locate_congr same, found]
  | ok place =>
    obtain ⟨at', object⟩ := place
    by_cases plain : ∃ entries, object = .dictionary entries
    · obtain ⟨entries, rfl⟩ := plain
      exact .inl ⟨at', entries, rfl⟩
    · refine .inr ⟨.notDictionary object.type, fun other same change => ?_⟩
      unfold modifyDictionary
      rw [locate_congr same, found]
      cases object with
      | dictionary entries => exact absurd ⟨entries, rfl⟩ plain
      | _ => rfl

theorem resolve_congr : store.resolve = other.resolve := by
  funext object
  unfold resolve Store.object
  rw [locate_congr same]

theorem dictionary_congr : store.dictionary = other.dictionary := by
  funext id
  unfold dictionary Store.object
  rw [locate_congr same]

theorem value?_congr : store.value? = other.value? := by
  funext entries key
  unfold value?
  rw [resolve_congr same]

theorem dictionary?_congr : store.dictionary? = other.dictionary? := by
  funext entries key
  unfold dictionary?
  rw [value?_congr same]

theorem array?_congr : store.array? = other.array? := by
  funext entries key
  unfold array?
  rw [value?_congr same]

theorem numbers?_congr {α : Type} [Scalar α] :
    (store.numbers? : List Object → Option (List α)) = other.numbers? := by
  funext items
  unfold numbers?
  rw [resolve_congr same]

/-! ## Pages -/

/-- The search for an attribute reads objects only. By induction on the number of nodes that it may
climb. -/
theorem inheritedFrom_congr (key : String) (page levels node : Nat) :
    store.inheritedFrom key page levels node = other.inheritedFrom key page levels node := by
  induction levels generalizing node with
  | zero => rfl
  | succ levels ih =>
    unfold inheritedFrom
    simp only [dictionary_congr same, resolve_congr same, ih]

theorem inherited_congr : store.inherited = other.inherited := by
  funext page key
  exact inheritedFrom_congr same key page maxTreeLevels page

/-! ## The table of contents -/

section

variable {α : Type} [Scalar α]

theorem explicitDestination?_congr :
    (store.explicitDestination? : List Object → Option (Destination Nat α)) =
      other.explicitDestination? := by
  funext items
  unfold explicitDestination? destinationView coordinate?
  rw [resolve_congr same]

theorem definedDestination?_congr :
    (store.definedDestination? : Object → Option (Destination Nat α)) =
      other.definedDestination? := by
  funext value
  unfold definedDestination?
  rw [resolve_congr same, array?_congr same, explicitDestination?_congr same]

theorem destinationTarget_congr :
    (store.destinationTarget : Object → OutlineTarget Nat α) = other.destinationTarget := by
  funext value
  unfold destinationTarget
  rw [resolve_congr same, explicitDestination?_congr same]

theorem outlineItem_congr :
    (store.outlineItem : Nat → Dictionary → OutlineItem Nat α) = other.outlineItem := by
  funext level node
  unfold outlineItem outlineTarget actionTarget
  simp only [value?_congr same, dictionary?_congr same, destinationTarget_congr same]

/-- The walk along the siblings reads objects only, if the walk below each of them is the same. -/
theorem readSiblings_congr (level : Nat) (readBelow : Nat → OutlineWalk α → OutlineWalk α)
    (left : Nat) (first? : Option Nat) (walk : OutlineWalk α) :
    store.readSiblings level readBelow left first? walk =
      other.readSiblings level readBelow left first? walk := by
  induction left generalizing first? walk with
  | zero => cases first? <;> rfl
  | succ left ih =>
    cases first? with
    | none => rfl
    | some id =>
      unfold readSiblings
      simp only [dictionary_congr same, outlineItem_congr same, ih]

/-- The walk of the levels reads objects only. By induction on the levels that are left. -/
theorem readLevels_congr (levels level first : Nat) (walk : OutlineWalk α) :
    store.readLevels levels level first walk = other.readLevels levels level first walk := by
  induction levels generalizing level first walk with
  | zero => rfl
  | succ levels ih =>
    have below : (store.readLevels levels (level + 1) : Nat → OutlineWalk α → OutlineWalk α) =
        other.readLevels levels (level + 1) :=
      funext fun first => funext fun walk => ih _ first walk
    unfold readLevels
    rw [below, readSiblings_congr same]

/-- The definitions in an array of pairs read objects only. -/
theorem pairedDefinitions_congr (items : List Object) :
    (store.pairedDefinitions items : List (DestinationDefinition Nat α)) =
      other.pairedDefinitions items := by
  match items with
  | [] => rfl
  | [_] => rfl
  | key :: value :: rest =>
    unfold pairedDefinitions
    rw [resolve_congr same, definedDestination?_congr same, pairedDefinitions_congr rest]

/-- The walk of a tree of names reads objects only. By induction on the levels that are left. -/
theorem readNameTree_congr (levels : Nat) (node : Dictionary) (walk : NameWalk α) :
    store.readNameTree levels node walk = other.readNameTree levels node walk := by
  induction levels generalizing node walk with
  | zero => rfl
  | succ levels ih =>
    have below : (store.readNameTree levels : Dictionary → NameWalk α → NameWalk α) =
        other.readNameTree levels := funext fun node => funext fun walk => ih node walk
    unfold readNameTree readKid
    simp only [array?_congr same, resolve_congr same, pairedDefinitions_congr same, below]

variable (trailer : store.trailer = other.trailer)

include trailer

theorem catalog?_congr : store.catalog? = other.catalog? := by
  unfold catalog?
  rw [value?_congr same, trailer]

/-- The outline depends on the objects and the trailer. -/
theorem outline_congr : (store.outline : List (OutlineItem Nat α)) = other.outline := by
  unfold outline outlineRoot?
  simp only [catalog?_congr same trailer, dictionary?_congr same, readLevels_congr same]

/-- The named destinations depend on the objects and the trailer. -/
theorem namedDestinations_congr :
    (store.namedDestinations : NamedDestinations Nat α × List Warning) =
      other.namedDestinations := by
  unfold namedDestinations destinationDefinitions treeDefinitions entryDefinitions
  simp only [catalog?_congr same trailer, dictionary?_congr same, readNameTree_congr same,
    definedDestination?_congr same]

end

end PlacedText.Store
