import PlacedText.Proofs.Outline.NameTree
import PlacedText.Proofs.Store.Lookup
import Mathlib.Data.List.Chain

/-! # Places in a graph of names

The nodes that the kids of a tree of names lead to need not be those of a tree. A node is told by
its place: the number that it is referred to by, or else its position among the kids of the node it
is in. A path goes from the root from kid to kid. Two places may be those of the same node
(`Store.SameNode`), but a place is that of one node (`Store.SameNode.nodeAt?_eq`).
-/

namespace PlacedText

theorem Object.eq_of_reference? {object : Object} {id : Nat}
    (refers : object.reference? = some id) : object = .reference id := by
  cases object with
  | reference other => rw [Option.some.inj refers]
  | _ => cases refers

/-- The place of a node: the number of the nearest node from it upwards that is referred to, none
standing for the root, and the positions among the kids from there on, the last one first. -/
structure NamePlace where
  anchor? : Option Nat
  positions : List Nat
deriving DecidableEq

namespace NamePlace

/-- The root, as the catalog leads to it. -/
def top : NamePlace := ⟨none, []⟩

/-- The node that is referred to by a number. -/
def numbered (id : Nat) : NamePlace := ⟨some id, []⟩

/-- The node that is a kid of another without being referred to. -/
def within (place : NamePlace) (position : Nat) : NamePlace :=
  ⟨place.anchor?, position :: place.positions⟩

/-- The place of a kid. -/
def kid (place : NamePlace) (position : Nat) (kid : Object) : NamePlace :=
  match kid.reference? with
  | some id => numbered id
  | none => place.within position

/-- Whether a node is another one or stands in it, without references between them. -/
def LiesIn (inner outer : NamePlace) : Prop :=
  inner.anchor? = outer.anchor? ∧ outer.positions <:+ inner.positions

variable {place inner : NamePlace} {position other id : Nat} {object : Object}

theorem LiesIn.refl (place : NamePlace) : place.LiesIn place := ⟨rfl, List.suffix_rfl⟩

theorem LiesIn.of_within (lies : inner.LiesIn (place.within position)) : inner.LiesIn place :=
  ⟨lies.1, (List.suffix_cons position place.positions).trans lies.2⟩

/-- A node stands in one kid only. -/
theorem LiesIn.position_eq (first : inner.LiesIn (place.within position))
    (second : inner.LiesIn (place.within other)) : position = other := by
  have same : (position :: place.positions) = (other :: place.positions) :=
    (List.suffix_of_suffix_length_le first.2 second.2 le_rfl).eq_of_length rfl
  exact (List.cons.inj same).1

theorem not_liesIn_within : ¬ place.LiesIn (place.within position) := fun lies => by
  have longer := lies.2.length_le
  simp only [within, List.length_cons] at longer
  omega

end NamePlace

namespace Store

open NamePlace (top numbered)

variable {store : Store} {root node : Dictionary} {place child parent first second : NamePlace}
  {position id : Nat} {kid : Object}

/-! ## Nodes -/

/-- The node that is a given number of kids below an anchor. -/
def nodeBelow? (store : Store) (root : Dictionary) (anchor? : Option Nat) :
    List Nat → Option Dictionary
  | [] =>
    match anchor? with
    | some id => (store.resolve (.reference id)).dictionary?
    | none => some root
  | position :: above => do
    (← (store.nameKids (← store.nodeBelow? root anchor? above))[position]?).dictionary?

/-- The node at a place. -/
def nodeAt? (store : Store) (root : Dictionary) (place : NamePlace) : Option Dictionary :=
  store.nodeBelow? root place.anchor? place.positions

theorem nodeAt?_within :
    store.nodeAt? root (parent.within position) = (store.nodeAt? root parent).bind fun node =>
      (store.nameKids node)[position]?.bind Object.dictionary? := rfl

/-- A kid of a place has the node that its object leads to. -/
theorem nodeAt?_kid (found : store.nodeAt? root parent = some node)
    (isKid : (store.nameKids node)[position]? = some kid) :
    store.nodeAt? root (parent.kid position kid) = (store.resolve kid).dictionary? := by
  unfold NamePlace.kid
  cases kid with
  | reference id => rfl
  | _ =>
    dsimp only [Object.reference?]
    rw [nodeAt?_within, found, Option.bind_some, isKid]
    rfl

/-- Whether a node is among the kids of another. -/
def IsKid (store : Store) (root : Dictionary) (child parent : NamePlace) : Prop :=
  ∃ node position kid, store.nodeAt? root parent = some node ∧
    (store.nameKids node)[position]? = some kid ∧ child = parent.kid position kid ∧
    (store.nodeAt? root child).isSome

/-- A place among the direct kids of another one has no other parent. -/
theorem IsKid.parent_eq (isKid : store.IsKid root (place.within position) parent) :
    parent = place := by
  obtain ⟨node, other, kid, -, -, same, -⟩ := isKid
  unfold NamePlace.kid at same
  split at same
  · cases congrArg NamePlace.positions same
  · obtain ⟨anchor?, positions⟩ := parent
    obtain ⟨anchor?', positions'⟩ := place
    cases same
    rfl

/-! ## Paths -/

/-- Whether some nodes lead from the root to the first of them, each being a kid of the next one. -/
def IsPath (store : Store) (root : Dictionary) (path : List NamePlace) : Prop :=
  path.IsChain (store.IsKid root) ∧ path.getLast? = some top

theorem isPath_top : store.IsPath root [top] := ⟨.singleton _, rfl⟩

theorem IsPath.cons {above : List NamePlace} (path : store.IsPath root (parent :: above))
    (isKid : store.IsKid root child parent) : store.IsPath root (child :: parent :: above) :=
  ⟨.cons_cons isKid path.1, by rw [List.getLast?_cons_cons]; exact path.2⟩

theorem IsPath.tail {above : List NamePlace}
    (path : store.IsPath root (child :: parent :: above)) :
    store.IsKid root child parent ∧ store.IsPath root (parent :: above) := by
  obtain ⟨chain, last⟩ := path
  rw [List.getLast?_cons_cons] at last
  exact ⟨(List.isChain_cons_cons.mp chain).1, (List.isChain_cons_cons.mp chain).2, last⟩

/-- There is a node at the end of a path. -/
theorem IsPath.isSome_nodeAt? {above : List NamePlace} (path : store.IsPath root (place :: above)) :
    (store.nodeAt? root place).isSome := by
  cases above with
  | nil =>
    obtain rfl : place = top := Option.some.inj path.2
    rfl
  | cons parent above =>
    obtain ⟨⟨_, _, _, -, -, -, found⟩, -⟩ := path.tail
    exact found

/-- A path to a kid within a node leads through the node. -/
theorem IsPath.mem_of_within_mem {path : List NamePlace} (isPath : store.IsPath root path)
    (member : place.within position ∈ path) : place ∈ path := by
  induction path with
  | nil => cases member
  | cons first above ih =>
    cases above with
    | nil =>
      obtain rfl : first = top := Option.some.inj isPath.2
      cases congrArg NamePlace.positions (List.mem_singleton.mp member)
    | cons parent above =>
      obtain ⟨isKid, rest⟩ := isPath.tail
      rcases List.mem_cons.mp member with rfl | member
      · rw [isKid.parent_eq]
        exact List.mem_cons_of_mem _ List.mem_cons_self
      · exact List.mem_cons_of_mem _ (ih rest member)

/-- A path that passes no node twice does not pass a kid within its last node. -/
theorem IsPath.within_notMem {above : List NamePlace} (path : store.IsPath root (place :: above))
    (simple : (place :: above).Nodup) : place.within position ∉ place :: above := by
  intro member
  rcases List.mem_cons.mp member with same | member
  · have lies : place.LiesIn (place.within position) := by
      rw [same]
      exact .refl place
    exact NamePlace.not_liesIn_within lies
  · cases above with
    | nil => cases member
    | cons parent above =>
      exact (List.nodup_cons.mp simple).1 (path.tail.2.mem_of_within_mem member)

/-! ## Nodes with several places -/

/-- The number that the root of the tree of names is referred to by, if it is. -/
def nameTreeReference? (store : Store) : Option Nat := do
  let names ← store.dictionary? (← store.catalog?) "Names"
  (← names.find? "Dests").reference?

/-- The number of the object that is found at an anchor. -/
def anchorObject? (store : Store) (anchor? : Option Nat) : Option Nat :=
  (anchor?.or store.nameTreeReference?).bind fun id => (store.locate id).toOption.map Prod.fst

theorem anchorObject?_some :
    store.anchorObject? (some id) = (store.locate id).toOption.map Prod.fst := rfl

/-- Whether two places are those of the same node: of one object, or of the same kid within it. -/
def SameNode (store : Store) (first second : NamePlace) : Prop :=
  store.anchorObject? first.anchor? = store.anchorObject? second.anchor? ∧
    first.positions = second.positions

/-- A root that the catalog refers to has the entries of the object that the reference leads to. -/
theorem nameTreeRoot?_of_reference (refers : store.nameTreeReference? = some id) :
    store.nameTreeRoot? = entriesOf (store.resolve (.reference id)) := by
  unfold nameTreeReference? at refers
  obtain ⟨catalog, isCatalog, refers⟩ := Option.bind_eq_some_iff.mp refers
  obtain ⟨names, isNames, refers⟩ := Option.bind_eq_some_iff.mp refers
  obtain ⟨value, isValue, refers⟩ := Option.bind_eq_some_iff.mp refers
  obtain rfl := Object.eq_of_reference? refers
  unfold nameTreeRoot?
  simp only [isCatalog, isNames, bind, Option.bind_some]
  unfold dictionary? value?
  rw [isValue]
  rfl

/-- A number that leads to a dictionary leads to the object with the number that is found. -/
theorem exists_locate_of_dictionary?
    (found : (store.resolve (.reference id)).dictionary? = some node) :
    ∃ at', store.locate id = .ok (at', .dictionary node) ∧
      store.objects[at']? = some (.dictionary node) := by
  unfold resolve object at found
  dsimp only at found
  cases located : store.locate id with
  | error fault =>
    rw [located] at found
    cases found
  | ok place =>
    obtain ⟨at', value⟩ := place
    rw [located] at found
    dsimp only [Except.map] at found
    obtain rfl : value = .dictionary node := by
      cases value with
      | dictionary entries => rw [Option.some.inj found]
      | _ => cases found
    exact ⟨at', rfl, (getElem?_of_locateFrom located).1⟩

theorem resolve_of_locate {at' : Nat} {value : Object}
    (located : store.locate id = .ok (at', value)) : store.resolve (.reference id) = value := by
  unfold resolve object
  dsimp only
  rw [located]
  rfl

/-- The node at an anchor has the entries of the object that is found there. -/
theorem exists_anchor_object {anchor? : Option Nat} {at' : Nat}
    (isRoot : store.nameTreeRoot?.getD [] = root) (located : store.anchorObject? anchor? = some at')
    (found : store.nodeBelow? root anchor? [] = some node) :
    ∃ value, store.objects[at']? = some value ∧ node = (entriesOf value).getD [] := by
  cases anchor? with
  | some id =>
    obtain ⟨there, isThere, present⟩ := exists_locate_of_dictionary? found
    rw [anchorObject?_some, isThere] at located
    obtain rfl : there = at' := Option.some.inj located
    exact ⟨_, present, rfl⟩
  | none =>
    rw [anchorObject?, Option.none_or] at located
    obtain ⟨id, refers, located⟩ := Option.bind_eq_some_iff.mp located
    cases isThere : store.locate id with
    | error fault =>
      rw [isThere] at located
      cases located
    | ok place =>
      obtain ⟨there, value⟩ := place
      rw [isThere] at located
      obtain rfl : there = at' := Option.some.inj located
      refine ⟨value, (getElem?_of_locateFrom isThere).1, ?_⟩
      rw [← resolve_of_locate isThere, ← nameTreeRoot?_of_reference refers, isRoot]
      exact (Option.some.inj found).symm

/-- Two anchors at one object lead to one node. -/
theorem nodeBelow?_nil_eq {other : Dictionary} {anchor? anchor?' : Option Nat}
    (isRoot : store.nameTreeRoot?.getD [] = root)
    (same : store.anchorObject? anchor? = store.anchorObject? anchor?')
    (found : store.nodeBelow? root anchor? [] = some node)
    (found' : store.nodeBelow? root anchor?' [] = some other) : node = other := by
  cases located : store.anchorObject? anchor? with
  | some at' =>
    obtain ⟨value, present, rfl⟩ := exists_anchor_object isRoot located found
    obtain ⟨value', present', rfl⟩ := exists_anchor_object isRoot (same ▸ located) found'
    rw [Option.some.inj (present.symm.trans present')]
  | none =>
    have isTop {anchor? : Option Nat} {node : Dictionary}
        (unlocated : store.anchorObject? anchor? = none)
        (found : store.nodeBelow? root anchor? [] = some node) : root = node := by
      cases anchor? with
      | none => exact Option.some.inj found
      | some id =>
        obtain ⟨there, isThere, -⟩ := exists_locate_of_dictionary? found
        rw [anchorObject?_some, isThere] at unlocated
        cases unlocated
    exact (isTop located found).symm.trans (isTop (same ▸ located) found')

/-- **A place is that of one node**: two places of the same node lead to the same entries. -/
theorem SameNode.nodeAt?_eq (isRoot : store.nameTreeRoot?.getD [] = root)
    (same : store.SameNode first second) (found : (store.nodeAt? root first).isSome)
    (found' : (store.nodeAt? root second).isSome) :
    store.nodeAt? root first = store.nodeAt? root second := by
  obtain ⟨anchor?, positions⟩ := first
  obtain ⟨anchor?', positions'⟩ := second
  obtain ⟨anchors, rfl⟩ : store.anchorObject? anchor? = store.anchorObject? anchor?' ∧
    positions = positions' := same
  unfold nodeAt? at found found' ⊢
  induction positions with
  | nil =>
    obtain ⟨node, isNode⟩ := Option.isSome_iff_exists.mp found
    obtain ⟨other, isOther⟩ := Option.isSome_iff_exists.mp found'
    rw [isNode, isOther, nodeBelow?_nil_eq isRoot anchors isNode isOther]
  | cons position above ih =>
    obtain ⟨_, isNode⟩ := Option.isSome_iff_exists.mp found
    obtain ⟨_, isOther⟩ := Option.isSome_iff_exists.mp found'
    obtain ⟨parent, isParent, -⟩ := Option.bind_eq_some_iff.mp isNode
    obtain ⟨parent', isParent', -⟩ := Option.bind_eq_some_iff.mp isOther
    have parents := ih (Option.isSome_iff_exists.mpr ⟨_, isParent⟩)
      (Option.isSome_iff_exists.mpr ⟨_, isParent'⟩)
    unfold nodeBelow?
    rw [parents]

end Store

end PlacedText
