import PlacedText.Proofs.Outline.NameVisits
import Mathlib.Data.List.Perm.Subperm

/-! # Names that are defined once

Whatever its references lead to, reading a graph of names reads every place at most once, and reads
what is at the end of a path from the root unless the path passes a node that is met too deep
(`Store.VisitsPlacesOnce`). A node that has two places, like a root that is its own kid, is read
twice: where every name is defined once, this is what warnings about duplicates come from
(`Store.namedDestinations_readsPlacesOnce`).
-/

namespace PlacedText

variable {α : Type} [Scalar α]

namespace Store

open NamePlace (top numbered)

variable {store : Store} {root : Dictionary} {visits : List NameVisit}
  {place first second : NamePlace} {above : List NamePlace} {position : Nat}
  {definition : DestinationDefinition Nat α} {after : NameWalk α}

/-! ## The whole tree -/

/-- Whether a node is met and read. -/
def Reads (visits : List NameVisit) (place : NamePlace) : Prop :=
  ∃ visit ∈ visits, visit.place = place ∧ visit.IsRead

/-- Whether a node is met and not read, because it is too deep. -/
def Misses (visits : List NameVisit) (place : NamePlace) : Prop :=
  ∃ visit ∈ visits, visit.place = place ∧ ¬ visit.IsRead

theorem reads_or_misses (met : place ∈ visits.map NameVisit.place) :
    Reads visits place ∨ Misses visits place := by
  obtain ⟨visit, member, same⟩ := List.mem_map.mp met
  by_cases isRead : visit.IsRead
  · exact .inl ⟨visit, member, same, isRead⟩
  · exact .inr ⟨visit, member, same, isRead⟩

/-- The node at the end of a path is read, unless the path passes a node that is missed. -/
theorem Visits.reads_of_isPath {begun : NamePlace → Prop}
    (read : store.Visits root begun ⟨∅, #[]⟩ after visits)
    (isTop : top ∈ visits.map NameVisit.place) (path : store.IsPath root (place :: above)) :
    Reads visits place ∨ ∃ missed ∈ place :: above, Misses visits missed := by
  induction above generalizing place with
  | nil =>
    obtain rfl : place = top := Option.some.inj path.2
    exact (reads_or_misses isTop).imp_right fun missed => ⟨_, List.mem_cons_self, missed⟩
  | cons parent above ih =>
    obtain ⟨isKid, pathAbove⟩ := path.tail
    rcases ih pathAbove with ⟨visit, member, rfl, isRead⟩ | ⟨missed, member, isMissed⟩
    · have met : place ∈ visits.map NameVisit.place := by
        rcases read.closed visit member isRead place isKid with met | ⟨id, known, rfl⟩
        · exact met
        · exact read.entered id known Std.HashSet.not_mem_empty path.isSome_nodeAt?
      exact (reads_or_misses met).imp_right fun missed => ⟨place, List.mem_cons_self, missed⟩
    · exact .inr ⟨missed, List.mem_cons_of_mem _ member, isMissed⟩

/-- Whether some visits are those of a whole tree of names: they make up the definitions, no place
is met twice, each by a path that passes no place twice and has at most 33 links, and what is at the
end of a path is read unless the path passes a node that is missed. -/
structure VisitsPlacesOnce (α : Type) [Scalar α] (store : Store) (root : Dictionary)
    (visits : List NameVisit) : Prop where
  definitions : (store.destinationDefinitions : List (DestinationDefinition Nat α)) =
    store.readDefinitions root visits ++ store.catalogDefinitions
  distinct : (visits.map NameVisit.place).Nodup
  paths : ∀ visit ∈ visits, store.IsPath root (visit.place :: visit.above) ∧
    (visit.place :: visit.above).Nodup ∧ visit.above.length ≤ 33
  reached : ∀ place above, store.IsPath root (place :: above) →
    Reads visits place ∨ ∃ missed ∈ place :: above, Misses visits missed

/-- Reading a graph of names comes to visits of its places that meet none of them twice. -/
theorem exists_visitsPlacesOnce (isRoot : store.nameTreeRoot?.getD [] = root) :
    ∃ visits, store.VisitsPlacesOnce α root visits := by
  have begun : store.ComesTo root (maxNameTreeLevel + 1) top [] root (⟨∅, #[]⟩ : NameWalk α) :=
    { path := isPath_top
      simple := List.nodup_singleton _
      found := rfl
      depth := Nat.zero_add _
      met := by
        intro other member id anchor
        rw [List.mem_singleton.mp member] at anchor
        cases anchor }
  obtain ⟨visits, read, isTop⟩ := visitsNodes _ begun
  have definitions : (store.destinationDefinitions : List (DestinationDefinition Nat α)) =
      store.readDefinitions root visits ++ store.catalogDefinitions := by
    rw [destinationDefinitions_eq, isRoot, read.definitions]
    rfl
  exact ⟨visits, definitions, read.distinct, read.paths, fun _ _ => read.reads_of_isPath isTop⟩

/-! ## Names that are defined once -/

/-- The definition by a pair of the node at a place. -/
def definitionAt? (store : Store) (root : Dictionary) (place : NamePlace) (position : Nat) :
    Option (DestinationDefinition Nat α) :=
  store.usablePair? ((store.array? ((store.nodeAt? root place).getD []) "Names").getD []) position

theorem lt_length_of_usablePair? {items : List Object}
    (found : store.usablePair? items position = some definition) :
    2 * position + 1 < items.length := by
  obtain ⟨_, -, found⟩ := Option.bind_eq_some_iff.mp found
  obtain ⟨_, -, found⟩ := Option.bind_eq_some_iff.mp found
  obtain ⟨_, isValue, -⟩ := Option.bind_eq_some_iff.mp found
  exact (List.getElem?_eq_some_iff.mp isValue).1

/-- A definition is one of the pairs of an array that can be used. -/
theorem mem_usablePairs {items : List Object} :
    definition ∈ store.usablePairs items ↔
      ∃ position, store.usablePair? items position = some definition := by
  unfold usablePairs
  rw [List.mem_filterMap]
  constructor
  · rintro ⟨position, -, found⟩
    exact ⟨position, found⟩
  · rintro ⟨position, found⟩
    have within := lt_length_of_usablePair? found
    exact ⟨position, List.mem_range.mpr (by omega), found⟩

theorem mem_definitionsAt :
    definition ∈ store.definitionsAt root place ↔
      ∃ position, store.definitionAt? root place position = some definition := mem_usablePairs

/-- Whether every name is defined once: by one pair of one node that a path leads to, or by one
entry of the dictionary of the catalog. -/
structure DefinesOnce (α : Type) [Scalar α] (store : Store) (root : Dictionary) : Prop where
  pairs : ∀ {first second : NamePlace} {above above' : List NamePlace} {position position' : Nat}
    {definition definition' : DestinationDefinition Nat α},
    store.IsPath root (first :: above) → store.IsPath root (second :: above') →
    store.definitionAt? root first position = some definition →
    store.definitionAt? root second position' = some definition' →
    definition.name = definition'.name → store.SameNode first second ∧ position = position'
  entries : (store.catalogDefinitions.map (DestinationDefinition.name (α := α))).Nodup
  apart : ∀ {place : NamePlace} {above : List NamePlace} {position : Nat}
    {definition other : DestinationDefinition Nat α}, store.IsPath root (place :: above) →
    store.definitionAt? root place position = some definition →
    other ∈ store.catalogDefinitions → definition.name ≠ other.name

/-- Whether none of the nodes that are read and define something is read at two places. -/
def ReadsNodesOnce (α : Type) [Scalar α] (store : Store) (root : Dictionary)
    (visits : List NameVisit) : Prop :=
  ∀ first second, Reads visits first → Reads visits second → store.SameNode first second →
    (store.definitionsAt root first : List (DestinationDefinition Nat α)) ≠ [] → first = second

theorem VisitsPlacesOnce.path (read : store.VisitsPlacesOnce α root visits) {visit : NameVisit}
    (member : visit ∈ visits) : store.IsPath root (visit.place :: visit.above) :=
  (read.paths visit member).1

/-- What is read are the definitions of the places that are visited. -/
theorem mem_readDefinitions :
    definition ∈ store.readDefinitions root visits ↔
      ∃ place, Reads visits place ∧ definition ∈ store.definitionsAt root place := by
  unfold readDefinitions Reads
  simp only [List.mem_flatMap, List.mem_filter, decide_eq_true_eq]
  constructor
  · rintro ⟨visit, ⟨member, isRead⟩, defined⟩
    exact ⟨visit.place, ⟨visit, member, rfl, isRead⟩, defined⟩
  · rintro ⟨_, ⟨visit, member, rfl, isRead⟩, defined⟩
    exact ⟨visit, ⟨member, isRead⟩, defined⟩

/-- The names that the node at a place defines. -/
def namesAt (α : Type) [Scalar α] (store : Store) (root : Dictionary) (place : NamePlace) :
    List String :=
  (store.definitionsAt root place).map (DestinationDefinition.name (α := α))

theorem map_name_readDefinitions :
    (store.readDefinitions root visits).map (DestinationDefinition.name (α := α)) =
      (visits.filter (·.IsRead)).flatMap fun visit => store.namesAt α root visit.place :=
  List.map_flatMap

/-- A definition that is read is by some pair of a node that a path leads to. -/
theorem VisitsPlacesOnce.exists_definitionAt? (read : store.VisitsPlacesOnce α root visits)
    (member : definition ∈ store.readDefinitions root visits) :
    ∃ place above position, store.IsPath root (place :: above) ∧
      store.definitionAt? root place position = some definition := by
  obtain ⟨_, ⟨visit, isVisit, rfl, -⟩, member⟩ := mem_readDefinitions.mp member
  obtain ⟨position, isDefinition⟩ := mem_definitionsAt.mp member
  exact ⟨_, _, position, read.path isVisit, isDefinition⟩

/-- A node with names that is read at two places is read twice. -/
theorem VisitsPlacesOnce.readsNodesOnce (isRoot : store.nameTreeRoot?.getD [] = root)
    (read : store.VisitsPlacesOnce α root visits)
    (distinct : ((store.readDefinitions root visits).map
      (DestinationDefinition.name (α := α))).Nodup) : store.ReadsNodesOnce α root visits := by
  rw [map_name_readDefinitions, List.nodup_flatMap] at distinct
  rintro _ _ ⟨first, isFirst, rfl, readsFirst⟩ ⟨second, isSecond, rfl, readsSecond⟩ same defines
  by_contra different
  have : Std.Symm (Function.onFun List.Disjoint fun visit : NameVisit =>
      store.namesAt α root visit.place) := ⟨fun _ _ => List.disjoint_symm⟩
  have apart : (store.namesAt α root first.place).Disjoint (store.namesAt α root second.place) :=
    distinct.2.forall (List.mem_filter.mpr ⟨isFirst, decide_eq_true readsFirst⟩)
      (List.mem_filter.mpr ⟨isSecond, decide_eq_true readsSecond⟩)
      fun equal => different (congrArg NameVisit.place equal)
  -- Both places have the same names, so these are disjoint only if there are none.
  have sameNames : store.namesAt α root second.place = store.namesAt α root first.place := by
    have sameNode := same.nodeAt?_eq isRoot (read.path isFirst).isSome_nodeAt?
      (read.path isSecond).isSome_nodeAt?
    unfold namesAt definitionsAt
    rw [sameNode]
  rw [sameNames] at apart
  have isEmpty : store.namesAt α root first.place = [] :=
    List.eq_nil_iff_forall_not_mem.mpr fun name member => apart member member
  exact defines (List.map_eq_nil_iff.mp isEmpty)

namespace DefinesOnce

variable (once : store.DefinesOnce α root)

include once in
/-- No node defines a name in two of its pairs. -/
theorem nodup_namesAt (path : store.IsPath root (place :: above)) :
    (store.namesAt α root place).Nodup := by
  unfold namesAt definitionsAt ownDefinitions usablePairs
  rw [List.map_filterMap]
  refine List.Nodup.filterMap ?_ List.nodup_range
  intro position position' name found found'
  obtain ⟨definition, isDefinition, rfl⟩ := Option.map_eq_some_iff.mp found
  obtain ⟨definition', isDefinition', same⟩ := Option.map_eq_some_iff.mp found'
  exact (once.pairs path path isDefinition isDefinition' same.symm).2

include once in
/-- Places that define the same name have the same node. -/
theorem sameNode_of_mem_namesAt {above' : List NamePlace} {name : String}
    (path : store.IsPath root (first :: above)) (path' : store.IsPath root (second :: above'))
    (member : name ∈ store.namesAt α root first) (member' : name ∈ store.namesAt α root second) :
    store.SameNode first second := by
  obtain ⟨definition, defined, rfl⟩ := List.mem_map.mp member
  obtain ⟨definition', defined', same⟩ := List.mem_map.mp member'
  obtain ⟨_, isDefinition⟩ := mem_definitionsAt.mp defined
  obtain ⟨_, isDefinition'⟩ := mem_definitionsAt.mp defined'
  exact (once.pairs path path' isDefinition isDefinition' same.symm).1

include once in
/-- Where every name is defined once, no name is read twice if no node is. -/
theorem nodup_readDefinitions (read : store.VisitsPlacesOnce α root visits)
    (nodesOnce : store.ReadsNodesOnce α root visits) :
    ((store.readDefinitions root visits).map (DestinationDefinition.name (α := α))).Nodup := by
  rw [map_name_readDefinitions, List.nodup_flatMap]
  refine ⟨fun visit member => once.nodup_namesAt (read.path (List.mem_filter.mp member).1), ?_⟩
  have apart := (List.pairwise_map.mp read.distinct).filter fun visit => decide visit.IsRead
  refine apart.imp_of_mem fun {first second} isFirst isSecond different name member member' => ?_
  obtain ⟨isFirst, readsFirst⟩ := List.mem_filter.mp isFirst
  obtain ⟨isSecond, readsSecond⟩ := List.mem_filter.mp isSecond
  have sameNode := once.sameNode_of_mem_namesAt (read.path isFirst) (read.path isSecond) member
    member'
  obtain ⟨_, defined, -⟩ := List.mem_map.mp member
  exact different (nodesOnce _ _ ⟨first, isFirst, rfl, of_decide_eq_true readsFirst⟩
    ⟨second, isSecond, rfl, of_decide_eq_true readsSecond⟩ sameNode (List.ne_nil_of_mem defined))

include once in
/-- No definition that is read has the name of one in the catalog. -/
theorem disjoint_names (read : store.VisitsPlacesOnce α root visits) :
    ((store.readDefinitions root visits).map (DestinationDefinition.name (α := α))).Disjoint
      (store.catalogDefinitions.map (DestinationDefinition.name (α := α))) := by
  intro name ofPair ofEntry
  obtain ⟨definition, member, rfl⟩ := List.mem_map.mp ofPair
  obtain ⟨other, isEntry, same⟩ := List.mem_map.mp ofEntry
  obtain ⟨place, above, position, path, isDefinition⟩ := read.exists_definitionAt? member
  exact once.apart path isDefinition isEntry same.symm

include once in
/-- Definitions of one name are the same. -/
theorem eq_of_name_eq (isRoot : store.nameTreeRoot?.getD [] = root)
    (read : store.VisitsPlacesOnce α root visits) {other : DestinationDefinition Nat α}
    (member : definition ∈ store.readDefinitions root visits ++ store.catalogDefinitions)
    (isOther : other ∈ store.readDefinitions root visits ++ store.catalogDefinitions)
    (same : definition.name = other.name) : definition = other := by
  have apart := once.disjoint_names read
  rcases List.mem_append.mp member with ofPair | ofEntry <;>
    rcases List.mem_append.mp isOther with ofOtherPair | ofOtherEntry
  · obtain ⟨place, above, position, path, isDefinition⟩ := read.exists_definitionAt? ofPair
    obtain ⟨place', above', position', path', isDefinition'⟩ :=
      read.exists_definitionAt? ofOtherPair
    obtain ⟨sameNode, rfl⟩ := once.pairs path path' isDefinition isDefinition' same
    have sameEntries := sameNode.nodeAt?_eq isRoot path.isSome_nodeAt? path'.isSome_nodeAt?
    unfold definitionAt? at isDefinition isDefinition'
    rw [sameEntries, isDefinition'] at isDefinition
    exact (Option.some.inj isDefinition).symm
  · exact (apart (List.mem_map_of_mem ofPair) (same ▸ List.mem_map_of_mem ofOtherEntry)).elim
  · exact (apart (same ▸ List.mem_map_of_mem ofOtherPair) (List.mem_map_of_mem ofEntry)).elim
  · exact List.inj_on_of_nodup_map once.entries ofEntry ofOtherEntry same

end DefinesOnce

/-- **Every place in a graph of names is read at most once.** Where every name is defined once,
there are no warnings if and only if no node that defines something is read at two places, and all
definitions that are read are kept, as are those of the catalog. -/
theorem namedDestinations_readsPlacesOnce (store : Store) :
    ∃ root visits, store.nameTreeRoot?.getD [] = root ∧ store.VisitsPlacesOnce α root visits ∧
      (store.DefinesOnce α root →
        ((store.namedDestinations : NamedDestinations Nat α × List Warning).2 = [] ↔
          store.ReadsNodesOnce α root visits) ∧
        (∀ place position (definition : DestinationDefinition Nat α), Reads visits place →
          store.definitionAt? root place position = some definition →
          (store.namedDestinations : NamedDestinations Nat α × List Warning).1.get?
            definition.name = some definition.destination) ∧
        ∀ definition ∈ (store.catalogDefinitions : List (DestinationDefinition Nat α)),
          (store.namedDestinations : NamedDestinations Nat α × List Warning).1.get?
            definition.name = some definition.destination) := by
  obtain ⟨visits, read⟩ : ∃ visits,
      store.VisitsPlacesOnce α (store.nameTreeRoot?.getD []) visits := exists_visitsPlacesOnce rfl
  have keeps := NamedDestinations.keepsFirst
    (store.destinationDefinitions : List (DestinationDefinition Nat α))
  refine ⟨_, visits, rfl, read, fun once => ?_⟩
  unfold namedDestinations
  have kept : ∀ definition ∈ (store.destinationDefinitions : List (DestinationDefinition Nat α)),
      (NamedDestinations.ofDefinitions store.destinationDefinitions).1.get? definition.name =
        some definition.destination := by
    refine fun definition member => keeps.get?_of_mem (fun other isOther same => ?_) member
    rw [read.definitions] at member isOther
    exact once.eq_of_name_eq rfl read isOther member same
  refine ⟨?_, fun place position definition isRead isDefinition => kept definition ?_,
    fun definition isEntry => kept definition ?_⟩
  · rw [keeps.warnings_eq_nil_iff, read.definitions, List.map_append, List.nodup_append',
      and_iff_left ⟨once.entries, once.disjoint_names read⟩]
    exact ⟨read.readsNodesOnce rfl, once.nodup_readDefinitions read⟩
  · rw [read.definitions]
    exact List.mem_append_left _ (mem_readDefinitions.mpr
      ⟨place, isRead, mem_definitionsAt.mpr ⟨position, isDefinition⟩⟩)
  · rw [read.definitions]
    exact List.mem_append_right _ isEntry

/-! A root that is a kid of its own is read at two places. -/

/-- A node with a name and with itself as its kid. -/
def circle : Dictionary := [namesEntry [("One", 4)], kidsEntry [.reference 2]]

/-- A document whose tree of names has that node as its root. -/
def ofCircle : Store :=
  .ofObjects
    [(1, .dictionary [(Text.Utf8.encode "Names",
        .dictionary [(Text.Utf8.encode "Dests", .reference 2)])]),
      (2, .dictionary circle)]
    [(Text.Utf8.encode "Root", .reference 1)]

/-- All paths pass the root alone, as the catalog refers to it and as it refers to itself. -/
theorem subset_of_circle {path : List NamePlace} (isPath : ofCircle.IsPath circle path) :
    path ⊆ [top, numbered 2] := by
  induction path with
  | nil => exact List.nil_subset _
  | cons place above ih =>
    cases above with
    | nil =>
      obtain rfl : place = top := Option.some.inj isPath.2
      exact List.cons_subset_cons top (List.nil_subset _)
    | cons parent above =>
      obtain ⟨⟨node, position, kid, found, isKid, rfl, -⟩, rest⟩ := isPath.tail
      have isCircle : node = circle := by
        have isTop := ih rest List.mem_cons_self
        simp only [List.mem_cons, List.not_mem_nil, or_false] at isTop
        rcases isTop with rfl | rfl <;> exact Option.some.inj found.symm
      subst isCircle
      obtain rfl : kid = .reference 2 := List.mem_singleton.mp (List.mem_of_getElem? isKid)
      exact List.cons_subset.mpr ⟨List.mem_cons_of_mem _ List.mem_cons_self, ih rest⟩

theorem eq_or_eq_of_circle (path : ofCircle.IsPath circle (place :: above)) :
    place = top ∨ place = numbered 2 := by
  simpa only [List.mem_cons, List.not_mem_nil, or_false] using
    subset_of_circle path List.mem_cons_self

/-- The root of the circle has one pair, and every place of the circle is the root. -/
theorem definesOnce_of_circle : ofCircle.DefinesOnce Float circle where
  pairs {_ _ _ _ position position' _ _} path path' isDefinition isDefinition' _ := by
    have first {place : NamePlace} {above : List NamePlace} {position : Nat}
        {definition : DestinationDefinition Nat Float}
        (path : ofCircle.IsPath circle (place :: above))
        (isDefinition : ofCircle.definitionAt? circle place position = some definition) :
        position = 0 := by
      rcases eq_or_eq_of_circle path with rfl | rfl
      all_goals
        have within : 2 * position + 1 < 2 := lt_length_of_usablePair? isDefinition
        omega
    refine ⟨?_, (first path isDefinition).trans (first path' isDefinition').symm⟩
    rcases eq_or_eq_of_circle path with rfl | rfl <;>
      rcases eq_or_eq_of_circle path' with rfl | rfl <;> exact ⟨rfl, rfl⟩
  entries := List.nodup_nil
  apart _ _ isEntry := absurd isEntry List.not_mem_nil

/-- A root that is its own kid defines its name once, and yet is warned of. -/
theorem namedDestinations_readsPlacesOnce_of_circle :
    ofCircle.DefinesOnce Float circle ∧
      (ofCircle.namedDestinations : NamedDestinations Nat Float × List Warning).2 ≠ [] := by
  refine ⟨definesOnce_of_circle, fun silent => ?_⟩
  obtain ⟨_, visits, rfl, read, judged⟩ := namedDestinations_readsPlacesOnce (α := Float) ofCircle
  have reads {place : NamePlace} {above : List NamePlace}
      (path : ofCircle.IsPath circle (place :: above)) : Reads visits place := by
    refine (read.reached place above path).resolve_right ?_
    rintro ⟨_, -, visit, member, rfl, unread⟩
    obtain ⟨isPath, simple, -⟩ := read.paths visit member
    have short := (List.subperm_of_subset simple (subset_of_circle isPath)).length_le
    simp only [List.length_cons, List.length_nil] at short
    exact unread (by unfold NameVisit.IsRead maxNameTreeLevel; omega)
  have isKid : ofCircle.IsKid circle (numbered 2) top :=
    ⟨circle, 0, .reference 2, rfl, rfl, rfl, rfl⟩
  have same := (judged definesOnce_of_circle).1.mp silent top (numbered 2) (reads isPath_top)
    (reads (isPath_top.cons isKid)) ⟨rfl, rfl⟩ (List.cons_ne_nil _ _)
  cases congrArg NamePlace.anchor? same

end Store

end PlacedText
