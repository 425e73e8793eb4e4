import PlacedText.Proofs.Outline.Contents
import PlacedText.Proofs.Outline.Forest
import PlacedText.Proofs.Outline.NameTree
import PlacedText.Proofs.Text.Spelling
import PlacedText.Document.Extraction

/-! # Outline items that lead to names

The keys of the dictionary of destinations and the names that outline items hold are both read as
text before they are compared, whether or not their bytes are valid. So a name leads to the first
destination whose key has the same text (`PagedStore.contents_listsNames`), which is the one under
its own bytes where no key has the replacement character in its text.
-/

namespace PlacedText

variable {α : Type} [Scalar α]

namespace Store

variable {store : Store} {node : Dictionary} {name : Bytes}

/-- Whether a node of the outline leads to a place by a name: its own, or that of its action. -/
inductive LeadsByName (store : Store) (node : Dictionary) (name : Bytes) : Prop where
  | destination (leads : store.value? node "Dest" = some (.name name))
  | action {action : Dictionary} (absent : store.value? node "Dest" = none)
    (acts : store.dictionary? node "A" = some action)
    (goes : (store.value? action "S" >>= Object.name?) = some (Text.Utf8.encode "GoTo"))
    (leads : store.value? action "D" = some (.name name))

/-- An item that leads by a name has the decoded name as its target. -/
theorem LeadsByName.outlineTarget_eq (leads : store.LeadsByName node name) :
    (store.outlineTarget node : OutlineTarget Nat α) = .named (Text.Utf8.decodeLossy name) := by
  unfold outlineTarget
  cases leads with
  | destination leads =>
    rw [leads]
    rfl
  | action absent acts goes leads =>
    rw [absent, acts]
    dsimp only
    rw [actionTarget, if_pos goes, leads]
    rfl

/-! ## The dictionary of destinations -/

/-- Whether the named destinations of a document stand in one dictionary: it has no tree of names,
and the dictionary in its catalog has different keys, each with a destination on one of the
pages. -/
structure HoldsDestinations (α : Type) [Scalar α] (store : Store) (pages : List Nat)
    (entries : Dictionary) : Prop where
  untreed : store.nameTreeRoot? = none
  held : store.dictionary? (store.catalog?.getD []) "Dests" = some entries
  distinct : (entries.map Prod.fst).Nodup
  usable : ∀ entry ∈ entries, ∃ destination : Destination Nat α,
    store.definedDestination? entry.2 = some destination ∧ destination.page ∈ pages

/-- Whether some bytes are read as the same text as others. -/
def SameText (first second : Bytes) : Prop :=
  Text.Utf8.decodeLossy first = Text.Utf8.decodeLossy second

instance : DecidableRel SameText := fun first second =>
  inferInstanceAs (Decidable (Text.Utf8.decodeLossy first = Text.Utf8.decodeLossy second))

/-- The definition by an entry of the dictionary of destinations. -/
def entryDefinition? (store : Store) (entry : Bytes × Object) :
    Option (DestinationDefinition Nat α) :=
  (store.definedDestination? entry.2).map fun destination =>
    ⟨Text.Utf8.decodeLossy entry.1, destination⟩

theorem entryDefinition?_eq {entry : Bytes × Object} {destination : Destination Nat α}
    (isDestination : store.definedDestination? entry.2 = some destination) :
    store.entryDefinition? entry = some ⟨Text.Utf8.decodeLossy entry.1, destination⟩ := by
  unfold entryDefinition?
  rw [isDestination]
  rfl

namespace HoldsDestinations

variable {pages : List Nat} {entries : Dictionary}

/-- The definitions of the catalog are those of its entries, in their order. -/
theorem destinationDefinitions_eq (holds : store.HoldsDestinations α pages entries) :
    (store.destinationDefinitions : List (DestinationDefinition Nat α)) =
      entries.filterMap store.entryDefinition? := by
  have noTree : (store.readNameTree (maxNameTreeLevel + 1) (store.nameTreeRoot?.getD [])
      (⟨∅, #[]⟩ : NameWalk α)).definitions.toList = [] := by
    rw [holds.untreed]
    rfl
  rw [Store.destinationDefinitions_eq, noTree, List.nil_append, catalogDefinitions,
    entryDefinitions, holds.held]
  rfl

/-- The texts of the keys are the names that are defined. -/
theorem map_name (holds : store.HoldsDestinations α pages entries) :
    (store.destinationDefinitions.map (DestinationDefinition.name (α := α))) =
      entries.map fun entry => Text.Utf8.decodeLossy entry.1 := by
  rw [holds.destinationDefinitions_eq, List.map_filterMap]
  refine List.filterMap_eq_map_iff_forall_eq_some.mpr fun entry member => ?_
  obtain ⟨destination, isDestination, -⟩ := holds.usable entry member
  rw [entryDefinition?_eq isDestination]
  rfl

/-- There are no warnings if and only if the keys have different texts. -/
theorem warnings_eq_nil_iff (holds : store.HoldsDestinations α pages entries) :
    (store.namedDestinations : NamedDestinations Nat α × List Warning).2 = [] ↔
      entries.Pairwise fun first second => ¬ SameText first.1 second.1 := by
  have keeps := NamedDestinations.keepsFirst
    (store.destinationDefinitions : List (DestinationDefinition Nat α))
  unfold namedDestinations
  rw [keeps.warnings_eq_nil_iff, holds.map_name]
  exact List.pairwise_map

/-- A name is defined as the first destination whose key has the same text. -/
theorem get?_of_first (holds : store.HoldsDestinations α pages entries) {before after : Dictionary}
    {key : Bytes} {value : Object} {destination : Destination Nat α}
    (split : entries = before ++ (key, value) :: after)
    (first : ∀ earlier ∈ before, ¬ SameText earlier.1 name) (same : SameText key name)
    (isDestination : store.definedDestination? value = some destination) :
    (store.namedDestinations : NamedDestinations Nat α × List Warning).1.get?
      (Text.Utf8.decodeLossy name) = some destination := by
  have keeps := NamedDestinations.keepsFirst
    (store.destinationDefinitions : List (DestinationDefinition Nat α))
  have none : (before.filterMap store.entryDefinition?).find? (fun definition :
      DestinationDefinition Nat α => definition.name = Text.Utf8.decodeLossy name) = none := by
    refine List.find?_eq_none.mpr fun definition member isName => ?_
    obtain ⟨earlier, isEarlier, made⟩ := List.mem_filterMap.mp member
    obtain ⟨_, -, rfl⟩ := Option.map_eq_some_iff.mp made
    exact first earlier isEarlier (of_decide_eq_true isName)
  let own : DestinationDefinition Nat α := ⟨Text.Utf8.decodeLossy key, destination⟩
  have found : ((own :: after.filterMap store.entryDefinition?).find? fun definition =>
      definition.name = Text.Utf8.decodeLossy name) = some own :=
    List.find?_cons_of_pos (decide_eq_true same)
  unfold namedDestinations
  rw [keeps.first, holds.destinationDefinitions_eq, split, List.filterMap_append, List.find?_append,
    none, Option.none_or, List.filterMap_cons_some (entryDefinition?_eq isDestination), found]
  rfl

/-- A name that is defined has the text of some key. -/
theorem exists_of_get? (holds : store.HoldsDestinations α pages entries)
    {destination : Destination Nat α}
    (found : (store.namedDestinations : NamedDestinations Nat α × List Warning).1.get?
      (Text.Utf8.decodeLossy name) = some destination) :
    ∃ entry ∈ entries, SameText entry.1 name := by
  have keeps := NamedDestinations.keepsFirst
    (store.destinationDefinitions : List (DestinationDefinition Nat α))
  unfold namedDestinations at found
  rw [keeps.first, holds.destinationDefinitions_eq] at found
  obtain ⟨definition, isFirst, -⟩ := Option.map_eq_some_iff.mp found
  obtain ⟨entry, member, made⟩ := List.mem_filterMap.mp (List.mem_of_find?_eq_some isFirst)
  obtain ⟨_, -, rfl⟩ := Option.map_eq_some_iff.mp made
  have isName := List.find?_some isFirst
  exact ⟨entry, member, of_decide_eq_true isName⟩

end HoldsDestinations

end Store

/-! ## The table of contents -/

theorem mem_tableOfContents {ι : Type} [DecidableEq ι] {named : NamedDestinations ι α}
    {pages : List ι} {items : List (OutlineItem ι α)} {entry : ContentsEntry α} :
    entry ∈ tableOfContents named pages items ↔
      ∃ item ∈ items, item.HasEntry named pages entry := by
  unfold tableOfContents
  simp only [List.mem_mergeSort, List.mem_filterMap, OutlineItem.resolve?_eq_some_iff]

namespace PagedStore

variable {paged : PagedStore} {entries : Dictionary} {same same' : Bytes → Bytes → Prop}

/-- Whether some destinations are listed by names, where some bytes count as those of a key: there
are no warnings if and only if no key counts as another one, the outline items that are listed are
those whose names count as some key, and they are listed with the destination of the first such
key. -/
structure ListsNames (paged : PagedStore) (entries : Dictionary) (same : Bytes → Bytes → Prop) :
    Prop where
  silent : paged.contents.2 = [] ↔
    entries.Pairwise fun first second => ¬ same first.1 second.1
  listed : ∀ {level : Nat} {node : Dictionary} {name : Bytes},
    paged.store.outlineItem level node ∈ (paged.store.outline : List (OutlineItem Nat Float)) →
    paged.store.LeadsByName node name →
    ((∃ entry ∈ paged.contents.1, (paged.store.outlineItem level node).HasEntry
      paged.store.namedDestinations.1 paged.pageIds entry) ↔ ∃ entry ∈ entries, same entry.1 name)
  leads : ∀ {level : Nat} {node : Dictionary} {name : Bytes} {before after : Dictionary}
    {key : Bytes} {value : Object},
    paged.store.outlineItem level node ∈ (paged.store.outline : List (OutlineItem Nat Float)) →
    paged.store.LeadsByName node name →
    entries = before ++ (key, value) :: after → (∀ earlier ∈ before, ¬ same earlier.1 name) →
    same key name →
    ∃ destination, paged.store.definedDestination? value = some destination ∧
      ∃ entry ∈ paged.contents.1, (paged.store.outlineItem level node).HasEntry
        paged.store.namedDestinations.1 paged.pageIds entry ∧
        (paged.store.outlineItem level node).LeadsAs paged.pageIds destination entry

/-- It makes no difference when other bytes count as a key, if they are the same ones for the keys
that there are. -/
theorem ListsNames.congr (lists : paged.ListsNames entries same)
    (agree : ∀ entry ∈ entries, ∀ name, same entry.1 name ↔ same' entry.1 name) :
    paged.ListsNames entries same' where
  silent := by
    rw [lists.silent]
    exact List.Pairwise.iff_of_mem fun {first second} isFirst _ => (agree first isFirst _).not
  listed := by
    intro level node name member byName
    rw [lists.listed member byName]
    exact exists_congr fun entry => and_congr_right fun isEntry => agree entry isEntry name
  leads := by
    intro level node name before after key value member byName split first isSame
    have within {entry : Bytes × Object} (isBefore : entry ∈ before) : entry ∈ entries := by
      rw [split]
      exact List.mem_append_left _ isBefore
    have isEntry : (key, value) ∈ entries := by
      rw [split]
      exact List.mem_append_right _ List.mem_cons_self
    exact lists.leads member byName split
      (fun earlier isBefore => first earlier isBefore ∘ (agree earlier (within isBefore) name).mp)
      ((agree _ isEntry _).mpr isSame)

/-- An item that leads to the first destination whose key has the text of its name is listed so. -/
theorem exists_entry_of_first (holds : paged.store.HoldsDestinations Float paged.pageIds entries)
    {level : Nat} {node : Dictionary} {name : Bytes} {before after : Dictionary} {key : Bytes}
    {value : Object}
    (member : paged.store.outlineItem level node ∈
      (paged.store.outline : List (OutlineItem Nat Float)))
    (byName : paged.store.LeadsByName node name) (split : entries = before ++ (key, value) :: after)
    (first : ∀ earlier ∈ before, ¬ Store.SameText earlier.1 name)
    (isSame : Store.SameText key name) :
    ∃ destination, paged.store.definedDestination? value = some destination ∧
      ∃ entry ∈ paged.contents.1, (paged.store.outlineItem level node).HasEntry
        paged.store.namedDestinations.1 paged.pageIds entry ∧
        (paged.store.outlineItem level node).LeadsAs paged.pageIds destination entry := by
  have isEntry : (key, value) ∈ entries := by
    rw [split]
    exact List.mem_append_right _ List.mem_cons_self
  obtain ⟨destination, isDestination, isPage⟩ := holds.usable _ isEntry
  have leads : (paged.store.outlineItem level node).target.LeadsTo
      paged.store.namedDestinations.1 destination := by
    unfold Store.outlineItem
    dsimp only
    rw [byName.outlineTarget_eq]
    exact .named (holds.get?_of_first split first isSame isDestination)
  have listed := OutlineItem.isSome_resolve?_iff.mpr ⟨destination, leads, isPage⟩
  obtain ⟨entry, resolved⟩ := Option.isSome_iff_exists.mp listed
  have isEntryOf := OutlineItem.resolve?_eq_some_iff.mp resolved
  refine ⟨destination, isDestination, entry, mem_tableOfContents.mpr ⟨_, member, isEntryOf⟩,
    isEntryOf, ?_⟩
  obtain ⟨other, leads', leadsAs⟩ := isEntryOf
  have unique := (OutlineItem.destination?_eq_some_iff.mpr leads').symm.trans
    (OutlineItem.destination?_eq_some_iff.mpr leads)
  rwa [Option.some.inj unique] at leadsAs

/-- An item is listed by the first entry with the same text as its name, if that has a page. -/
theorem listsNames_sameText
    (holds : paged.store.HoldsDestinations Float paged.pageIds entries) :
    paged.ListsNames entries Store.SameText where
  silent := holds.warnings_eq_nil_iff
  listed := by
    intro level node name member byName
    constructor
    · rintro ⟨_, -, destination, leads, -⟩
      unfold Store.outlineItem at leads
      dsimp only at leads
      rw [byName.outlineTarget_eq] at leads
      obtain ⟨⟩ | defined := leads
      exact holds.exists_of_get? defined
    · rintro ⟨entry, isEntry, isSame⟩
      have found : (List.find? (fun entry => Store.SameText entry.1 name) entries).isSome :=
        List.find?_isSome.mpr ⟨entry, isEntry, decide_eq_true isSame⟩
      obtain ⟨⟨key, value⟩, found⟩ := Option.isSome_iff_exists.mp found
      obtain ⟨same, before, after, split, first⟩ := List.find?_eq_some_iff_append.mp found
      obtain ⟨_, -, entry, member, hasEntry, -⟩ := exists_entry_of_first holds member byName split
        (fun earlier isBefore => by simpa using first earlier isBefore) (of_decide_eq_true same)
      exact ⟨entry, member, hasEntry⟩
  leads := exists_entry_of_first holds

/-- **What outline items with names lead to**, where the named destinations stand in a dictionary of
the catalog, under different keys: names are those of a key with the same text. They are those of
the key with the same bytes, and there are no warnings, if no key has the replacement character in
its text. -/
theorem contents_listsNames
    (holds : paged.store.HoldsDestinations Float paged.pageIds entries) :
    paged.ListsNames entries Store.SameText ∧
      ((∀ entry ∈ entries, Text.Utf8.replacement ∉ (Text.Utf8.decodeLossy entry.1).toList) →
        paged.ListsNames entries (· = ·) ∧ paged.contents.2 = []) := by
  have bySameText := listsNames_sameText holds
  refine ⟨bySameText, fun clean => ?_⟩
  have bySameBytes : paged.ListsNames entries (· = ·) := bySameText.congr fun entry isEntry name =>
    Text.Utf8.decodeLossy_eq_iff (clean entry isEntry)
  exact ⟨bySameBytes, bySameBytes.silent.mpr (List.pairwise_map.mp holds.distinct)⟩

/-! A name whose only byte is not valid leads to the key that the replacement character is. -/

/-- A node that leads to that name. -/
def invalidName : Dictionary :=
  [(Text.Utf8.encode "Title", .string (Text.Utf8.encode "One")),
    (Text.Utf8.encode "Dest", .name [0xff])]

/-- The destination under the other key. -/
def replacementEntry : Bytes × Object := ([0xef, 0xbf, 0xbd], .array [.reference 4])

/-- A document of one page with that destination, whose outline is that node. -/
def ofInvalidName : PagedStore where
  store := .ofObjects
    [(1, .dictionary [(Text.Utf8.encode "Dests", .dictionary [replacementEntry]),
        (Text.Utf8.encode "Outlines", .reference 2)]),
      (2, .dictionary [(Text.Utf8.encode "First", .reference 3)]), (3, .dictionary invalidName)]
    [(Text.Utf8.encode "Root", .reference 1)]
  pageIds := [4]

/-- The outline of the document is its one item. -/
theorem outline_ofInvalidName :
    (ofInvalidName.store.outline : List (OutlineItem Nat Float)) =
      [ofInvalidName.store.outlineItem 1 invalidName] := by
  have holds : ofInvalidName.store.HoldsForest (.cons 3 invalidName .nil .nil) :=
    ⟨rfl, rfl, rfl, trivial, trivial⟩
  have reads := Store.readSiblings_forest holds (List.nodup_singleton 3) 1 63 Store.maxSiblings
    (.start : OutlineWalk Float) fun _ _ => Std.HashSet.not_mem_empty
  exact reads.items

/-- A name of one byte that is no text reaches the entry under the replacement character. -/
theorem contents_listsNames_of_invalid_name :
    ofInvalidName.store.HoldsDestinations Float ofInvalidName.pageIds [replacementEntry] ∧
      ofInvalidName.store.LeadsByName invalidName [0xff] ∧
      ∃ entry ∈ ofInvalidName.contents.1,
        (ofInvalidName.store.outlineItem 1 invalidName).HasEntry
          ofInvalidName.store.namedDestinations.1 ofInvalidName.pageIds entry := by
  have holds : ofInvalidName.store.HoldsDestinations Float ofInvalidName.pageIds
      [replacementEntry] :=
    { untreed := rfl
      held := rfl
      distinct := List.nodup_singleton _
      usable := by
        rintro _ (_ | ⟨_, ⟨⟩⟩)
        exact ⟨⟨4, .other⟩, rfl, List.mem_singleton_self 4⟩ }
  have byName : ofInvalidName.store.LeadsByName invalidName [0xff] := .destination rfl
  have member : ofInvalidName.store.outlineItem 1 invalidName ∈
      (ofInvalidName.store.outline : List (OutlineItem Nat Float)) := by
    rw [outline_ofInvalidName]
    exact List.mem_cons_self
  have same : Store.SameText replacementEntry.1 [0xff] := by decide
  exact ⟨holds, byName, ((contents_listsNames holds).1.listed member byName).mpr
    ⟨_, List.mem_cons_self, same⟩⟩

end PagedStore

end PlacedText
