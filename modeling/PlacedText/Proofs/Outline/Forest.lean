import PlacedText.Proofs.Outline.Items
import PlacedText.Scalar.Binary64

/-! # Outlines without circles

The nodes of an outline whose links never meet are those of a forest (`Store.HoldsOutline`). Such an
outline is read in the order of the forest and up to the two bounds, which are the only places where
anything is left out (`Store.outline_reads_preorder`).
-/

namespace PlacedText

variable {α : Type} [Scalar α]

/-- A forest of outline nodes: the first of its trees, with the forest below its root, and the trees
after it. -/
inductive OutlineForest where
  | nil
  | cons (id : Nat) (entries : Dictionary) (below later : OutlineForest)

namespace OutlineForest

/-- The node that the first tree begins with. -/
def root? : OutlineForest → Option Nat
  | nil => none
  | cons id _ _ _ => some id

/-- The numbers of all nodes. -/
def ids : OutlineForest → List Nat
  | nil => []
  | cons id _ below later => id :: (below.ids ++ later.ids)

/-- The forest down to some level. -/
def withinLevels : Nat → OutlineForest → OutlineForest
  | 0, _ => nil
  | _ + 1, nil => nil
  | levels + 1, cons id entries below later =>
    cons id entries (withinLevels levels below) (withinLevels (levels + 1) later)

theorem withinLevels_nil (levels : Nat) : withinLevels levels nil = nil := by
  cases levels <;> rfl

/-- Some of the first trees, with the first nodes of every list of siblings that is below them. -/
def withinSiblings (most : Nat) : (left : Nat) → OutlineForest → OutlineForest
  | _, nil => nil
  | 0, cons .. => nil
  | left + 1, cons id entries below later =>
    cons id entries (withinSiblings most most below) (withinSiblings most left later)

theorem withinSiblings_nil (most left : Nat) : withinSiblings most left nil = nil := by
  cases left <;> rfl

/-- All nodes, each before those below it and those before the ones after it, with their levels. -/
def preorder (level : Nat) : OutlineForest → List OutlineNode
  | nil => []
  | cons id entries below later =>
    ⟨id, level, entries⟩ :: (preorder (level + 1) below ++ preorder level later)

end OutlineForest

namespace Store

open OutlineForest

variable {store : Store} {forest : OutlineForest}

/-- Whether every node of a forest is a dictionary of the store that refers to its first child and
to its next sibling. -/
def HoldsForest (store : Store) : OutlineForest → Prop
  | .nil => True
  | .cons id entries below later =>
    store.objects[id]? = some (.dictionary entries) ∧
      linked? entries "First" = below.root? ∧ linked? entries "Next" = later.root? ∧
      store.HoldsForest below ∧ store.HoldsForest later

/-- Whether the outline of a store is a forest: its catalog leads to the first root, and no two
nodes have the same number. -/
structure HoldsOutline (store : Store) (forest : OutlineForest) : Prop where
  root : ∃ catalog outlines, store.catalog? = some catalog ∧
    store.dictionary? catalog "Outlines" = some outlines ∧
    linked? outlines "First" = forest.root?
  nodes : store.HoldsForest forest
  distinct : forest.ids.Nodup

theorem dictionary_of_getElem? {id : Nat} {entries : Dictionary}
    (present : store.objects[id]? = some (.dictionary entries)) :
    store.dictionary id = .ok entries := by
  unfold dictionary object locate
  rw [locateFrom_of_getElem? present nofun]
  rfl

/-- A node that was not met before is read before what is below it and what is behind it. -/
theorem readSiblings_of_dictionary {id level left : Nat} {entries : Dictionary}
    {readBelow : Nat → OutlineWalk α → OutlineWalk α} {walk : OutlineWalk α} (unmet : id ∉ walk.met)
    (found : store.dictionary id = .ok entries) :
    store.readSiblings level readBelow (left + 1) (some id) walk =
      let read := (walk.meet id).push (store.outlineItem level entries)
      store.readSiblings level readBelow left (linked? entries "Next")
        ((linked? entries "First").elim read (readBelow · read)) := by
  have unread : ¬ walk.met.contains id = true := fun known =>
    unmet (Std.HashSet.contains_iff_mem.mp known)
  rw [readSiblings, if_neg unread]
  dsimp only
  rw [found]
  dsimp only
  cases linked? entries "First" <;> rfl

/-- What reading a forest on some level, with so many levels in all and so many siblings left, has
added to what was read before. -/
structure ReadsForest (store : Store) (forest : OutlineForest) (level levels left : Nat)
    (walk after : OutlineWalk α) : Prop where
  items : after.items.toList = walk.items.toList ++
    ((withinSiblings maxSiblings left (withinLevels levels forest)).preorder level).map
      (OutlineNode.item store)
  met : ∀ id, id ∈ after.met → id ∈ walk.met ∨ id ∈ forest.ids

namespace ReadsForest

variable {id level levels left : Nat} {entries : Dictionary} {below later : OutlineForest}
  {walk between after : OutlineWalk α}

/-- Nothing is read where a bound is reached. -/
theorem cut
    (bound : withinSiblings maxSiblings left (withinLevels levels forest) = .nil) :
    store.ReadsForest forest level levels left walk walk := by
  refine ⟨?_, fun _ known => .inl known⟩
  rw [bound]
  exact (List.append_nil _).symm

/-- A node is read with what is below it and with what is behind it. -/
theorem cons
    (readBelow : store.ReadsForest below (level + 1) levels maxSiblings
      ((walk.meet id).push (store.outlineItem level entries)) between)
    (readLater : store.ReadsForest later level (levels + 1) left between after) :
    store.ReadsForest (.cons id entries below later) level (levels + 1) (left + 1) walk after where
  items := by
    rw [readLater.items, readBelow.items, withinLevels, withinSiblings, preorder, List.map_cons,
      List.map_append, OutlineWalk.push, Array.toList_push, List.append_assoc, List.append_assoc]
    rfl
  met := by
    intro other known
    unfold ids
    rw [List.mem_cons, List.mem_append]
    rcases readLater.met other known with known | inLater
    · rcases readBelow.met other known with known | inBelow
      · rcases OutlineWalk.Extends.mem_meet.mp known with same | known
        · exact .inr (.inl same)
        · exact .inl known
      · exact .inr (.inr (.inl inBelow))
    · exact .inr (.inr (.inr inLater))

/-- The forest below a node is read if it is read from its first root on. -/
theorem belowNode
    (reads : ∀ levels, store.ReadsForest below (level + 1) (levels + 1) maxSiblings walk
      (store.readSiblings (level + 1) (store.readLevels levels (level + 2)) maxSiblings below.root?
        walk)) :
    store.ReadsForest below (level + 1) levels maxSiblings walk
      (below.root?.elim walk (store.readLevels levels (level + 1) · walk)) := by
  cases below with
  | nil => exact cut (by rw [withinLevels_nil, withinSiblings_nil])
  | cons child entries below later =>
    cases levels with
    | zero => exact cut (by rw [withinLevels, withinSiblings_nil])
    | succ levels =>
      rw [root?, Option.elim_some, readLevels]
      exact reads levels

end ReadsForest

/-- **A forest is read as long as none of its nodes was met before.** -/
theorem readSiblings_forest (holds : store.HoldsForest forest) (distinct : forest.ids.Nodup)
    (level levels left : Nat) (walk : OutlineWalk α) (unmet : ∀ id ∈ forest.ids, id ∉ walk.met) :
    store.ReadsForest forest level (levels + 1) left walk
      (store.readSiblings level (store.readLevels levels (level + 1)) left forest.root? walk) := by
  induction forest generalizing level levels left walk with
  | nil =>
    cases left <;> exact .cut (by rw [withinLevels_nil, withinSiblings_nil])
  | cons id entries below later ihBelow ihLater =>
    obtain ⟨present, first, next, holdsBelow, holdsLater⟩ := holds
    obtain ⟨fresh, distinct⟩ := List.nodup_cons.mp distinct
    obtain ⟨distinctBelow, distinctLater, apart⟩ := List.nodup_append.mp distinct
    cases left with
    | zero =>
      -- One node more than is read is met, but not read.
      refine ⟨(List.append_nil _).symm, fun other known => ?_⟩
      rcases OutlineWalk.Extends.mem_meet.mp known with rfl | known
      · exact .inr List.mem_cons_self
      · exact .inl known
    | succ left =>
      rw [root?, readSiblings_of_dictionary (unmet id List.mem_cons_self)
        (dictionary_of_getElem? present), first, next]
      have unmetRead : ∀ other ∈ below.ids ++ later.ids,
          other ∉ ((walk.meet id).push (store.outlineItem level entries)).met := by
        intro other member known
        rcases OutlineWalk.Extends.mem_meet.mp known with rfl | known
        · exact fresh member
        · exact unmet other (List.mem_cons_of_mem _ member) known
      have readBelow : store.ReadsForest below (level + 1) levels maxSiblings _ _ :=
        .belowNode fun levels => ihBelow holdsBelow distinctBelow (level + 1) levels maxSiblings _
          fun other member => unmetRead other (List.mem_append_left _ member)
      refine readBelow.cons (ihLater holdsLater distinctLater level levels left _ ?_)
      intro other member known
      rcases readBelow.met other known with known | inBelow
      · exact unmetRead other (List.mem_append_right _ member) known
      · exact apart other inBelow other member rfl

/-- The items of an outline that is a forest are those that its nodes are read as. -/
theorem outline_eq_map_item (holds : store.HoldsOutline forest) :
    (store.outline : List (OutlineItem Nat α)) =
      ((withinSiblings 10000 10000 (withinLevels 64 forest)).preorder 1).map
        (OutlineNode.item store) := by
  obtain ⟨catalog, outlines, isCatalog, isOutlines, root⟩ := holds.root
  have reads := readSiblings_forest holds.nodes holds.distinct 1 63 maxSiblings
    (.start : OutlineWalk α) fun _ _ => Std.HashSet.not_mem_empty
  have begun : store.outlineRoot? = forest.root? := by
    unfold outlineRoot?
    rw [isCatalog]
    dsimp only [bind, Option.bind]
    rw [isOutlines]
    exact root
  have items := reads.items
  unfold outline
  rw [begun]
  cases forest with
  | nil => rw [withinLevels_nil, withinSiblings_nil, root?, preorder, List.map_nil]
  | cons id entries below later =>
    rw [root?] at items ⊢
    dsimp only
    rw [maxOutlineLevel, readLevels]
    exact items

/-- **An outline that is a forest is read completely and in order**: its items are what the nodes
say in preorder, their titles, the places that they lead to and the levels that they are on, where
the roots are on the first; only the first 10000 of some siblings and the first 64 levels are
read. -/
theorem outline_reads_preorder (holds : store.HoldsOutline forest) :
    List.Forall₂ (OutlineNode.Says store)
      ((withinSiblings 10000 10000 (withinLevels 64 forest)).preorder 1)
      (store.outline : List (OutlineItem Nat α)) := by
  rw [outline_eq_map_item holds, List.forall₂_map_right_iff, List.forall₂_same]
  exact fun node _ => OutlineNode.says_iff.mpr rfl

/-- A node with a title that refers to its first child and to its next sibling. -/
def outlineNode (title : String) (links : List (String × Nat)) : Dictionary :=
  (Text.Utf8.encode "Title", .string (Text.Utf8.encode title)) ::
    links.map fun (key, id) => (Text.Utf8.encode key, .reference id)

/-- A chapter that leads to a point of a page. -/
def firstChapter : Dictionary :=
  (Text.Utf8.encode "Dest", .array [.reference 6, .name (Text.Utf8.encode "XYZ"), .null,
      .integer 700]) :: outlineNode "One" [("First", 4), ("Next", 5)]

/-- A section of it, which goes to a name. -/
def namedSection : Dictionary :=
  (Text.Utf8.encode "A", .dictionary [(Text.Utf8.encode "S", .name (Text.Utf8.encode "GoTo")),
      (Text.Utf8.encode "D", .name (Text.Utf8.encode "there"))]) :: outlineNode "Within" []

/-- The chapter with its section, and another chapter, which leads nowhere. -/
def twoChapters : OutlineForest :=
  .cons 3 firstChapter (.cons 4 namedSection .nil .nil) (.cons 5 (outlineNode "Two" []) .nil .nil)

/-- A document with that outline. -/
def ofTwoChapters : Store :=
  .ofObjects
    [(1, .dictionary [(Text.Utf8.encode "Outlines", .reference 2)]),
      (2, .dictionary [(Text.Utf8.encode "First", .reference 3)]),
      (3, .dictionary firstChapter), (4, .dictionary namedSection),
      (5, .dictionary (outlineNode "Two" [])), (6, .dictionary [])]
    [(Text.Utf8.encode "Root", .reference 1)]

/-- Two chapters, the first with one section: an explicit destination, a name and an action that is
not supported. -/
theorem outline_reads_preorder_of_two_chapters :
    ofTwoChapters.HoldsOutline twoChapters ∧
      List.Forall₂ (OutlineNode.Says ofTwoChapters)
        ((withinSiblings 10000 10000 (withinLevels 64 twoChapters)).preorder 1)
        (ofTwoChapters.outline : List (OutlineItem Nat Float)) ∧
      (ofTwoChapters.outline : List (OutlineItem Nat Float)) =
        [⟨"One", 1, .explicit ⟨6, .xyz none (some (Float.ofInt 700))⟩⟩,
          ⟨"Within", 2, .named "there"⟩, ⟨"Two", 1, .unsupported⟩] := by
  have holds : ofTwoChapters.HoldsOutline twoChapters :=
    { root := ⟨_, _, rfl, rfl, rfl⟩
      nodes := ⟨rfl, rfl, rfl, ⟨rfl, rfl, rfl, trivial, trivial⟩, rfl, rfl, rfl, trivial, trivial⟩
      distinct := by decide }
  have items : ((withinSiblings 10000 10000 (withinLevels 64 twoChapters)).preorder 1).map
      (OutlineNode.item ofTwoChapters) =
        [⟨"One", 1, .explicit ⟨6, .xyz none (some (Float.ofInt 700))⟩⟩,
          ⟨"Within", 2, .named "there"⟩, ⟨"Two", 1, .unsupported⟩] := rfl
  exact ⟨holds, outline_reads_preorder holds, (outline_eq_map_item holds).trans items⟩

end Store

end PlacedText
