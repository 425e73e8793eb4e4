import PlacedText.Outline.Tree
import PlacedText.Proofs.Store.Lookup
import Mathlib.Data.List.Chain
import Mathlib.Data.List.Perm.Subperm

/-! # The nodes that the outline is read from

Whatever its links lead to, reading an outline meets every node once (`OutlineWalk.Extends`): what
is read from a node on is that node and then what is read below it and behind it. So there are no
more items than objects, and the levels of the items go down by one at a time
(`Store.outline_discipline`).
-/

namespace PlacedText

variable {α : Type} [Scalar α]

/-- A node of the outline that is read: its number, the level that it is on and its entries. -/
structure OutlineNode where
  id : Nat
  level : Nat
  entries : Dictionary

namespace OutlineNode

/-- The item that a node is read as. -/
def item (store : Store) (node : OutlineNode) : OutlineItem Nat α :=
  store.outlineItem node.level node.entries

end OutlineNode

namespace OutlineWalk

/-- Whether reading from a node on some level has added some nodes to what was read before: each of
them a dictionary that was not met before, none above that level or below the last one that is read,
and each at most one level below the one before it. -/
structure Extends (store : Store) (level : Nat) (walk after : OutlineWalk α)
    (nodes : List OutlineNode) : Prop where
  items : after.items.toList = walk.items.toList ++ nodes.map (OutlineNode.item store)
  kept : ∀ id, id ∈ walk.met → id ∈ after.met
  unmet : ∀ node ∈ nodes, node.id ∉ walk.met
  met : ∀ node ∈ nodes, node.id ∈ after.met
  distinct : (nodes.map OutlineNode.id).Nodup
  found : ∀ node ∈ nodes, store.dictionary node.id = .ok node.entries
  above : ∀ node ∈ nodes, level ≤ node.level
  below : ∀ node ∈ nodes, node.level ≤ Store.maxOutlineLevel
  first : ∀ node ∈ nodes.head?, node.level = level
  steps : nodes.IsChain fun node next => next.level ≤ node.level + 1

namespace Extends

variable {store : Store} {level : Nat} {walk between after : OutlineWalk α}
  {nodes others : List OutlineNode}

/-- Meeting a node that is not read adds none. -/
theorem none (items : after.items = walk.items) (kept : ∀ id, id ∈ walk.met → id ∈ after.met) :
    Extends store level walk after [] where
  items := by rw [items, List.map_nil, List.append_nil]
  kept := kept
  unmet := nofun
  met := nofun
  distinct := .nil
  found := nofun
  above := nofun
  below := nofun
  first := nofun
  steps := .nil

theorem refl (walk : OutlineWalk α) : Extends store level walk walk [] :=
  .none rfl fun _ known => known

omit [Scalar α] in
theorem mem_meet {id other : Nat} : other ∈ (walk.meet id).met ↔ other = id ∨ other ∈ walk.met := by
  unfold meet
  rw [Std.HashSet.mem_insert, beq_iff_eq, eq_comm]

/-- A node that is read. -/
theorem single {id : Nat} {entries : Dictionary} (unmet : id ∉ walk.met)
    (found : store.dictionary id = .ok entries) (within : level ≤ Store.maxOutlineLevel) :
    Extends store level walk ((walk.meet id).push (store.outlineItem level entries))
      [⟨id, level, entries⟩] where
  items := Array.toList_push
  kept := fun _ known => mem_meet.mpr (.inr known)
  unmet := by
    rintro _ (_ | ⟨_, ⟨⟩⟩)
    exact unmet
  met := by
    rintro _ (_ | ⟨_, ⟨⟩⟩)
    exact mem_meet.mpr (.inl rfl)
  distinct := List.pairwise_singleton _ _
  found := by
    rintro _ (_ | ⟨_, ⟨⟩⟩)
    exact found
  above := by
    rintro _ (_ | ⟨_, ⟨⟩⟩)
    exact le_rfl
  below := by
    rintro _ (_ | ⟨_, ⟨⟩⟩)
    exact within
  first := by
    rintro _ ⟨⟩
    rfl
  steps := .singleton _

/-- What is read from a node on goes on with what is read after it, on the same level or on the one
below. -/
theorem append {node : OutlineNode} {deeper : Nat}
    (first : Extends store level walk between (node :: nodes))
    (second : Extends store deeper between after others) (notAbove : level ≤ deeper)
    (oneBelow : deeper ≤ level + 1) :
    Extends store level walk after (node :: nodes ++ others) where
  items := by rw [second.items, first.items, List.append_assoc, List.map_append]
  kept := fun id known => second.kept id (first.kept id known)
  unmet := by
    intro other member known
    rcases List.mem_append.mp member with before | later
    · exact first.unmet other before known
    · exact second.unmet other later (first.kept _ known)
  met := by
    intro other member
    rcases List.mem_append.mp member with before | later
    · exact second.kept _ (first.met other before)
    · exact second.met other later
  distinct := by
    rw [List.map_append, List.nodup_append]
    refine ⟨first.distinct, second.distinct, ?_⟩
    rintro _ before _ later rfl
    obtain ⟨one, memberBefore, rfl⟩ := List.mem_map.mp before
    obtain ⟨other, memberLater, same⟩ := List.mem_map.mp later
    exact second.unmet other memberLater (same ▸ first.met one memberBefore)
  found := fun other member => (List.mem_append.mp member).elim (first.found other)
    (second.found other)
  above := fun other member => (List.mem_append.mp member).elim (first.above other)
    fun later => notAbove.trans (second.above other later)
  below := fun other member => (List.mem_append.mp member).elim (first.below other)
    (second.below other)
  first := first.first
  steps := by
    refine first.steps.append second.steps ?_
    intro last isLast next isNext
    have reached := first.above last (List.mem_of_mem_getLast? isLast)
    have begun := second.first next isNext
    omega

end Extends

end OutlineWalk

namespace Store

open OutlineWalk (Extends)

variable {store : Store}

/-! ## What is read -/

/-- A node and its later siblings are read with what is below each of them. -/
theorem exists_extends_readSiblings {level : Nat} (within : level ≤ maxOutlineLevel)
    {readBelow : Nat → OutlineWalk α → OutlineWalk α}
    (readsBelow : ∀ child walk, ∃ nodes,
      Extends store (level + 1) walk (readBelow child walk) nodes)
    (left : Nat) (first? : Option Nat) (walk : OutlineWalk α) :
    ∃ nodes, Extends store level walk (store.readSiblings level readBelow left first? walk)
      nodes := by
  have met {id : Nat} (walk : OutlineWalk α) : Extends store level walk (walk.meet id) [] :=
    .none rfl fun _ known => Extends.mem_meet.mpr (.inr known)
  induction left generalizing first? walk with
  | zero =>
    cases first? with
    | none => exact ⟨[], .refl walk⟩
    | some id => exact ⟨[], met walk⟩
  | succ left ih =>
    cases first? with
    | none => exact ⟨[], .refl walk⟩
    | some id =>
      unfold readSiblings
      split
      · exact ⟨[], .refl walk⟩
      · next unmet =>
        dsimp only
        cases found : store.dictionary id with
        | error fault => exact ⟨[], met walk⟩
        | ok entries =>
          have read : Extends store level walk _ [⟨id, level, entries⟩] :=
            .single (fun known => unmet (Std.HashSet.contains_iff_mem.mpr known)) found within
          dsimp only
          cases linked? entries "First" with
          | none =>
            obtain ⟨later, rest⟩ := ih (linked? entries "Next") _
            exact ⟨_, read.append rest le_rfl (Nat.le_succ level)⟩
          | some child =>
            obtain ⟨inner, deeper⟩ := readsBelow child _
            have whole := read.append deeper (Nat.le_succ level) le_rfl
            obtain ⟨later, rest⟩ := ih (linked? entries "Next") _
            exact ⟨_, whole.append rest le_rfl (Nat.le_succ level)⟩

/-- The level that begins with a node is read with so many levels in all. -/
theorem exists_extends_readLevels {levels level : Nat}
    (within : level + levels ≤ maxOutlineLevel + 1) (first : Nat) (walk : OutlineWalk α) :
    ∃ nodes, Extends store level walk (store.readLevels levels level first walk) nodes := by
  induction levels generalizing level first walk with
  | zero => exact ⟨[], .refl walk⟩
  | succ levels ih =>
    exact exists_extends_readSiblings (by omega) (fun child walk => ih (by omega) child walk)
      maxSiblings (some first) walk

/-- **The outline is read from nodes that are met once each.** -/
theorem exists_extends_outline (store : Store) : ∃ (nodes : List OutlineNode)
    (after : OutlineWalk α), Extends store 1 .start after nodes ∧
      (store.outline : List (OutlineItem Nat α)) = nodes.map (OutlineNode.item store) := by
  unfold outline
  cases store.outlineRoot? with
  | none => exact ⟨[], .start, .refl _, rfl⟩
  | some first =>
    have within : 1 + maxOutlineLevel ≤ maxOutlineLevel + 1 := Nat.add_comm _ _ |>.le
    obtain ⟨nodes, read⟩ := exists_extends_readLevels within first (.start : OutlineWalk α)
    exact ⟨nodes, _, read, read.items⟩

/-- Numbers that lead to a dictionary are those of objects. -/
theorem mem_of_dictionary {id : Nat} {entries : Dictionary}
    (found : store.dictionary id = .ok entries) : id ∈ store.objects := by
  cases present : store.objects[id]? with
  | some object => exact mem_of_getElem? present
  | none =>
    unfold dictionary object locate locateFrom at found
    rw [present] at found
    cases found

/-- **A malformed outline does not make its reading loop or repeat itself.** The items of an outline
are those of different objects, so that there are not more of them than objects. Every level is
between the first and the deepest that is read; the first item is on the first level, and no item is
more than one level below the item before it. -/
theorem outline_discipline (store : Store) :
    ∃ nodes : List OutlineNode,
      (store.outline : List (OutlineItem Nat α)) = nodes.map (OutlineNode.item store) ∧
      (nodes.map OutlineNode.id).Nodup ∧
      (∀ node ∈ nodes, store.dictionary node.id = .ok node.entries) ∧
      (store.outline : List (OutlineItem Nat α)).length ≤ store.objects.size ∧
      (∀ item ∈ (store.outline : List (OutlineItem Nat α)), 1 ≤ item.level ∧ item.level ≤ 64) ∧
      (∀ item ∈ (store.outline : List (OutlineItem Nat α)).head?, item.level = 1) ∧
      (store.outline : List (OutlineItem Nat α)).IsChain
        fun item next => next.level ≤ item.level + 1 := by
  obtain ⟨nodes, after, read, same⟩ := exists_extends_outline (α := α) store
  have few : nodes.length ≤ store.objects.size := by
    have members : nodes.map OutlineNode.id ⊆ store.objects.keys := by
      intro id member
      obtain ⟨node, isNode, rfl⟩ := List.mem_map.mp member
      exact Std.ExtTreeMap.mem_keys.mpr (mem_of_dictionary (read.found node isNode))
    have bound := (List.subperm_of_subset read.distinct members).length_le
    rwa [List.length_map, Std.ExtTreeMap.length_keys] at bound
  refine ⟨nodes, same, read.distinct, read.found, ?_, ?_, ?_, ?_⟩
  · rwa [same, List.length_map]
  · rw [same]
    rintro _ member
    obtain ⟨node, isNode, rfl⟩ := List.mem_map.mp member
    exact ⟨read.above node isNode, read.below node isNode⟩
  · rw [same, List.head?_map]
    rintro _ member
    obtain ⟨node, isNode, rfl⟩ := Option.map_eq_some_iff.mp member
    exact read.first node isNode
  · rw [same, List.isChain_map]
    exact read.steps

end Store

end PlacedText
