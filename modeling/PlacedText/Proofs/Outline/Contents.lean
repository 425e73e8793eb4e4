import PlacedText.Outline.Contents
import PlacedText.Proofs.Scalar.Stable
import Mathlib.Data.List.Forall2
import Mathlib.Data.List.Pairwise

/-! # The entries of the table of contents

Which entry an outline item has is said without a search (`OutlineItem.HasEntry`). The table of
contents holds one entry for each item that leads to one of the pages: sorted by their pages, and
those of a page in the order of the items (`tableOfContents_stable`).
-/

namespace PlacedText

variable {ι α : Type} [Scalar α]

/-- The coordinates that a view points at: those of a point, zero where one is missing, and zero for
every view without a point. -/
inductive DestinationView.PointsAt : DestinationView α → α → α → Prop where
  | xyz (left? top? : Option α) : PointsAt (.xyz left? top?) (left?.getD 0.0) (top?.getD 0.0)
  | other : PointsAt .other 0.0 0.0

/-- A view points at its coordinates, each of them zero where it has none. -/
theorem DestinationView.pointsAt_iff {view : DestinationView α} {left top : α} :
    view.PointsAt left top ↔ left = view.point.x ∧ top = view.point.y := by
  constructor
  · rintro (⟨left?, top?⟩ | -)
    · exact ⟨rfl, rfl⟩
    · exact ⟨rfl, rfl⟩
  · rintro ⟨rfl, rfl⟩
    cases view with
    | xyz left? top? => exact .xyz left? top?
    | other => exact .other

omit [Scalar α] in
/-- The destination that a target leads to: its own, or the one that its name is defined as. -/
inductive OutlineTarget.LeadsTo (named : NamedDestinations ι α) :
    OutlineTarget ι α → Destination ι α → Prop where
  | explicit (destination : Destination ι α) : LeadsTo named (.explicit destination) destination
  | named {name : String} {destination : Destination ι α}
    (defined : named.get? name = some destination) : LeadsTo named (.named name) destination

namespace OutlineItem

variable {named : NamedDestinations ι α} {pages : List ι} {item : OutlineItem ι α}
  {entry : ContentsEntry α}

omit [Scalar α] in
/-- An item has a destination of its own or one that is defined for its name. -/
theorem destination?_eq_some_iff {destination : Destination ι α} :
    item.destination? named = some destination ↔ item.target.LeadsTo named destination := by
  unfold destination?
  cases item.target with
  | named name => exact ⟨.named, fun | .named defined => defined⟩
  | explicit own =>
    exact ⟨fun same => Option.some.inj same ▸ .explicit own, fun | .explicit _ => rfl⟩
  | unsupported => exact ⟨nofun, nofun⟩

/-- Whether an entry stands for an item that leads to some destination: at the first position of
its page, and at the point of its view. -/
structure LeadsAs (pages : List ι) (item : OutlineItem ι α) (destination : Destination ι α)
    (entry : ContentsEntry α) : Prop where
  title : entry.title = item.title
  level : entry.level = item.level
  page : pages[entry.page]? = some destination.page
  first : ∀ earlier < entry.page, pages[earlier]? ≠ some destination.page
  point : destination.view.PointsAt entry.left entry.top

/-- Whether an entry is that of an item. -/
def HasEntry (named : NamedDestinations ι α) (pages : List ι) (item : OutlineItem ι α)
    (entry : ContentsEntry α) : Prop :=
  ∃ destination, item.target.LeadsTo named destination ∧ item.LeadsAs pages destination entry

omit [Scalar α] in
/-- Whether an item leads to one of the pages. -/
def IsListed (named : NamedDestinations ι α) (pages : List ι) (item : OutlineItem ι α) : Prop :=
  ∃ destination, item.target.LeadsTo named destination ∧ destination.page ∈ pages

variable [DecidableEq ι]

omit [Scalar α] in
theorem isListed_iff :
    item.IsListed named pages ↔
      (item.destination? named).any (fun destination => destination.page ∈ pages) := by
  unfold IsListed
  simp only [← destination?_eq_some_iff, Option.any_eq_true, decide_eq_true_eq]

instance : DecidablePred (IsListed named pages) := fun _ => decidable_of_iff' _ isListed_iff

/-- The entry of an item has its title and its level, the first page with the number of the
destination and the point of its view. -/
theorem resolve?_eq_some_iff :
    item.resolve? named pages = some entry ↔ item.HasEntry named pages entry := by
  unfold resolve?
  simp only [bind, Option.bind_eq_some_iff, destination?_eq_some_iff, pure, Option.some.injEq]
  constructor
  · rintro ⟨destination, leads, page, found, rfl⟩
    obtain ⟨within, same, before⟩ := List.findIdx?_eq_some_iff_getElem.mp found
    refine ⟨destination, leads, rfl, rfl, ?_, ?_, DestinationView.pointsAt_iff.mpr ⟨rfl, rfl⟩⟩
    · rw [List.getElem?_eq_getElem within, beq_iff_eq.mp same]
    · intro earlier less known
      obtain ⟨present, there⟩ := List.getElem?_eq_some_iff.mp known
      exact before earlier less (beq_iff_eq.mpr there)
  · rintro ⟨destination, leads, title, level, page, first, point⟩
    obtain ⟨within, same⟩ := List.getElem?_eq_some_iff.mp page
    obtain ⟨left, top⟩ := DestinationView.pointsAt_iff.mp point
    refine ⟨destination, leads, entry.page, ?_, ?_⟩
    · refine List.findIdx?_eq_some_iff_getElem.mpr ⟨within, beq_iff_eq.mpr same, ?_⟩
      intro earlier less known
      exact first earlier less (List.getElem?_eq_some_iff.mpr ⟨_, beq_iff_eq.mp known⟩)
    · rw [← title, ← level, ← left, ← top]

/-- An item has an entry just where its destination is a page of the document. -/
theorem isSome_resolve?_iff : (item.resolve? named pages).isSome ↔ item.IsListed named pages := by
  rw [isListed_iff]
  unfold resolve?
  cases item.destination? named with
  | none => rfl
  | some destination =>
    have found : (pages.findIdx? (· == destination.page)).isSome ↔ destination.page ∈ pages := by
      rw [List.findIdx?_isSome, List.any_beq']
      exact List.contains_iff_mem
    rw [Option.any_some, decide_eq_true_iff, ← found]
    simp only [bind, Option.bind_some]
    cases pages.findIdx? (· == destination.page) <;> rfl

/-- The entries of some items are those of the listed ones, each in its place. -/
theorem forall₂_filterMap_resolve? (named : NamedDestinations ι α) (pages : List ι)
    (items : List (OutlineItem ι α)) :
    List.Forall₂ (HasEntry named pages) (items.filter fun item => item.IsListed named pages)
      (items.filterMap (resolve? named pages)) := by
  induction items with
  | nil => exact .nil
  | cons item items ih =>
    cases resolved : item.resolve? named pages with
    | none =>
      have unlisted : ¬ item.IsListed named pages := by
        rw [← isSome_resolve?_iff, resolved]
        nofun
      rwa [List.filter_cons, if_neg (decide_eq_true_iff.not.mpr unlisted),
        List.filterMap_cons_none resolved]
    | some entry =>
      have listed : item.IsListed named pages := by
        rw [← isSome_resolve?_iff, resolved]
        rfl
      rw [List.filter_cons, if_pos (decide_eq_true listed), List.filterMap_cons_some resolved]
      exact .cons (resolve?_eq_some_iff.mp resolved) ih

end OutlineItem

/-! ## Sorting by a number -/

section Key

variable {β : Type} (key : β → Nat)

theorem key_trans (first second third : β) (le : decide (key first ≤ key second) = true)
    (le' : decide (key second ≤ key third) = true) : decide (key first ≤ key third) = true :=
  decide_eq_true (Nat.le_trans (of_decide_eq_true le) (of_decide_eq_true le'))

theorem key_total (first second : β) :
    (decide (key first ≤ key second) || decide (key second ≤ key first)) = true := by
  simpa only [Bool.or_eq_true, decide_eq_true_eq] using Nat.le_total _ _

/-- Sorting by a number keeps the order of the items that have the same one. -/
theorem filter_mergeSort_key (items : List β) (value : Nat) :
    (items.mergeSort fun first second => key first ≤ key second).filter (key · = value) =
      items.filter (key · = value) := by
  refine filter_mergeSort (key_trans key) (key_total key) (fun first second isFirst isSecond => ?_)
    items
  have one := of_decide_eq_true isFirst
  have other := of_decide_eq_true isSecond
  exact decide_eq_true (Nat.le_of_eq (one.trans other.symm))

end Key

/-- **The table of contents loses, invents and reorders nothing.** It consists of one entry for each
of the items that lead to one of the pages, which is the entry of that item. The entries are sorted
by their pages, and those of each page are in the order of the items. -/
theorem tableOfContents_stable [DecidableEq ι] (named : NamedDestinations ι α) (pages : List ι)
    (items : List (OutlineItem ι α)) :
    ∃ entries : List (ContentsEntry α),
      List.Forall₂ (OutlineItem.HasEntry named pages)
        (items.filter fun item => item.IsListed named pages) entries ∧
      (tableOfContents named pages items).Perm entries ∧
      (tableOfContents named pages items).Pairwise (fun first second =>
        first.page ≤ second.page) ∧
      ∀ page, (tableOfContents named pages items).filter (·.page = page) =
        entries.filter (·.page = page) := by
  refine ⟨_, OutlineItem.forall₂_filterMap_resolve? named pages items, List.mergeSort_perm _ _, ?_,
    filter_mergeSort_key ContentsEntry.page _⟩
  have sorted := List.pairwise_mergeSort (key_trans ContentsEntry.page)
    (key_total ContentsEntry.page) (items.filterMap (OutlineItem.resolve? (α := α) named pages))
  exact sorted.imp of_decide_eq_true

end PlacedText
