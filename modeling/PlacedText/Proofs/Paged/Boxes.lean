import PlacedText.Paged.Basic
import PlacedText.Proofs.Scalar.Real

/-! # Attributes and boxes of pages

A page has the attributes of the nearest node above it that has them, itself included. The search
climbs from node to node and has four ends, each told by where the climb stopped
(`Store.inherited_eq_some_iff`, `Store.inherited_eq_none_iff`, `Store.inherited_eq_object_iff`,
`Store.inherited_eq_tooDeep_iff`). The boxes of a page are found by two such searches over the same
nodes (`PagedStore.boxes_inherited`).
-/

namespace PlacedText

namespace Store

variable {store : Store} {key : String} {page level levels node last : Nat} {value : Object}

/-- Whether references lead some levels up from a node to the last one, and all nodes on the way,
the last one apart, are dictionaries without a key. -/
inductive Climbs (store : Store) (key : String) : (level node last : Nat) → Prop where
  | here {node : Nat} : Climbs store key 0 node node
  | up {level node parent last : Nat} {entries : Dictionary}
      (own : store.dictionary node = .ok entries) (unset : entries.find? key = none)
      (refers : entries.find? "Parent" = some (.reference parent))
      (onward : Climbs store key level parent last) : Climbs store key (level + 1) node last

/-- Whether the first node with a key is near enough to a page, and what it has there. -/
def Nearest (store : Store) (key : String) (page : Nat) (value : Object) : Prop :=
  ∃ level < maxTreeLevels, ∃ last entries held, store.Climbs key level page last ∧
    store.dictionary last = .ok entries ∧ entries.find? key = some held ∧
    store.resolve held = value

/-- Whether the nodes above a page end near enough to it, and none has a key. -/
def Unset (store : Store) (key : String) (page : Nat) : Prop :=
  ∃ level < maxTreeLevels, ∃ last entries, store.Climbs key level page last ∧
    store.dictionary last = .ok entries ∧ entries.find? key = none ∧
    ∀ parent, entries.find? "Parent" ≠ some (.reference parent)

/-- Whether references lead to something that is no dictionary before they lead to a key. -/
def Broken (store : Store) (key : String) (page : Nat) (fault : ObjectFault) : Prop :=
  ∃ level < maxTreeLevels, ∃ last, store.Climbs key level page last ∧
    store.dictionary last = .error fault

/-- Whether there are more nodes above a page than are searched for a key, or always the same. -/
def TooDeep (store : Store) (key : String) (page : Nat) : Prop :=
  ∃ last, store.Climbs key maxTreeLevels page last

/-! ## One node -/

theorem inheritedFrom_fault {fault : ObjectFault} (own : store.dictionary node = .error fault) :
    store.inheritedFrom key page (levels + 1) node = .error (.object fault) := by
  unfold inheritedFrom
  rw [own]

theorem inheritedFrom_own {entries : Dictionary} {held : Object}
    (own : store.dictionary node = .ok entries) (set : entries.find? key = some held) :
    store.inheritedFrom key page (levels + 1) node = .ok (some (store.resolve held)) := by
  unfold inheritedFrom
  rw [own]
  dsimp only
  rw [set]

/-- A node that refers to none above it and does not have the key ends the search with nothing. -/
theorem inheritedFrom_top {entries : Dictionary} (own : store.dictionary node = .ok entries)
    (unset : entries.find? key = none)
    (top : ∀ parent, entries.find? "Parent" ≠ some (.reference parent)) :
    store.inheritedFrom key page (levels + 1) node = .ok none := by
  unfold inheritedFrom
  rw [own]
  dsimp only
  rw [unset]
  dsimp only
  split
  · next parent refers => exact absurd refers (top parent)
  · rfl

theorem inheritedFrom_up {entries : Dictionary} {parent : Nat}
    (own : store.dictionary node = .ok entries) (unset : entries.find? key = none)
    (refers : entries.find? "Parent" = some (.reference parent)) :
    store.inheritedFrom key page (levels + 1) node =
      store.inheritedFrom key page levels parent := by
  rw [inheritedFrom, own]
  dsimp only
  rw [unset, refers]

/-- A search that is not at its end at a level goes on from there. -/
theorem Climbs.inheritedFrom (climbs : store.Climbs key level node last) (page levels : Nat) :
    store.inheritedFrom key page (level + levels) node =
      store.inheritedFrom key page levels last := by
  induction climbs with
  | here => rw [Nat.zero_add]
  | up own unset refers _ ih =>
    rw [Nat.add_right_comm, inheritedFrom_up own unset refers, ih]

/-- From where one climb ends another one may go on. -/
theorem Climbs.trans {further : Nat} {top : Nat} (climbs : store.Climbs key level node last)
    (onward : store.Climbs key further last top) :
    store.Climbs key (level + further) node top := by
  induction climbs with
  | here => rwa [Nat.zero_add]
  | up own unset refers _ ih =>
    rw [Nat.add_right_comm]
    exact .up own unset refers (ih onward)

/-- A climb passes a node on every level below its last one. -/
theorem Climbs.exists_below {further : Nat}
    (climbs : store.Climbs key (level + further) node last) :
    ∃ between, store.Climbs key level node between := by
  induction level generalizing node with
  | zero => exact ⟨node, .here⟩
  | succ level ih =>
    rw [Nat.add_right_comm] at climbs
    cases climbs with
    | up own unset refers onward =>
      obtain ⟨between, climbs⟩ := ih onward
      exact ⟨between, .up own unset refers climbs⟩

/-- There is no end to a climb in circles. -/
theorem Climbs.exists_circling {turn : Nat} (circle : store.Climbs key (turn + 1) node node)
    (level : Nat) : ∃ last, store.Climbs key level node last := by
  have rounds (count : Nat) : store.Climbs key (count * (turn + 1)) node node := by
    induction count with
    | zero =>
      rw [Nat.zero_mul]
      exact .here
    | succ count ih =>
      rw [Nat.succ_mul]
      exact ih.trans circle
  have enough : level * (turn + 1) = level + level * turn := by rw [Nat.mul_succ, Nat.add_comm]
  exact (enough ▸ rounds level).exists_below

/-! ## The ends of the search -/

/-- What is found within some levels is what is found at the level where the search stops. -/
theorem Climbs.inherited (climbs : store.Climbs key level page last)
    (within : level < maxTreeLevels) :
    ∃ rest, store.inherited page key = store.inheritedFrom key page (rest + 1) last := by
  obtain ⟨rest, all⟩ := Nat.exists_eq_add_of_lt within
  refine ⟨rest, ?_⟩
  rw [← climbs.inheritedFrom page (rest + 1), ← Nat.add_assoc, ← all]
  rfl

theorem Nearest.inherited (nearest : store.Nearest key page value) :
    store.inherited page key = .ok (some value) := by
  obtain ⟨level, within, last, entries, held, climbs, own, set, rfl⟩ := nearest
  obtain ⟨rest, found⟩ := climbs.inherited within
  rw [found, inheritedFrom_own own set]

theorem Unset.inherited (unset : store.Unset key page) : store.inherited page key = .ok none := by
  obtain ⟨level, within, last, entries, climbs, own, unset, top⟩ := unset
  obtain ⟨rest, found⟩ := climbs.inherited within
  rw [found, inheritedFrom_top own unset top]

theorem Broken.inherited {fault : ObjectFault} (broken : store.Broken key page fault) :
    store.inherited page key = .error (.object fault) := by
  obtain ⟨level, within, last, climbs, own⟩ := broken
  obtain ⟨rest, found⟩ := climbs.inherited within
  rw [found, inheritedFrom_fault own]

theorem TooDeep.inherited (tooDeep : store.TooDeep key page) :
    store.inherited page key = .error (.structural (.treeTooDeep page maxTreeLevels)) := by
  obtain ⟨last, climbs⟩ := tooDeep
  exact climbs.inheritedFrom page 0

/-- A search that comes to a circle of nodes without the key is a fault. -/
theorem tooDeep_of_circle {turn : Nat} (climbs : store.Climbs key level page last)
    (circle : store.Climbs key (turn + 1) last last) : store.TooDeep key page := by
  obtain ⟨top, onward⟩ := circle.exists_circling maxTreeLevels
  have whole := climbs.trans onward
  rw [Nat.add_comm] at whole
  exact whole.exists_below

/-- A search stops at a node that cannot be read, has the key or is the top one, or it climbs all
levels. -/
theorem exists_climbs (store : Store) (key : String) (levels node : Nat) :
    (∃ level < levels, ∃ last, store.Climbs key level node last ∧
      ((∃ fault, store.dictionary last = .error fault) ∨
        ∃ entries, store.dictionary last = .ok entries ∧
          ((∃ held, entries.find? key = some held) ∨ entries.find? key = none ∧
            ∀ parent, entries.find? "Parent" ≠ some (.reference parent)))) ∨
      ∃ last, store.Climbs key levels node last := by
  induction levels generalizing node with
  | zero => exact .inr ⟨node, .here⟩
  | succ levels ih =>
    cases own : store.dictionary node with
    | error fault => exact .inl ⟨0, levels.succ_pos, node, .here, .inl ⟨fault, own⟩⟩
    | ok entries =>
      cases set : entries.find? key with
      | some held =>
        exact .inl ⟨0, levels.succ_pos, node, .here, .inr ⟨entries, own, .inl ⟨held, set⟩⟩⟩
      | none =>
        by_cases refers : ∃ parent, entries.find? "Parent" = some (.reference parent)
        · obtain ⟨parent, refers⟩ := refers
          rcases ih parent with ⟨level, within, last, climbs, stops⟩ | ⟨last, climbs⟩
          · exact .inl ⟨level + 1, Nat.succ_lt_succ within, last, .up own set refers climbs, stops⟩
          · exact .inr ⟨last, .up own set refers climbs⟩
        · exact .inl ⟨0, levels.succ_pos, node, .here,
            .inr ⟨entries, own, .inr ⟨set, not_exists.mp refers⟩⟩⟩

/-- Every search has one of four ends. -/
theorem search_ends (store : Store) (key : String) (page : Nat) :
    (∃ value, store.Nearest key page value) ∨ store.Unset key page ∨
      (∃ fault, store.Broken key page fault) ∨ store.TooDeep key page := by
  rcases store.exists_climbs key maxTreeLevels page with
    ⟨level, within, last, climbs, ⟨fault, own⟩ | ⟨entries, own, ⟨held, set⟩ | ⟨unset, top⟩⟩⟩ |
      ⟨last, climbs⟩
  · exact .inr (.inr (.inl ⟨fault, level, within, last, climbs, own⟩))
  · exact .inl ⟨_, level, within, last, entries, held, climbs, own, set, rfl⟩
  · exact .inr (.inl ⟨level, within, last, entries, climbs, own, unset, top⟩)
  · exact .inr (.inr (.inr ⟨last, climbs⟩))

/-- A value is inherited just where a node that is near enough to the page has it. The four ends of
a search exclude one another, so each of them is an equivalence. -/
theorem inherited_eq_some_iff :
    store.inherited page key = .ok (some value) ↔ store.Nearest key page value := by
  refine ⟨fun found => ?_, Nearest.inherited⟩
  rcases store.search_ends key page with ⟨value', nearest⟩ | unset | ⟨fault, broken⟩ | tooDeep
  · cases found.symm.trans nearest.inherited
    exact nearest
  · cases found.symm.trans unset.inherited
  · cases found.symm.trans broken.inherited
  · cases found.symm.trans tooDeep.inherited

/-- Nothing is inherited just where the nodes above a page end before one has the key. -/
theorem inherited_eq_none_iff : store.inherited page key = .ok none ↔ store.Unset key page := by
  refine ⟨fun found => ?_, Unset.inherited⟩
  rcases store.search_ends key page with ⟨value, nearest⟩ | unset | ⟨fault, broken⟩ | tooDeep
  · cases found.symm.trans nearest.inherited
  · exact unset
  · cases found.symm.trans broken.inherited
  · cases found.symm.trans tooDeep.inherited

/-- A search that finds nothing and does not come to the top is a fault. -/
theorem inherited_eq_error_iff {fault : ReadFault} :
    store.inherited page key = .error fault ↔
      (∃ own, store.Broken key page own ∧ fault = .object own) ∨
        store.TooDeep key page ∧ fault = .structural (.treeTooDeep page maxTreeLevels) := by
  constructor
  · intro failed
    rcases store.search_ends key page with ⟨value, nearest⟩ | unset | ⟨own, broken⟩ | tooDeep
    · cases failed.symm.trans nearest.inherited
    · cases failed.symm.trans unset.inherited
    · cases failed.symm.trans broken.inherited
      exact .inl ⟨own, broken, rfl⟩
    · cases failed.symm.trans tooDeep.inherited
      exact .inr ⟨tooDeep, rfl⟩
  · rintro (⟨own, broken, rfl⟩ | ⟨tooDeep, rfl⟩)
    · exact broken.inherited
    · exact tooDeep.inherited

end Store

namespace PagedStore

variable {α : Type} [Scalar α] {paged : PagedStore} {index page : Nat} {key : String}

/-! ## Boxes -/

/-- Whether a value is an array of four numbers, and the rectangle between the two corners that they
give, in whatever order these are. -/
def GivesRect (store : Store) (value : Object) (rect : Rect α) : Prop :=
  ∃ items x₀ y₀ x₁ y₁, value = .array items ∧ store.numbers? items = some [x₀, y₀, x₁, y₁] ∧
    rect = ⟨Scalar.min x₀ x₁, Scalar.min y₀ y₁, Scalar.max x₀ x₁, Scalar.max y₀ y₁⟩

/-- A value is a rectangle just where it has four numbers; the corners are the smaller and the
greater coordinates. -/
theorem rectOf?_eq_some_iff {store : Store} {value : Object} {rect : Rect α} :
    rectOf? store value = some rect ↔ GivesRect store value rect := by
  unfold rectOf? GivesRect
  constructor
  · intro found
    obtain ⟨items, listed, found⟩ := Option.bind_eq_some_iff.mp found
    obtain ⟨numbers, read, found⟩ := Option.bind_eq_some_iff.mp found
    split at found
    · next x₀ y₀ x₁ y₁ =>
      cases found
      cases value with
      | array =>
        cases listed
        exact ⟨items, x₀, y₀, x₁, y₁, rfl, read, rfl⟩
      | _ => cases listed
    · cases found
  · rintro ⟨items, x₀, y₀, x₁, y₁, rfl, read, rfl⟩
    refine Option.bind_eq_some_iff.mpr ⟨items, rfl, ?_⟩
    rw [read]
    rfl

theorem rect?_of_error (found : paged.pageId index = .ok page) {fault : ReadFault}
    (failed : paged.store.inherited page key = .error fault) :
    (paged.rect? index key : Except ReadFault (Option (Rect α))) = .error fault := by
  unfold rect?
  rw [found]
  dsimp only [bind, Except.bind]
  rw [failed]

/-- A page without a key in it or above has no rectangle there, which is no fault. -/
theorem rect?_of_unset (found : paged.pageId index = .ok page)
    (unset : paged.store.Unset key page) :
    (paged.rect? index key : Except ReadFault (Option (Rect α))) = .ok none := by
  unfold rect?
  rw [found]
  dsimp only [bind, Except.bind]
  rw [unset.inherited]
  rfl

/-- The nearest value is the rectangle, and a fault if it is none. -/
theorem rect?_of_nearest (found : paged.pageId index = .ok page) {value : Object}
    (nearest : paged.store.Nearest key page value) :
    (paged.rect? index key : Except ReadFault (Option (Rect α))) =
      match (rectOf? paged.store value : Option (Rect α)) with
      | some rect => .ok (some rect)
      | none => .error (.structural (.notFourNumbers key)) := by
  unfold rect?
  rw [found]
  dsimp only [bind, Except.bind]
  rw [nearest.inherited]
  rfl

/-- A page has a rectangle under a key just where the nearest value gives it. -/
theorem rect?_eq_some_iff (found : paged.pageId index = .ok page) {rect : Rect α} :
    paged.rect? index key = .ok (some rect) ↔
      ∃ value, paged.store.Nearest key page value ∧ GivesRect paged.store value rect := by
  constructor
  · intro answer
    cases inherited : paged.store.inherited page key with
    | error fault => cases (rect?_of_error found inherited).symm.trans answer
    | ok value? =>
      cases value? with
      | none =>
        have unset := Store.inherited_eq_none_iff.mp inherited
        cases (rect?_of_unset found unset).symm.trans answer
      | some value =>
        have nearest := Store.inherited_eq_some_iff.mp inherited
        refine ⟨value, nearest, rectOf?_eq_some_iff.mp ?_⟩
        rw [rect?_of_nearest found nearest] at answer
        split at answer
        · next corners =>
          cases answer
          exact corners
        · cases answer
  · rintro ⟨value, nearest, corners⟩
    rw [rect?_of_nearest found nearest, rectOf?_eq_some_iff.mpr corners]

/-- A page has no rectangle under a key just where the key is unset. -/
theorem rect?_eq_none_iff (found : paged.pageId index = .ok page) :
    (paged.rect? index key : Except ReadFault (Option (Rect α))) = .ok none ↔
      paged.store.Unset key page := by
  refine ⟨fun answer => ?_, rect?_of_unset found⟩
  cases inherited : paged.store.inherited page key with
  | error fault => cases (rect?_of_error found inherited).symm.trans answer
  | ok value? =>
    cases value? with
    | none => exact Store.inherited_eq_none_iff.mp inherited
    | some value =>
      rw [rect?_of_nearest found (Store.inherited_eq_some_iff.mp inherited)] at answer
      split at answer <;> cases answer

/-- There is a media box just where the page has a rectangle under its key. -/
theorem mediaBox_eq_ok_iff {rect : Rect α} :
    paged.mediaBox index = .ok rect ↔ paged.rect? index "MediaBox" = .ok (some rect) := by
  unfold mediaBox
  dsimp only [bind, Except.bind]
  cases (paged.rect? index "MediaBox" : Except ReadFault (Option (Rect α))) with
  | error fault => exact ⟨nofun, nofun⟩
  | ok rect? =>
    cases rect? with
    | none => exact ⟨nofun, nofun⟩
    | some rect' => exact ⟨fun | rfl => rfl, fun | rfl => rfl⟩

theorem cropBox_of_none
    (none : (paged.rect? index "CropBox" : Except ReadFault (Option (Rect α))) = .ok none) :
    (paged.cropBox index : Except ReadFault (Rect α)) = paged.mediaBox index := by
  unfold cropBox
  rw [none]
  rfl

/-- The crop box is that of its key, or else the media box, but never where the crop box is faulty.
-/
theorem cropBox_eq_ok_iff {rect : Rect α} :
    paged.cropBox index = .ok rect ↔ paged.rect? index "CropBox" = .ok (some rect) ∨
      (paged.rect? index "CropBox" : Except ReadFault (Option (Rect α))) = .ok none ∧
        paged.mediaBox index = .ok rect := by
  cases crop : (paged.rect? index "CropBox" : Except ReadFault (Option (Rect α))) with
  | error fault =>
    unfold cropBox
    rw [crop]
    exact ⟨nofun, nofun⟩
  | ok rect? =>
    cases rect? with
    | none =>
      rw [cropBox_of_none crop]
      exact ⟨fun media => .inr ⟨rfl, media⟩, fun | .inr media => media.2⟩
    | some rect' =>
      unfold cropBox
      rw [crop]
      exact ⟨fun | rfl => .inl rfl, fun | .inl rfl => rfl⟩

/-- **A page has what the nearest node has, and the search for it ends.** An attribute is that of
the first node that has it, is none if there is no such node up to the top one, and is a fault in
the other cases: when the way up leads to something that is no dictionary, goes on above the nodes
that are searched, or leads in circles. So the boxes of a page are the rectangles between the
corners that the nearest `/MediaBox` and the nearest `/CropBox` give, and the media box is the crop
box as well if there is no `/CropBox` on the whole way up. -/
theorem boxes_inherited (paged : PagedStore) (page : Nat) :
    (∀ key value, paged.store.inherited page key = .ok (some value) ↔
      paged.store.Nearest key page value) ∧
    (∀ key, paged.store.inherited page key = .ok none ↔ paged.store.Unset key page) ∧
    (∀ key fault, paged.store.inherited page key = .error fault ↔
      (∃ own, paged.store.Broken key page own ∧ fault = .object own) ∨
        paged.store.TooDeep key page ∧
          fault = .structural (.treeTooDeep page Store.maxTreeLevels)) ∧
    (∀ key level turn last, paged.store.Climbs key level page last →
      paged.store.Climbs key (turn + 1) last last → paged.store.TooDeep key page) ∧
    ∀ index, paged.pageId index = .ok page →
      (∀ rect : Rect α, paged.mediaBox index = .ok rect ↔
        ∃ value, paged.store.Nearest "MediaBox" page value ∧ GivesRect paged.store value rect) ∧
      (∀ rect : Rect α, paged.cropBox index = .ok rect ↔
        (∃ value, paged.store.Nearest "CropBox" page value ∧ GivesRect paged.store value rect) ∨
          paged.store.Unset "CropBox" page ∧ paged.mediaBox index = .ok rect) ∧
      (paged.store.Unset "CropBox" page →
        (paged.cropBox index : Except ReadFault (Rect α)) = paged.mediaBox index) := by
  refine ⟨fun key value => Store.inherited_eq_some_iff, fun key => Store.inherited_eq_none_iff,
    fun key fault => Store.inherited_eq_error_iff,
    fun key level turn last => Store.tooDeep_of_circle, fun index found => ⟨?_, ?_, ?_⟩⟩
  · intro rect
    rw [mediaBox_eq_ok_iff, rect?_eq_some_iff found]
  · intro rect
    rw [cropBox_eq_ok_iff, rect?_eq_some_iff found, rect?_eq_none_iff found]
  · intro unset
    exact cropBox_of_none ((rect?_eq_none_iff found).mpr unset)

/-- The media box that `ofSharedBox` has, from its upper right corner to its lower left one. -/
def letterSheet : Object := .array [.integer 612, .integer 792, .integer 0, .integer 0]

/-- A page with nothing but a node above it, which has a media box, and a page above itself. -/
def ofSharedBox : PagedStore :=
  ⟨.ofObjects [(1, .dictionary [(Text.Utf8.encode "Parent", .reference 3)]),
    (2, .dictionary [(Text.Utf8.encode "Parent", .reference 2)]),
    (3, .dictionary [(Text.Utf8.encode "MediaBox", letterSheet)])] [], [1, 2]⟩

/-- The boxes of a page that are those of the node above it, and a page that is above itself. -/
theorem boxes_inherited_from_parent :
    let sheet : Rect ℝ := ⟨0, 0, 612, 792⟩
    ofSharedBox.pageId 0 = .ok 1 ∧ ofSharedBox.store.Unset "CropBox" 1 ∧
      ofSharedBox.mediaBox 0 = .ok sheet ∧ ofSharedBox.cropBox 0 = .ok sheet ∧
      ofSharedBox.store.Climbs "MediaBox" 1 2 2 ∧ ofSharedBox.store.TooDeep "MediaBox" 2 := by
  intro sheet
  have up {key : String} (absent : Dictionary.find? [(Text.Utf8.encode "Parent", .reference 3)] key
      = none) : ofSharedBox.store.Climbs key 1 1 3 := .up rfl absent rfl .here
  have unset : ofSharedBox.store.Unset "CropBox" 1 :=
    ⟨1, by decide, 3, _, up rfl, rfl, rfl, nofun⟩
  have corners : GivesRect ofSharedBox.store letterSheet sheet := by
    refine ⟨_, 612, 792, 0, 0, rfl, ?_, ?_⟩
    · change some [((612 : Int) : ℝ), ((792 : Int) : ℝ), ((0 : Int) : ℝ), ((0 : Int) : ℝ)] = _
      norm_num
    · norm_num [sheet, Scalar.min, Scalar.max]
  have nearest : ofSharedBox.store.Nearest "MediaBox" 1 letterSheet :=
    ⟨1, by decide, 3, _, _, up rfl, rfl, rfl, rfl⟩
  have circle : ofSharedBox.store.Climbs "MediaBox" 1 2 2 := .up rfl rfl rfl .here
  obtain ⟨_, _, _, _, boxes⟩ := boxes_inherited (α := ℝ) ofSharedBox 1
  obtain ⟨media, _, fallback⟩ := boxes 0 rfl
  obtain ⟨_, _, _, circles, _⟩ := boxes_inherited (α := ℝ) ofSharedBox 2
  have found := (media sheet).mpr ⟨letterSheet, nearest, corners⟩
  exact ⟨rfl, unset, found, (fallback unset).trans found, circle,
    circles "MediaBox" 0 0 2 .here circle⟩

end PagedStore

end PlacedText
