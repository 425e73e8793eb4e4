import PlacedText.Proofs.Outline.Walk

/-! # What the nodes of an outline say

The title of a node, the level that it is on and the place that it leads to, without the functions
that read them (`OutlineNode.Says`). A node says one thing and no other, and is read as that
(`OutlineNode.says_iff`).
-/

namespace PlacedText

variable {α : Type} [Scalar α]

namespace Store

variable {store : Store} {items : List Object} {value : Object} {node : Dictionary}

/-! ## Places -/

/-- Whether a coordinate is the number at a position of a destination. There is none if nothing is
at that position, or no number. -/
def HasCoordinate (store : Store) (items : List Object) (position : Nat) (coordinate? : Option α) :
    Prop :=
  ∀ x, coordinate? = some x ↔
    ∃ item, items[position]? = some item ∧ (store.resolve item).number? = some x

/-- The destination that an array gives. It begins with a reference to a page, behind which the word
`XYZ` stands for a point. -/
inductive Points (store : Store) (items : List Object) : Destination Nat α → Prop where
  | xyz {page : Nat} {left? top? : Option α} (begins : items[0]? = some (.reference page))
    (kind : items[1]? = some (.name (Text.Utf8.encode "XYZ")))
    (left : store.HasCoordinate items 2 left?) (top : store.HasCoordinate items 3 top?) :
    Points store items ⟨page, .xyz left? top?⟩
  | other {page : Nat} (begins : items[0]? = some (.reference page))
    (kind : items[1]? ≠ some (.name (Text.Utf8.encode "XYZ"))) : Points store items ⟨page, .other⟩

/-- What a destination leads to: the place that it gives, or a name that is a string or a word. -/
inductive LeadsTo (store : Store) (value : Object) : OutlineTarget Nat α → Prop where
  | explicit {items : List Object} {destination : Destination Nat α}
    (lists : store.resolve value = .array items) (points : store.Points items destination) :
    LeadsTo store value (.explicit destination)
  | string {bytes : Bytes} (spells : store.resolve value = .string bytes) :
    LeadsTo store value (.named (Text.ofStringObject bytes))
  | name {bytes : Bytes} (spells : store.resolve value = .name bytes) :
    LeadsTo store value (.named (Text.Utf8.decodeLossy bytes))
  | unsupported
    (unlisted : ∀ items page, store.resolve value = .array items →
      items[0]? ≠ some (.reference page))
    (noString : ∀ bytes, store.resolve value ≠ .string bytes)
    (noName : ∀ bytes, store.resolve value ≠ .name bytes) : LeadsTo store value .unsupported

/-- What a node leads to: its destination, or else that of its action if this goes to one. -/
inductive NodeLeadsTo (store : Store) (node : Dictionary) : OutlineTarget Nat α → Prop where
  | destination {value : Object} {target : OutlineTarget Nat α}
    (own : store.value? node "Dest" = some value) (leads : store.LeadsTo value target) :
    NodeLeadsTo store node target
  | action {action : Dictionary} {value : Object} {target : OutlineTarget Nat α}
    (absent : store.value? node "Dest" = none) (acts : store.dictionary? node "A" = some action)
    (goes : store.value? action "S" = some (.name (Text.Utf8.encode "GoTo")))
    (own : store.value? action "D" = some value) (leads : store.LeadsTo value target) :
    NodeLeadsTo store node target
  | nowhere (absent : store.value? node "Dest" = none)
    (stays : ∀ action value, store.dictionary? node "A" = some action →
      store.value? action "S" = some (.name (Text.Utf8.encode "GoTo")) →
      store.value? action "D" ≠ some value) : NodeLeadsTo store node .unsupported

/-- The title of a node: the text of its string, and nothing if it has none. -/
inductive HasTitle (store : Store) (node : Dictionary) : String → Prop where
  | written {bytes : Bytes} (spells : store.value? node "Title" = some (.string bytes)) :
    HasTitle store node (Text.ofStringObject bytes)
  | untitled (absent : ∀ bytes, store.value? node "Title" ≠ some (.string bytes)) :
    HasTitle store node ""

/-! ## Reading them -/

/-- The coordinate at a position is the number that stands there; null and all else is none. -/
theorem hasCoordinate_iff {position : Nat} {coordinate? : Option α} :
    store.HasCoordinate items position coordinate? ↔
      coordinate? = store.coordinate? items position := by
  have reads (x : α) : store.coordinate? items position = some x ↔
      ∃ item, items[position]? = some item ∧ (store.resolve item).number? = some x :=
    Option.bind_eq_some_iff
  unfold HasCoordinate
  simp only [← reads]
  exact Option.ext_iff.symm

omit [Scalar α] in
/-- An object that has a name is one. -/
theorem name?_eq_some_iff {object? : Option Object} {bytes : Bytes} :
    (object? >>= Object.name?) = some bytes ↔ object? = some (.name bytes) := by
  cases object? with
  | none => exact ⟨nofun, nofun⟩
  | some object =>
    change object.name? = some bytes ↔ _
    cases object <;> simp [Object.name?]

/-- An array points to the page that it refers to, in the view that its name and its numbers
describe. -/
theorem points_iff {destination : Destination Nat α} :
    store.Points items destination ↔ store.explicitDestination? items = some destination := by
  unfold explicitDestination? destinationView
  constructor
  · rintro (⟨begins, kind, left, top⟩ | ⟨begins, kind⟩)
    · rw [hasCoordinate_iff.mp left, hasCoordinate_iff.mp top,
        if_pos (name?_eq_some_iff.mpr kind), List.head?_eq_getElem?, begins]
      rfl
    · rw [if_neg (mt name?_eq_some_iff.mp kind), List.head?_eq_getElem?, begins]
      rfl
  · intro found
    obtain ⟨page, refers, rfl⟩ := Option.map_eq_some_iff.mp found
    obtain ⟨first, begins, refers⟩ := Option.bind_eq_some_iff.mp refers
    rw [List.head?_eq_getElem?] at begins
    cases first <;> cases refers
    split
    · next kind =>
      exact .xyz begins (name?_eq_some_iff.mp kind) (hasCoordinate_iff.mpr rfl)
        (hasCoordinate_iff.mpr rfl)
    · next kind => exact .other begins (mt name?_eq_some_iff.mpr kind)

/-- The program finds a target that the value leads to. By the kinds of objects, in the order in
which it tries them. -/
theorem leadsTo_destinationTarget (store : Store) (value : Object) :
    store.LeadsTo value (store.destinationTarget value : OutlineTarget Nat α) := by
  unfold destinationTarget
  split
  · next items lists =>
    split
    · next destination points => exact .explicit lists (points_iff.mpr points)
    · next none =>
      refine .unsupported (fun other page again begins => ?_) (by simp [lists]) (by simp [lists])
      cases lists.symm.trans again
      unfold explicitDestination? at none
      rw [List.head?_eq_getElem?, begins] at none
      cases none
  · next bytes spells => exact .string spells
  · next bytes spells => exact .name spells
  · next unlisted noString noName =>
    exact .unsupported (fun items _ lists => (unlisted items lists).elim) noString noName

/-- The target that a value leads to is the one that the program finds. -/
theorem LeadsTo.eq_destinationTarget {target : OutlineTarget Nat α}
    (leads : store.LeadsTo value target) : target = store.destinationTarget value := by
  unfold destinationTarget
  cases leads with
  | explicit lists points =>
    rw [lists]
    dsimp only
    rw [points_iff.mp points]
  | string spells => rw [spells]
  | name spells => rw [spells]
  | unsupported unlisted noString noName =>
    split
    · next items lists =>
      split
      · next destination points =>
        rcases points_iff.mpr points with ⟨begins, -, -, -⟩ | ⟨begins, -⟩
        · exact absurd begins (unlisted items _ lists)
        · exact absurd begins (unlisted items _ lists)
      · rfl
    · next bytes spells => exact absurd spells (noString bytes)
    · next bytes spells => exact absurd spells (noName bytes)
    · rfl

/-- A node leads where it is read to lead, and nowhere else. -/
theorem nodeLeadsTo_iff {target : OutlineTarget Nat α} :
    store.NodeLeadsTo node target ↔ target = store.outlineTarget node := by
  unfold outlineTarget actionTarget
  constructor
  · rintro (⟨own, leads⟩ | ⟨absent, acts, goes, own, leads⟩ | ⟨absent, stays⟩)
    · rw [own]
      exact leads.eq_destinationTarget
    · rw [absent, acts]
      dsimp only
      rw [if_pos (name?_eq_some_iff.mpr goes), own]
      exact leads.eq_destinationTarget
    · rw [absent]
      dsimp only
      split
      · next action acts =>
        split
        · next goes =>
          split
          · next value own =>
            exact absurd own (stays action value acts (name?_eq_some_iff.mp goes))
          · rfl
        · rfl
      · rfl
  · rintro rfl
    split
    · next value own => exact .destination own (leadsTo_destinationTarget store value)
    · next absent =>
      split
      · next action acts =>
        split
        · next goes =>
          split
          · next value own =>
            exact .action absent acts (name?_eq_some_iff.mp goes) own
              (leadsTo_destinationTarget store value)
          · next none =>
            refine .nowhere absent fun other value again _ own => ?_
            cases acts.symm.trans again
            cases none.symm.trans own
        · next stays =>
          refine .nowhere absent fun other value again goes _ => ?_
          cases acts.symm.trans again
          exact stays (name?_eq_some_iff.mpr goes)
      · next none =>
        refine .nowhere absent fun other value again _ _ => ?_
        cases none.symm.trans again

/-- The title of a node is the text of its string, or empty without one. -/
theorem hasTitle_iff {title : String} : store.HasTitle node title ↔
    title = ((store.value? node "Title" >>= Object.string?).map Text.ofStringObject).getD "" := by
  constructor
  · rintro (⟨spells⟩ | ⟨absent⟩)
    · rw [spells]
      rfl
    · cases entry : store.value? node "Title" with
      | none => rfl
      | some object =>
        cases object with
        | string bytes => exact absurd entry (absent bytes)
        | _ => rfl
  · rintro rfl
    cases entry : store.value? node "Title" with
    | none => exact .untitled (by simp [entry])
    | some object =>
      cases object with
      | string bytes => exact .written entry
      | _ => exact .untitled (by simp [entry])

end Store

/-! ## Nodes -/

/-- Whether an item is what a node of the outline says: its title, the level that it is on, and the
place that it leads to. -/
structure OutlineNode.Says (store : Store) (node : OutlineNode) (item : OutlineItem Nat α) :
    Prop where
  title : store.HasTitle node.entries item.title
  level : item.level = node.level
  target : store.NodeLeadsTo node.entries item.target

/-- **A node says one thing**, which is the item that it is read as. -/
theorem OutlineNode.says_iff {store : Store} {node : OutlineNode} {item : OutlineItem Nat α} :
    node.Says store item ↔ item = node.item store := by
  constructor
  · rintro ⟨title, level, target⟩
    obtain ⟨own, depth, place⟩ := item
    rw [Store.hasTitle_iff] at title
    rw [Store.nodeLeadsTo_iff] at target
    cases title
    cases level
    cases target
    rfl
  · rintro rfl
    exact ⟨Store.hasTitle_iff.mpr rfl, rfl, Store.nodeLeadsTo_iff.mpr rfl⟩

end PlacedText
