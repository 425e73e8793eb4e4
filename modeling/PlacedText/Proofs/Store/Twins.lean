import PlacedText.Proofs.Effect.Agreement
import PlacedText.Proofs.Store.Congruence
import PlacedText.Proofs.Store.Difference
import PlacedText.Proofs.Store.PageContent

/-! # Two edits of one store

Two stores that are made of one by putting something in front of the content of a page are found
alike from what that store holds (`Store.Twins`): what is found in one is found in the other, except
that the content of the page, an array in both, has other items. No font and no form is an array, so
all that can be looked up among the resources of pages and forms is the same. Faults are the same
too.
-/

namespace PlacedText

open Effect

/-- Entries that a store holds, or those of a page with two arrays for its content. -/
inductive Dictionary.Twin (store : Store) : Dictionary → Dictionary → Prop where
  | same {entries : Dictionary} (held : store.HoldsDictionary entries) : Twin store entries entries
  | page {entries : Dictionary} (held : store.HoldsDictionary entries)
    (items items' : List Object) :
      Twin store (entries.set "Contents" (.array items)) (entries.set "Contents" (.array items'))

/-- An object that a store holds, or the dictionary of a page with two arrays for its content. -/
inductive Object.Twin (store : Store) : Object → Object → Prop where
  | same {object : Object} (held : store.Holds object) : Twin store object object
  | dictionary {entries entries' : Dictionary} (twin : entries.Twin store entries') :
      Twin store (.dictionary entries) (.dictionary entries')

/-- Whether two stores are found alike from what a store holds. -/
structure Store.Twins (store first second : Store) : Prop where
  leftDecoders : store.decompress = first.decompress
  rightDecoders : store.decompress = second.decompress
  left : store.FoundAlike first
  right : store.FoundAlike second
  object : ∀ id, store.Holds (.reference id) →
    SameAnswer (Object.Twin store) (first.object id) (second.object id)

variable {store first second : Store} {entries entries' : Dictionary} {key : String}

/-! ## Entries -/

/-- Twins differ in their contents alone, so any other key has the same value in both, and the store
holds it. -/
theorem Dictionary.Twin.find? (twin : entries.Twin store entries')
    (different : Text.Utf8.encode "Contents" ≠ Text.Utf8.encode key) :
    entries.find? key = entries'.find? key ∧
      ∀ value, entries.find? key = some value → store.Holds value := by
  cases twin with
  | same held => exact ⟨rfl, fun value found => held.get found⟩
  | page held items items' =>
    rw [Dictionary.find?_set_of_ne different, Dictionary.find?_set_of_ne different]
    exact ⟨rfl, fun value found => held.get found⟩

/-- Twins have entries that are twins, or both have none. -/
theorem Object.Twin.entriesOf {object object' : Object} (twin : object.Twin store object') :
    Option.Rel (Dictionary.Twin store) (Store.entriesOf object) (Store.entriesOf object') := by
  cases twin with
  | same held =>
    cases own : Store.entriesOf object with
    | none => exact .none
    | some entries => exact .some (.same (held.dictionary own))
  | dictionary twin => exact .some twin

namespace Store

/-- A dictionary is found in both stores if an object is. -/
theorem sameAnswer_dictionary {id : Nat}
    (found : SameAnswer (Object.Twin store) (first.object id) (second.object id)) :
    SameAnswer (Dictionary.Twin store) (first.dictionary id) (second.dictionary id) := by
  unfold Store.dictionary
  revert found
  generalize first.object id = answer
  generalize second.object id = answer'
  rintro (@⟨object, object', twin⟩ | fault)
  · cases twin with
    | same held =>
      cases object with
      | dictionary entries => exact .ok (.same (held.dictionary rfl))
      | _ => exact .error _
    | dictionary twin => exact .ok twin
  · exact .error _

namespace Twins

variable (twins : store.Twins first second) (twin : entries.Twin store entries')

include twins

theorem decoders : first.decompress = second.decompress :=
  twins.leftDecoders.symm.trans twins.rightDecoders

/-- A value that the store holds leads to twins in the two edited stores. -/
theorem resolve {value : Object} (held : store.Holds value) :
    (first.resolve value).Twin store (second.resolve value) := by
  cases value with
  | reference id =>
    have found := twins.object id held
    unfold Store.resolve
    dsimp only
    revert found
    generalize first.object id = answer
    generalize second.object id = answer'
    rintro (related | fault)
    · exact related
    · exact .same held
  | _ => exact .same held

include twin

/-- The value of any key but that of the contents is resolved to twins. -/
theorem value? (different : Text.Utf8.encode "Contents" ≠ Text.Utf8.encode key) :
    Option.Rel (Object.Twin store) (first.value? entries key) (second.value? entries' key) := by
  obtain ⟨same, held⟩ := twin.find? different
  unfold Store.value?
  rw [← same]
  cases found : entries.find? key with
  | none => exact .none
  | some value => exact .some (twins.resolve (held value found))

/-- What stands under any key is the same, but for the content of a page, which is an array. -/
theorem value?_or (name : String) :
    Option.Rel (Object.Twin store) (first.value? entries name) (second.value? entries' name) ∨
      ∃ items items', first.value? entries name = some (.array items) ∧
        second.value? entries' name = some (.array items') := by
  cases twin with
  | same held =>
    unfold Store.value?
    cases found : entries.find? name with
    | none => exact .inl .none
    | some value => exact .inl (.some (twins.resolve (held.get found)))
  | @page entries held items items' =>
    by_cases content : Text.Utf8.encode "Contents" = Text.Utf8.encode name
    · refine .inr ⟨items, items', ?_, ?_⟩
      · unfold Store.value? Dictionary.find? Dictionary.set
        rw [Dictionary.get?_put, if_pos content]
        rfl
      · unfold Store.value? Dictionary.find? Dictionary.set
        rw [Dictionary.get?_put, if_pos content]
        rfl
    · exact .inl (twins.value? (.page held items items') content)

/-- A dictionary below another one is a twin in the two stores. -/
theorem dictionary? (name : String) :
    Option.Rel (Dictionary.Twin store) (first.dictionary? entries name)
      (second.dictionary? entries' name) := by
  unfold Store.dictionary?
  rcases twins.value?_or twin name with related | ⟨items, items', own, own'⟩
  · revert related
    generalize first.value? entries name = value?
    generalize second.value? entries' name = value'?
    rintro (related | _)
    · exact related.entriesOf
    · exact .none
  · rw [own, own']
    exact .none

/-- A stream below another dictionary is the same in the two stores, and the store holds its
dictionary. -/
theorem stream? (name : String) :
    first.value? entries name >>= Object.stream? = second.value? entries' name >>= Object.stream? ∧
      ∀ form data, first.value? entries name >>= Object.stream? = some (form, data) →
        store.HoldsDictionary form := by
  rcases twins.value?_or twin name with related | ⟨items, items', own, own'⟩
  · revert related
    generalize first.value? entries name = value?
    generalize second.value? entries' name = value'?
    rintro (@⟨object, object', related⟩ | _)
    · cases related with
      | same held =>
        refine ⟨rfl, fun form data found => ?_⟩
        cases object with
        | stream own inner =>
          cases found
          exact held.dictionary rfl
        | _ => cases found
      | dictionary => exact ⟨rfl, fun form data found => by cases found⟩
    · exact ⟨rfl, fun form data found => by cases found⟩
  · rw [own, own']
    exact ⟨rfl, fun form data found => by cases found⟩

end Twins

/-- Content parts that are twins are joined the same. -/
theorem joinParts_twins (decoders : first.decompress = second.decompress)
    {parts parts' : List Object} (twins : List.Forall₂ (Object.Twin store) parts parts')
    (joined : Bytes) : first.joinParts joined parts = second.joinParts joined parts' := by
  refine joinParts_congr decoders (twins.imp ?_) joined
  rintro _ _ (_ | _)
  · exact .inl rfl
  · exact .inr ⟨_, _, rfl, rfl⟩

/-! ## Pages -/

/-- A page inherits the same, or fails to for the same reason. -/
theorem Twins.inheritedFrom (twins : store.Twins first second)
    (different : Text.Utf8.encode "Contents" ≠ Text.Utf8.encode key) (page levels : Nat)
    {node : Nat}
    (found : SameAnswer (Object.Twin store) (first.object node) (second.object node)) :
    SameAnswer (Option.Rel (Object.Twin store)) (first.inheritedFrom key page levels node)
      (second.inheritedFrom key page levels node) := by
  induction levels generalizing node with
  | zero => exact .error _
  | succ levels ih =>
    have dictionaries := sameAnswer_dictionary found
    unfold Store.inheritedFrom
    revert dictionaries
    generalize first.dictionary node = answer
    generalize second.dictionary node = answer'
    rintro (@⟨own, own', twin⟩ | fault)
    · obtain ⟨same, held⟩ := twin.find? different
      obtain ⟨parents, parentHeld⟩ := twin.find? (by decide :
        Text.Utf8.encode "Contents" ≠ Text.Utf8.encode "Parent")
      dsimp only
      rw [← same, ← parents]
      cases present : own.find? key with
      | some value => exact .ok (.some (twins.resolve (held value present)))
      | none =>
        dsimp only
        split
        · next parent refers => exact ih (twins.object parent (parentHeld _ refers))
        · exact .ok .none
    · exact .error _

/-- A page has the same resources. -/
theorem Twins.pageResources (twins : store.Twins first second) {page : Nat}
    (found : SameAnswer (Object.Twin store) (first.object page) (second.object page)) :
    SameAnswer (Dictionary.Twin store) (first.pageResources page) (second.pageResources page) := by
  have inherited := twins.inheritedFrom (by decide : _ ≠ Text.Utf8.encode "Resources") page
    maxTreeLevels found
  unfold Store.pageResources Store.inherited
  revert inherited
  generalize first.inheritedFrom "Resources" page maxTreeLevels page = answer
  generalize second.inheritedFrom "Resources" page maxTreeLevels page = answer'
  rintro (@⟨value?, value'?, related⟩ | fault)
  · cases related with
    | none => exact .ok (.same (.inl rfl))
    | @some value value' twin =>
      cases twin with
      | same held =>
        cases value with
        | dictionary entries => exact .ok (.same (held.dictionary rfl))
        | _ => exact .error _
      | dictionary twin => exact .ok twin
  · exact .error _

/-! ## Stores that are twins -/

/-- An object is the same in stores with the same objects. -/
theorem sameAnswer_object_congr (same : store.objects = second.objects) (id : Nat) :
    SameAnswer (Object.Twin store) (store.object id) (second.object id) := by
  unfold Store.object
  rw [← locate_congr same]
  unfold locate
  cases located : store.locateFrom maxHops id with
  | error fault => exact .error fault
  | ok place => exact .ok (.same (holds_of_getElem? (getElem?_of_locateFrom located).1))

/-- The content of a page depends on the objects and on how streams are decoded. -/
theorem pageContent_congr (same : store.objects = second.objects)
    (decoders : store.decompress = second.decompress) : store.pageContent = second.pageContent := by
  funext page
  have joined (parts : List Object) : store.joinParts [] parts = second.joinParts [] parts :=
    joinParts_congr decoders (List.forall₂_same.mpr fun _ _ => .inl rfl) []
  unfold pageContent contentParts
  rw [dictionary_congr same, resolve_congr same]
  simp only [joined]

/-- A store and one with the same objects are twins. -/
theorem twins_of_objects (same : store.objects = second.objects)
    (decoders : store.decompress = second.decompress) : store.Twins store second where
  leftDecoders := rfl
  rightDecoders := decoders
  left := fun _ _ => .refl _
  right := by
    intro object _
    rw [resolve_congr same]
    exact .refl _
  object := fun id _ => sameAnswer_object_congr same id

/-- Two stores that differ from a closed one in the content of the same page are twins. -/
theorem ChangedAt.twins {at' : Nat} {items items' : List Object}
    (differs : store.ChangedAt first at' entries (entries.set "Contents" (.array items)))
    (differs' : store.ChangedAt second at' entries (entries.set "Contents" (.array items')))
    (closed : store.Closed) : store.Twins first second where
  leftDecoders := differs.decoders
  rightDecoders := differs'.decoders
  left := (differs.similar_of_closed (entries.sameElsewhere_set (.inl rfl) _) closed).found
  right := (differs'.similar_of_closed (entries.sameElsewhere_set (.inl rfl) _) closed).found
  object := by
    intro id held
    have entriesHeld := (holds_of_getElem? differs.here).dictionary rfl
    unfold Store.object locate
    cases located : store.locateFrom maxHops id with
    | error fault =>
      rw [differs.located_error closed (closed id held) located,
        differs'.located_error closed (closed id held) located]
      exact .error fault
    | ok place =>
      obtain ⟨place, object⟩ := place
      have objectHeld := holds_of_getElem? (getElem?_of_locateFrom located).1
      obtain ⟨object₁, found, ⟨elsewhere, rfl⟩ | ⟨rfl, _, rfl⟩⟩ := differs.located located
      · obtain ⟨object₂, found', ⟨_, rfl⟩ | ⟨here, _⟩⟩ := differs'.located located
        · rw [found, found']
          exact .ok (.same objectHeld)
        · exact absurd here elsewhere
      · obtain ⟨object₂, found', ⟨elsewhere, _⟩ | ⟨_, _, rfl⟩⟩ := differs'.located located
        · exact absurd rfl elsewhere
        · rw [found, found']
          exact .ok (.dictionary (.page entriesHeld items items'))

end Store

end PlacedText
