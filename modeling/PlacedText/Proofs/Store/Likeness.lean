import PlacedText.Proofs.Store.Holding
import PlacedText.Store.PageTree

/-! # Stores that differ in what is edited of pages

Two stores in which whatever the first one holds is found alike (`Store.FoundAlike`), but for the
content and rotation entries of dictionaries: names, numbers, arrays and streams are then the same
in both, wherever they are looked up under another key.
-/

namespace PlacedText

namespace Dictionary

variable {entries other : Dictionary}

/-- Whether dictionaries have the same values, but for those that edits of pages change: their
content and their rotation. -/
def SameElsewhere (entries other : Dictionary) : Prop :=
  ∀ key, key ≠ Text.Utf8.encode "Contents" ∧ key ≠ Text.Utf8.encode "Rotate" →
    get? entries key = get? other key

theorem SameElsewhere.refl (entries : Dictionary) : SameElsewhere entries entries :=
  fun _ _ => rfl

theorem SameElsewhere.trans {last : Dictionary} (first : SameElsewhere entries other)
    (second : SameElsewhere other last) : SameElsewhere entries last :=
  fun key different => (first key different).trans (second key different)

theorem SameElsewhere.find? (same : SameElsewhere entries other) {name : String}
    (different : Text.Utf8.encode name ≠ Text.Utf8.encode "Contents" ∧
      Text.Utf8.encode name ≠ Text.Utf8.encode "Rotate") :
    find? entries name = find? other name :=
  same _ different

/-- Dictionaries are the same elsewhere after a value was put under a key that edits change. -/
theorem sameElsewhere_set (entries : Dictionary) {name : String}
    (edited : Text.Utf8.encode name = Text.Utf8.encode "Contents" ∨
      Text.Utf8.encode name = Text.Utf8.encode "Rotate") (value : Object) :
    SameElsewhere entries (entries.set name value) := by
  rintro key ⟨content, rotation⟩
  unfold set
  rw [get?_put, if_neg]
  rintro rfl
  exact edited.elim content rotation

end Dictionary

/-- Objects that are the same, or dictionaries that are but for what edits of pages change. -/
inductive Object.SameElsewhere : Object → Object → Prop where
  | refl (object : Object) : SameElsewhere object object
  | dictionary {entries other : Dictionary} (same : entries.SameElsewhere other) :
    SameElsewhere (.dictionary entries) (.dictionary other)

namespace Object.SameElsewhere

variable {object other : Object}

theorem number? {α : Type} [Scalar α] (same : object.SameElsewhere other) :
    (object.number? : Option α) = other.number? := by
  cases same with
  | refl => rfl
  | dictionary => rfl

theorem array? (same : object.SameElsewhere other) : object.array? = other.array? := by
  cases same with
  | refl => rfl
  | dictionary => rfl

theorem stream? (same : object.SameElsewhere other) : object.stream? = other.stream? := by
  cases same with
  | refl => rfl
  | dictionary => rfl

end Object.SameElsewhere

namespace Store

variable {store other : Store} {entries entries' : Dictionary} {key : String}

/-- Whether what a store holds leads to the same objects in another, but for what edits of pages
change. -/
def FoundAlike (store other : Store) : Prop :=
  ∀ object, store.Holds object → (store.resolve object).SameElsewhere (other.resolve object)

theorem HoldsDictionary.value? (held : store.HoldsDictionary entries) {value : Object}
    (found : store.value? entries key = some value) : store.Holds value := by
  unfold Store.value? at found
  obtain ⟨own, present, rfl⟩ := Option.map_eq_some_iff.mp found
  exact (held.get present).resolve

theorem HoldsDictionary.dictionary? (held : store.HoldsDictionary entries) {inner : Dictionary}
    (found : store.dictionary? entries key = some inner) : store.HoldsDictionary inner := by
  unfold Store.dictionary? at found
  obtain ⟨value, present, own⟩ := Option.bind_eq_some_iff.mp found
  exact (held.value? present).dictionary own

/-- The dictionary of a stream that is held is held itself. -/
theorem HoldsDictionary.stream? (held : store.HoldsDictionary entries) {own : Dictionary}
    {data : Bytes} (found : store.value? entries key >>= Object.stream? = some (own, data)) :
    store.HoldsDictionary own := by
  obtain ⟨value, present, isStream⟩ := Option.bind_eq_some_iff.mp found
  cases value with
  | stream =>
    cases isStream
    exact (held.value? present).dictionary rfl
  | _ => cases isStream

namespace FoundAlike

variable (alike : store.FoundAlike other) (held : store.HoldsDictionary entries)
  (same : entries.find? key = entries'.find? key)

include alike held same

/-- The values of one key are the same but for what the stores keep of other places. -/
theorem value? :
    Option.Rel Object.SameElsewhere (store.value? entries key) (other.value? entries' key) := by
  unfold Store.value?
  rw [← same]
  cases found : entries.find? key with
  | none => exact .none
  | some value => exact .some (alike value (held.get found))

/-- What is told of a value by a field that does not see the difference is told of it in both
stores. -/
theorem value?_bind {β : Type} {field : Object → Option β}
    (agrees : ∀ object object', object.SameElsewhere object' → field object = field object') :
    store.value? entries key >>= field = other.value? entries' key >>= field := by
  have related := alike.value? held same
  revert related
  generalize store.value? entries key = value?
  generalize other.value? entries' key = value'?
  rintro (related | _)
  · exact agrees _ _ related
  · rfl

theorem stream? : store.value? entries key >>= Object.stream? =
    other.value? entries' key >>= Object.stream? :=
  alike.value?_bind held same fun _ _ related => related.stream?

/-- Dictionaries under a key are the same but for what edits of pages change, and held. -/
theorem dictionary? :
    Option.Rel (fun inner inner' => store.HoldsDictionary inner ∧ inner.SameElsewhere inner')
      (store.dictionary? entries key) (other.dictionary? entries' key) := by
  have related := alike.value? held same
  have owned := fun inner (found : store.dictionary? entries key = some inner) =>
    held.dictionary? found
  unfold Store.dictionary? at owned ⊢
  revert related owned
  generalize store.value? entries key = value?
  generalize other.value? entries' key = value'?
  rintro (@⟨value, value', related⟩ | _) owned
  · cases related with
    | refl =>
      change Option.Rel _ (entriesOf value) (entriesOf value)
      cases own : entriesOf value with
      | none => exact .none
      | some inner => exact .some ⟨owned inner own, .refl inner⟩
    | dictionary same => exact .some ⟨owned _ rfl, same⟩
  · exact .none

omit held same in
/-- The numbers in an array whose items are held are the same. -/
theorem numbers? {α : Type} [Scalar α] {items : List Object}
    (items_held : ∀ item ∈ items, store.Holds item) :
    (store.numbers? items : Option (List α)) = other.numbers? items := by
  unfold Store.numbers?
  induction items with
  | nil => rfl
  | cons item items ih =>
    have first := (alike item (items_held item (.head _))).number? (α := α)
    have rest := ih fun item member => items_held item (.tail _ member)
    rw [List.mapM_cons, List.mapM_cons, first, rest]

end FoundAlike

/-- Whether a store is another but for what edits of pages change: what it holds is found alike,
its dictionaries are found in the other, and streams are decoded the same. -/
structure Similar (store other : Store) : Prop where
  decoders : store.decompress = other.decompress
  found : store.FoundAlike other
  dictionary : ∀ id entries, store.dictionary id = .ok entries →
    ∃ entries', other.dictionary id = .ok entries' ∧ entries.SameElsewhere entries'

/-- Whether a store is like another but for what edits of pages change, and no page stands among the
fonts or the external objects of resources. -/
structure Alike (store other : Store) : Prop extends Similar store other where
  category : ∀ entries, store.HoldsDictionary entries → ∀ key, key = "Font" ∨ key = "XObject" →
    ∀ value, entries.find? key = some value → store.resolve value = other.resolve value

/-- A dictionary that is found by its number is held. -/
theorem holdsDictionary_of_dictionary {id : Nat} (found : store.dictionary id = .ok entries) :
    store.HoldsDictionary entries := by
  unfold Store.dictionary Store.object Store.locate at found
  cases located : store.locateFrom maxHops id with
  | error fault =>
    rw [located] at found
    cases found
  | ok place =>
    obtain ⟨at', object⟩ := place
    rw [located] at found
    have held := holds_of_getElem? (getElem?_of_locateFrom located).1
    cases object with
    | dictionary _ =>
      cases found
      exact held.dictionary rfl
    | _ => cases found

/-- The fonts or the external objects of resources are the same dictionary. -/
theorem Alike.category_dictionary (alike : store.Alike other)
    (held : store.HoldsDictionary entries) (same : entries.find? key = entries'.find? key)
    (category : key = "Font" ∨ key = "XObject") :
    store.dictionary? entries key = other.dictionary? entries' key := by
  unfold Store.dictionary? Store.value?
  rw [← same]
  cases found : entries.find? key with
  | none => rfl
  | some value =>
    have resolved := alike.category entries held key category value found
    rw [Option.map_some, Option.map_some, resolved]

/-- What a page inherits is the same but for what edits of pages change. -/
theorem Similar.inheritedFrom (alike : store.Similar other)
    (different : Text.Utf8.encode key ≠ Text.Utf8.encode "Contents" ∧
      Text.Utf8.encode key ≠ Text.Utf8.encode "Rotate") {page levels node : Nat}
    {value? : Option Object} (found : store.inheritedFrom key page levels node = .ok value?) :
    ∃ value'?, other.inheritedFrom key page levels node = .ok value'? ∧
      Option.Rel (fun value value' => store.Holds value ∧ value.SameElsewhere value')
        value? value'? := by
  induction levels generalizing node with
  | zero => cases found
  | succ levels ih =>
    unfold Store.inheritedFrom at found ⊢
    cases own : store.dictionary node with
    | error fault =>
      rw [own] at found
      cases found
    | ok entries =>
      obtain ⟨entries', own', same⟩ := alike.dictionary node entries own
      have held := holdsDictionary_of_dictionary own
      rw [own] at found
      rw [own']
      dsimp only at found ⊢
      rw [← same.find? different, ← same.find? (by decide)]
      cases present : entries.find? key with
      | some value =>
        rw [present] at found
        cases found
        have valueHeld := held.get present
        exact ⟨_, rfl, .some ⟨valueHeld.resolve, alike.found value valueHeld⟩⟩
      | none =>
        rw [present] at found
        dsimp only at found ⊢
        split at found
        · exact ih found
        · cases found
          exact ⟨none, rfl, .none⟩

/-- A page has the same resources but for what edits of pages change. -/
theorem Similar.pageResources (alike : store.Similar other) {page : Nat}
    (found : store.pageResources page = .ok entries) :
    ∃ entries', other.pageResources page = .ok entries' ∧ store.HoldsDictionary entries ∧
      entries.SameElsewhere entries' := by
  unfold Store.pageResources Store.inherited at found ⊢
  cases inherited : store.inheritedFrom "Resources" page maxTreeLevels page with
  | error fault =>
    rw [inherited] at found
    cases found
  | ok value? =>
    obtain ⟨value'?, inherited', related⟩ := alike.inheritedFrom (by decide) inherited
    rw [inherited] at found
    rw [inherited']
    cases related with
    | none =>
      cases found
      exact ⟨[], rfl, Or.inl rfl, .refl []⟩
    | @some value value' related =>
      obtain ⟨held, same⟩ := related
      cases same with
      | dictionary same =>
        cases found
        exact ⟨_, rfl, held.dictionary rfl, same⟩
      | refl =>
        cases value with
        | dictionary own =>
          cases found
          exact ⟨_, rfl, held.dictionary rfl, .refl _⟩
        | _ => cases found

end Store

end PlacedText
