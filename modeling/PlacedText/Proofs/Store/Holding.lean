import PlacedText.Proofs.Store.Entries
import PlacedText.Proofs.Store.Lookup

/-! # What a store holds

The objects of a store with their items and entries, at any depth. Looking things up from what is
held leads to what is held (`Store.Holds.resolve`). A store is closed if every reference that it
holds names one of its objects.
-/

namespace PlacedText

/-- What an object is, or has among its items and entries at any depth. -/
inductive Object.Holds : Object → Object → Prop where
  | self (object : Object) : Holds object object
  | item {items : List Object} {item inner : Object} (member : item ∈ items)
    (held : Holds item inner) : Holds (.array items) inner
  | entry {object : Object} {entries : Dictionary} {key : Bytes} {value inner : Object}
    (own : Store.entriesOf object = some entries) (member : (key, value) ∈ entries)
    (held : Holds value inner) : Holds object inner

theorem Object.Holds.trans {first second third : Object} (outer : first.Holds second)
    (inner : second.Holds third) : first.Holds third := by
  induction outer with
  | self => exact inner
  | item member _ ih => exact .item member (ih inner)
  | entry own member _ ih => exact .entry own member (ih inner)

/-- An object without items and entries holds nothing but itself. -/
theorem Object.Holds.eq_of_plain {object inner : Object} (held : object.Holds inner)
    (noItems : object.array? = none) (noEntries : Store.entriesOf object = none) :
    inner = object := by
  cases held with
  | self => rfl
  | item => cases noItems
  | entry own =>
    rw [own] at noEntries
    cases noEntries

/-- A dictionary or stream holds itself and what its values hold. -/
theorem Object.Holds.of_entries {object inner : Object} {entries : Dictionary}
    (held : object.Holds inner) (own : Store.entriesOf object = some entries) :
    inner = object ∨ ∃ key value, (key, value) ∈ entries ∧ value.Holds inner := by
  cases held with
  | self => exact Or.inl rfl
  | item => cases own
  | entry own' member within =>
    rw [own] at own'
    cases own'
    exact Or.inr ⟨_, _, member, within⟩

/-- An entry that is found by its key stands in the dictionary. -/
theorem Dictionary.mem_of_get? {entries : Dictionary} {key : Bytes} {value : Object}
    (found : get? entries key = some value) : (key, value) ∈ entries := by
  induction entries with
  | nil => cases found
  | cons entry rest ih =>
    obtain ⟨other, present⟩ := entry
    rw [get?_cons] at found
    by_cases same : other = key
    · rw [if_pos same] at found
      cases found
      rw [same]
      exact .head rest
    · rw [if_neg same] at found
      exact .tail _ (ih found)

namespace Store

variable {store : Store} {object : Object} {items : List Object} {entries : Dictionary}
  {key : Bytes} {value : Object}

/-- Whether something is an object of a store, or held by one. -/
def Holds (store : Store) (object : Object) : Prop :=
  ∃ (id : Nat) (root : Object), store.objects[id]? = some root ∧ root.Holds object

/-- Whether some entries are those of a dictionary or stream that a store holds. No entries count as
held. -/
def HoldsDictionary (store : Store) (entries : Dictionary) : Prop :=
  entries = [] ∨ ∃ object, store.Holds object ∧ entriesOf object = some entries

/-- Whether every reference that a store holds names one of its objects. -/
def Closed (store : Store) : Prop :=
  ∀ id : Nat, store.Holds (.reference id) → id ∈ store.objects

theorem holds_of_getElem? {id : Nat} (found : store.objects[id]? = some object) :
    store.Holds object :=
  ⟨id, object, found, .self object⟩

theorem Holds.inner {inner : Object} (held : store.Holds object) (within : object.Holds inner) :
    store.Holds inner := by
  obtain ⟨id, root, found, outer⟩ := held
  exact ⟨id, root, found, outer.trans within⟩

theorem Holds.item (held : store.Holds (.array items)) {item : Object} (member : item ∈ items) :
    store.Holds item :=
  held.inner (.item member (.self item))

theorem Holds.dictionary (held : store.Holds object) (own : entriesOf object = some entries) :
    store.HoldsDictionary entries :=
  Or.inr ⟨object, held, own⟩

theorem HoldsDictionary.get (held : store.HoldsDictionary entries)
    (found : Dictionary.get? entries key = some value) : store.Holds value := by
  rcases held with rfl | ⟨object, within, own⟩
  · cases found
  · exact within.inner (.entry own (Dictionary.mem_of_get? found) (.self value))

/-- What a reference that is held leads to is held. -/
theorem Holds.resolve (held : store.Holds object) : store.Holds (store.resolve object) := by
  unfold Store.resolve
  split
  · next id =>
    unfold Store.object Store.locate
    cases found : store.locateFrom maxHops id with
    | error fault => exact held
    | ok place =>
      obtain ⟨at', object⟩ := place
      exact holds_of_getElem? (getElem?_of_locateFrom found).1
  · exact held

/-! ## References of a closed store -/

/-- In a closed store, following references ends without an object only if there are too many of
them, and then it does so wherever there are the same references. -/
theorem locateFrom_fails {other : Store} {hops id : Nat} {fault : ObjectFault}
    (closed : store.Closed) (present : id ∈ store.objects)
    (references : ∀ id next : Nat, store.objects[id]? = some (Object.reference next) →
      other.objects[id]? = some (Object.reference next))
    (kept : ∀ id : Nat, id ∈ store.objects → id ∈ other.objects)
    (failed : store.locateFrom hops id = .error fault) :
    other.locateFrom hops id = .error fault := by
  fun_induction locateFrom store hops id with
  | case1 hops id absent =>
    rw [Std.ExtTreeMap.mem_iff_isSome_getElem?, absent] at present
    cases present
  | case2 id next refers there =>
    have there' := Std.ExtTreeMap.mem_iff_contains.mp
      (kept next (Std.ExtTreeMap.mem_iff_contains.mpr there))
    unfold locateFrom
    rw [references id next refers]
    dsimp only
    rw [if_pos there']
    exact failed
  | case3 id next refers absent =>
    have there := closed next (holds_of_getElem? refers)
    exact absurd (Std.ExtTreeMap.mem_iff_contains.mp there) absent
  | case4 id next refers hops ih =>
    unfold locateFrom
    rw [references id next refers]
    exact ih (closed next (holds_of_getElem? refers)) failed
  | case5 hops id object plain found => cases failed

end Store

end PlacedText
