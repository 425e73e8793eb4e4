import PlacedText.Proofs.Effect.Agreement
import PlacedText.Proofs.Store.Lookup

/-! # Stores of related objects

Two stores whose objects are related number by number (`Store.RelatedBy`). If references are related
to themselves only, they lead to the same numbers in both stores, and fail alike
(`Store.RelatedBy.locateFrom`), and what they lead to is related (`Store.RelatedBy.resolve`).
-/

namespace PlacedText

open Effect

variable {related : Object → Object → Prop}

/-- Whether every object is related to itself, and a reference to nothing else. -/
structure Object.KeepsReferences (related : Object → Object → Prop) : Prop where
  refl : ∀ object, related object object
  eq_of_left : ∀ next object, related (.reference next) object → object = .reference next
  eq_of_right : ∀ next object, related object (.reference next) → object = .reference next

namespace Store

variable {store other : Store} {id next : Nat}

/-- Whether two stores have related objects under the same numbers. -/
def RelatedBy (related : Object → Object → Prop) (store other : Store) : Prop :=
  ∀ id : Nat, Option.Rel related store.objects[id]? other.objects[id]?

namespace RelatedBy

variable (alike : store.RelatedBy related other)

include alike

/-- A number without an object in one store has none in the other. -/
theorem absent (absent : store.objects[id]? = none) : other.objects[id]? = none := by
  have here := alike id
  rw [absent] at here
  generalize other.objects[id]? = object'? at here ⊢
  cases here
  rfl

/-- A number with an object in one store has a related one in the other. -/
theorem present {object : Object} (present : store.objects[id]? = some object) :
    ∃ object', other.objects[id]? = some object' ∧ related object object' := by
  have here := alike id
  rw [present] at here
  generalize other.objects[id]? = object'? at here ⊢
  cases here with
  | some same => exact ⟨_, rfl, same⟩

/-- The stores have objects at the same numbers. -/
theorem contains : store.objects.contains id = other.objects.contains id := by
  rw [Std.ExtTreeMap.contains_eq_isSome_getElem?, Std.ExtTreeMap.contains_eq_isSome_getElem?]
  cases found : store.objects[id]? with
  | none => rw [alike.absent found]
  | some object =>
    obtain ⟨object', found', _⟩ := alike.present found
    rw [found']
    rfl

variable (keeps : Object.KeepsReferences related)

include keeps

theorem reference (refers : store.objects[id]? = some (Object.reference next)) :
    other.objects[id]? = some (Object.reference next) := by
  obtain ⟨object', found, same⟩ := alike.present refers
  rw [keeps.eq_of_left next object' same] at found
  exact found

/-- References lead to the same place, or nowhere for the same reason. -/
theorem locateFrom (hops id : Nat) :
    SameAnswer (fun place place' => place.1 = place'.1 ∧ related place.2 place'.2)
      (store.locateFrom hops id) (other.locateFrom hops id) := by
  fun_induction Store.locateFrom store hops id with
  | case1 hops id absent =>
    unfold Store.locateFrom
    rw [alike.absent absent]
    exact .error _
  | case2 id next refers there =>
    unfold Store.locateFrom
    rw [alike.reference keeps refers]
    dsimp only
    rw [if_pos (alike.contains.symm.trans there)]
    exact .error _
  | case3 id next refers missing =>
    unfold Store.locateFrom
    rw [alike.reference keeps refers]
    dsimp only
    rw [if_neg fun there => missing (alike.contains.trans there)]
    exact .error _
  | case4 id next refers hops ih =>
    have step : other.locateFrom (hops + 1) id = other.locateFrom hops next := by
      rw [Store.locateFrom, alike.reference keeps refers]
    rw [step]
    exact ih
  | case5 hops id object plain found =>
    obtain ⟨object', found', same⟩ := alike.present found
    have plain' : ∀ next, object' ≠ .reference next := by
      rintro next rfl
      exact plain next (keeps.eq_of_right next object same)
    rw [locateFrom_of_getElem? found' plain']
    exact .ok ⟨rfl, same⟩

/-- The numbers lead to related objects, or fail with the same fault. -/
theorem object (id : Nat) : SameAnswer related (store.object id) (other.object id) := by
  have located := alike.locateFrom keeps maxHops id
  unfold Store.object locate
  revert located
  generalize store.locateFrom maxHops id = answer
  generalize other.locateFrom maxHops id = answer'
  rintro (related | fault)
  · exact .ok related.2
  · exact .error fault

/-- What an object refers to in one store is related to what it refers to in the other. -/
theorem resolve (object : Object) : related (store.resolve object) (other.resolve object) := by
  cases object with
  | reference id =>
    have found := alike.object keeps id
    unfold Store.resolve
    dsimp only
    revert found
    generalize store.object id = answer
    generalize other.object id = answer'
    rintro (same | fault)
    · exact same
    · exact keeps.refl _
  | _ => exact keeps.refl _

/-- What stands under a name is related, if the dictionaries have the same there. -/
theorem value? {entries entries' : Dictionary} {name : String}
    (same : entries.find? name = entries'.find? name) :
    Option.Rel related (store.value? entries name) (other.value? entries' name) := by
  unfold Store.value?
  rw [← same]
  cases entries.find? name with
  | none => exact .none
  | some value => exact .some (alike.resolve keeps value)

end RelatedBy

end Store

end PlacedText
