import PlacedText.Proofs.Store.Likeness

/-! # Stores that differ in one dictionary

A store in which one dictionary has other entries, and in which there may be new objects. References
that the first store holds lead to the same places in both (`ChangedAt.located`,
`ChangedAt.located_back`). If the dictionary is that of a page and only what is edited of pages is
another, the stores are alike (`ChangedAt.alike`).
-/

namespace PlacedText.Store

variable {store other : Store} {at' hops id place : Nat} {entries changed : Dictionary}

/-- Whether a store differs from another in the dictionary under a number only, and in objects under
numbers that are new in the other. -/
structure ChangedAt (store other : Store) (at' : Nat) (entries changed : Dictionary) : Prop where
  decoders : store.decompress = other.decompress
  here : store.objects[at']? = some (.dictionary entries)
  there : other.objects[at']? = some (.dictionary changed)
  others : ∀ id : Nat, id ≠ at' → ∀ object, store.objects[id]? = some object →
    other.objects[id]? = some object

/-- Whether no entry for fonts or external objects refers to the object under a number. -/
def Apart (store : Store) (at' : Nat) : Prop :=
  ∀ entries, store.HoldsDictionary entries → ∀ key, key = "Font" ∨ key = "XObject" →
    ∀ id, entries.find? key = some (.reference id) → ∀ object, store.locate id ≠ .ok (at', object)

namespace ChangedAt

theorem references (differs : store.ChangedAt other at' entries changed) (id next : Nat)
    (refers : store.objects[id]? = some (Object.reference next)) :
    other.objects[id]? = some (Object.reference next) := by
  apply differs.others id ?_ _ refers
  rintro rfl
  rw [differs.here] at refers
  cases refers

/-- What names an object still does. -/
theorem mem (differs : store.ChangedAt other at' entries changed) (present : id ∈ store.objects) :
    id ∈ other.objects := by
  rw [Std.ExtTreeMap.mem_iff_isSome_getElem?] at present
  obtain ⟨object, found⟩ := Option.isSome_iff_exists.mp present
  by_cases here : id = at'
  · rw [here]
    exact mem_of_getElem? differs.there
  · exact mem_of_getElem? (differs.others id here object found)

/-- References that lead to an object lead to the same place in the other store. -/
theorem located (differs : store.ChangedAt other at' entries changed) {object : Object}
    (found : store.locateFrom hops id = .ok (place, object)) :
    ∃ object', other.locateFrom hops id = .ok (place, object') ∧
      (place ≠ at' ∧ object' = object ∨
        place = at' ∧ object = .dictionary entries ∧ object' = .dictionary changed) := by
  obtain ⟨present, plain⟩ := getElem?_of_locateFrom found
  by_cases page : place = at'
  · subst page
    rw [differs.here] at present
    cases present
    have found' := locateFrom_transfer differs.references found differs.there (by simp)
    exact ⟨_, found', Or.inr ⟨rfl, rfl, rfl⟩⟩
  · have present' := differs.others place page object present
    have found' := locateFrom_transfer differs.references found present' plain
    exact ⟨object, found', Or.inl ⟨page, rfl⟩⟩

/-- References of a closed store that lead to no object do so in the other store, for the same
reason. -/
theorem located_error (differs : store.ChangedAt other at' entries changed) (closed : store.Closed)
    (present : id ∈ store.objects) {fault : ObjectFault}
    (failed : store.locateFrom hops id = .error fault) : other.locateFrom hops id = .error fault :=
  locateFrom_fails closed present differs.references (fun _ => differs.mem) failed

/-- References of a closed store that lead to an object of the other store lead to the same place in
the first. -/
theorem located_back (differs : store.ChangedAt other at' entries changed) (closed : store.Closed)
    (present : id ∈ store.objects) {object' : Object}
    (found' : other.locateFrom hops id = .ok (place, object')) :
    ∃ object, store.locateFrom hops id = .ok (place, object) ∧
      (place ≠ at' ∧ object' = object ∨
        place = at' ∧ object = .dictionary entries ∧ object' = .dictionary changed) := by
  cases found : store.locateFrom hops id with
  | error fault =>
    rw [differs.located_error closed present found] at found'
    cases found'
  | ok located =>
    obtain ⟨place₀, object⟩ := located
    obtain ⟨object₀, found₀, cases⟩ := differs.located found
    rw [found'] at found₀
    cases found₀
    exact ⟨object, rfl, cases⟩

/-- Stores that differ in what is edited of a page are similar if the references that lead nowhere
are the same. -/
theorem similar (differs : store.ChangedAt other at' entries changed)
    (same : entries.SameElsewhere changed)
    (fails : ∀ id fault, store.Holds (.reference id) → store.locateFrom maxHops id = .error fault →
      ∃ fault', other.locateFrom maxHops id = .error fault') : store.Similar other where
  decoders := differs.decoders
  found := by
    intro object held
    cases object with
    | reference id =>
      unfold Store.resolve Store.object Store.locate
      dsimp only
      cases found : store.locateFrom maxHops id with
      | error fault =>
        obtain ⟨fault', failed⟩ := fails id fault held found
        rw [failed]
        exact .refl _
      | ok place =>
        obtain ⟨place, object⟩ := place
        obtain ⟨object', found', ⟨_, rfl⟩ | ⟨_, rfl, rfl⟩⟩ := differs.located found
        · rw [found']
          exact .refl _
        · rw [found']
          exact .dictionary same
    | _ => exact .refl _
  dictionary := by
    intro id own found
    unfold Store.dictionary Store.object Store.locate at found ⊢
    cases located : store.locateFrom maxHops id with
    | error fault =>
      rw [located] at found
      cases found
    | ok place =>
      obtain ⟨place, object⟩ := place
      rw [located] at found
      obtain ⟨object', located', ⟨_, rfl⟩ | ⟨_, rfl, rfl⟩⟩ := differs.located located
      · rw [located']
        exact ⟨own, found, .refl own⟩
      · rw [located']
        cases found
        exact ⟨changed, rfl, same⟩

theorem similar_of_closed (differs : store.ChangedAt other at' entries changed)
    (same : entries.SameElsewhere changed) (closed : store.Closed) : store.Similar other :=
  differs.similar same fun id fault held failed =>
    ⟨fault, differs.located_error closed (closed id held) failed⟩

/-- **An edit of one page shows nowhere else.** -/
theorem alike (differs : store.ChangedAt other at' entries changed)
    (same : entries.SameElsewhere changed) (closed : store.Closed) (apart : store.Apart at') :
    store.Alike other where
  toSimilar := differs.similar_of_closed same closed
  category := by
    intro own held key category value found
    cases value with
    | reference id =>
      have elsewhere := apart own held key category id found
      have present := closed id (held.get found)
      unfold Store.resolve Store.object
      unfold Store.locate at elsewhere ⊢
      dsimp only
      cases located : store.locateFrom maxHops id with
      | error fault =>
        rw [differs.located_error closed present located]
      | ok place =>
        obtain ⟨place, object⟩ := place
        obtain ⟨object', located', ⟨_, rfl⟩ | ⟨rfl, _⟩⟩ := differs.located located
        · rw [located']
        · exact absurd located (elsewhere object)
    | _ => rfl

end ChangedAt

end PlacedText.Store
