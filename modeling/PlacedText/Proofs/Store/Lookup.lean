import PlacedText.Store.Basic

/-! # Looking up what was changed

What the changes of a store do to each of its objects, and where references lead afterwards: a
change that leaves references alone, and puts objects that are none where there were such, moves
nothing (`locateFrom_transfer`).
-/

namespace PlacedText

namespace Store

variable {store other : Store} {id key hops at' : Nat} {object : Object}

theorem getElem?_insert :
    (store.insert id object).objects[key]? =
      if id = key then some object else store.objects[key]? := by
  unfold insert
  rw [Std.ExtTreeMap.getElem?_insert]
  simp only [Nat.compare_eq_eq]

theorem getElem?_erase :
    (store.erase id).objects[key]? = if id = key then none else store.objects[key]? := by
  unfold erase
  rw [Std.ExtTreeMap.getElem?_erase]
  simp only [Nat.compare_eq_eq]

/-- What streams are decoded to depends on the decoder alone. -/
theorem decoded_congr (decoders : store.decompress = other.decompress) :
    store.decoded = other.decoded := by
  unfold Store.decoded
  rw [decoders]

theorem mem_of_getElem? (found : store.objects[key]? = some object) : key ∈ store.objects := by
  rw [Std.ExtTreeMap.mem_iff_isSome_getElem?, found]
  rfl

theorem le_maxId_of_getElem? (found : store.objects[key]? = some object) : key ≤ store.maxId :=
  store.id_le_maxId key (mem_of_getElem? found)

/-- There is no object under the next number. -/
theorem getElem?_next : store.objects[store.maxId + 1]? = none := by
  cases found : store.objects[store.maxId + 1]? with
  | none => rfl
  | some object =>
    have bounded := le_maxId_of_getElem? found
    omega

/-! ## Following references -/

/-- What is found is under the number it is found at, and no reference. -/
theorem getElem?_of_locateFrom (found : store.locateFrom hops id = .ok (at', object)) :
    store.objects[at']? = some object ∧ ∀ next, object ≠ .reference next := by
  fun_induction locateFrom store hops id with
  | case1 hops id absent => cases found
  | case2 id next refers present => cases found
  | case3 id next refers absent => cases found
  | case4 id next refers hops ih => exact ih found
  | case5 hops id object plain present =>
    cases found
    exact ⟨present, plain⟩

/-- An object that is no reference is found where it stands. -/
theorem locateFrom_of_getElem? (present : store.objects[id]? = some object)
    (plain : ∀ next, object ≠ .reference next) :
    store.locateFrom hops id = .ok (id, object) := by
  unfold locateFrom
  rw [present]
  cases object with
  | reference next => exact absurd rfl (plain next)
  | _ => rfl

theorem resolve_of_getElem? (present : store.objects[id]? = some object)
    (plain : ∀ next, object ≠ .reference next) : store.resolve (.reference id) = object := by
  unfold resolve Store.object locate
  dsimp only
  rw [locateFrom_of_getElem? present plain]
  rfl

/-- What is found in a store is found in any other that has the same references and, where something
is found, an object that is no reference. -/
theorem locateFrom_transfer {changed : Object}
    (references : ∀ id next : Nat, store.objects[id]? = some (Object.reference next) →
      other.objects[id]? = some (Object.reference next))
    (found : store.locateFrom hops id = .ok (at', object))
    (present : other.objects[at']? = some changed) (plain : ∀ next, changed ≠ .reference next) :
    other.locateFrom hops id = .ok (at', changed) := by
  fun_induction locateFrom store hops id with
  | case1 hops id absent => cases found
  | case2 id next refers present => cases found
  | case3 id next refers absent => cases found
  | case4 id next refers hops ih =>
    unfold locateFrom
    rw [references id next refers]
    exact ih found
  | case5 hops id object' plain' present' =>
    cases found
    exact locateFrom_of_getElem? present plain

/-- Where references lead depends on the objects only. -/
theorem locateFrom_congr (same : store.objects = other.objects) :
    store.locateFrom hops id = other.locateFrom hops id := by
  induction hops generalizing id with
  | zero =>
    unfold locateFrom
    rw [same]
  | succ hops ih =>
    unfold locateFrom
    simp only [same, ih]

end Store

end PlacedText
