import PlacedText.Store.Object

/-! # Entries of a dictionary

What giving a key a value does to the values of all keys, and that taking it back leaves the entries
and their order as they were (`put_put_of_get?`, `remove_put_of_get?`).
-/

namespace PlacedText.Dictionary

variable {dictionary : Dictionary} {key other : Bytes} {value present : Object}

/-- The first entry of a key hides those behind it. -/
theorem get?_cons :
    get? ((other, present) :: dictionary) key =
      if other = key then some present else get? dictionary key := by
  unfold get?
  rw [List.lookup_cons]
  by_cases same : other = key
  · simp [same]
  · simp [same, beq_eq_false_iff_ne.mpr (Ne.symm same)]

/-- A put entry is found by its key, and the others are left. By induction on the entries, as the
put one takes the place of the first of its key. -/
theorem get?_put :
    get? (put key value dictionary) other =
      if key = other then some value else get? dictionary other := by
  induction dictionary with
  | nil => rw [put, get?_cons]
  | cons entry rest ih =>
    obtain ⟨first, found⟩ := entry
    unfold put
    split
    · next same =>
      subst same
      rw [get?_cons, get?_cons]
      split
      · rfl
      · rfl
    · next different =>
      rw [get?_cons, get?_cons, ih]
      by_cases here : first = other
      · subst here
        simp [Ne.symm different]
      · simp [here]

/-- Of two values that are put under a key the last one stays. -/
theorem put_put (later : Object) :
    put key later (put key value dictionary) = put key later dictionary := by
  induction dictionary with
  | nil => simp [put]
  | cons entry rest ih =>
    obtain ⟨first, there⟩ := entry
    by_cases same : first = key
    · simp [put, same]
    · simp [put, same, ih]

/-- A value put in place of another is taken back by putting that one in its place. -/
theorem put_put_of_get? (found : get? dictionary key = some present) :
    put key present (put key value dictionary) = dictionary := by
  induction dictionary with
  | nil => cases found
  | cons entry rest ih =>
    obtain ⟨first, there⟩ := entry
    rw [get?_cons] at found
    by_cases same : first = key
    · subst same
      rw [if_pos rfl] at found
      cases found
      simp [put]
    · rw [if_neg same] at found
      simp [put, same, ih found]

/-- A value put under a new key is taken back by removing the key. -/
theorem remove_put_of_get? (absent : get? dictionary key = none) :
    remove key (put key value dictionary) = dictionary := by
  induction dictionary with
  | nil => simp [put, remove]
  | cons entry rest ih =>
    obtain ⟨first, there⟩ := entry
    rw [get?_cons] at absent
    by_cases same : first = key
    · rw [if_pos same] at absent
      cases absent
    · rw [if_neg same] at absent
      simp [put, remove, same, ih absent]

theorem find?_set_self {name : String} : find? (set dictionary name value) name = some value := by
  unfold find? set
  rw [get?_put, if_pos rfl]

theorem find?_set_of_ne {name name' : String}
    (different : Text.Utf8.encode name ≠ Text.Utf8.encode name') :
    find? (set dictionary name value) name' = find? dictionary name' := by
  unfold find? set
  rw [get?_put, if_neg different]

/-- An entry that was set is put back, or removed if there was none. -/
theorem restore_set {name : String} :
    (match find? dictionary name with
      | some before => set (set dictionary name value) name before
      | none => erase (set dictionary name value) name) = dictionary := by
  split
  · next found => exact put_put_of_get? found
  · next absent => exact remove_put_of_get? absent

end PlacedText.Dictionary
