import PlacedText.Proofs.Effect.Agreement
import PlacedText.Proofs.Store.Likeness

/-! # Reading related dictionaries

Two stores are read alike under some keys (`Store.ReadsAlike`) if what stands there in related
dictionaries is related, and is the same if it has no entries. Numbers, names and arrays are then
the same, and dictionaries and items are related. So it is where a store is edited in pages only
(`Store.FoundAlike.readsAlike`).
-/

namespace PlacedText.Store

open Effect

variable {α : Type} [Scalar α]

/-- Whether related dictionaries of two stores are read alike under some keys. What stands there is
related in both, and what is related is the same or has entries, which are related again. -/
structure ReadsAlike (keys : List String) (first second : Store)
    (dictionaries : Dictionary → Dictionary → Prop) (values : Object → Object → Prop) : Prop where
  value : ∀ own own', dictionaries own own' → ∀ key ∈ keys,
    Option.Rel values (first.value? own key) (second.value? own' key)
  same : ∀ value value', values value value' →
    value = value' ∨ (entriesOf value).isSome ∧ (entriesOf value').isSome
  entries : ∀ value value', values value value' →
    Option.Rel dictionaries (entriesOf value) (entriesOf value')
  dictionary : ∀ value value', values value value' →
    Option.Rel dictionaries value.dictionary? value'.dictionary?
  item : ∀ items value', values (.array items) value' → ∀ item ∈ items,
    values (first.resolve item) (second.resolve item)

namespace ReadsAlike

variable {keys : List String} {first second : Store}
  {dictionaries : Dictionary → Dictionary → Prop} {values : Object → Object → Prop}
  (alike : ReadsAlike keys first second dictionaries values)

include alike

/-! ## Values -/

section

variable {value value' : Object} (related : values value value')

include related

theorem field_eq {β : Type} {field : Object → Option β}
    (plain : ∀ object, (entriesOf object).isSome → field object = none) :
    field value = field value' := by
  rcases alike.same value value' related with rfl | ⟨own, own'⟩
  · rfl
  · rw [plain value own, plain value' own']

theorem number?_eq : (value.number? : Option α) = value'.number? :=
  alike.field_eq related fun object own => by cases object <;> first | rfl | cases own

theorem name?_eq : value.name? = value'.name? :=
  alike.field_eq related fun object own => by cases object <;> first | rfl | cases own

theorem array?_eq : value.array? = value'.array? :=
  alike.field_eq related fun object own => by cases object <;> first | rfl | cases own

end

theorem eq_array {items : List Object} {value' : Object} (related : values (.array items) value') :
    value' = .array items := by
  rcases alike.same _ _ related with rfl | ⟨own, -⟩
  · rfl
  · cases own

theorem eq_array_of_right {value : Object} {items : List Object}
    (related : values value (.array items)) : value = .array items := by
  rcases alike.same _ _ related with rfl | ⟨-, own⟩
  · rfl
  · cases own

/-! ## Entries -/

section

variable {own own' : Dictionary} (related : dictionaries own own') {key : String}
  (read : key ∈ keys)

include related read

theorem value?_bind {β : Type} {field : Object → Option β}
    (agrees : ∀ value value', values value value' → field value = field value') :
    first.value? own key >>= field = second.value? own' key >>= field :=
  bind_eq_of_rel (alike.value own own' related key read) agrees

theorem number? : (first.number? own key : Option α) = second.number? own' key :=
  alike.value?_bind related read fun _ _ => alike.number?_eq

theorem array? : first.array? own key = second.array? own' key :=
  alike.value?_bind related read fun _ _ => alike.array?_eq

theorem name? : first.name? own key = second.name? own' key := by
  unfold Store.name?
  rw [alike.value?_bind related read fun _ _ => alike.name?_eq]

theorem dictionary? :
    Option.Rel dictionaries (first.dictionary? own key) (second.dictionary? own' key) :=
  rel_bind (alike.value own own' related key read) alike.entries

/-- The items of an array are related. -/
theorem items {items : List Object} (listed : first.array? own key = some items) :
    ∀ item ∈ items, values (first.resolve item) (second.resolve item) := by
  obtain ⟨value, found, array⟩ := Option.bind_eq_some_iff.mp listed
  have related' := alike.value own own' related key read
  rw [found] at related'
  cases value with
  | array items' =>
    cases array
    generalize second.value? own' key = value'? at related'
    cases related' with
    | some inner => exact alike.item _ _ inner
  | _ => cases array

end

/-- The numbers of an array whose items are related are the same. -/
theorem numbers? {items : List Object}
    (related : ∀ item ∈ items, values (first.resolve item) (second.resolve item)) :
    (first.numbers? items : Option (List α)) = second.numbers? items := by
  unfold Store.numbers?
  induction items with
  | nil => rfl
  | cons item items ih =>
    have here := alike.number?_eq (α := α) (related item (.head _))
    have later := ih fun item member => related item (.tail _ member)
    rw [List.mapM_cons, List.mapM_cons, here, later]

end ReadsAlike

/-! ## Stores that differ in edits of pages -/

variable {store other : Store} {keys : List String}

/-- Edits of pages change nothing under other keys than theirs. -/
theorem FoundAlike.readsAlike (alike : store.FoundAlike other)
    (different : ∀ key ∈ keys, Text.Utf8.encode key ≠ Text.Utf8.encode "Contents" ∧
      Text.Utf8.encode key ≠ Text.Utf8.encode "Rotate") :
    ReadsAlike keys store other (fun own own' => store.HoldsDictionary own ∧ own.SameElsewhere own')
      (fun value value' => store.Holds value ∧ value.SameElsewhere value') where
  value := by
    rintro own own' ⟨held, same⟩ key read
    have found := alike.value? held (same.find? (different key read))
    have holds := fun value (found : store.value? own key = some value) => held.value? found
    revert found holds
    generalize store.value? own key = value?
    generalize other.value? own' key = value'?
    rintro (related | _) holds
    · exact .some ⟨holds _ rfl, related⟩
    · exact .none
  same := by
    rintro _ _ ⟨-, _ | _⟩
    · exact .inl rfl
    · exact .inr ⟨rfl, rfl⟩
  entries := by
    rintro value _ ⟨held, _ | same⟩
    · cases own : entriesOf value with
      | none => exact .none
      | some entries => exact .some ⟨held.dictionary own, .refl entries⟩
    · exact .some ⟨held.dictionary rfl, same⟩
  dictionary := by
    rintro value _ ⟨held, _ | same⟩
    · cases value with
      | dictionary entries => exact .some ⟨held.dictionary rfl, .refl entries⟩
      | _ => exact .none
    · exact .some ⟨held.dictionary rfl, same⟩
  item := by
    rintro items _ ⟨held, -⟩ item member
    exact ⟨(held.item member).resolve, alike item (held.item member)⟩

end PlacedText.Store
