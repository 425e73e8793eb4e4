import PlacedText.Proofs.Drawing.Simulation
import PlacedText.Proofs.Font.Likeness

/-! # Drawing does not depend on edits of other pages

Interpreters of stores that differ in what is edited of pages find the same fonts and forms
(`Interpreter.mirrors_of_alike`).
-/

namespace PlacedText

namespace Interpreter

variable {α : Type} [Scalar α] {store other : Store} {options : ExtractOptions}
  {resources resources' : Dictionary}

/-- Resources that differ elsewhere only name fonts that are loaded alike. -/
theorem fontDictionary_alike (alike : store.Alike other)
    (held : store.HoldsDictionary resources) (same : resources.SameElsewhere resources')
    (name : String) :
    ((fontDictionary? ⟨store, options⟩ resources name).map fun font =>
        (Font.ofDictionary store font name : Font α)) =
      (fontDictionary? ⟨other, options⟩ resources' name).map fun font =>
        Font.ofDictionary other font name := by
  have category := alike.category_dictionary held (same.find? (by decide)) (Or.inl rfl)
  unfold fontDictionary?
  rw [← category]
  cases listed : store.dictionary? resources "Font" with
  | none => simp only [Option.bind_eq_bind, Option.bind_none, Option.map_none]
  | some fonts =>
    have related := alike.found.dictionary? (held.dictionary? listed)
      (rfl : fonts.find? name = fonts.find? name)
    change (store.dictionary? fonts name).map _ = (other.dictionary? fonts name).map _
    revert related
    generalize store.dictionary? fonts name = font?
    generalize other.dictionary? fonts name = font'?
    rintro (@⟨font, font', inner, related⟩ | _)
    · rw [Option.map_some, Option.map_some, Font.ofDictionary_alike alike.found alike.decoders inner
        related]
    · rw [Option.map_none, Option.map_none]

/-- Resources that differ elsewhere only name the same external objects. -/
theorem externalObject_alike (alike : store.Alike other)
    (held : store.HoldsDictionary resources) (same : resources.SameElsewhere resources')
    (name : String) :
    externalObject? ⟨store, options⟩ resources name =
      externalObject? ⟨other, options⟩ resources' name := by
  have category := alike.category_dictionary held (same.find? (by decide)) (Or.inr rfl)
  unfold externalObject?
  rw [← category]
  cases listed : store.dictionary? resources "XObject" with
  | none => simp only [Option.bind_eq_bind, Option.bind_none]
  | some objects =>
    exact alike.found.stream? (held.dictionary? listed)
      (rfl : objects.find? name = objects.find? name)

theorem holdsDictionary_of_externalObject {name : String} {form : Dictionary} {data : Bytes}
    (held : store.HoldsDictionary resources)
    (found : externalObject? ⟨store, options⟩ resources name = some (form, data)) :
    store.HoldsDictionary form := by
  unfold externalObject? at found
  obtain ⟨objects, listed, own⟩ := Option.bind_eq_some_iff.mp found
  exact (held.dictionary? listed).stream? own

/-- The matrix of a form is the same where it is read alike. -/
theorem formMatrix?_eq {dictionaries : Dictionary → Dictionary → Prop}
    {values : Object → Object → Prop}
    (alike : Store.ReadsAlike ["Matrix"] store other dictionaries values) {form form' : Dictionary}
    (related : dictionaries form form') :
    (formMatrix? ⟨store, options⟩ form : Option (Transform α)) =
      formMatrix? ⟨other, options⟩ form' := by
  unfold formMatrix?
  rw [← alike.array? related (.head _)]
  cases listed : store.array? form "Matrix" with
  | none => simp only [Option.bind_eq_bind, Option.bind_none]
  | some items =>
    change (if _ then _ else _) = (if _ then _ else _)
    rw [alike.numbers? (alike.items related (.head _) listed)]

theorem formMatrix_alike (alike : store.FoundAlike other) {form : Dictionary}
    (held : store.HoldsDictionary form) :
    (formMatrix? ⟨store, options⟩ form : Option (Transform α)) =
      formMatrix? ⟨other, options⟩ form :=
  formMatrix?_eq (alike.readsAlike (by decide)) ⟨held, .refl form⟩

/-- **Interpreters of stores that differ in edits of pages find the same.** -/
theorem mirrors_of_alike (alike : store.Alike other) (options : ExtractOptions) :
    Mirrors α ⟨store, options⟩ ⟨other, options⟩ fun resources resources' =>
      store.HoldsDictionary resources ∧ resources.SameElsewhere resources' where
  options := rfl
  decoders := alike.decoders
  font := fun _ _ ⟨held, same⟩ name => fontDictionary_alike alike held same name
  externalObject := fun _ _ ⟨held, same⟩ name => externalObject_alike alike held same name
  formMatrix := by
    rintro _ _ ⟨held, _⟩ name form data found
    exact formMatrix_alike alike.found (holdsDictionary_of_externalObject held found)
  formResources := by
    rintro _ _ ⟨held, _⟩ name form data found
    exact alike.found.dictionary? (holdsDictionary_of_externalObject held found) rfl

end Interpreter

end PlacedText
