import PlacedText.Proofs.Drawing.Twins
import PlacedText.Proofs.Store.Turns

/-! # Drawing does not depend on rotations

A number of degrees is neither a font nor a form. Stores that differ in rotations are therefore
looked into alike (`Interpreter.looksAlike_of_turns`), and every page is interpreted the same in
both, or fails for the same reason (`Store.AlikeBy.interpret_eq`).
-/

namespace PlacedText

variable {α : Type} [Scalar α] {store other : Store}

/-- **Stores that differ in rotations are looked into alike.** -/
theorem Interpreter.looksAlike_of_turns (alike : store.AlikeBy Dictionary.SameButTurn other) :
    LooksAlike α store other fun own own' =>
      store.HoldsDictionary own ∧ own.SameButTurn own' where
  decoders := alike.decoders
  dictionary := fun _ _ ⟨held, same⟩ name => alike.dictionary? same held name
  stream := fun _ _ ⟨_, same⟩ name => alike.stream? same name
  form := by
    rintro own _ ⟨held, _⟩ name form data found
    have formHeld := held.stream? found
    exact ⟨⟨formHeld, .refl form⟩, fun _ => formMatrix_alike alike.foundAlike formHeld⟩
  font := fun _ _ ⟨held, same⟩ name =>
    Font.ofDictionary_alike alike.foundAlike alike.decoders held same.sameElsewhere name

/-- **A page is interpreted the same in stores that differ in rotations.** -/
theorem Store.AlikeBy.interpret_eq (alike : store.AlikeBy Dictionary.SameButTurn other)
    (options : ExtractOptions) (page : Nat) :
    (store.interpret options page : Recording α × Option ReadFault) =
      other.interpret options page :=
  ((Interpreter.looksAlike_of_turns (α := α) alike).mirrors options).interpret_eq
    (alike.pageContent page) (alike.pageResources page)

end PlacedText
