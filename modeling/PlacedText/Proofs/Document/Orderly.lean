import PlacedText.Proofs.Document.Straightening

/-! # Processing keeps a document orderly

Pages that are rotated and straightened leave an orderly document orderly, so that whatever pages
were processed before, the next one finds it so (`Arithmetic.leave_orderly`,
`PagedStore.foldl_extractNext_orderly`).
-/

namespace PlacedText

open Effect PagedStore

namespace PageEdit

variable {index : Nat}

/-- Suspending the rotation of a page keeps a document orderly. -/
theorem suspendRotation_orderly (index rotation : Nat) :
    Keeps Orderly (suspendRotation index rotation) := by
  intro paged orderly
  rcases suspendRotation_cases paged index rotation with
    ⟨fault, failed⟩ | kept | ⟨page, at', entries, found, suspended⟩
  · rw [failed]
    exact orderly
  · rw [kept]
    exact orderly
  · rw [suspended]
    exact orderly.setRotate found 0

theorem setUp_orderly (index : Nat) : Keeps Orderly (setUp index) :=
  (read_keeps _).bind fun _ => (read_keeps _).bind fun _ => (read_keeps _).bind fun rotation =>
    (suspendRotation_orderly index rotation).bind fun _ => keeps_pure _

end PageEdit

namespace Arithmetic

open PageEdit

variable {α : Type} [Scalar α] (arithmetic : Arithmetic α)

/-- Processing a page keeps a document orderly, whether or not it succeeds. -/
theorem processPage_orderly (options : ProcessOptions α) (index : Nat) :
    Keeps Orderly (arithmetic.processPage options index) := by
  intro paged orderly
  rcases arithmetic.processPage_cases options paged index with
    ⟨fault, stop, failed, unchanged⟩ |
      ⟨mediaBox, cropBox, rotation, suspended?, opened, extracted, text, decision, warnings, -,
        crop, turned, suspended, -, same, ended⟩
  · rw [failed]
    exact unchanged.orderly orderly
  · obtain ⟨page, at', entries, found⟩ := pageAt_of_rotation turned
    obtain ⟨between, settled, straightened⟩ :=
      arithmetic.straighten_eq found crop suspended same options decision
    have there := (turned_settled found _ _).sameDocument settled |>.there
    have settledOrderly := settled.orderly (settled_orderly orderly found _ _)
    rw [ended, finalState_bind_pure, straightened]
    dsimp only [finalState]
    split
    · exact settledOrderly.prepended there _
    · exact settledOrderly

/-- Whatever pages are processed, an orderly document stays so. -/
theorem leave_orderly (options : ProcessOptions α) {paged : PagedStore} (orderly : paged.Orderly)
    (processed : List Nat) : (arithmetic.leave options paged processed).Orderly := by
  induction processed generalizing paged with
  | nil => exact orderly
  | cons index processed ih => exact ih (arithmetic.processPage_orderly options index paged orderly)

end Arithmetic

namespace PagedStore

/-- Whatever pages are processed, an orderly document stays so. -/
theorem foldl_extractNext_orderly (options : ProcessOptions Float)
    (progress : PagedStore × Extraction) (indices : List Nat) (orderly : progress.1.Orderly) :
    (indices.foldl (extractNext options) progress).1.Orderly := by
  rw [Arithmetic.leave_double]
  exact Arithmetic.double.leave_orderly options orderly indices

end PagedStore

end PlacedText
