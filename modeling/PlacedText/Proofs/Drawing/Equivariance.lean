import PlacedText.Proofs.Drawing.Execution
import PlacedText.Proofs.Drawing.Simulation
import PlacedText.Proofs.Scalar.Real

/-! # A transform in front of the content

In exact arithmetic, content drawn behind one more `cm` shows the same glyphs, each moved by the
transform as a whole (`Interpreter.runOperators_behind_concat`). Forms, their matrices and saved
states do not matter, nor do restores that nothing was saved for.
-/

namespace PlacedText

open Effect

/-- The operator that puts a transform in front of the current one. -/
def Operator.concat {α : Type} [Scalar α] (t : Transform α) : Operator α :=
  ⟨"cm", t.toList.map .number⟩

theorem Action.ofOperator_concat {α : Type} [Scalar α] (t : Transform α) :
    Action.ofOperator (Operator.concat t) = [Change.concat t].map change := rfl

namespace Transform

/-- Whether the second transform is the first, followed by another. -/
def IsFollowedBy (last t t' : Transform ℝ) : Prop := t' = t.andThen last

theorem isFollowedBy_keptInFront (last : Transform ℝ) : KeptInFront last.IsFollowedBy := by
  intro front first second followed
  unfold IsFollowedBy at *
  rw [followed, andThen_assoc]

/-- Drawing from the start and drawing behind a transform are related by that transform. -/
theorem isFollowedBy_start (last : Transform ℝ) :
    last.IsFollowedBy identity (last.andThen identity) := by
  unfold IsFollowedBy
  rw [identity_andThen, andThen_identity]

end Transform

namespace Interpreter

/-- **Drawing is equivariant.** If content is drawn, and drawn again with `cm` in front, the same
glyphs are shown in the same order, and the transform of each is followed by that of the `cm`. -/
theorem runOperators_behind_concat (interpreter : Interpreter) (levels : Nat)
    (resources : Dictionary) (operators : List (Operator ℝ)) (t : Transform ℝ)
    {recording recording' : Recording ℝ}
    (ran : interpreter.runOperators (interpreter.runStream levels) resources 0 ∅ operators
      (.start .identity) = .ok () recording)
    (ran' : interpreter.runOperators (interpreter.runStream levels) resources 0 ∅
      (.concat t :: operators) (.start .identity) = .ok () recording') :
    List.Forall₂ (GlyphEvent.Related t.IsFollowedBy) recording.glyphs.toList
      recording'.glyphs.toList := by
  have kept := t.isFollowedBy_keptInFront
  have behind := runOperators_changes (Action.ofOperator_concat t) ran'
  have started : (Recording.start .identity : Recording ℝ).Related t.IsFollowedBy
      { Recording.start .identity with
        drawing := DrawingState.initial (t.andThen .identity), executed := 1 } :=
    ⟨.initial t.isFollowedBy_start, .nil, rfl⟩
  have drawn := simulates_runOperators kept (Mirrors.refl interpreter)
    (fun _ _ content related =>
      simulates_runStream kept (Mirrors.refl interpreter) levels related content)
    (rfl : resources = resources) 0 1 ∅ operators
  exact (drawn.ok started ran behind).1.glyphs

/-- A text behind a restore that nothing was saved for, drawn from the start and one inch further
right. -/
theorem runOperators_behind_concat_of_text :
    let interpreter : Interpreter := ⟨.empty [], .standard⟩
    let operators : List (Operator ℝ) := [⟨"q", []⟩, ⟨"Q", []⟩, ⟨"Q", []⟩,
      ⟨"Tf", [.name "F", .number 12]⟩, ⟨"Tj", [.string [65, 66]]⟩]
    ∃ recording recording',
      interpreter.runOperators (interpreter.runStream 11) [] 0 ∅ operators (.start .identity) =
          .ok () recording ∧
        interpreter.runOperators (interpreter.runStream 11) [] 0 ∅
          (.concat (.shift 72 0) :: operators) (.start .identity) = .ok () recording' ∧
        List.Forall₂ (GlyphEvent.Related (Transform.shift 72 0).IsFollowedBy)
          recording.glyphs.toList recording'.glyphs.toList := by
  intro interpreter operators
  obtain ⟨recording, ran⟩ := runOperators_succeeds interpreter (interpreter.runStream 11) [] 0 ∅
    operators (.start .identity) (by simp [operators]) (by decide)
  obtain ⟨recording', ran'⟩ := runOperators_succeeds interpreter (interpreter.runStream 11) [] 0 ∅
    (.concat (.shift 72 0) :: operators) (.start .identity) (by simp [operators, Operator.concat])
    (by decide)
  exact ⟨recording, recording', ran, ran',
    runOperators_behind_concat interpreter 11 [] operators (.shift 72 0) ran ran'⟩

end Interpreter

end PlacedText
