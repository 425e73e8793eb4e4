import PlacedText.Proofs.Drawing.Course

/-! # Fonts that end the program

What a font ends the program with stays noted while a page is drawn on
(`Recording.abort_eq_none_of_prefix`). So where no step of a page meets such a font, none is met up
to the operator that is one too many either (`Interpreter.abort_eq_none_of_sameEnd`), nor by content
that goes the same steps with other transforms (`Recording.Related.after`).
-/

namespace PlacedText

open Effect

variable {α : Type} [Scalar α]

theorem Transform.true_keptInFront : KeptInFront fun _ _ : Transform α => True :=
  fun _ _ _ _ => trivial

namespace Recording

variable {recording recording' : Recording α} {normalForm : NormalForm}

omit [Scalar α] in
/-- An interpretation that comes to a recording was ended neither by a font nor by a fault. -/
theorem ended_eq_ok {fault? : Option ReadFault} (ended : recording.ended fault? = .ok recording') :
    recording.abort? = none ∧ fault? = none ∧ recording = recording' := by
  unfold Recording.ended at ended
  split at ended
  · cases ended
  · cases ended
  · next unended =>
    cases ended
    exact ⟨unended, rfl, rfl⟩

omit [Scalar α] in
/-- Without a font that ends the program only a fault keeps it from coming to its recording. -/
theorem ended_of_none (unended : recording.abort? = none) (fault? : Option ReadFault) :
    recording.ended fault? = fault?.elim (.ok recording) .error := by
  unfold Recording.ended
  rw [unended]
  cases fault? with
  | none => rfl
  | some fault => rfl

/-- A font that ended the program before a step has ended it behind the step. -/
theorem abort_eq_none_of_step {step : Step α}
    (unended : (recording.step normalForm step).abort? = none) : recording.abort? = none := by
  cases step with
  | operator => exact unended
  | change change => exact unended
  | selectFont fonts name size => exact (Option.or_eq_none_iff.mp unended).1
  | showText fonts bytes =>
    unfold step showText at unended
    dsimp only at unended
    split at unended
    · exact unended
    · next name _ =>
      have noted : (recording.noting (fonts name).abort?).abort? = none →
          recording.abort? = none := fun noted => (Option.or_eq_none_iff.mp noted).1
      refine showCodes_keeps (fun later => later.abort? = none → recording.abort? = none) ?_ noted _
        unended
      exact fun _ _ held shown => held (Option.or_eq_none_iff.mp shown).1

/-- Steps that no font ended the program at begin with steps that none did. -/
theorem abort_eq_none_of_prefix {done steps : List (Step α)} (isPrefix : done <+: steps)
    (unended : (recording.after normalForm steps).abort? = none) :
    (recording.after normalForm done).abort? = none := by
  obtain ⟨rest, rfl⟩ := isPrefix
  unfold after at *
  rw [List.foldl_append] at unended
  revert unended
  generalize done.foldl (step normalForm) recording = between
  induction rest generalizing between with
  | nil => exact id
  | cons step rest ih => exact fun unended => abort_eq_none_of_step (ih _ unended)

/-! ## Other transforms -/

variable {relates : Transform α → Transform α → Prop}

/-- A step is taken alike where other transforms are current. -/
theorem Related.step (kept : Transform.KeptInFront relates)
    (related : recording.Related relates recording') (step : Step α) :
    (recording.step normalForm step).Related relates (recording'.step normalForm step) := by
  cases step with
  | operator => exact ⟨related.drawing, related.glyphs, related.abort⟩
  | change change => exact related.change kept change
  | selectFont fonts name size =>
    have selected : Related relates
        { recording with drawing := recording.drawing.selectFont name size }
        { recording' with drawing := recording'.drawing.selectFont name size } :=
      ⟨related.drawing.selectFont name size, related.glyphs, related.abort⟩
    exact selected.noting _
  | showText fonts bytes =>
    unfold Recording.step showText
    dsimp only
    rw [related.drawing.params]
    split
    · exact related
    · exact (related.noting _).showCodes kept _ _ _

/-- So are steps one after the other. -/
theorem Related.after (normalForm : NormalForm) (kept : Transform.KeptInFront relates)
    (related : recording.Related relates recording') (steps : List (Step α)) :
    (recording.after normalForm steps).Related relates (recording'.after normalForm steps) := by
  unfold Recording.after
  induction steps generalizing recording recording' with
  | nil => exact related
  | cons step steps ih => exact ih (related.step kept step)

end Recording

namespace Interpreter

variable {interpreter : Interpreter} {course : Course α} {start : Recording α}
  {ended : EStateM.Result ReadFault (Recording α) Unit}

/-- An interpretation that comes to its end has taken the whole of its course. -/
theorem sameShown_of_sameEnd {stop : Recording α}
    (within : start.executed ≤ interpreter.options.maxOperators)
    (followed : SameEnd Recording.SameShown (fun _ _ => True)
      (.ok () stop : EStateM.Result ReadFault (Recording α) Unit)
      (interpreter.walk course start)) :
    course.fault? = none ∧
      stop.SameShown (start.after interpreter.options.normalForm course.steps) := by
  rcases Nat.lt_or_ge interpreter.options.maxOperators (start.executed + course.operators)
    with exceeded | bounded
  · obtain ⟨_, _, _, failed⟩ := walk_of_lt interpreter course start within exceeded
    rw [failed] at followed
    cases followed
  · rw [walk_of_le bounded] at followed
    cases fault : course.fault? with
    | none =>
      rw [fault] at followed
      cases followed with
      | ok same _ => exact ⟨rfl, same⟩
    | some fault' =>
      rw [fault] at followed
      cases followed

/-- **An interpretation meets no font that ends the program if its course does not**, also if it
stops before the end of the course. -/
theorem abort_eq_none_of_sameEnd (within : start.executed ≤ interpreter.options.maxOperators)
    (followed : SameEnd Recording.SameShown (fun _ _ => True) ended
      (interpreter.walk course start))
    (unended : (start.after interpreter.options.normalForm course.steps).abort? = none) :
    (finalState ended).abort? = none := by
  rw [followed.finalState.abort]
  rcases Nat.lt_or_ge interpreter.options.maxOperators (start.executed + course.operators)
    with exceeded | bounded
  · obtain ⟨done, isPrefix, _, failed⟩ := walk_of_lt interpreter course start within exceeded
    rw [failed]
    exact Recording.abort_eq_none_of_prefix isPrefix unended
  · rw [walk_of_le bounded]
    cases course.fault? with
    | none => exact unended
    | some fault => exact unended

/-- So it is with a page. -/
theorem interpret_unended {store : Store} {options : ExtractOptions} {page : Nat}
    (unended : (Recording.ofSteps options.normalForm
      (pageCourse (α := α) ⟨store, options⟩ page).steps).abort? = none) :
    (store.interpret options page : Recording α × Option ReadFault).1.abort? = none := by
  have last := abort_eq_none_of_sameEnd (Nat.zero_le _)
    (Store.interpret_sameEnd (α := α) store options page) unended
  unfold Store.interpret
  revert last
  cases runPage (α := α) ⟨store, options⟩ page (.start .identity) with
  | ok => exact id
  | error => exact id

/-! ## Behind a transform -/

/-- A transform is one operator, which neither fails nor meets a font. -/
theorem operatorCourse_transform (interpreter : Interpreter)
    (streamCourse : Dictionary → Bytes → Course α) (resources : Dictionary)
    (operands : List (Operand α)) :
    let course := interpreter.operatorCourse streamCourse resources ⟨"cm", operands⟩
    course.fault? = none ∧ course.operators = 1 ∧
      ∀ normalForm, (Recording.start .identity).Related (fun _ _ => True)
        (.ofSteps normalForm course.steps) := by
  change ((Course.of [.operator]).andThen
      (.all ((Action.withTransform Change.concat ⟨"cm", operands⟩).map _))).fault? = none ∧
    ((Course.of [.operator]).andThen
      (.all ((Action.withTransform Change.concat ⟨"cm", operands⟩).map _))).operators = 1 ∧
    ∀ _, (Recording.start _).Related _ (.ofSteps _ ((Course.of [.operator]).andThen
      (.all ((Action.withTransform Change.concat ⟨"cm", operands⟩).map _))).steps)
  unfold Action.withTransform
  split
  · exact ⟨rfl, rfl, fun _ => ⟨.initial trivial, .nil, rfl⟩⟩
  · exact ⟨rfl, rfl, fun _ => ⟨.initial trivial, .nil, rfl⟩⟩

/-- A course meets no font that ends the program behind a transform if it does not without. -/
theorem abort_eq_none_of_transform {streamCourse : Dictionary → Bytes → Course α}
    {resources : Dictionary} {normalForm : NormalForm} (operands : List (Operand α))
    (unended : (Recording.ofSteps normalForm course.steps).abort? = none) :
    (Recording.ofSteps normalForm
      ((interpreter.operatorCourse streamCourse resources ⟨"cm", operands⟩).andThen
        course).steps).abort? = none := by
  obtain ⟨ended, -, placed⟩ := operatorCourse_transform interpreter streamCourse resources operands
  have steps : ((interpreter.operatorCourse streamCourse resources ⟨"cm", operands⟩).andThen
      course).steps =
      (interpreter.operatorCourse streamCourse resources ⟨"cm", operands⟩).steps ++
        course.steps := by
    unfold Course.andThen
    rw [ended]
  have drawn := (placed normalForm).after normalForm Transform.true_keptInFront course.steps
  rw [steps]
  unfold Recording.ofSteps Recording.after at *
  rw [List.foldl_append, ← drawn.abort, unended]

end Interpreter

end PlacedText
