import PlacedText.Proofs.Content.RoundTrip
import PlacedText.Proofs.Drawing.Course
import PlacedText.Proofs.Font.CharacterMap

/-! # Writing compound text operators out

The operators that move to another line and do something else besides are written out as simple ones
(`Operator.expanded`), which call for the same actions one operator after the other. All content
that can be written can be written out (`Content.WritesOperators.exists_expandsTo`). A course in
which operators are begun in more places (`Course.SplitsInto`) draws the same
(`Course.SplitsInto.drawsAlike`).
-/

namespace PlacedText

variable {α : Type}

/-! ## Courses in which operators are begun in more places -/

namespace Course

/-- A course without the places where operators are begun. -/
def body (course : Course α) : Course α :=
  ⟨course.steps.filter fun step => !step.isOperator, course.fault?⟩

/-- Whether a course is another one in which operators are begun in more places. -/
structure SplitsInto (course course' : Course α) : Prop where
  body : course.body = course'.body
  operators : course.operators ≤ course'.operators

variable {first first' second second' third : Course α}

theorem body_andThen (first second : Course α) :
    (first.andThen second).body = first.body.andThen second.body := by
  unfold andThen body
  cases first.fault? <;> simp

theorem andThen_assoc (first second third : Course α) :
    (first.andThen second).andThen third = first.andThen (second.andThen third) := by
  unfold andThen
  cases first.fault? <;> cases second.fault? <;> simp

theorem andThen_nil (course : Course α) : course.andThen (of []) = course := by
  obtain ⟨steps, fault?⟩ := course
  unfold andThen of
  cases fault? <;> simp

theorem all_cons (course : Course α) (courses : List (Course α)) :
    all (course :: courses) = course.andThen (all courses) := rfl

theorem all_append (courses courses' : List (Course α)) :
    all (courses ++ courses') = (all courses).andThen (all courses') := by
  induction courses with
  | nil => rfl
  | cons course courses ih => rw [List.cons_append, all_cons, ih, all_cons, andThen_assoc]

namespace SplitsInto

theorem refl (course : Course α) : course.SplitsInto course := ⟨rfl, Nat.le_refl _⟩

/-- A course with more operators in each half has more operators as a whole. -/
theorem andThen (splits : first.SplitsInto first') (splits' : second.SplitsInto second') :
    (first.andThen second).SplitsInto (first'.andThen second') where
  body := by rw [body_andThen, body_andThen, splits.body, splits'.body]
  operators := by
    have fault : first.body.fault? = first'.body.fault? := by rw [splits.body]
    have := splits.operators
    have := splits'.operators
    rw [operators_andThen, operators_andThen, show first.fault? = first'.fault? from fault]
    split <;> omega

/-- Beginning an operator in front of a course splits it. -/
theorem operator_andThen (splits : first.SplitsInto first') :
    first.SplitsInto ((of [.operator]).andThen first') where
  body := splits.body.trans (body_andThen (of [.operator]) first').symm
  operators := by
    have := splits.operators
    rw [operators_andThen]
    exact Nat.le_add_left_of_le this

/-- Courses that are split one by one. -/
theorem all {β : Type} {courses courses' : β → Course α} (items : List β)
    (splits : ∀ item, (courses item).SplitsInto (courses' item)) :
    (Course.all (items.map courses)).SplitsInto (Course.all (items.map courses')) := by
  induction items with
  | nil => exact Course.SplitsInto.refl (.of [])
  | cons item items ih => exact (splits item).andThen ih

end SplitsInto

end Course

/-! ## Operators -/

section

variable {ν μ : Type} {f : ν → μ} {operand : Operand ν}

theorem Operand.map_eq_number_iff {value : μ} :
    operand.map f = .number value ↔ ∃ own, operand = .number own ∧ f own = value := by
  cases operand <;> simp [Operand.map]

theorem Operand.map_eq_string_iff {text : Bytes} :
    operand.map f = .string text ↔ operand = .string text := by
  cases operand <;> simp [Operand.map]

end

namespace Operator

section

variable {ν μ : Type} [Neg ν] [Neg μ] (operator : Operator ν)

/-- A compound text operator with well-formed operands, written out. -/
def expanded : List (Operator ν) :=
  match operator.name, operator.operands with
  | "TD", [.number x, .number y] => [⟨"TL", [.number (-y)]⟩, ⟨"Td", [.number x, .number y]⟩]
  | "'", [.string text] => [⟨"T*", []⟩, ⟨"Tj", [.string text]⟩]
  | "\"", [.number word, .number char, .string text] =>
    [⟨"Tw", [.number word]⟩, ⟨"Tc", [.number char]⟩, ⟨"T*", []⟩, ⟨"Tj", [.string text]⟩]
  | _, _ => [operator]

/-- An operator is its own expansion unless it is one of the three that abbreviate others. -/
theorem expanded_cases :
    operator.expanded = [operator] ∨ (∃ x y, operator = ⟨"TD", [.number x, .number y]⟩) ∨
      (∃ text, operator = ⟨"'", [.string text]⟩) ∨
      ∃ word char text, operator = ⟨"\"", [.number word, .number char, .string text]⟩ := by
  obtain ⟨name, operands⟩ := operator
  unfold expanded
  dsimp only
  split
  · exact .inr (.inl ⟨_, _, rfl⟩)
  · exact .inr (.inr (.inl ⟨_, rfl⟩))
  · exact .inr (.inr (.inr ⟨_, _, _, rfl⟩))
  · exact .inl rfl

theorem exists_expanded : ∃ first rest, operator.expanded = first :: rest := by
  rcases operator.expanded_cases with alone | ⟨x, y, rfl⟩ | ⟨text, rfl⟩ | ⟨word, char, text, rfl⟩
  · exact ⟨_, _, alone⟩
  all_goals exact ⟨_, _, rfl⟩

/-- Writing an operator out and changing its numbers, where this keeps signs apart, comes to the
same in either order. -/
theorem expanded_map {f : ν → μ} (neg : ∀ value, f (-value) = -f value) :
    (operator.map f).expanded = operator.expanded.map (Operator.map f) := by
  obtain ⟨name, operands⟩ := operator
  unfold expanded
  split
  · next named listed =>
    simp only [Operator.map, List.map_eq_cons_iff, List.map_eq_nil_iff,
      Operand.map_eq_number_iff] at named listed
    obtain ⟨_, _, rfl, ⟨x, rfl, rfl⟩, _, _, rfl, ⟨y, rfl, rfl⟩, rfl⟩ := listed
    subst named
    simp [Operator.map, Operand.map, neg]
  · next named listed =>
    simp only [Operator.map, List.map_eq_cons_iff, List.map_eq_nil_iff,
      Operand.map_eq_string_iff] at named listed
    obtain ⟨_, _, rfl, rfl, rfl⟩ := listed
    subst named
    rfl
  · next named listed =>
    simp only [Operator.map, List.map_eq_cons_iff, List.map_eq_nil_iff,
      Operand.map_eq_number_iff, Operand.map_eq_string_iff] at named listed
    obtain ⟨_, _, rfl, ⟨word, rfl, rfl⟩, _, _, rfl, ⟨char, rfl, rfl⟩, _, _, rfl, rfl, rfl⟩ := listed
    subst named
    rfl
  · split <;> simp_all [Operator.map, Operand.map]

end

variable [Scalar α]

/-- An operator that is written out calls for the same actions. -/
theorem flatMap_expanded (operator : Operator α) :
    operator.expanded.flatMap Action.ofOperator = Action.ofOperator operator := by
  rcases operator.expanded_cases with alone | ⟨x, y, rfl⟩ | ⟨text, rfl⟩ | ⟨word, char, text, rfl⟩
  · rw [alone, List.flatMap_singleton]
  all_goals rfl

end Operator

/-! ## Content -/

variable [Scalar α]

/-- Whether content is other content with its compound text operators written out. -/
def Content.ExpandsTo (α : Type) [Scalar α] (content content' : Bytes) : Prop :=
  ∃ operators : List (Operator α), Interpreter.operators content = .ok operators ∧
    Interpreter.operators content' = .ok (operators.flatMap Operator.expanded)

namespace Content

/-- The number that is the other side of zero is written with the other sign. -/
instance : Neg Literal where
  neg literal := { literal with negative := !literal.negative }

/-- A numeral with the other sign has the negated value. -/
theorem Literal.value_neg (literal : Literal) : (-literal).value = -literal.value := by
  have whole : (-literal).whole = literal.whole := rfl
  have fraction : (-literal).fraction = literal.fraction := rfl
  have negative : (-literal).negative = !literal.negative := rfl
  unfold Literal.value
  rw [whole, fraction, negative]
  cases literal.negative <;> simp

variable {operators : List (Operator Literal)} {text text' : Bytes}

/-- However operators and what they stand for are written, the one is the other written out. -/
theorem WritesOperators.expandsTo (written : WritesOperators operators text)
    (written' : WritesOperators (operators.flatMap Operator.expanded) text') :
    ExpandsTo ℝ text text' := by
  refine ⟨_, (operators_of_writes written).2, (operators_of_writes written').2.trans ?_⟩
  simp only [List.map_flatMap, List.flatMap_map, Operator.expanded_map _ Literal.value_neg]

/-- What is written as an operator has the name of a keyword. -/
theorem WritesOperators.isKeyword (written : WritesOperators operators text) :
    ∀ operator ∈ operators, IsKeyword operator.name := by
  induction written with
  | nil => exact List.forall_mem_nil _
  | blank blank later ih => exact ih
  | operand written ends later ih =>
    obtain ⟨first, rest⟩ := List.forall_mem_cons.mp ih
    exact List.forall_mem_cons.mpr ⟨first, rest⟩
  | keyword keyword ends later ih => exact List.forall_mem_cons.mpr ⟨keyword, ih⟩

/-- The operators of an expansion have keywords as names. -/
theorem isKeyword_of_mem_expanded {operator operator' : Operator Literal}
    (keyword : IsKeyword operator.name) (member : operator' ∈ operator.expanded) :
    IsKeyword operator'.name := by
  have simple : ∀ name ∈ ["TL", "Td", "T*", "Tj", "Tw", "Tc"], IsKeyword name := by
    simp only [List.forall_mem_cons]
    refine ⟨?_, ?_, ?_, ?_, ?_, ?_, List.forall_mem_nil _⟩
    all_goals exact ⟨by decide, by decide, by decide, by decide, by decide⟩
  rcases operator.expanded_cases with alone | ⟨x, y, rfl⟩ | ⟨text, rfl⟩ | ⟨word, char, text, rfl⟩
  · rw [alone, List.mem_singleton] at member
    exact member ▸ keyword
  all_goals
    apply simple
    simp only [Operator.expanded, List.mem_cons, List.not_mem_nil, or_false] at member ⊢
    aesop

/-- All content that can be written can be written out. -/
theorem WritesOperators.exists_expandsTo (written : WritesOperators operators text) :
    ∃ text', ExpandsTo ℝ text text' := by
  obtain ⟨text', written'⟩ := exists_writesOperators (operators.flatMap Operator.expanded) (by
    intro operator' member
    obtain ⟨operator, own, inner⟩ := List.mem_flatMap.mp member
    exact isKeyword_of_mem_expanded (written.isKeyword operator own) inner)
  exact ⟨text', written.expandsTo written'⟩

end Content

namespace CMap

theorem flatMap_listedDefinitions_expanded (operator : Operator α) :
    operator.expanded.flatMap listedDefinitions = listedDefinitions operator := by
  rcases operator.expanded_cases with alone | ⟨x, y, rfl⟩ | ⟨text, rfl⟩ | ⟨word, char, text, rfl⟩
  · rw [alone, List.flatMap_singleton]
  all_goals rfl

/-- A character map is defined by the operators of its stream, whatever numbers these have. -/
theorem ofStream_eq (α : Type) [Scalar α] (data : Bytes) :
    ofStream data = (Interpreter.operators (α := α) data).map fun operators =>
      (operators.flatMap listedDefinitions).foldl define empty := by
  have definitions_eq : definitions = listedDefinitions := funext definitions_eq
  unfold ofStream Interpreter.operators
  cases Content.operators data with
  | error fault => rfl
  | ok operators =>
    simp [Except.map, List.flatMap_map, listedDefinitions_map, definitions_eq]

/-- Content that is written out defines the same character map. -/
theorem ofStream_expands {content content' : Bytes}
    (expands : Content.ExpandsTo α content content') : ofStream content = ofStream content' := by
  obtain ⟨operators, read, read'⟩ := expands
  rw [ofStream_eq α, ofStream_eq α, read, read']
  simp only [Except.map, List.flatMap_assoc, flatMap_listedDefinitions_expanded]

end CMap

namespace Interpreter

variable {first second : Interpreter} {found found' : Dictionary}
  {streamCourse streamCourse' : Dictionary → Bytes → Course α}

theorem operatorsCourse_append (operators operators' : List (Operator α)) :
    first.operatorsCourse streamCourse found (operators ++ operators') =
      (first.operatorsCourse streamCourse found operators).andThen
        (first.operatorsCourse streamCourse found operators') := by
  unfold operatorsCourse
  rw [List.map_append, Course.all_append]

/-- The actions of some operators are split by beginning the operators. -/
theorem splits_actions (operators : List (Operator α))
    (splits : ∀ action, (first.actionCourse streamCourse found action).SplitsInto
      (second.actionCourse streamCourse' found' action)) :
    (Course.all ((operators.flatMap Action.ofOperator).map
      (first.actionCourse streamCourse found))).SplitsInto
        (second.operatorsCourse streamCourse' found' operators) := by
  induction operators with
  | nil => exact Course.SplitsInto.refl (.of [])
  | cons operator operators ih =>
    rw [List.flatMap_cons, List.map_append, Course.all_append, operatorsCourse_cons]
    exact ((Course.SplitsInto.all _ splits).operator_andThen).andThen ih

/-- An operator is split by writing it out. -/
theorem splits_operator (operator : Operator α)
    (splits : ∀ action, (first.actionCourse streamCourse found action).SplitsInto
      (second.actionCourse streamCourse' found' action)) :
    (first.operatorCourse streamCourse found operator).SplitsInto
      (second.operatorsCourse streamCourse' found' operator.expanded) := by
  obtain ⟨begins, rest, written⟩ := operator.exists_expanded
  have begun := (Course.SplitsInto.refl (Course.of [.operator])).andThen
    (Course.SplitsInto.all (Action.ofOperator begins) splits)
  have onward := begun.andThen (splits_actions rest splits)
  have actions : Action.ofOperator operator =
      Action.ofOperator begins ++ rest.flatMap Action.ofOperator := by
    rw [← operator.flatMap_expanded, written, List.flatMap_cons]
  unfold operatorCourse
  rw [actions, written, List.map_append, Course.all_append, ← Course.andThen_assoc]
  exact onward

/-- **Operators are split by writing them out.** -/
theorem splits_operators (operators : List (Operator α))
    (splits : ∀ action, (first.actionCourse streamCourse found action).SplitsInto
      (second.actionCourse streamCourse' found' action)) :
    (first.operatorsCourse streamCourse found operators).SplitsInto
      (second.operatorsCourse streamCourse' found' (operators.flatMap Operator.expanded)) := by
  induction operators with
  | nil => exact Course.SplitsInto.refl (.of [])
  | cons operator operators ih =>
    rw [List.flatMap_cons, operatorsCourse_append, operatorsCourse_cons]
    exact (splits_operator operator splits).andThen ih

end Interpreter

/-! ## What is drawn -/

/-- Recordings that show the same with the same end of the program, if fonts end it, whatever was
executed and warned of. -/
structure Recording.DrawsAlike (recording recording' : Recording α) : Prop where
  drawing : recording.drawing = recording'.drawing
  glyphs : recording.glyphs = recording'.glyphs
  abort : recording.abort? = recording'.abort?

namespace Recording.DrawsAlike

variable {recording recording' : Recording α}

/-- Codes are drawn alike, whatever was executed and warned of before. -/
theorem showCodes (alike : recording.DrawsAlike recording') (normalForm : NormalForm)
    (font : Font α) (codes : List CharCode) :
    (recording.showCodes normalForm font codes).DrawsAlike
      (recording'.showCodes normalForm font codes) := by
  unfold Recording.showCodes
  induction codes generalizing recording recording' with
  | nil => exact alike
  | cons code codes ih =>
    apply ih
    unfold Recording.showCode
    rw [alike.drawing, alike.glyphs, alike.abort]
    exact ⟨rfl, rfl, rfl⟩

omit [Scalar α] in
theorem noting (alike : recording.DrawsAlike recording') (abort? : Option FontAbort) :
    (recording.noting abort?).DrawsAlike (recording'.noting abort?) :=
  ⟨alike.drawing, alike.glyphs, congrArg (·.or abort?) alike.abort⟩

/-- A step is drawn alike, whatever was executed and warned of before. -/
theorem step (alike : recording.DrawsAlike recording') (normalForm : NormalForm)
    (step : Step α) :
    (recording.step normalForm step).DrawsAlike (recording'.step normalForm step) := by
  cases step with
  | operator => exact ⟨alike.drawing, alike.glyphs, alike.abort⟩
  | change change =>
    exact ⟨congrArg (·.apply change) alike.drawing, alike.glyphs, alike.abort⟩
  | selectFont fonts name size =>
    have selected : DrawsAlike
        { recording with drawing := recording.drawing.selectFont name size }
        { recording' with drawing := recording'.drawing.selectFont name size } :=
      ⟨congrArg (·.selectFont name size) alike.drawing, alike.glyphs, alike.abort⟩
    exact selected.noting _
  | showText fonts bytes =>
    unfold Recording.step Recording.showText
    dsimp only
    rw [alike.drawing]
    split
    · exact alike
    · exact (alike.noting _).showCodes _ _ _

/-- Beginning operators draws nothing. -/
theorem after_filter (alike : recording.DrawsAlike recording') (normalForm : NormalForm)
    (steps : List (Step α)) :
    (recording.after normalForm steps).DrawsAlike
      (recording'.after normalForm (steps.filter fun step => !step.isOperator)) := by
  unfold Recording.after
  induction steps generalizing recording recording' with
  | nil => exact alike
  | cons step steps ih =>
    cases step with
    | operator => exact ih ⟨alike.drawing, alike.glyphs, alike.abort⟩
    | _ => exact ih (alike.step normalForm _)

omit [Scalar α] in
theorem symm (alike : recording.DrawsAlike recording') : recording'.DrawsAlike recording :=
  ⟨alike.drawing.symm, alike.glyphs.symm, alike.abort.symm⟩

omit [Scalar α] in
theorem trans {last : Recording α} (alike : recording.DrawsAlike recording')
    (onward : recording'.DrawsAlike last) : recording.DrawsAlike last :=
  ⟨alike.drawing.trans onward.drawing, alike.glyphs.trans onward.glyphs,
    alike.abort.trans onward.abort⟩

end Recording.DrawsAlike

/-- Courses of which one splits into the other draw the same. -/
theorem Course.SplitsInto.drawsAlike {course course' : Course α}
    (splits : course.SplitsInto course') (normalForm : NormalForm) :
    (Recording.ofSteps normalForm course.steps).DrawsAlike
      (.ofSteps normalForm course'.steps) := by
  have body : course.body.steps = course'.body.steps := by rw [splits.body]
  have start : (Recording.start .identity : Recording α).DrawsAlike (.start .identity) :=
    ⟨rfl, rfl, rfl⟩
  have left := start.after_filter normalForm course.steps
  have right := start.after_filter normalForm course'.steps
  unfold Course.body at body
  dsimp only at body
  rw [body] at left
  exact left.trans right.symm

/-- **A page whose course is split draws the same**, if the operators of the split course are not
too many. -/
theorem Store.interpret_of_splits {store other : Store} {options : ExtractOptions} {page : Nat}
    (splits : (Interpreter.pageCourse (α := α) ⟨store, options⟩ page).SplitsInto
      (Interpreter.pageCourse ⟨other, options⟩ page))
    (within : ∀ executed, (other.interpret options page : Recording α × Option ReadFault).2 ≠
      some (Interpreter.overBudget ⟨other, options⟩ executed)) :
    (store.interpret options page : Recording α × Option ReadFault).1.DrawsAlike
        (other.interpret options page).1 ∧
      (store.interpret options page : Recording α × Option ReadFault).2 =
        (other.interpret options page : Recording α × Option ReadFault).2 := by
  have bounded' : (Interpreter.pageCourse (α := α) ⟨other, options⟩ page).operators ≤
      options.maxOperators := by
    by_contra exceeded
    exact within _ (interpret_of_lt (Nat.lt_of_not_le exceeded)).1
  obtain ⟨ended, shown⟩ := interpret_of_le (splits.operators.trans bounded')
  obtain ⟨ended', shown'⟩ := interpret_of_le bounded'
  have fault : (Interpreter.pageCourse (α := α) ⟨store, options⟩ page).body.fault? =
      (Interpreter.pageCourse (α := α) ⟨other, options⟩ page).body.fault? := by
    rw [splits.body]
  have drawn := splits.drawsAlike options.normalForm
  refine ⟨?_, ended.trans (fault.trans ended'.symm)⟩
  exact ⟨shown.drawing.trans (drawn.drawing.trans shown'.drawing.symm),
    shown.glyphs.trans (drawn.glyphs.trans shown'.glyphs.symm),
    shown.abort.trans (drawn.abort.trans shown'.abort.symm)⟩

end PlacedText
