import PlacedText.Proofs.Drawing.Course

/-! # The limits of a page

The course of a page with the depth of every step: the content of the page is at depth zero, and a
form is one deeper than the stream that draws it (`Interpreter.nestedPage`). Forms that draw
themselves or each other do not keep a course from ending. No step of it is deeper than is allowed,
and interpreting the page follows it until there are more operators than are allowed, which is the
only way to exceed a limit (`Store.interpret_limits`).
-/

namespace PlacedText

variable {α : Type}

/-- A step, and in how many forms the stream is nested that it is in. -/
structure NestedStep (α : Type) where
  depth : Nat
  step : Step α

/-- The steps of what is drawn with their depths, and the fault behind them if there is one. -/
structure NestedCourse (α : Type) where
  steps : List (NestedStep α)
  fault? : Option ReadFault

namespace NestedCourse

/-- A course of steps that are in one stream. -/
def atDepth (depth : Nat) (course : Course α) : NestedCourse α :=
  ⟨course.steps.map (NestedStep.mk depth), course.fault?⟩

/-- What comes behind a fault is not drawn. -/
def andThen (first second : NestedCourse α) : NestedCourse α :=
  match first.fault? with
  | none => ⟨first.steps ++ second.steps, second.fault?⟩
  | some fault => ⟨first.steps, some fault⟩

/-- Courses one after the other. -/
def all (courses : List (NestedCourse α)) : NestedCourse α := courses.foldr andThen ⟨[], none⟩

/-- The number of operators, those of forms included. -/
def operators (course : NestedCourse α) : Nat :=
  course.steps.countP fun nested => nested.step.isOperator

theorem countP_step {nested : List (NestedStep α)} {steps : List (Step α)}
    (same : nested.map NestedStep.step = steps) :
    nested.countP (fun nested => nested.step.isOperator) = steps.countP Step.isOperator := by
  rw [← same, List.countP_map]
  rfl

end NestedCourse

/-! ## The depths of the steps of a page -/

namespace Interpreter

variable [Scalar α]

/-- The course of a form that a stream at some depth draws. -/
def nestedForm (interpreter : Interpreter) (inner : Dictionary → Bytes → NestedCourse α)
    (depth : Nat) (resources form : Dictionary) (data : Bytes) : NestedCourse α :=
  match interpreter.store.decoded form data with
  | .error fault => .atDepth depth (.fails (.object fault))
  | .ok content =>
    let own := (interpreter.store.dictionary? form "Resources").getD resources
    let placing := (interpreter.formMatrix? form).map fun t => Step.change (.concat t)
    (NestedCourse.atDepth depth (.of (.change .save :: placing.toList))).andThen
      ((inner own content).andThen (.atDepth depth (.of [.change .restore])))

/-- The course of an external object; only forms are drawn. -/
def nestedObject (interpreter : Interpreter) (inner : Dictionary → Bytes → NestedCourse α)
    (depth : Nat) (resources : Dictionary) (name : String) : NestedCourse α :=
  match interpreter.externalObject? resources name with
  | none => .atDepth depth (.of [])
  | some (entries, data) =>
    if (entries.find? "Subtype" >>= Object.name?) = some (Text.Utf8.encode "Form") then
      interpreter.nestedForm inner depth resources entries data
    else .atDepth depth (.of [])

/-- The course of an action; only drawing an object goes deeper. -/
def nestedAction (interpreter : Interpreter) (inner : Dictionary → Bytes → NestedCourse α)
    (depth : Nat) (resources : Dictionary) : Action α → NestedCourse α
  | .invoke name => interpreter.nestedObject inner depth resources name
  | action => .atDepth depth (interpreter.actionCourse (fun _ _ => .of []) resources action)

def nestedOperator (interpreter : Interpreter) (inner : Dictionary → Bytes → NestedCourse α)
    (depth : Nat) (resources : Dictionary) (operator : Operator α) : NestedCourse α :=
  (NestedCourse.atDepth depth (.of [.operator])).andThen
    (.all ((Action.ofOperator operator).map (interpreter.nestedAction inner depth resources)))

/-- The course of a content stream at some depth, which is a fault if it is too deep. -/
def nestedStream (interpreter : Interpreter) (depth : Nat) (resources : Dictionary)
    (content : Bytes) : NestedCourse α :=
  if interpreter.options.maxDepth < depth then
    .atDepth depth
      (.fails (.content (.formsTooDeep depth interpreter.options.maxDepth)))
  else
    match operators content with
    | .error fault => .atDepth depth (.fails (malformed fault))
    | .ok operators =>
      .all (operators.map
        (interpreter.nestedOperator (interpreter.nestedStream (depth + 1)) depth resources))
termination_by interpreter.options.maxDepth + 1 - depth

/-- The course of a page, whose content is in no form. -/
def nestedPage (interpreter : Interpreter) (page : Nat) : NestedCourse α :=
  match interpreter.store.pageContent page with
  | .error fault => .atDepth 0 (.fails fault)
  | .ok content =>
    match interpreter.store.pageResources page with
    | .error fault => .atDepth 0 (.fails fault)
    | .ok resources => interpreter.nestedStream 0 resources content

end Interpreter

/-! ## A course and its depths -/

/-- Whether a course with depths is one without, no step of it is deeper than is allowed and its
fault is none of a limit of processing. -/
structure NestedCourse.Details (nested : NestedCourse α) (most : Nat) (course : Course α) :
    Prop where
  steps : nested.steps.map NestedStep.step = course.steps
  fault : nested.fault? = course.fault?
  within : ∀ step ∈ nested.steps, step.depth ≤ most
  reading : ∀ fault, nested.fault? ≠ some (.process fault)

namespace NestedCourse.Details

variable {nested nested' : NestedCourse α} {course course' : Course α} {most depth : Nat}

/-- A course at one depth that is allowed has no step below it. -/
theorem atDepth (course : Course α) (within : depth ≤ most)
    (reading : ∀ fault, course.fault? ≠ some (.process fault)) :
    (NestedCourse.atDepth depth course).Details most course where
  steps := by
    unfold NestedCourse.atDepth
    rw [List.map_map]
    exact List.map_id _
  fault := rfl
  within := by
    intro step member
    obtain ⟨_, _, rfl⟩ := List.mem_map.mp member
    exact within
  reading := reading

/-- Steps that end without a fault. -/
theorem ofSteps (steps : List (Step α)) (within : depth ≤ most) :
    (NestedCourse.atDepth depth (.of steps)).Details most (.of steps) :=
  .atDepth _ within nofun

/-- A fault right away, at a depth that may be one too many. -/
theorem fails {fault : ReadFault} (reading : ∀ own, fault ≠ .process own) :
    (NestedCourse.atDepth depth (.fails fault)).Details most (.fails fault : Course α) where
  steps := rfl
  fault := rfl
  within := nofun
  reading := by
    rintro own ⟨⟩
    exact reading own rfl

/-- Depths are kept apart in the two parts of a course. -/
theorem andThen (first : nested.Details most course) (second : nested'.Details most course') :
    (nested.andThen nested').Details most (course.andThen course') := by
  have same := first.fault
  unfold NestedCourse.andThen Course.andThen
  rw [← same]
  cases ended : nested.fault? with
  | none =>
    refine ⟨?_, second.fault, ?_, second.reading⟩
    · rw [List.map_append, first.steps, second.steps]
    · intro step member
      exact (List.mem_append.mp member).elim (first.within step) (second.within step)
  | some fault =>
    have reading := first.reading
    rw [ended] at reading
    exact ⟨first.steps, rfl, first.within, reading⟩

theorem all {ι : Type} (items : List ι) {nested : ι → NestedCourse α} {course : ι → Course α}
    (each : ∀ item, (nested item).Details most (course item)) :
    (NestedCourse.all (items.map nested)).Details most (.all (items.map course)) := by
  induction items with
  | nil => exact ⟨rfl, rfl, nofun, nofun⟩
  | cons item items ih => exact (each item).andThen ih

theorem operators (details : nested.Details most course) : nested.operators = course.operators :=
  countP_step details.steps

end NestedCourse.Details

namespace Store

variable {store : Store} {page : Nat} {fault : ReadFault}

/-- Content that cannot be joined fails in the reading of a part, never by a limit of processing. -/
theorem reading_of_joinParts {parts : List Object} {joined : Bytes}
    (failed : store.joinParts joined parts = .error fault) : ∀ own, fault ≠ .process own := by
  fun_induction joinParts store joined parts with
  | case1 => cases failed
  | case2 =>
    cases failed
    nofun
  | case3 _ _ _ _ _ _ _ ih => exact ih failed
  | case4 =>
    cases failed
    nofun

/-- The content of a page fails in being read, never by a limit of processing. -/
theorem reading_of_pageContent (failed : store.pageContent page = .error fault) :
    ∀ own, fault ≠ .process own := by
  unfold pageContent at failed
  split at failed
  · cases failed
    nofun
  · exact reading_of_joinParts failed

/-- The search for an attribute fails in reading a node, never by a limit of processing. By
induction on the nodes that it may climb. -/
theorem reading_of_inheritedFrom {key : String} {levels node : Nat}
    (failed : store.inheritedFrom key page levels node = .error fault) :
    ∀ own, fault ≠ .process own := by
  fun_induction inheritedFrom store key page levels node with
  | case1 =>
    cases failed
    nofun
  | case2 =>
    cases failed
    nofun
  | case3 => cases failed
  | case4 _ _ _ _ _ _ _ ih => exact ih failed
  | case5 => cases failed

/-- The resources of a page fail in being read, never by a limit of processing. -/
theorem reading_of_pageResources (failed : store.pageResources page = .error fault) :
    ∀ own, fault ≠ .process own := by
  unfold pageResources at failed
  split at failed
  · next inherited =>
    cases failed
    exact reading_of_inheritedFrom inherited
  · cases failed
  · cases failed
  · cases failed
    nofun

end Store

namespace Interpreter

open NestedCourse (Details)

variable [Scalar α] {interpreter : Interpreter} {depth : Nat} {resources : Dictionary}
  {inner : Dictionary → Bytes → NestedCourse α} {innerCourse : Dictionary → Bytes → Course α}

section

variable (within : depth ≤ interpreter.options.maxDepth)
  (deeper : ∀ own content,
    (inner own content).Details interpreter.options.maxDepth (innerCourse own content))

include within deeper

/-- A form with depths is a form without, if the streams in it are. One that would be too deep has a
fault of depth and no steps. -/
theorem details_nestedForm (form : Dictionary) (data : Bytes) :
    (interpreter.nestedForm inner depth resources form data).Details interpreter.options.maxDepth
      (interpreter.formCourse innerCourse resources form data) := by
  unfold nestedForm formCourse
  cases interpreter.store.decoded form data with
  | error fault => exact .fails nofun
  | ok content =>
    exact (Details.ofSteps _ within).andThen ((deeper _ _).andThen (.ofSteps _ within))

/-- An external object with depths is one without, if the streams in it are. -/
theorem details_nestedObject (name : String) :
    (interpreter.nestedObject inner depth resources name).Details interpreter.options.maxDepth
      (interpreter.objectCourse innerCourse resources name) := by
  unfold nestedObject objectCourse
  cases interpreter.externalObject? resources name with
  | none => exact .ofSteps _ within
  | some object =>
    dsimp only
    split
    · exact details_nestedForm within deeper _ _
    · exact .ofSteps _ within

theorem details_nestedOperator (operator : Operator α) :
    (interpreter.nestedOperator inner depth resources operator).Details
      interpreter.options.maxDepth
      (interpreter.operatorCourse innerCourse resources operator) := by
  refine (Details.ofSteps _ within).andThen (.all _ fun action => ?_)
  cases action with
  | invoke name => exact details_nestedObject within deeper name
  | _ => exact .ofSteps _ within

end

/-- The course of a stream at some depth is the one with as many levels as are left. -/
theorem details_nestedStream {levels : Nat}
    (left : depth + levels = interpreter.options.maxDepth + 1) (resources : Dictionary)
    (content : Bytes) :
    (interpreter.nestedStream depth resources content : NestedCourse α).Details
      interpreter.options.maxDepth (interpreter.streamCourse levels resources content) := by
  induction levels generalizing depth resources content with
  | zero =>
    rw [nestedStream, if_pos (by omega), streamCourse, ← left]
    exact .fails nofun
  | succ levels ih =>
    rw [nestedStream, if_neg (by omega), streamCourse]
    cases (operators content : Except SyntaxFault (List (Operator α))) with
    | error fault => exact .fails nofun
    | ok operators =>
      exact .all operators fun operator => details_nestedOperator (by omega)
        (fun own content => ih (by omega) own content) operator

/-- A page with depths is a page without: no step is deeper than is allowed, and no fault of its own
is one of a limit. -/
theorem details_nestedPage (interpreter : Interpreter) (page : Nat) :
    (interpreter.nestedPage page : NestedCourse α).Details interpreter.options.maxDepth
      (interpreter.pageCourse page) := by
  unfold nestedPage pageCourse
  cases read : interpreter.store.pageContent page with
  | error fault => exact .fails (Store.reading_of_pageContent read)
  | ok content =>
    dsimp only
    cases found : interpreter.store.pageResources page with
    | error fault => exact .fails (Store.reading_of_pageResources found)
    | ok resources => exact details_nestedStream (Nat.zero_add _) resources content

end Interpreter

/-! ## How far a page is interpreted -/

namespace Recording

variable [Scalar α]

/-- An operator by itself does nothing but count. -/
theorem after_operator (normalForm : NormalForm) (recording : Recording α) (steps : List (Step α)) :
    recording.after normalForm (steps ++ [.operator]) =
      { recording.after normalForm steps with
        executed := (recording.after normalForm steps).executed + 1 } := by
  unfold after
  rw [List.foldl_append]
  rfl

end Recording

namespace Store

variable [Scalar α] {store : Store} {options : ExtractOptions} {page : Nat}
  {nested : NestedCourse α}

omit [Scalar α] in
/-- Steps that a page is interpreted along begin its course with their depths as well. -/
theorem exists_nested_prefix {course : Course α} {done : List (Step α)}
    (same : nested.steps.map NestedStep.step = course.steps) (begins : done <+: course.steps) :
    ∃ nestedDone, nestedDone <+: nested.steps ∧ nestedDone.map NestedStep.step = done := by
  refine ⟨nested.steps.take done.length, List.take_prefix _ _, ?_⟩
  rw [List.map_take, same]
  exact (List.prefix_iff_eq_take.mp begins).symm

/-- A page is interpreted along as many of its operators as are allowed. -/
theorem interpret_done
    (details : nested.Details options.maxDepth (Interpreter.pageCourse ⟨store, options⟩ page)) :
    ∃ done, done <+: nested.steps ∧
      done.countP (fun nested => nested.step.isOperator) =
        min options.maxOperators nested.operators ∧
      (nested.operators ≤ options.maxOperators → done = nested.steps) ∧
      (store.interpret options page).1.drawing =
        (Recording.ofSteps options.normalForm (done.map NestedStep.step)).drawing ∧
      (store.interpret options page).1.glyphs =
        (Recording.ofSteps options.normalForm (done.map NestedStep.step)).glyphs := by
  have counted := details.operators
  rcases Nat.lt_or_ge options.maxOperators nested.operators with exceeded | bounded
  · obtain ⟨-, done, begins, full, same⟩ := interpret_of_lt (counted ▸ exceeded)
    obtain ⟨nestedDone, nestedBegins, isDone⟩ :=
      exists_nested_prefix details.steps ((List.prefix_append _ _).trans begins)
    refine ⟨nestedDone, nestedBegins, ?_, fun bounded => absurd exceeded (Nat.not_lt.mpr bounded),
      ?_, ?_⟩
    · rw [NestedCourse.countP_step isDone, full, Nat.min_eq_left (Nat.le_of_lt exceeded)]
    -- The operator that is one too many draws nothing.
    · rw [same.drawing, isDone, Recording.ofSteps, Recording.after_operator]
      rfl
    · rw [same.glyphs, isDone, Recording.ofSteps, Recording.after_operator]
      rfl
  · obtain ⟨-, same⟩ := interpret_of_le (counted ▸ bounded)
    refine ⟨nested.steps, List.prefix_refl _, ?_, fun _ => rfl, ?_, ?_⟩
    · rw [Nat.min_eq_right bounded]
      rfl
    · rw [same.drawing, details.steps]
    · rw [same.glyphs, details.steps]

/-- **Interpreting a page keeps to its limits**, whatever its forms draw. No step of its course is
deeper than is allowed. What is drawn is what steps from its beginning on lead to, among which there
are no more operators than are allowed: all of them, or those before the first operator that is one
too many. In that case, and in no other, a limit of processing is exceeded, and it is that of
operators, by one; otherwise the fault is the one of the course. -/
theorem interpret_limits (store : Store) (options : ExtractOptions) (page : Nat) :
    let course : NestedCourse α := Interpreter.nestedPage ⟨store, options⟩ page
    let result : Recording α × Option ReadFault := store.interpret options page
    (∀ step ∈ course.steps, step.depth ≤ options.maxDepth) ∧
    (∃ done, done <+: course.steps ∧
      done.countP (fun nested => nested.step.isOperator) =
        min options.maxOperators course.operators ∧
      (course.operators ≤ options.maxOperators → done = course.steps) ∧
      result.1.drawing =
        (Recording.ofSteps options.normalForm (done.map NestedStep.step)).drawing ∧
      result.1.glyphs = (Recording.ofSteps options.normalForm (done.map NestedStep.step)).glyphs) ∧
    (∀ limit allowed reached,
      result.2 = some (.process (.limitExceeded limit allowed reached)) ↔
        options.maxOperators < course.operators ∧ limit = "max_operators_per_page" ∧
          allowed = options.maxOperators ∧ reached = options.maxOperators + 1) ∧
    (course.operators ≤ options.maxOperators → result.2 = course.fault?) := by
  intro course result
  have details : course.Details options.maxDepth _ := Interpreter.details_nestedPage _ page
  have counted := details.operators
  have ended (bounded : course.operators ≤ options.maxOperators) : result.2 = course.fault? :=
    (interpret_of_le (counted ▸ bounded)).1.trans details.fault.symm
  refine ⟨details.within, interpret_done details, fun limit allowed reached => ?_, ended⟩
  rcases Nat.lt_or_ge options.maxOperators course.operators with exceeded | bounded
  · have failed : result.2 = _ := (interpret_of_lt (counted ▸ exceeded)).1
    rw [failed, Interpreter.overBudget, Option.some_inj, ReadFault.process.injEq,
      ProcessFault.limitExceeded.injEq, and_iff_right exceeded]
    simp only [eq_comm]
  · rw [ended bounded]
    exact iff_of_false (details.reading _) fun exceeded =>
      absurd exceeded.1 (Nat.not_lt.mpr bounded)

end Store

end PlacedText
