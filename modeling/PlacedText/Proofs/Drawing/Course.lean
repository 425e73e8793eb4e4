import PlacedText.Proofs.Drawing.Execution
import PlacedText.Proofs.Drawing.Simulation
import PlacedText.Proofs.Effect.Agreement

/-! # The course of a page

What a page draws is written out as one sequence of elementary steps, forms included, with the fault
that ends it if there is one (`Interpreter.pageCourse`). Interpreting the page comes to the same as
walking its course (`Interpreter.agrees_runPage`): every step is taken if the operators among them
are not too many, and else those up to the first operator that is one too many
(`Interpreter.walk_of_le`, `Interpreter.walk_of_lt`). What is warned of does not matter here.
-/

namespace PlacedText

open Effect

variable {α : Type} [Scalar α]

/-- The fonts of some resources by their names. -/
abbrev FontBook (α : Type) := String → Font α

/-- An elementary step of what a page draws. Fonts are those of the stream that the step is in. -/
inductive Step (α : Type) where
  /-- An operator is begun. -/
  | operator
  | change (change : Change α)
  | selectFont (fonts : FontBook α) (name : String) (size : α)
  | showText (fonts : FontBook α) (bytes : Bytes)

/-- The steps of what is drawn, and the fault behind them if there is one. -/
structure Course (α : Type) where
  steps : List (Step α)
  fault? : Option ReadFault

namespace Course

def of (steps : List (Step α)) : Course α := ⟨steps, none⟩

def fails (fault : ReadFault) : Course α := ⟨[], some fault⟩

/-- What comes behind a fault is not drawn. -/
def andThen (first second : Course α) : Course α :=
  match first.fault? with
  | none => ⟨first.steps ++ second.steps, second.fault?⟩
  | some fault => ⟨first.steps, some fault⟩

/-- Courses one after the other. -/
def all (courses : List (Course α)) : Course α := courses.foldr andThen (of [])

end Course

/-! ## The steps of a page -/

namespace Interpreter

/-- The font of a name among some resources; one that is missing or not loaded has a stand-in. -/
def fontNamed (interpreter : Interpreter) (resources : Dictionary) : FontBook α := fun name =>
  ((interpreter.fontDictionary? resources name).map fun font =>
    Font.ofDictionary interpreter.store font name).getD (.fallback name)

/-- The course of a form: that of its content, between a save and a restore. -/
def formCourse (interpreter : Interpreter) (streamCourse : Dictionary → Bytes → Course α)
    (resources form : Dictionary) (data : Bytes) : Course α :=
  match interpreter.store.decoded form data with
  | .error fault => .fails (.object fault)
  | .ok content =>
    let own := (interpreter.store.dictionary? form "Resources").getD resources
    let placing := (interpreter.formMatrix? form).map fun t => Step.change (.concat t)
    (Course.of (.change .save :: placing.toList)).andThen
      ((streamCourse own content).andThen (.of [.change .restore]))

/-- The course of an external object; only forms are drawn. -/
def objectCourse (interpreter : Interpreter) (streamCourse : Dictionary → Bytes → Course α)
    (resources : Dictionary) (name : String) : Course α :=
  match interpreter.externalObject? resources name with
  | none => .of []
  | some (entries, data) =>
    if (entries.find? "Subtype" >>= Object.name?) = some (Text.Utf8.encode "Form") then
      interpreter.formCourse streamCourse resources entries data
    else .of []

def actionCourse (interpreter : Interpreter) (streamCourse : Dictionary → Bytes → Course α)
    (resources : Dictionary) : Action α → Course α
  | .change change => .of [.change change]
  | .selectFont name size => .of [.selectFont (interpreter.fontNamed resources) name size]
  | .showText bytes => .of [.showText (interpreter.fontNamed resources) bytes]
  | .invoke name => interpreter.objectCourse streamCourse resources name

def operatorCourse (interpreter : Interpreter) (streamCourse : Dictionary → Bytes → Course α)
    (resources : Dictionary) (operator : Operator α) : Course α :=
  (Course.of [.operator]).andThen
    (.all ((Action.ofOperator operator).map (interpreter.actionCourse streamCourse resources)))

def operatorsCourse (interpreter : Interpreter) (streamCourse : Dictionary → Bytes → Course α)
    (resources : Dictionary) (operators : List (Operator α)) : Course α :=
  .all (operators.map (interpreter.operatorCourse streamCourse resources))

theorem operatorsCourse_cons (interpreter : Interpreter)
    (streamCourse : Dictionary → Bytes → Course α) (resources : Dictionary)
    (operator : Operator α) (operators : List (Operator α)) :
    interpreter.operatorsCourse streamCourse resources (operator :: operators) =
      (interpreter.operatorCourse streamCourse resources operator).andThen
        (interpreter.operatorsCourse streamCourse resources operators) := rfl

/-- The course of a content stream in which forms may nest to so many further levels. -/
def streamCourse (interpreter : Interpreter) : (levels : Nat) → Dictionary → Bytes → Course α
  | 0, _, _ =>
    .fails
      (.content (.formsTooDeep (interpreter.options.maxDepth + 1) interpreter.options.maxDepth))
  | levels + 1, resources, content =>
    match operators content with
    | .error fault => .fails (malformed fault)
    | .ok operators =>
      interpreter.operatorsCourse (interpreter.streamCourse levels) resources operators

/-- The course of a page. -/
def pageCourse (interpreter : Interpreter) (page : Nat) : Course α :=
  match interpreter.store.pageContent page with
  | .error fault => .fails fault
  | .ok content =>
    match interpreter.store.pageResources page with
    | .error fault => .fails fault
    | .ok resources =>
      interpreter.streamCourse (interpreter.options.maxDepth + 1) resources content

end Interpreter

/-! ## Walking a course -/

namespace Recording

/-- Shows a string in the selected font; nothing is shown before one has been selected. -/
def showText (normalForm : NormalForm) (fonts : FontBook α) (bytes : Bytes)
    (recording : Recording α) : Recording α :=
  match recording.drawing.params.font? with
  | none => recording
  | some name =>
    (recording.noting (fonts name).abort?).showCodes normalForm (fonts name)
      ((fonts name).codes bytes)

/-- What a step does. -/
def step (normalForm : NormalForm) (recording : Recording α) : Step α → Recording α
  | .operator => { recording with executed := recording.executed + 1 }
  | .change change => recording.change change
  | .selectFont fonts name size =>
    { recording with drawing := recording.drawing.selectFont name size }.noting (fonts name).abort?
  | .showText fonts bytes => recording.showText normalForm fonts bytes

/-- What steps lead to. -/
def after (normalForm : NormalForm) (recording : Recording α) (steps : List (Step α)) :
    Recording α :=
  steps.foldl (step normalForm) recording

end Recording

namespace Interpreter

variable {interpreter : Interpreter}

/-- Takes a step. -/
def take (interpreter : Interpreter) : Step α → Interpretation α Unit
  | .operator => interpreter.charge
  | step => modify fun recording => recording.step interpreter.options.normalForm step

/-- Takes the steps of a course and fails at its end if it does. -/
def walk (interpreter : Interpreter) (course : Course α) : Interpretation α Unit := do
  forM course.steps interpreter.take
  match course.fault? with
  | none => pure ()
  | some fault => throw fault

/-- To walk a course behind another one is to walk both in turn; a fault of the first one ends the
walk. -/
theorem walk_andThen (first second : Course α) :
    interpreter.walk (first.andThen second) =
      interpreter.walk first >>= fun _ => interpreter.walk second := by
  unfold walk Course.andThen
  cases first.fault? with
  | none => simp only [List.forM_append, bind_assoc, pure_bind]
  | some fault =>
    rw [bind_assoc]
    rfl

theorem walk_all_cons (course : Course α) (courses : List (Course α)) :
    interpreter.walk (.all (course :: courses)) =
      interpreter.walk course >>= fun _ => interpreter.walk (.all courses) :=
  walk_andThen _ _

theorem walk_step (step : Step α) : interpreter.walk (.of [step]) = interpreter.take step := by
  unfold walk Course.of
  simp only [List.forM_cons, List.forM_nil, bind_pure_unit]

end Interpreter

/-! ## Interpreting a page is walking its course -/

/-- The same recording but for what was warned of. -/
structure Recording.SameShown (recording recording' : Recording α) : Prop where
  drawing : recording.drawing = recording'.drawing
  executed : recording.executed = recording'.executed
  glyphs : recording.glyphs = recording'.glyphs
  abort : recording.abort? = recording'.abort?

namespace Recording.SameShown

variable {recording recording' : Recording α}

omit [Scalar α] in
theorem noting (same : recording.SameShown recording') (abort? : Option FontAbort) :
    (recording.noting abort?).SameShown (recording'.noting abort?) :=
  ⟨same.drawing, same.executed, same.glyphs, congrArg (·.or abort?) same.abort⟩

/-- Codes show the same whatever was warned of before. -/
theorem showCodes (same : recording.SameShown recording') (normalForm : NormalForm) (font : Font α)
    (codes : List CharCode) :
    (recording.showCodes normalForm font codes).SameShown
      (recording'.showCodes normalForm font codes) := by
  unfold Recording.showCodes
  induction codes generalizing recording recording' with
  | nil => exact same
  | cons code codes ih =>
    apply ih
    unfold Recording.showCode
    rw [same.drawing, same.glyphs, same.abort]
    exact ⟨rfl, same.executed, rfl, rfl⟩

/-- A step shows the same whatever was warned of before. -/
theorem step (same : recording.SameShown recording') (normalForm : NormalForm) (step : Step α) :
    (recording.step normalForm step).SameShown (recording'.step normalForm step) := by
  cases step with
  | operator => exact ⟨same.drawing, congrArg (· + 1) same.executed, same.glyphs, same.abort⟩
  | change change =>
    exact ⟨congrArg (·.apply change) same.drawing, same.executed, same.glyphs, same.abort⟩
  | selectFont fonts name size =>
    exact ⟨congrArg (·.selectFont name size) same.drawing, same.executed, same.glyphs,
      congrArg (·.or (fonts name).abort?) same.abort⟩
  | showText fonts bytes =>
    unfold Recording.step Recording.showText
    dsimp only
    rw [same.drawing]
    split
    · exact same
    · exact (same.noting _).showCodes _ _ _

end Recording.SameShown

/-- Whether the fonts that were used so far are those of a book. -/
def FontTable.IsOf (table : FontTable α) (fonts : FontBook α) : Prop :=
  ∀ name font, table[name]? = some font → font = fonts name

omit [Scalar α] in
theorem FontTable.isOf_empty (fonts : FontBook α) : FontTable.IsOf ∅ fonts := by
  intro name font used
  simp at used

omit [Scalar α] in
/-- A table stays one of a book when the font of the book is entered under its name. -/
theorem FontTable.IsOf.insert {table : FontTable α} {fonts : FontBook α} (known : table.IsOf fonts)
    (name : String) : FontTable.IsOf (table.insert name (fonts name)) fonts := by
  intro other font found
  rw [Std.HashMap.getElem?_insert] at found
  split at found
  · next same =>
    cases found
    rw [eq_of_beq same]
  · exact known other font found

namespace Interpreter

open Recording (SameShown)

variable {interpreter : Interpreter} {resources : Dictionary} {table : FontTable α}
  {runStream : Dictionary → Bytes → Interpretation α Unit}
  {streamCourse : Dictionary → Bytes → Course α}

omit [Scalar α] in
/-- A warning shows nothing. -/
theorem agrees_warn (warning : Warning) :
    Agrees SameShown (fun _ _ => True) (interpreter.warn warning : Interpretation α Unit)
      (pure () : Interpretation α Unit) := by
  intro start start' same
  refine .ok ?_ trivial
  split
  · exact ⟨same.drawing, same.executed, same.glyphs, same.abort⟩
  · exact same

/-- The font that is found is the one of the resources, whether or not it was used before. -/
theorem agrees_findFont (known : table.IsOf (interpreter.fontNamed resources)) (index : Nat)
    (name : String) :
    Agrees SameShown
      (fun used _ => used.1 = interpreter.fontNamed resources name ∧
        used.2.IsOf (interpreter.fontNamed resources))
      (interpreter.findFont resources index table name)
      (pure () : Interpretation α Unit) := by
  unfold findFont
  cases used : table[name]? with
  | some font => exact agrees_pure ⟨known name font used, known⟩
  | none =>
    have kept := known.insert name
    cases found : interpreter.fontDictionary? resources name with
    | some dictionary =>
      have loaded : interpreter.fontNamed resources name =
          (Font.ofDictionary interpreter.store dictionary name : Font α) := by
        unfold fontNamed
        rw [found]
        rfl
      rw [loaded] at kept ⊢
      exact agrees_pure ⟨rfl, kept⟩
    | none =>
      have missing : interpreter.fontNamed resources name = (Font.fallback name : Font α) := by
        unfold fontNamed
        rw [found]
        rfl
      rw [missing] at kept ⊢
      exact (agrees_warn _).bind_left fun _ _ _ => agrees_pure ⟨rfl, kept⟩

/-- Using a font notes what loading the one of the resources ended the program with. -/
theorem agrees_useFont (known : table.IsOf (interpreter.fontNamed resources)) (index : Nat)
    (name : String) :
    Agrees SameShown
      (fun used _ => used.1 = interpreter.fontNamed resources name ∧
        used.2.IsOf (interpreter.fontNamed resources))
      (interpreter.useFont resources index table name)
      (modify (Recording.noting (interpreter.fontNamed resources name : Font α).abort?) :
        Interpretation α Unit) := by
  change Agrees _ _ _ ((pure () : Interpretation α Unit) >>= fun _ => modify (Recording.noting _))
  refine (agrees_findFont known index name).bind ?_
  rintro ⟨_, used⟩ _ ⟨rfl, held⟩
  exact (agrees_modify fun _ _ same => same.noting _).bind_left fun _ _ _ =>
    agrees_pure ⟨rfl, held⟩

omit [Scalar α] in
/-- An operator is charged alike, whatever was warned of before. -/
theorem agrees_charge :
    Agrees SameShown (fun _ _ => True) (interpreter.charge : Interpretation α Unit)
      interpreter.charge := by
  refine (agrees_modify ?_).bind fun _ _ _ =>
    Agrees.bind agrees_get fun recording recording' same => ?_
  · exact fun _ _ same =>
      ⟨same.drawing, congrArg (· + 1) same.executed, same.glyphs, same.abort⟩
  dsimp only
  rw [same.executed]
  split
  · exact agrees_throw _
  · exact agrees_pure trivial

/-- A change of the recording is a step. -/
theorem agrees_step (interpreter : Interpreter) (step : Step α) :
    Agrees SameShown (fun _ _ => True)
      (modify fun recording => recording.step interpreter.options.normalForm step :
        Interpretation α PUnit)
      (modify fun recording => recording.step interpreter.options.normalForm step :
        Interpretation α PUnit) :=
  agrees_modify fun _ _ same => same.step _ _

/-- A form is run as its course is walked, if the streams in it are. -/
theorem agrees_runForm
    (ran : ∀ own content, Agrees SameShown (fun _ _ => True) (runStream own content)
      (interpreter.walk (streamCourse own content)))
    (form : Dictionary) (data : Bytes) :
    Agrees SameShown (fun _ _ => True) (interpreter.runForm runStream resources form data)
      (interpreter.walk (interpreter.formCourse streamCourse resources form data)) := by
  unfold runForm formCourse
  cases interpreter.store.decoded form data with
  | error fault => exact agrees_throw _
  | ok content =>
    dsimp only
    have inner := ran ((interpreter.store.dictionary? form "Resources").getD resources) content
    have rest := inner.bind fun _ _ _ => agrees_step interpreter (.change .restore)
    rw [walk_andThen, walk_andThen, walk_step]
    cases (interpreter.formMatrix? form : Option (Transform α)) with
    | none =>
      rw [Option.map_none, Option.toList_none, walk_step]
      exact (agrees_step interpreter (.change .save)).bind fun _ _ _ => rest
    | some t =>
      rw [Option.map_some, Option.toList_some]
      have both := (agrees_step interpreter (.change .save)).bind fun _ _ _ =>
        (agrees_step interpreter (.change (.concat t))).bind fun _ _ _ => rest
      exact both

/-- An external object is drawn as its course is walked: a form as a form, and anything else as
nothing. -/
theorem agrees_invoke
    (ran : ∀ own content, Agrees SameShown (fun _ _ => True) (runStream own content)
      (interpreter.walk (streamCourse own content)))
    (name : String) :
    Agrees SameShown (fun _ _ => True) (interpreter.invoke runStream resources name)
      (interpreter.walk (interpreter.objectCourse streamCourse resources name)) := by
  unfold invoke objectCourse
  cases interpreter.externalObject? resources name with
  | none => exact agrees_warn _
  | some object =>
    obtain ⟨entries, data⟩ := object
    dsimp only
    split
    · exact agrees_runForm ran entries data
    · exact agrees_pure trivial

/-- An action is performed as its course is walked. The table stays one of the fonts of these
resources, so looking a font up again gives the font that the course has. -/
theorem agrees_perform
    (ran : ∀ own content, Agrees SameShown (fun _ _ => True) (runStream own content)
      (interpreter.walk (streamCourse own content)))
    (index : Nat) (known : table.IsOf (interpreter.fontNamed resources)) (action : Action α) :
    Agrees SameShown (fun table' _ => table'.IsOf (interpreter.fontNamed resources))
      (interpreter.perform runStream resources index table action)
      (interpreter.walk (interpreter.actionCourse streamCourse resources action)) := by
  cases action with
  | change change =>
    change Agrees _ _ _ (interpreter.walk (.of [.change change]))
    rw [walk_step]
    exact (agrees_step interpreter (.change change)).bind_left fun _ _ _ => agrees_pure known
  | selectFont name size =>
    change Agrees _ _ _ (interpreter.walk (.of [.selectFont _ name size]))
    rw [walk_step]
    change Agrees _ _ _ ((modify fun recording : Recording α =>
      { recording with drawing := recording.drawing.selectFont name size } :
        Interpretation α Unit) >>= fun _ => modify (Recording.noting _))
    refine (agrees_modify ?_).bind fun _ _ _ =>
      (agrees_useFont known index name).bind_left fun _ _ used => agrees_pure used.2
    exact fun _ _ same =>
      ⟨congrArg (·.selectFont name size) same.drawing, same.executed, same.glyphs, same.abort⟩
  | showText bytes =>
    change Agrees _ _ _ (interpreter.walk (.of [.showText _ bytes]))
    rw [walk_step]
    intro start start' same
    change SameEnd _ _ _ (.ok () (start'.showText _ _ bytes))
    unfold perform Recording.showText
    dsimp only
    rw [get_bind, same.drawing]
    cases start'.drawing.params.font? with
    | none => exact .ok same known
    | some name =>
      dsimp only
      have looked := agrees_useFont known index name start start' same
      generalize here : interpreter.useFont resources index table name start = ended at looked
      cases looked with
      | ok held used =>
        rw [bind_of_ok here, ← used.1]
        rw [← used.1] at held
        exact .ok (held.showCodes _ _ _) used.2
  | invoke name =>
    exact (agrees_invoke ran name).bind_left fun _ _ _ => agrees_pure known

/-- The actions of one operator are performed as their courses are walked one by one. -/
theorem agrees_foldlM_perform
    (ran : ∀ own content, Agrees SameShown (fun _ _ => True) (runStream own content)
      (interpreter.walk (streamCourse own content)))
    (index : Nat) (known : table.IsOf (interpreter.fontNamed resources))
    (actions : List (Action α)) :
    Agrees SameShown (fun table' _ => table'.IsOf (interpreter.fontNamed resources))
      (actions.foldlM (interpreter.perform runStream resources index) table)
      (interpreter.walk
        (.all (actions.map (interpreter.actionCourse streamCourse resources)))) := by
  induction actions generalizing table with
  | nil => exact agrees_pure known
  | cons action actions ih =>
    rw [List.foldlM_cons, List.map_cons, walk_all_cons]
    exact (agrees_perform ran index known action).bind fun _ _ known => ih known

/-- Operators are run as their course is walked. By induction on the operators, each of which begins
at a table of the same fonts. -/
theorem agrees_runOperators
    (ran : ∀ own content, Agrees SameShown (fun _ _ => True) (runStream own content)
      (interpreter.walk (streamCourse own content)))
    (index : Nat) (known : table.IsOf (interpreter.fontNamed resources))
    (operators : List (Operator α)) :
    Agrees SameShown (fun _ _ => True)
      (interpreter.runOperators runStream resources index table operators)
      (interpreter.walk (interpreter.operatorsCourse streamCourse resources operators)) := by
  induction operators generalizing index table with
  | nil => exact agrees_pure trivial
  | cons operator operators ih =>
    unfold runOperators operatorsCourse
    rw [List.map_cons, walk_all_cons]
    refine Agrees.bind ?_ fun _ _ known => ih (index + 1) known
    unfold execute operatorCourse
    rw [walk_andThen, walk_step]
    exact agrees_charge.bind fun _ _ _ => agrees_foldlM_perform ran index known _

/-- **A stream is interpreted as its course is walked.** -/
theorem agrees_runStream (levels : Nat) (resources : Dictionary) (content : Bytes) :
    Agrees SameShown (fun _ _ => True)
      (interpreter.runStream levels resources content : Interpretation α Unit)
      (interpreter.walk (interpreter.streamCourse levels resources content)) := by
  induction levels generalizing resources content with
  | zero => exact agrees_throw _
  | succ levels ih =>
    unfold runStream streamCourse
    cases (operators content : Except SyntaxFault (List (Operator α))) with
    | error fault => exact agrees_throw _
    | ok operators =>
      exact agrees_runOperators ih 0 (FontTable.isOf_empty _) operators

/-- Operators that a page begins with are executed as their course is walked. -/
theorem runOperators_sameEnd (interpreter : Interpreter) (levels : Nat) (resources : Dictionary)
    (operators : List (Operator α)) :
    SameEnd SameShown (fun _ _ => True)
      (interpreter.runOperators (interpreter.runStream levels) resources 0 ∅ operators
        (.start .identity))
      (interpreter.walk
        (interpreter.operatorsCourse (interpreter.streamCourse levels) resources operators)
        (.start .identity)) :=
  agrees_runOperators (agrees_runStream levels) 0 (FontTable.isOf_empty _) operators _ _
    ⟨rfl, rfl, rfl, rfl⟩

/-- **A page is interpreted as its course is walked.** -/
theorem agrees_runPage (page : Nat) :
    Agrees SameShown (fun _ _ => True) (interpreter.runPage page : Interpretation α Unit)
      (interpreter.walk (interpreter.pageCourse page)) := by
  unfold runPage pageCourse
  cases interpreter.store.pageContent page with
  | error fault => exact agrees_throw _
  | ok content =>
    dsimp only
    cases interpreter.store.pageResources page with
    | error fault => exact agrees_throw _
    | ok resources => exact agrees_runStream _ resources content

end Interpreter

/-! ## How far a course is walked -/

def Step.isOperator : Step α → Bool
  | .operator => true
  | _ => false

/-- The number of operators of a course, those of forms included. -/
def Course.operators (course : Course α) : Nat := course.steps.countP Step.isOperator

omit [Scalar α] in
theorem Course.operators_andThen (first second : Course α) :
    (first.andThen second).operators =
      first.operators + if first.fault?.isNone then second.operators else 0 := by
  unfold andThen operators
  cases first.fault? <;> simp

namespace Recording

variable (normalForm : NormalForm)

/-- Of all steps only an operator is executed. -/
theorem step_executed (recording : Recording α) (step : Step α) :
    (recording.step normalForm step).executed =
      recording.executed + if step.isOperator then 1 else 0 := by
  cases step with
  | showText fonts bytes =>
    unfold Recording.step showText
    dsimp only
    split
    · rfl
    · exact Interpreter.showCodes_executed _ _ _ _
  | _ => rfl

/-- The steps of a course execute as many operators as are begun in it. -/
theorem after_executed (recording : Recording α) (steps : List (Step α)) :
    (recording.after normalForm steps).executed =
      recording.executed + steps.countP Step.isOperator := by
  unfold after
  induction steps generalizing recording with
  | nil => rfl
  | cons step steps ih =>
    rw [List.foldl_cons, ih, step_executed, List.countP_cons, Nat.add_assoc, Nat.add_comm]
    omega

end Recording

namespace Interpreter

variable {interpreter : Interpreter} {start : Recording α} {steps : List (Step α)}

theorem take_of_le {step : Step α}
    (bounded : (start.step interpreter.options.normalForm step).executed ≤
      interpreter.options.maxOperators) :
    interpreter.take step start = .ok () (start.step interpreter.options.normalForm step) := by
  cases step with
  | operator => exact charge_of_lt bounded
  | _ => rfl

/-- The step that exceeds the limit ends in the fault of the limit, with one operator more than it.
-/
theorem take_of_lt {step : Step α} (within : start.executed ≤ interpreter.options.maxOperators)
    (exceeded : interpreter.options.maxOperators <
      (start.step interpreter.options.normalForm step).executed) :
    interpreter.take step start =
      .error (interpreter.overBudget (interpreter.options.maxOperators + 1))
        (start.step interpreter.options.normalForm step) := by
  have counted := Recording.step_executed interpreter.options.normalForm start step
  cases step with
  | operator =>
    have last : start.executed = interpreter.options.maxOperators :=
      Nat.le_antisymm within (Nat.lt_succ_iff.mp exceeded)
    rw [← last]
    exact charge_of_le (Nat.le_of_eq last.symm)
  | _ =>
    -- only an operator counts
    simp only [Step.isOperator, Bool.false_eq_true, if_false] at counted
    omega

/-- Every step is taken if the operators among them are not too many. -/
theorem forM_take_of_le
    (bounded : start.executed + steps.countP Step.isOperator ≤ interpreter.options.maxOperators) :
    forM steps interpreter.take start =
      .ok ⟨⟩ (start.after interpreter.options.normalForm steps) := by
  induction steps generalizing start with
  | nil => rfl
  | cons step steps ih =>
    have counted := Recording.step_executed interpreter.options.normalForm start step
    rw [List.countP_cons] at bounded
    rw [List.forM_cons, bind_of_ok (take_of_le (by omega))]
    exact ih (by omega)

/-- Steps among which there are too many operators are taken up to the first that is one too many.
It is counted, but nothing comes of it. -/
theorem forM_take_of_lt (within : start.executed ≤ interpreter.options.maxOperators)
    (exceeded : interpreter.options.maxOperators < start.executed + steps.countP Step.isOperator) :
    ∃ done, done ++ [.operator] <+: steps ∧
      start.executed + done.countP Step.isOperator = interpreter.options.maxOperators ∧
      forM steps interpreter.take start =
        .error (interpreter.overBudget (interpreter.options.maxOperators + 1))
          (start.after interpreter.options.normalForm (done ++ [.operator])) := by
  induction steps generalizing start with
  | nil =>
    rw [List.countP_nil] at exceeded
    omega
  | cons step steps ih =>
    have counted := Recording.step_executed interpreter.options.normalForm start step
    rw [List.countP_cons] at exceeded
    rcases Nat.lt_or_ge interpreter.options.maxOperators
        (start.step interpreter.options.normalForm step).executed with above | bounded
    · have failed := take_of_lt within above
      cases step with
      | operator =>
        refine ⟨[], List.cons_prefix_cons.mpr ⟨rfl, List.nil_prefix⟩, ?_, ?_⟩
        · exact Nat.le_antisymm within (Nat.lt_succ_iff.mp above)
        · rw [List.forM_cons, bind_of_error failed]
          rfl
      | _ =>
        -- only an operator counts
        simp only [Step.isOperator, Bool.false_eq_true, if_false] at counted
        omega
    · obtain ⟨done, isPrefix, full, failed⟩ := ih bounded (by omega)
      refine ⟨step :: done, List.cons_prefix_cons.mpr ⟨rfl, isPrefix⟩, ?_, ?_⟩
      · rw [List.countP_cons]
        omega
      · rw [List.forM_cons, bind_of_ok (take_of_le bounded)]
        exact failed

/-- A course whose operators are not too many is walked to its end. -/
theorem walk_of_le {course : Course α}
    (bounded : start.executed + course.operators ≤ interpreter.options.maxOperators) :
    interpreter.walk course start = match course.fault? with
      | none => .ok () (start.after interpreter.options.normalForm course.steps)
      | some fault => .error fault (start.after interpreter.options.normalForm course.steps) := by
  unfold walk
  rw [bind_of_ok (forM_take_of_le bounded)]
  cases course.fault? with
  | none => rfl
  | some fault => rfl

/-- A course with too many operators is walked up to the first that is one too many. -/
theorem walk_of_lt (interpreter : Interpreter) (course : Course α) (start : Recording α)
    (within : start.executed ≤ interpreter.options.maxOperators)
    (exceeded : interpreter.options.maxOperators < start.executed + course.operators) :
    ∃ done, done ++ [.operator] <+: course.steps ∧
      start.executed + done.countP Step.isOperator = interpreter.options.maxOperators ∧
      interpreter.walk course start =
        .error (interpreter.overBudget (interpreter.options.maxOperators + 1))
          (start.after interpreter.options.normalForm (done ++ [.operator])) := by
  obtain ⟨done, isPrefix, full, failed⟩ := forM_take_of_lt within exceeded
  exact ⟨done, isPrefix, full, bind_of_error failed⟩

end Interpreter

namespace Recording

/-- What steps lead to from the beginning of a page. -/
def ofSteps (normalForm : NormalForm) (steps : List (Step α)) : Recording α :=
  (start .identity).after normalForm steps

end Recording

namespace Store

variable {store : Store} {options : ExtractOptions} {page : Nat}

theorem interpret_sameEnd (store : Store) (options : ExtractOptions) (page : Nat) :
    SameEnd Recording.SameShown (fun _ _ => True)
      (Interpreter.runPage ⟨store, options⟩ page (Recording.start .identity : Recording α))
      (Interpreter.walk ⟨store, options⟩ (Interpreter.pageCourse ⟨store, options⟩ page)
        (.start .identity)) :=
  Interpreter.agrees_runPage page _ _ ⟨rfl, rfl, rfl, rfl⟩

/-- A page whose operators are not too many is interpreted along its whole course. -/
theorem interpret_of_le
    (bounded : (Interpreter.pageCourse (α := α) ⟨store, options⟩ page).operators ≤
      options.maxOperators) :
    (store.interpret options page : Recording α × Option ReadFault).2 =
        (Interpreter.pageCourse (α := α) ⟨store, options⟩ page).fault? ∧
      (store.interpret options page).1.SameShown (.ofSteps options.normalForm
        (Interpreter.pageCourse (α := α) ⟨store, options⟩ page).steps) := by
  have ended := interpret_sameEnd (α := α) store options page
  rw [← Nat.zero_add (Interpreter.pageCourse _ page).operators] at bounded
  rw [Interpreter.walk_of_le bounded] at ended
  unfold Store.interpret
  generalize Interpreter.runPage (α := α) ⟨store, options⟩ page (.start .identity) = result at ended
  cases fault : (Interpreter.pageCourse (α := α) ⟨store, options⟩ page).fault? with
  | none =>
    rw [fault] at ended
    cases ended with
    | ok same _ => exact ⟨rfl, same⟩
  | some fault' =>
    rw [fault] at ended
    cases ended with
    | error same => exact ⟨rfl, same⟩

/-- A page with too many operators fails at the first that is one too many. -/
theorem interpret_of_lt
    (exceeded : options.maxOperators <
      (Interpreter.pageCourse (α := α) ⟨store, options⟩ page).operators) :
    (store.interpret options page : Recording α × Option ReadFault).2 =
        some (Interpreter.overBudget ⟨store, options⟩ (options.maxOperators + 1)) ∧
      ∃ done, done ++ [.operator] <+:
          (Interpreter.pageCourse (α := α) ⟨store, options⟩ page).steps ∧
        done.countP Step.isOperator = options.maxOperators ∧
        (store.interpret options page).1.SameShown
          (.ofSteps options.normalForm (done ++ [.operator])) := by
  have ended := interpret_sameEnd (α := α) store options page
  rw [← Nat.zero_add (Interpreter.pageCourse _ page).operators] at exceeded
  obtain ⟨done, isPrefix, full, failed⟩ :=
    Interpreter.walk_of_lt ⟨store, options⟩ _ (.start .identity) (Nat.zero_le _) exceeded
  rw [failed] at ended
  unfold Store.interpret
  generalize Interpreter.runPage (α := α) ⟨store, options⟩ page (.start .identity) = result at ended
  cases ended with
  | error same => exact ⟨rfl, done, isPrefix, (Nat.zero_add _).symm.trans full, same⟩

end Store

/-! ## Interpreters that find the same -/

namespace Interpreter

variable {first second : Interpreter} {resources : Dictionary → Dictionary → Prop}
  {found found' : Dictionary} {streamCourse streamCourse' : Dictionary → Bytes → Course α}

theorem fontNamed_mirrored (mirrors : Mirrors α first second resources)
    (related : resources found found') :
    (first.fontNamed found : FontBook α) = second.fontNamed found' := by
  funext name
  unfold fontNamed
  rw [mirrors.font found found' related name]

/-- External objects have the same course among related resources, if the streams in them do. -/
theorem objectCourse_mirrored (mirrors : Mirrors α first second resources)
    (same : ∀ own own' content, resources own own' →
      streamCourse own content = streamCourse' own' content)
    (related : resources found found') (name : String) :
    first.objectCourse streamCourse found name = second.objectCourse streamCourse' found' name := by
  unfold objectCourse
  rw [← mirrors.externalObject found found' related name]
  cases here : first.externalObject? found name with
  | none => rfl
  | some object =>
    obtain ⟨form, data⟩ := object
    have chosen := rel_getD (mirrors.formResources found found' related name form data here) related
    dsimp only
    unfold formCourse
    rw [mirrors.formMatrix found found' related name form data here]
    split
    · rw [Store.decoded_congr mirrors.decoders]
      cases second.store.decoded form data with
      | error fault => rfl
      | ok content =>
        dsimp only
        rw [same _ _ content chosen]
    · rfl

/-- Operators have the same course among related resources, if the streams in them do. -/
theorem operatorsCourse_mirrored (mirrors : Mirrors α first second resources)
    (same : ∀ own own' content, resources own own' →
      streamCourse own content = streamCourse' own' content)
    (related : resources found found') :
    first.operatorsCourse streamCourse found = second.operatorsCourse streamCourse' found' := by
  have actions : first.actionCourse streamCourse found =
      second.actionCourse streamCourse' found' := by
    funext action
    cases action with
    | change change => rfl
    | selectFont name size =>
      unfold actionCourse
      rw [fontNamed_mirrored mirrors related]
    | showText bytes =>
      unfold actionCourse
      rw [fontNamed_mirrored mirrors related]
    | invoke name => exact objectCourse_mirrored mirrors same related name
  funext operators
  unfold operatorsCourse operatorCourse
  rw [actions]

/-- **Interpreters that find the same have the same course.** -/
theorem streamCourse_mirrored (mirrors : Mirrors α first second resources) (levels : Nat)
    (related : resources found found') (content : Bytes) :
    (first.streamCourse levels found content : Course α) =
      second.streamCourse levels found' content := by
  induction levels generalizing found found' content with
  | zero =>
    unfold streamCourse
    rw [mirrors.options]
  | succ levels ih =>
    unfold streamCourse
    cases (operators content : Except SyntaxFault (List (Operator α))) with
    | error fault => rfl
    | ok operators =>
      exact congrFun (operatorsCourse_mirrored mirrors (fun _ _ content related =>
        ih related content) related) operators

end Interpreter

end PlacedText
