import PlacedText.Drawing.Recording
import PlacedText.Proofs.Effect.Invariant

/-! # Executing operators

Operators that stand for changes of the drawing state do nothing else (`runOperators_changes`), and
content that invokes no external object fails only by being too long (`runOperators_succeeds`).
-/

namespace PlacedText

open Effect

variable {α : Type} [Scalar α]

/-- What holds on whichever code is shown holds when all codes are. -/
theorem Recording.showCodes_keeps (holds : Recording α → Prop) {normalForm : NormalForm}
    {font : Font α}
    (each : ∀ recording code, holds recording → holds (recording.showCode normalForm font code))
    {recording : Recording α} (start : holds recording) (codes : List CharCode) :
    holds (recording.showCodes normalForm font codes) := by
  unfold showCodes
  induction codes generalizing recording with
  | nil => exact start
  | cons code codes ih => exact ih (each recording code start)

namespace Action

variable {operator : Operator α} {action : Action α}

/-- Whether an action neither saves nor restores the drawing state and draws no external object. -/
def IsPlain : Action α → Prop
  | change .save | change .restore | invoke _ => False
  | _ => True

omit [Scalar α] in
/-- Setting a parameter is plain. -/
theorem isPlain_of_mem_setFirst {parameter : TextParameter}
    (member : action ∈ setFirst parameter operator) : action.IsPlain := by
  unfold setFirst at member
  cases value : operator.number? 0 with
  | none => simp [value] at member
  | some number =>
    simp only [value, Option.map_some, Option.toList_some, List.mem_singleton] at member
    subst member
    trivial

omit [Scalar α] in
/-- Showing a string is plain. -/
theorem isPlain_of_mem_showLast (member : action ∈ showLast operator) : action.IsPlain := by
  unfold showLast at member
  cases shown : operator.operands.getLast? >>= Operand.string? with
  | none => simp [shown] at member
  | some bytes =>
    simp only [shown, Option.map_some, Option.toList_some, List.mem_singleton] at member
    subst member
    trivial

omit [Scalar α] in
/-- Moving to another line is plain, if what is done before it is. -/
theorem isPlain_of_mem_moveLine {before : α → List (Action α)}
    (plain : ∀ y, ∀ action ∈ before y, action.IsPlain)
    (member : action ∈ moveLine before operator) : action.IsPlain := by
  unfold moveLine at member
  split at member
  · next x y _ _ =>
    rcases List.mem_append.mp member with first | last
    · exact plain y action first
    · cases List.mem_singleton.mp last
      trivial
  · cases member

omit [Scalar α] in
/-- A change by a transform is plain for every operator if it is for every transform. -/
theorem isPlain_of_mem_withTransform {change : Transform α → Change α}
    (plain : ∀ t, (Action.change (change t)).IsPlain)
    (member : action ∈ withTransform change operator) : action.IsPlain := by
  unfold withTransform at member
  split at member
  · next t _ =>
    cases List.mem_singleton.mp member
    exact plain t
  · cases member

omit [Scalar α] in
/-- Showing strings with gaps between them is plain. -/
theorem isPlain_of_mem_showItems {items : List (Operand α)} (member : action ∈ showItems items) :
    action.IsPlain := by
  unfold showItems at member
  obtain ⟨item, _, shown⟩ := List.mem_filterMap.mp member
  cases item with
  | string bytes =>
    cases shown
    trivial
  | number amount =>
    cases shown
    trivial
  | _ => cases shown

theorem ofOperator_save (named : operator.name = "q") :
    ofOperator operator = [change .save] := by
  cases operator
  cases named
  rfl

theorem ofOperator_restore (named : operator.name = "Q") :
    ofOperator operator = [change .restore] := by
  cases operator
  cases named
  rfl

theorem ofOperator_draw (named : operator.name = "Do") :
    ofOperator operator =
      ((operator.operands.head? >>= Operand.name?).map invoke).toList := by
  cases operator
  cases named
  rfl

/-- Only `q` saves the drawing state, only `Q` restores it, and only `Do` draws external objects. By
the names of operators, each of which comes to actions of one family. -/
theorem isPlain_of_mem (member : action ∈ ofOperator operator) (notSave : operator.name ≠ "q")
    (notRestore : operator.name ≠ "Q") (notInvoke : operator.name ≠ "Do") : action.IsPlain := by
  unfold ofOperator at member
  split at member
  case h_1 save => exact absurd save notSave
  case h_2 restore => exact absurd restore notRestore
  case h_21 draws => exact absurd draws notInvoke
  case h_3 =>
    refine isPlain_of_mem_withTransform (fun t => ?_) member
    trivial
  case h_7 =>
    refine isPlain_of_mem_withTransform (fun t => ?_) member
    trivial
  case h_6 =>
    split at member
    · cases List.mem_singleton.mp member
      trivial
    · cases member
  case h_8 => exact isPlain_of_mem_moveLine (fun _ _ none => absurd none List.not_mem_nil) member
  case h_9 =>
    refine isPlain_of_mem_moveLine (fun _ _ leading => ?_) member
    cases List.mem_singleton.mp leading
    trivial
  case h_16 =>
    split at member
    · cases List.mem_singleton.mp member
      trivial
    · cases member
  case h_17 => exact isPlain_of_mem_showLast member
  case h_18 =>
    rcases List.mem_cons.mp member with rfl | shown
    · trivial
    · exact isPlain_of_mem_showLast shown
  case h_19 =>
    rcases List.mem_append.mp member with spacing | shown
    · split at spacing
      · rcases List.mem_pair.mp spacing with rfl | rfl
        · trivial
        · trivial
      · cases spacing
    · rcases List.mem_cons.mp shown with rfl | shown
      · trivial
      · exact isPlain_of_mem_showLast shown
  case h_20 =>
    split at member
    · exact isPlain_of_mem_showItems member
    · cases member
  all_goals first
    | exact isPlain_of_mem_setFirst member
    | (cases List.mem_singleton.mp member; trivial)
    | cases member

/-- Only `Do` draws external objects. -/
theorem name_of_invoke_mem {name : String} (member : invoke name ∈ ofOperator operator) :
    operator.name = "Do" := by
  by_contra notInvoke
  refine isPlain_of_mem member ?_ ?_ notInvoke
  · intro save
    rw [ofOperator_save save] at member
    cases List.mem_singleton.mp member
  · intro restore
    rw [ofOperator_restore restore] at member
    cases List.mem_singleton.mp member

end Action

namespace Interpreter

variable {interpreter : Interpreter} {runStream : Dictionary → Bytes → Interpretation α Unit}
  {found : Dictionary} {index : Nat} {fonts fonts' : FontTable α} {operators : List (Operator α)}
  {start stop : Recording α}

omit [Scalar α] in
/-- An operator that is charged within the budget is counted, and nothing else changes. -/
theorem charge_eq_ok (charged : interpreter.charge start = .ok () stop) :
    stop = { start with executed := start.executed + 1 } := by
  unfold charge at charged
  obtain ⟨_, first, modified, checked⟩ := bind_eq_ok charged
  cases modified
  rw [get_bind] at checked
  split at checked
  · cases checked
  · cases checked
    rfl

omit [Scalar α] in
/-- Below the limit one more operator is charged. -/
theorem charge_of_lt (bounded : start.executed < interpreter.options.maxOperators) :
    interpreter.charge start = .ok () { start with executed := start.executed + 1 } := by
  have counted : (modify fun recording => { recording with executed := recording.executed + 1 } :
      Interpretation α Unit) start = .ok () { start with executed := start.executed + 1 } := rfl
  unfold charge
  rw [bind_of_ok counted, get_bind]
  dsimp only
  rw [if_neg (by omega)]
  rfl

omit [Scalar α] in
/-- At the limit the charge is the fault of one operator too many, which is counted all the same. -/
theorem charge_of_le (exceeded : interpreter.options.maxOperators ≤ start.executed) :
    interpreter.charge start = .error (interpreter.overBudget (start.executed + 1))
      { start with executed := start.executed + 1 } := by
  have counted : (modify fun recording => { recording with executed := recording.executed + 1 } :
      Interpretation α Unit) start = .ok () { start with executed := start.executed + 1 } := rfl
  unfold charge
  rw [bind_of_ok counted, get_bind]
  dsimp only
  rw [if_pos (by omega)]
  rfl

/-- An operator is executed if it is not one too many. -/
theorem runOperators_cons {operator : Operator α} {operators : List (Operator α)}
    (bounded : start.executed < interpreter.options.maxOperators)
    (performed : (Action.ofOperator operator).foldlM
      (interpreter.perform runStream found index) fonts
      { start with executed := start.executed + 1 } = .ok fonts' stop) :
    interpreter.runOperators runStream found index fonts (operator :: operators) start =
      interpreter.runOperators runStream found (index + 1) fonts' operators stop := by
  have executed : interpreter.execute runStream found index fonts operator start =
      .ok fonts' stop := by
    unfold execute
    rw [bind_of_ok (charge_of_lt bounded)]
    exact performed
  exact bind_of_ok executed

/-! ## Changes of the drawing state -/

/-- Actions that only change the drawing state apply these changes one by one. -/
theorem foldlM_perform_changes (interpreter : Interpreter)
    (runStream : Dictionary → Bytes → Interpretation α Unit) (found : Dictionary) (index : Nat)
    (fonts : FontTable α) (changes : List (Change α)) (recording : Recording α) :
    (changes.map Action.change).foldlM (interpreter.perform runStream found index) fonts recording =
      .ok fonts
        { recording with drawing := changes.foldl DrawingState.apply recording.drawing } := by
  induction changes generalizing recording with
  | nil => rfl
  | cons change changes ih =>
    rw [List.map_cons, List.foldlM_cons]
    have performed : interpreter.perform runStream found index fonts (.change change) recording =
        .ok fonts (recording.change change) := rfl
    rw [bind_of_ok performed, ih]
    rfl

/-- An operator that stands for changes of the drawing state shows nothing and warns of nothing, and
the operators behind it are executed in the state that it leads to. -/
theorem runOperators_changes {operator : Operator α} {changes : List (Change α)}
    (actions : Action.ofOperator operator = changes.map .change)
    (ended : interpreter.runOperators runStream found index fonts (operator :: operators) start =
      .ok () stop) :
    interpreter.runOperators runStream found (index + 1) fonts operators
      { start with
        drawing := changes.foldl DrawingState.apply start.drawing
        executed := start.executed + 1 } = .ok () stop := by
  unfold runOperators at ended
  obtain ⟨fonts', between, executed, rest⟩ := bind_eq_ok ended
  unfold execute at executed
  obtain ⟨_, counted, charged, performed⟩ := bind_eq_ok executed
  rw [actions, foldlM_perform_changes, charge_eq_ok charged] at performed
  cases performed
  exact rest

/-- Unless it is one too many, an operator that stands for changes of the drawing state makes them,
and the operators behind it are executed. -/
theorem runOperators_changes_or (interpreter : Interpreter)
    (runStream : Dictionary → Bytes → Interpretation α Unit) (found : Dictionary) (index : Nat)
    (fonts : FontTable α) {operator : Operator α} {changes : List (Change α)}
    (actions : Action.ofOperator operator = changes.map .change) (operators : List (Operator α))
    (start : Recording α) :
    (∃ stop, interpreter.runOperators runStream found index fonts (operator :: operators) start =
      .error (interpreter.overBudget (start.executed + 1)) stop) ∨
    interpreter.runOperators runStream found index fonts (operator :: operators) start =
      interpreter.runOperators runStream found (index + 1) fonts operators
        { start with
          drawing := changes.foldl DrawingState.apply start.drawing
          executed := start.executed + 1 } := by
  rcases Nat.lt_or_ge start.executed interpreter.options.maxOperators with bounded | exceeded
  · refine Or.inr (runOperators_cons bounded ?_)
    rw [actions]
    exact foldlM_perform_changes interpreter runStream found index fonts changes _
  · exact Or.inl ⟨_, bind_of_error (bind_of_error (charge_of_le exceeded))⟩

/-! ## Content without external objects -/

omit [Scalar α] in
/-- A warning is recorded behind those before it, or not at all. -/
theorem exists_warn (interpreter : Interpreter) (warning : Warning) :
    ∃ raised : Array Warning, ∀ start : Recording α, interpreter.warn warning start =
      .ok () { start with warnings := start.warnings ++ raised } := by
  unfold warn
  cases interpreter.options.collectWarnings with
  | true => exact ⟨#[warning], fun _ => rfl⟩
  | false => exact ⟨#[], fun _ => rfl⟩

/-- Looking a font up comes to one, at the worst to the stand-in, and executes no operator. -/
theorem findFont_succeeds (interpreter : Interpreter) (found : Dictionary) (index : Nat)
    (fonts : FontTable α) (name : String) (recording : Recording α) :
    ∃ used stop, interpreter.findFont found index fonts name recording = .ok used stop ∧
      stop.executed = recording.executed := by
  unfold findFont
  cases fonts[name]? with
  | some font => exact ⟨_, recording, rfl, rfl⟩
  | none =>
    cases interpreter.fontDictionary? found name with
    | some dictionary => exact ⟨_, recording, rfl, rfl⟩
    | none =>
      obtain ⟨raised, warned⟩ := exists_warn interpreter
        ((Warning.of .missingFont "font not found in page resources").atOperator index name)
      exact ⟨_, _, bind_of_ok (warned recording), rfl⟩

theorem useFont_succeeds (interpreter : Interpreter) (found : Dictionary) (index : Nat)
    (fonts : FontTable α) (name : String) (recording : Recording α) :
    ∃ used stop, interpreter.useFont found index fonts name recording = .ok used stop ∧
      stop.executed = recording.executed := by
  obtain ⟨used, between, ended, counted⟩ :=
    findFont_succeeds interpreter found index fonts name recording
  exact ⟨used, between.noting used.1.abort?, bind_of_ok ended, counted⟩

theorem showCodes_executed (normalForm : NormalForm) (font : Font α) (recording : Recording α)
    (codes : List CharCode) :
    (recording.showCodes normalForm font codes).executed = recording.executed :=
  Recording.showCodes_keeps (fun later => later.executed = recording.executed)
    (fun _ _ same => same) rfl codes

/-- To show a string is to look up the font that is selected, and to show its codes with it. -/
theorem perform_showText {name : String} {font : Font α}
    (selected : start.drawing.params.font? = some name)
    (used : interpreter.useFont found index fonts name start = .ok (font, fonts') stop)
    (bytes : Bytes) :
    interpreter.perform runStream found index fonts (.showText bytes) start =
      .ok fonts' (stop.showCodes interpreter.options.normalForm font (font.codes bytes)) := by
  unfold perform
  dsimp only
  rw [get_bind, selected]
  dsimp only
  rw [bind_of_ok used]
  rfl

/-- Every action but that of an external object comes to an end and counts as no operator. A string
without a selected font is not shown, and a font that is not found has its stand-in. -/
theorem perform_succeeds (interpreter : Interpreter)
    (runStream : Dictionary → Bytes → Interpretation α Unit) (found : Dictionary) (index : Nat)
    (fonts : FontTable α) {action : Action α} (plain : ∀ name, action ≠ .invoke name)
    (recording : Recording α) :
    ∃ fonts' stop, interpreter.perform runStream found index fonts action recording =
      .ok fonts' stop ∧ stop.executed = recording.executed := by
  cases action with
  | change change => exact ⟨fonts, recording.change change, rfl, rfl⟩
  | selectFont name size =>
    obtain ⟨used, stop, ended, counted⟩ := useFont_succeeds interpreter found index fonts name
      { recording with drawing := recording.drawing.selectFont name size }
    refine ⟨used.2, stop, ?_, counted⟩
    change (interpreter.useFont found index fonts name >>= fun used => pure used.2) _ = _
    rw [bind_of_ok ended]
    rfl
  | showText bytes =>
    cases selected : recording.drawing.params.font? with
    | none =>
      refine ⟨fonts, recording, ?_, rfl⟩
      unfold perform
      dsimp only
      rw [get_bind, selected]
      rfl
    | some name =>
      obtain ⟨used, stop, ended, counted⟩ :=
        useFont_succeeds interpreter found index fonts name recording
      refine ⟨used.2, _, perform_showText selected ended bytes, ?_⟩
      exact (showCodes_executed _ _ _ _).trans counted
  | invoke name => exact absurd rfl (plain name)

/-- Actions that draw no external object all succeed and execute no operator. -/
theorem foldlM_perform_succeeds (interpreter : Interpreter)
    (runStream : Dictionary → Bytes → Interpretation α Unit) (found : Dictionary) (index : Nat)
    (fonts : FontTable α) {actions : List (Action α)}
    (plain : ∀ action ∈ actions, ∀ name, action ≠ .invoke name) (recording : Recording α) :
    ∃ fonts' stop, actions.foldlM (interpreter.perform runStream found index) fonts recording =
      .ok fonts' stop ∧ stop.executed = recording.executed := by
  induction actions generalizing fonts recording with
  | nil => exact ⟨fonts, recording, rfl, rfl⟩
  | cons action actions ih =>
    obtain ⟨used, between, performed, counted⟩ := perform_succeeds interpreter runStream found index
      fonts (plain action (.head _)) recording
    obtain ⟨fonts', stop, ended, same⟩ :=
      ih used (fun action member => plain action (.tail _ member)) between
    refine ⟨fonts', stop, ?_, same.trans counted⟩
    rw [List.foldlM_cons, bind_of_ok performed, ended]

/-- Content that invokes no external object is drawn to its end, if it is not too long. -/
theorem runOperators_succeeds (interpreter : Interpreter)
    (runStream : Dictionary → Bytes → Interpretation α Unit) (found : Dictionary) (index : Nat)
    (fonts : FontTable α) (operators : List (Operator α)) (start : Recording α)
    (plain : ∀ operator ∈ operators, operator.name ≠ "Do")
    (bounded : start.executed + operators.length ≤ interpreter.options.maxOperators) :
    ∃ stop, interpreter.runOperators runStream found index fonts operators start = .ok () stop := by
  induction operators generalizing index fonts start with
  | nil => exact ⟨start, rfl⟩
  | cons operator operators ih =>
    rw [List.length_cons] at bounded
    have drawsNone : ∀ action ∈ Action.ofOperator operator, ∀ name, action ≠ .invoke name := by
      rintro _ member name rfl
      exact plain operator (.head _) (Action.name_of_invoke_mem member)
    obtain ⟨used, between, performed, counted⟩ := foldlM_perform_succeeds interpreter runStream
      found index fonts drawsNone { start with executed := start.executed + 1 }
    dsimp only at counted
    obtain ⟨stop, ended⟩ := ih (index + 1) used between
      (fun operator member => plain operator (.tail _ member)) (by omega)
    exact ⟨stop, (runOperators_cons (by omega) performed).trans ended⟩

end Interpreter

end PlacedText
