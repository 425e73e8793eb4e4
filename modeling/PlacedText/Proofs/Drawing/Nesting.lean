import PlacedText.Proofs.Drawing.Execution
import PlacedText.Proofs.Scalar.Real
import Mathlib

/-! # What a form leaves behind

A form shares the saved drawing states of the content that invokes it. Between the state that is
saved before it and restored after it, its operators save and restore states of their own. What is
left of them decides what the invoking content goes on with: it finds its own state again if the
form, and every form inside it, restores exactly what it saves (`Interpreter.invoke_restores`).
-/

namespace PlacedText

open Effect

variable {α : Type} [Scalar α]

/-- The number of drawing states that operators leave saved, begun with a number of them; none if
they restore a state that is not among them. -/
def Operator.savedAfter? : Nat → List (Operator α) → Option Nat
  | saved, [] => some saved
  | saved, operator :: operators =>
    if operator.name = "q" then savedAfter? (saved + 1) operators
    else if operator.name = "Q" then
      match saved with
      | 0 => none
      | saved + 1 => savedAfter? saved operators
    else savedAfter? saved operators

namespace Interpreter

/-- Drawing an external object leaves a number of states saved: none if it is not a form, and those
that the operators of a form save and do not restore, where each form inside it restores all. -/
inductive Leaves (α : Type) [Scalar α] (interpreter : Interpreter) :
    Dictionary → String → Nat → Prop
  | nothing {resources : Dictionary} {name : String}
      (notForm : ∀ entries data, interpreter.externalObject? resources name = some (entries, data) →
        (entries.find? "Subtype" >>= Object.name?) ≠ some (Text.Utf8.encode "Form")) :
      Leaves α interpreter resources name 0
  | form {resources entries : Dictionary} {name : String} {data content : Bytes} {saved : Nat}
      {operators : List (Operator α)}
      (found : interpreter.externalObject? resources name = some (entries, data))
      (isForm : (entries.find? "Subtype" >>= Object.name?) = some (Text.Utf8.encode "Form"))
      (decoded : interpreter.store.decoded entries data = .ok content)
      (read : Interpreter.operators content = .ok operators)
      (counted : Operator.savedAfter? 0 operators = some saved)
      (inside : ∀ operator ∈ operators, ∀ inner, Action.invoke inner ∈ Action.ofOperator operator →
        Leaves α interpreter ((interpreter.store.dictionary? entries "Resources").getD resources)
          inner 0) :
      Leaves α interpreter resources name saved

variable {interpreter : Interpreter} {runStream : Dictionary → Bytes → Interpretation α Unit}
  {found : Dictionary} {index : Nat} {fonts : FontTable α}

/-! ## Plain actions -/

omit [Scalar α] in
/-- A warning leaves the drawing state. -/
theorem warn_keeps_drawing {drawing : DrawingState α} (warning : Warning) :
    Keeps (fun recording => recording.drawing = drawing)
      (interpreter.warn warning : Interpretation α Unit) := by
  apply keeps_modify
  intro recording held
  split
  · exact held
  · exact held

/-- Looking up a font leaves the drawing state. -/
theorem findFont_keeps_drawing {drawing : DrawingState α} (name : String) :
    Keeps (fun recording => recording.drawing = drawing)
      (interpreter.findFont found index fonts name) := by
  unfold findFont
  split
  · exact keeps_pure _
  · split
    · exact keeps_pure _
    · exact (warn_keeps_drawing _).bind fun _ => keeps_pure _

theorem useFont_keeps_drawing {drawing : DrawingState α} (name : String) :
    Keeps (fun recording => recording.drawing = drawing)
      (interpreter.useFont found index fonts name) := by
  refine (findFont_keeps_drawing name).bind fun _ => ?_
  refine Keeps.bind (keeps_modify ?_) fun _ => keeps_pure _
  exact fun _ held => held

theorem showCodes_saved (normalForm : NormalForm) (font : Font α) (recording : Recording α)
    (codes : List CharCode) :
    (recording.showCodes normalForm font codes).drawing.saved = recording.drawing.saved :=
  Recording.showCodes_keeps (fun later => later.drawing.saved = recording.drawing.saved)
    (fun _ _ same => same) rfl codes

/-- A plain action leaves the saved states as they are. Fonts are looked up and codes shown without
regard to these. -/
theorem perform_saved {action : Action α} (plain : action.IsPlain) {start stop : Recording α}
    {fonts' : FontTable α}
    (ended : interpreter.perform runStream found index fonts action start = .ok fonts' stop) :
    stop.drawing.saved = start.drawing.saved := by
  cases action with
  | change change =>
    cases ended
    cases change with
    | save => exact plain.elim
    | restore => exact plain.elim
    | _ => rfl
  | selectFont name size =>
    unfold perform at ended
    obtain ⟨_, selected, modified, used⟩ := bind_eq_ok ended
    cases modified
    obtain ⟨_, between, looked, rest⟩ := bind_eq_ok used
    cases rest
    rw [(useFont_keeps_drawing name).ok rfl looked]
    rfl
  | showText bytes =>
    unfold perform at ended
    dsimp only at ended
    rw [get_bind] at ended
    cases selected : start.drawing.params.font? with
    | none =>
      rw [selected] at ended
      cases ended
      rfl
    | some name =>
      rw [selected] at ended
      obtain ⟨used, between, looked, rest⟩ := bind_eq_ok ended
      cases rest
      rw [showCodes_saved, (useFont_keeps_drawing name).ok rfl looked]
  | invoke name => exact plain.elim

/-- Plain actions leave what was saved. -/
theorem foldlM_perform_saved {actions : List (Action α)}
    (plain : ∀ action ∈ actions, action.IsPlain) {start stop : Recording α} {fonts' : FontTable α}
    (ended : actions.foldlM (interpreter.perform runStream found index) fonts start =
      .ok fonts' stop) : stop.drawing.saved = start.drawing.saved := by
  induction actions generalizing fonts start with
  | nil =>
    cases ended
    rfl
  | cons action actions ih =>
    rw [List.foldlM_cons] at ended
    obtain ⟨used, between, performed, rest⟩ := bind_eq_ok ended
    rw [ih (fun action member => plain action (.tail _ member)) rest,
      perform_saved (plain action (.head _)) performed]

/-! ## Operators -/

/-- What drawing an external object leaves saved, if it leaves nothing. -/
def KeepsSaved (interpreter : Interpreter)
    (runStream : Dictionary → Bytes → Interpretation α Unit) (found : Dictionary)
    (operator : Operator α) : Prop :=
  ∀ name, Action.invoke name ∈ Action.ofOperator operator → ∀ start stop,
    interpreter.invoke runStream found name start = .ok () stop →
      stop.drawing.saved = start.drawing.saved

/-- An operator saves or restores one state, as it is counted. The saved states are split into those
that were saved since and those that were there before, and a restore that is counted finds one of
the former. -/
theorem execute_saved {operator : Operator α} {operators : List (Operator α)}
    (invoked : interpreter.KeepsSaved runStream found operator) {start stop : Recording α}
    {fonts' : FontTable α}
    (ended : interpreter.execute runStream found index fonts operator start = .ok fonts' stop)
    {top base : List (Transform α × TextParams α)} {saved : Nat}
    (counted : Operator.savedAfter? top.length (operator :: operators) = some saved)
    (stacked : start.drawing.saved = top ++ base) :
    ∃ top', stop.drawing.saved = top' ++ base ∧
      Operator.savedAfter? top'.length operators = some saved := by
  unfold execute at ended
  obtain ⟨_, between, charged, performed⟩ := bind_eq_ok ended
  cases charge_eq_ok charged
  unfold Operator.savedAfter? at counted
  by_cases save : operator.name = "q"
  · rw [Action.ofOperator_save save] at performed
    cases performed
    rw [if_pos save] at counted
    exact ⟨(start.drawing.ctm, start.drawing.params) :: top, congrArg _ stacked, counted⟩
  by_cases restore : operator.name = "Q"
  · rw [Action.ofOperator_restore restore] at performed
    cases performed
    rw [if_neg save, if_pos restore] at counted
    cases top with
    | nil => cases counted
    | cons entry top =>
      refine ⟨top, ?_, counted⟩
      change start.drawing.restore.saved = _
      unfold DrawingState.restore
      rw [stacked]
      rfl
  rw [if_neg save, if_neg restore] at counted
  refine ⟨top, ?_, counted⟩
  rw [← stacked]
  by_cases draws : operator.name = "Do"
  · have actions := Action.ofOperator_draw draws
    cases drawn : operator.operands.head? >>= Operand.name? with
    | none =>
      rw [actions, drawn] at performed
      cases performed
      rfl
    | some name =>
      rw [drawn, Option.map_some, Option.toList_some] at actions
      rw [actions, List.foldlM_cons] at performed
      obtain ⟨_, _, called, rest⟩ := bind_eq_ok performed
      cases rest
      obtain ⟨_, _, called, rest⟩ := bind_eq_ok called
      cases rest
      have kept := invoked name (by rw [actions]; exact .head _) _ _ called
      exact kept
  · have kept := foldlM_perform_saved
      (fun action member => Action.isPlain_of_mem member save restore draws) performed
    exact kept

/-- Operators leave what was saved before them below what they save. -/
theorem runOperators_saved {operators : List (Operator α)}
    (invoked : ∀ operator ∈ operators, interpreter.KeepsSaved runStream found operator)
    {start stop : Recording α}
    (ended : interpreter.runOperators runStream found index fonts operators start = .ok () stop)
    {top base : List (Transform α × TextParams α)} {saved : Nat}
    (counted : Operator.savedAfter? top.length operators = some saved)
    (stacked : start.drawing.saved = top ++ base) :
    ∃ top', stop.drawing.saved = top' ++ base ∧ top'.length = saved := by
  induction operators generalizing index fonts start top with
  | nil =>
    cases ended
    cases counted
    exact ⟨top, stacked, rfl⟩
  | cons operator operators ih =>
    unfold runOperators at ended
    obtain ⟨used, between, executed, rest⟩ := bind_eq_ok ended
    obtain ⟨top', stacked', counted'⟩ :=
      execute_saved (invoked operator (.head _)) executed counted stacked
    exact ih (fun operator member => invoked operator (.tail _ member)) rest counted' stacked'

/-! ## Forms -/

/-- Running a form in a state that is saved before it: what its content leaves saved is above that
state when the last of it is restored. -/
theorem runForm_saved {entries : Dictionary} {data content : Bytes} {start stop : Recording α}
    (decoded : interpreter.store.decoded entries data = .ok content)
    (ended : interpreter.runForm runStream found entries data start = .ok () stop)
    {saved : Nat}
    (ran : ∀ before after base,
      runStream ((interpreter.store.dictionary? entries "Resources").getD found) content before =
        .ok () after → before.drawing.saved = base →
          ∃ top, after.drawing.saved = top ++ base ∧ top.length = saved) :
    stop.drawing.saved.length = start.drawing.saved.length + saved ∧
      (saved = 0 → stop.drawing.ctm = start.drawing.ctm ∧
        stop.drawing.params = start.drawing.params ∧
        stop.drawing.saved = start.drawing.saved) := by
  unfold runForm at ended
  rw [decoded] at ended
  dsimp only at ended
  obtain ⟨_, pushed, saves, rest⟩ := bind_eq_ok ended
  cases saves
  -- the matrix of the form changes nothing but the current transform
  obtain ⟨placed, stacked, rest⟩ : ∃ placed : Recording α,
      placed.drawing.saved = (start.drawing.ctm, start.drawing.params) :: start.drawing.saved ∧
        (runStream ((interpreter.store.dictionary? entries "Resources").getD found) content >>=
          fun _ => modify fun recording => recording.change .restore) placed = .ok () stop := by
    cases matrix : (interpreter.formMatrix? entries : Option (Transform α)) with
    | none =>
      rw [matrix] at rest
      exact ⟨_, rfl, rest⟩
    | some t =>
      rw [matrix] at rest
      obtain ⟨_, placed, places, rest⟩ := bind_eq_ok rest
      cases places
      exact ⟨_, rfl, rest⟩
  obtain ⟨_, drawn, draws, restores⟩ := bind_eq_ok rest
  cases restores
  obtain ⟨top, above, counted⟩ := ran placed drawn _ draws stacked
  change (drawn.drawing.restore).saved.length = _ ∧
    (_ → (drawn.drawing.restore).ctm = _ ∧ (drawn.drawing.restore).params = _ ∧
      (drawn.drawing.restore).saved = _)
  unfold DrawingState.restore
  rw [above]
  cases top with
  | nil =>
    cases counted
    exact ⟨rfl, fun _ => ⟨rfl, rfl, rfl⟩⟩
  | cons entry top =>
    subst counted
    refine ⟨?_, fun none => nomatch none⟩
    rw [List.cons_append]
    simp only [List.length_append, List.length_cons]
    omega

variable {resources : Dictionary} {name : String}

/-- What an external object leaves saved is above what was saved before it, and the state that it
was drawn in is found again if it leaves nothing. -/
theorem invoke_saved {saved levels : Nat} (leaves : interpreter.Leaves α resources name saved)
    {start stop : Recording α}
    (ended : interpreter.invoke (interpreter.runStream levels) resources name start =
      .ok () stop) :
    stop.drawing.saved.length = start.drawing.saved.length + saved ∧
      (saved = 0 → stop.drawing.ctm = start.drawing.ctm ∧
        stop.drawing.params = start.drawing.params ∧
        stop.drawing.saved = start.drawing.saved) := by
  induction leaves generalizing levels start stop with
  | @nothing resources name notForm =>
    have same : stop.drawing = start.drawing := by
      unfold invoke at ended
      cases object : interpreter.externalObject? resources name with
      | none =>
        rw [object] at ended
        exact (warn_keeps_drawing _).ok rfl ended
      | some form =>
        obtain ⟨entries, data⟩ := form
        rw [object] at ended
        dsimp only at ended
        rw [if_neg (notForm entries data object)] at ended
        cases ended
        rfl
    rw [same]
    exact ⟨rfl, fun _ => ⟨rfl, rfl, rfl⟩⟩
  | form found isForm decoded read counted inside ih =>
    unfold invoke at ended
    rw [found] at ended
    dsimp only at ended
    rw [if_pos isForm] at ended
    refine runForm_saved decoded ended fun before after base ran stacked => ?_
    cases levels with
    | zero => cases ran
    | succ levels =>
      unfold Interpreter.runStream at ran
      rw [read] at ran
      have below : before.drawing.saved = [] ++ base := stacked
      exact runOperators_saved (fun operator member inner drawn start stop called =>
        ((ih operator member inner drawn called).2 rfl).2.2) ran (by exact counted) below

/-- **What a form leaves behind.** Drawing an external object that restores no state which it did
not save leaves the current transform, the text parameters and the saved states as it found them if
and only if it restores every state that it saves. -/
theorem invoke_restores {saved levels : Nat} (leaves : interpreter.Leaves α resources name saved)
    {start stop : Recording α}
    (ended : interpreter.invoke (interpreter.runStream levels) resources name start =
      .ok () stop) :
    (stop.drawing.ctm = start.drawing.ctm ∧ stop.drawing.params = start.drawing.params ∧
      stop.drawing.saved = start.drawing.saved) ↔ saved = 0 := by
  obtain ⟨counted, restored⟩ := invoke_saved leaves ended
  refine ⟨fun ⟨_, _, same⟩ => ?_, restored⟩
  rw [same] at counted
  omega

/-- A form without external objects is drawn to its end, if it is not too long. -/
theorem invoke_succeeds {entries : Dictionary} {data content : Bytes}
    {operators : List (Operator α)}
    (found : interpreter.externalObject? resources name = some (entries, data))
    (isForm : (entries.find? "Subtype" >>= Object.name?) = some (Text.Utf8.encode "Form"))
    (decoded : interpreter.store.decoded entries data = .ok content)
    (read : Interpreter.operators content = .ok operators)
    (plain : ∀ operator ∈ operators, operator.name ≠ "Do") {start : Recording α}
    (bounded : start.executed + operators.length ≤ interpreter.options.maxOperators)
    (levels : Nat) :
    ∃ stop, interpreter.invoke (interpreter.runStream (levels + 1)) resources name start =
      .ok () stop := by
  have drawn (placed : Recording α) (counted : placed.executed = start.executed) :
      ∃ stop, (interpreter.runStream (levels + 1)
        ((interpreter.store.dictionary? entries "Resources").getD resources) content >>=
          fun _ => modify fun recording => recording.change .restore) placed = .ok () stop := by
    obtain ⟨stop, ran⟩ := runOperators_succeeds interpreter (interpreter.runStream levels)
      ((interpreter.store.dictionary? entries "Resources").getD resources) 0 ∅ operators placed
      plain (by omega)
    refine ⟨stop.change .restore, ?_⟩
    unfold Interpreter.runStream
    rw [read]
    dsimp only
    rw [bind_of_ok ran]
    rfl
  unfold invoke
  rw [found]
  dsimp only
  rw [if_pos isForm]
  unfold runForm
  rw [decoded]
  dsimp only
  cases (interpreter.formMatrix? entries : Option (Transform α)) with
  | none => exact drawn (start.change .save) rfl
  | some t => exact drawn ((start.change .save).change (.concat t)) rfl

/-- A form that saves a state without restoring it, and one that restores it. -/
theorem invoke_restores_of_forms :
    let form (text : String) : Object :=
      .stream [(Text.Utf8.encode "Subtype", .name (Text.Utf8.encode "Form"))]
        (Text.Utf8.encode text)
    let resources : Dictionary := [(Text.Utf8.encode "XObject", .dictionary
      [(Text.Utf8.encode "Left", form "q BT"), (Text.Utf8.encode "Kept", form "q BT Q")])]
    let interpreter : Interpreter := ⟨.empty [], .standard⟩
    let start : Recording ℝ := .start .identity
    (∃ stop, interpreter.invoke (interpreter.runStream 1) resources "Left" start = .ok () stop ∧
        ¬(stop.drawing.ctm = start.drawing.ctm ∧ stop.drawing.params = start.drawing.params ∧
          stop.drawing.saved = start.drawing.saved)) ∧
      ∃ stop, interpreter.invoke (interpreter.runStream 1) resources "Kept" start = .ok () stop ∧
        stop.drawing.ctm = start.drawing.ctm ∧ stop.drawing.params = start.drawing.params ∧
          stop.drawing.saved = start.drawing.saved := by
  intro form resources interpreter start
  have readLeft : Interpreter.operators (Text.Utf8.encode "q BT") =
      .ok [(⟨"q", []⟩ : Operator ℝ), ⟨"BT", []⟩] := by
    have read : Content.operators (Text.Utf8.encode "q BT") = .ok [⟨"q", []⟩, ⟨"BT", []⟩] := by
      unfold Content.operators
      cbv
    unfold Interpreter.operators
    rw [read]
    rfl
  have readKept : Interpreter.operators (Text.Utf8.encode "q BT Q") =
      .ok [(⟨"q", []⟩ : Operator ℝ), ⟨"BT", []⟩, ⟨"Q", []⟩] := by
    have read : Content.operators (Text.Utf8.encode "q BT Q") =
        .ok [⟨"q", []⟩, ⟨"BT", []⟩, ⟨"Q", []⟩] := by
      unfold Content.operators
      cbv
    unfold Interpreter.operators
    rw [read]
    rfl
  have drawn (name : String) (saved : Nat) {data : Bytes} {operators : List (Operator ℝ)}
      (found : interpreter.externalObject? resources name =
        some ([(Text.Utf8.encode "Subtype", .name (Text.Utf8.encode "Form"))], data))
      (read : Interpreter.operators data = .ok operators)
      (plain : ∀ operator ∈ operators, operator.name ≠ "Do") (short : operators.length ≤ 3)
      (counted : Operator.savedAfter? 0 operators = some saved) :
      ∃ stop, interpreter.invoke (interpreter.runStream 1) resources name start = .ok () stop ∧
        ((stop.drawing.ctm = start.drawing.ctm ∧ stop.drawing.params = start.drawing.params ∧
          stop.drawing.saved = start.drawing.saved) ↔ saved = 0) := by
    have bounded : start.executed + operators.length ≤ interpreter.options.maxOperators :=
      (Nat.zero_add _).trans_le (short.trans (by decide))
    obtain ⟨stop, ended⟩ := invoke_succeeds found rfl rfl read plain bounded 0
    have leaves : interpreter.Leaves ℝ resources name saved :=
      .form found rfl rfl read counted fun operator member _ inner =>
        absurd (Action.name_of_invoke_mem inner) (plain operator member)
    exact ⟨stop, ended, invoke_restores leaves ended⟩
  constructor
  · obtain ⟨stop, ended, restored⟩ :=
      drawn "Left" 1 rfl readLeft (by simp) (by simp) (by simp [Operator.savedAfter?])
    exact ⟨stop, ended, fun same => one_ne_zero (restored.mp same)⟩
  · obtain ⟨stop, ended, restored⟩ :=
      drawn "Kept" 0 rfl readKept (by simp) (by simp) (by simp [Operator.savedAfter?])
    exact ⟨stop, ended, restored.mpr rfl⟩

end Interpreter

end PlacedText
