import PlacedText.Proofs.Drawing.Execution

/-! # What the interpretation of a page warns of

Whatever every operator keeps is kept by a whole content stream with its forms
(`Interpreter.keeps_runStream`). The warnings that are recorded on the way are about missing fonts
and objects only (`Store.interpret_warnings`).
-/

namespace PlacedText

open Effect

variable {α : Type} [Scalar α]

namespace Interpreter

variable {interpreter : Interpreter} {holds : Recording α → Prop}
  {runStream : Dictionary → Bytes → Interpretation α Unit} {resources : Dictionary}

theorem keeps_runOperators
    (kept : ∀ index fonts operator,
      Keeps holds (interpreter.execute runStream resources index fonts operator))
    (index : Nat) (fonts : FontTable α) (operators : List (Operator α)) :
    Keeps holds (interpreter.runOperators runStream resources index fonts operators) := by
  induction operators generalizing index fonts with
  | nil => exact keeps_pure ()
  | cons operator operators ih =>
    exact (kept index fonts operator).bind fun fonts => ih (index + 1) fonts

/-- What every operator keeps, provided that the forms it invokes do, is kept by a content
stream. -/
theorem keeps_runStream
    (kept : ∀ runStream : Dictionary → Bytes → Interpretation α Unit,
      (∀ resources content, Keeps holds (runStream resources content)) →
        ∀ resources index fonts operator,
          Keeps holds (interpreter.execute runStream resources index fonts operator))
    (levels : Nat) (resources : Dictionary) (content : Bytes) :
    Keeps holds (interpreter.runStream (α := α) levels resources content) := by
  induction levels generalizing resources content with
  | zero => exact keeps_throw _
  | succ levels ih =>
    unfold Interpreter.runStream
    split
    · exact keeps_throw _
    · exact keeps_runOperators (kept _ ih resources) 0 ∅ _

end Interpreter

namespace Recording

/-- Only missing fonts and objects are warned of. -/
def WarnsOfContent (recording : Recording α) : Prop :=
  ∀ warning ∈ recording.warnings, warning.kind = .missingFont ∨ warning.kind = .malformedObject

end Recording

namespace Interpreter

variable {interpreter : Interpreter}
  {runStream : Dictionary → Bytes → Interpretation α Unit} {resources : Dictionary}

omit [Scalar α] in
/-- A warning of a missing font or of an object keeps the warnings as they should be. -/
theorem warn_keeps {warning : Warning}
    (kind : warning.kind = .missingFont ∨ warning.kind = .malformedObject) :
    Keeps Recording.WarnsOfContent (interpreter.warn warning : Interpretation α Unit) := by
  apply keeps_modify
  intro recording held
  split
  · intro other member
    rcases Array.mem_push.mp member with before | rfl
    · exact held other before
    · exact kind
  · exact held

omit [Scalar α] in
/-- A change that leaves the warnings keeps them as they should be. -/
theorem modify_keeps {change : Recording α → Recording α}
    (same : ∀ recording, (change recording).warnings = recording.warnings) :
    Keeps Recording.WarnsOfContent (modify change : Interpretation α PUnit) := by
  apply keeps_modify
  intro recording held
  unfold Recording.WarnsOfContent
  rw [same]
  exact held

/-- Looking up a font warns of a missing one at the most. -/
theorem findFont_keeps (operator : Nat) (fonts : FontTable α) (name : String) :
    Keeps Recording.WarnsOfContent (interpreter.findFont resources operator fonts name) := by
  unfold findFont
  split
  · exact keeps_pure _
  · split
    · exact keeps_pure _
    · exact (warn_keeps (Or.inl rfl)).bind fun _ => keeps_pure _

theorem useFont_keeps (operator : Nat) (fonts : FontTable α) (name : String) :
    Keeps Recording.WarnsOfContent (interpreter.useFont resources operator fonts name) := by
  refine (findFont_keeps operator fonts name).bind fun found => ?_
  refine Keeps.bind (modify_keeps ?_) fun _ => keeps_pure _
  exact fun _ => rfl

/-- A form warns of missing fonts and objects only, if the streams in it do. -/
theorem runForm_keeps
    (kept : ∀ resources content, Keeps Recording.WarnsOfContent (runStream resources content))
    (form : Dictionary) (data : Bytes) :
    Keeps Recording.WarnsOfContent (interpreter.runForm runStream resources form data) := by
  unfold runForm
  split
  · exact keeps_throw _
  · dsimp only
    refine Keeps.bind (modify_keeps ?_) fun _ => ?_
    · exact fun _ => rfl
    split
    · refine Keeps.bind (modify_keeps ?_) fun _ => (kept _ _).bind fun _ => modify_keeps ?_
      · exact fun _ => rfl
      · exact fun _ => rfl
    · refine (kept _ _).bind fun _ => modify_keeps ?_
      exact fun _ => rfl

/-- An external object warns of missing fonts and objects only, if the streams in it do. -/
theorem invoke_keeps
    (kept : ∀ resources content, Keeps Recording.WarnsOfContent (runStream resources content))
    (name : String) :
    Keeps Recording.WarnsOfContent (interpreter.invoke runStream resources name) := by
  unfold invoke
  split
  · exact warn_keeps (Or.inr rfl)
  · split
    · exact runForm_keeps kept _ _
    · exact keeps_pure ()

theorem showCodes_warnings (normalForm : NormalForm) (font : Font α) (recording : Recording α)
    (codes : List CharCode) :
    (recording.showCodes normalForm font codes).warnings = recording.warnings :=
  Recording.showCodes_keeps (fun later => later.warnings = recording.warnings)
    (fun _ _ same => same) rfl codes

/-- An action warns of missing fonts and objects only, if the streams that it draws do. -/
theorem perform_keeps
    (kept : ∀ resources content, Keeps Recording.WarnsOfContent (runStream resources content))
    (operator : Nat) (fonts : FontTable α) (action : Action α) :
    Keeps Recording.WarnsOfContent
      (interpreter.perform runStream resources operator fonts action) := by
  cases action with
  | change change =>
    refine Keeps.bind (modify_keeps ?_) fun _ => keeps_pure fonts
    exact fun _ => rfl
  | selectFont name size =>
    refine Keeps.bind (modify_keeps ?_) fun _ =>
      (useFont_keeps operator fonts name).bind fun _ => keeps_pure _
    exact fun _ => rfl
  | showText bytes =>
    refine Keeps.bind keeps_get fun recording => ?_
    dsimp only
    split
    · exact keeps_pure fonts
    · refine (useFont_keeps operator fonts _).bind fun used =>
        Keeps.bind (modify_keeps ?_) fun _ => keeps_pure _
      exact fun recording => showCodes_warnings _ _ recording _
  | invoke name => exact (invoke_keeps kept name).bind fun _ => keeps_pure fonts

omit [Scalar α] in
/-- A charge does not warn. -/
theorem charge_keeps :
    Keeps Recording.WarnsOfContent (interpreter.charge : Interpretation α Unit) := by
  refine Keeps.bind (modify_keeps ?_) fun _ => Keeps.bind keeps_get fun recording => ?_
  · exact fun _ => rfl
  dsimp only
  split
  · exact keeps_throw _
  · exact keeps_pure _

theorem execute_keeps
    (kept : ∀ resources content, Keeps Recording.WarnsOfContent (runStream resources content))
    (index : Nat) (fonts : FontTable α) (operator : Operator α) :
    Keeps Recording.WarnsOfContent
      (interpreter.execute runStream resources index fonts operator) :=
  charge_keeps.bind fun _ => Keeps.foldlM (perform_keeps kept index) fonts _

/-- A page warns of missing fonts and of objects only. -/
theorem runPage_keeps (page : Nat) :
    Keeps Recording.WarnsOfContent (interpreter.runPage page : Interpretation α Unit) := by
  unfold runPage
  split
  · exact keeps_throw _
  · split
    · exact keeps_throw _
    · exact keeps_runStream (fun _ kept _ => execute_keeps kept) _ _ _

end Interpreter

/-- Interpreting a page warns of missing fonts and objects only, also when it fails. -/
theorem Store.interpret_warnings (store : Store) (options : ExtractOptions) (page : Nat) :
    (store.interpret options page : Recording α × Option ReadFault).1.WarnsOfContent := by
  have started : (Recording.start .identity : Recording α).WarnsOfContent := by
    intro warning member
    cases Array.not_mem_empty warning member
  unfold Store.interpret
  cases ended : Interpreter.runPage (α := α) ⟨store, options⟩ page (Recording.start .identity) with
  | ok _ recording => exact (Interpreter.runPage_keeps page).ok started ended
  | error fault recording => exact (Interpreter.runPage_keeps page).error started ended

end PlacedText
