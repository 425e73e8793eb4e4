import PlacedText.Drawing.Recording
import PlacedText.Proofs.Effect.Simulation
import PlacedText.Proofs.Store.Lookup
import Mathlib.Data.List.Forall2

/-! # Drawing the same content by related transforms

The transform that a page is drawn by shows in where its glyphs are and in nothing else: two runs
over the same operators, begun with related transforms, show the same glyphs in the same order,
drawn by related transforms (`Interpreter.simulates_runStream`). If one of them comes to its end, so
does the other, unless it executes too many operators. The relation is any that is kept by putting a
transform in front, as form matrices, text matrices and `cm` do. The runs may look things up in
different documents, as long as these give them the same fonts and forms (`Interpreter.Mirrors`).
-/

namespace PlacedText

open Effect

variable {α : Type} [Scalar α] {relates : Transform α → Transform α → Prop}

/-- A relation between transforms that putting a transform in front of both does not end. -/
def Transform.KeptInFront (relates : Transform α → Transform α → Prop) : Prop :=
  ∀ front first second : Transform α,
    relates first second → relates (front.andThen first) (front.andThen second)

/-! ## Drawing states -/

/-- Drawing states that are the same but for their transforms, current and saved, which are
related. -/
structure DrawingState.Related (relates : Transform α → Transform α → Prop)
    (state state' : DrawingState α) : Prop where
  ctm : relates state.ctm state'.ctm
  params : state.params = state'.params
  saved : List.Forall₂ (fun entry entry' => relates entry.1 entry'.1 ∧ entry.2 = entry'.2)
    state.saved state'.saved
  textMatrix : state.textMatrix = state'.textMatrix
  lineMatrix : state.lineMatrix = state'.lineMatrix
  inText : state.inText = state'.inText

namespace DrawingState

variable {state state' : DrawingState α}

theorem Related.initial {ctm ctm' : Transform α} (related : relates ctm ctm') :
    (initial ctm).Related relates (initial ctm') :=
  ⟨related, rfl, .nil, rfl, rfl, rfl⟩

theorem Related.advance (related : state.Related relates state') {x x' : α} (same : x = x') :
    (state.advance x).Related relates (state'.advance x') where
  ctm := related.ctm
  params := related.params
  saved := related.saved
  textMatrix := by
    simp only [DrawingState.advance, same, related.textMatrix]
  lineMatrix := related.lineMatrix
  inText := related.inText

theorem Related.moveLine (related : state.Related relates state') {x x' y y' : α} (sameX : x = x')
    (sameY : y = y') : (state.moveLine x y).Related relates (state'.moveLine x' y') where
  ctm := related.ctm
  params := related.params
  saved := related.saved
  textMatrix := by simp only [DrawingState.moveLine, sameX, sameY, related.lineMatrix]
  lineMatrix := by simp only [DrawingState.moveLine, sameX, sameY, related.lineMatrix]
  inText := related.inText

omit [Scalar α] in
/-- Related states restore to related ones, with an entry to go back to or without one. -/
theorem Related.restore (related : state.Related relates state') :
    state.restore.Related relates state'.restore := by
  unfold DrawingState.restore
  cases saved : state.saved with
  | nil =>
    have none := related.saved
    rw [saved] at none
    rw [List.forall₂_nil_left_iff.mp none]
    exact related
  | cons entry rest =>
    have some := related.saved
    rw [saved] at some
    cases saved' : state'.saved with
    | nil =>
      rw [saved'] at some
      cases some
    | cons entry' rest' =>
      rw [saved'] at some
      obtain ⟨⟨ctm, params⟩, saved⟩ := List.forall₂_cons.mp some
      exact ⟨ctm, params, saved, related.textMatrix, related.lineMatrix, related.inText⟩

/-- Every elementary change keeps drawing states related: it sets what both have in common, or puts
the same transform in front of both. -/
theorem Related.apply (kept : Transform.KeptInFront relates)
    (related : state.Related relates state')
    (change : Change α) : (state.apply change).Related relates (state'.apply change) := by
  cases change with
  | save =>
    exact ⟨related.ctm, related.params, .cons ⟨related.ctm, related.params⟩ related.saved,
      related.textMatrix, related.lineMatrix, related.inText⟩
  | restore => exact related.restore
  | concat t =>
    exact ⟨kept t _ _ related.ctm, related.params, related.saved, related.textMatrix,
      related.lineMatrix, related.inText⟩
  | beginText => exact ⟨related.ctm, related.params, related.saved, rfl, rfl, rfl⟩
  | endText =>
    exact ⟨related.ctm, related.params, related.saved, related.textMatrix, related.lineMatrix, rfl⟩
  | setTextMatrix t => exact ⟨related.ctm, related.params, related.saved, rfl, rfl, related.inText⟩
  | moveLine x y => exact related.moveLine rfl rfl
  | nextLine => exact related.moveLine rfl (by rw [related.params])
  | set parameter value =>
    refine ⟨related.ctm, ?_, related.saved, related.textMatrix, related.lineMatrix, related.inText⟩
    simp only [DrawingState.apply, related.params]
  | setRenderMode mode =>
    refine ⟨related.ctm, ?_, related.saved, related.textMatrix, related.lineMatrix, related.inText⟩
    simp only [DrawingState.apply, related.params]
  | adjust amount => exact related.advance (by simp only [adjustment, related.params])

omit [Scalar α] in
theorem Related.selectFont (related : state.Related relates state') (name : String) (size : α) :
    (state.selectFont name size).Related relates (state'.selectFont name size) := by
  refine ⟨related.ctm, ?_, related.saved, related.textMatrix, related.lineMatrix, related.inText⟩
  simp only [DrawingState.selectFont, related.params]

end DrawingState

/-! ## Glyphs -/

/-- The same glyph drawn by related transforms. -/
structure GlyphEvent.Related (relates : Transform α → Transform α → Prop)
    (glyph glyph' : GlyphEvent α) : Prop where
  trm : relates glyph.trm glyph'.trm
  code : glyph.code = glyph'.code
  unicode : glyph.unicode? = glyph'.unicode?
  font : glyph.font = glyph'.font
  fontSize : glyph.fontSize = glyph'.fontSize
  advance : glyph.advance = glyph'.advance
  scale : glyph.scale = glyph'.scale

/-- Recordings of the same glyphs in the same order, drawn by related transforms, in which fonts
have ended the program alike. How many operators were executed and what was warned of does not
matter. -/
structure Recording.Related (relates : Transform α → Transform α → Prop)
    (recording recording' : Recording α) : Prop where
  drawing : recording.drawing.Related relates recording'.drawing
  glyphs : List.Forall₂ (GlyphEvent.Related relates) recording.glyphs.toList
    recording'.glyphs.toList
  abort : recording.abort? = recording'.abort?

namespace Recording

variable {recording recording' : Recording α}

theorem Related.change (kept : Transform.KeptInFront relates)
    (related : recording.Related relates recording') (change : Change α) :
    (recording.change change).Related relates (recording'.change change) :=
  ⟨related.drawing.apply kept change, related.glyphs, related.abort⟩

omit [Scalar α] in
theorem Related.noting (related : recording.Related relates recording')
    (abort? : Option FontAbort) :
    (recording.noting abort?).Related relates (recording'.noting abort?) :=
  ⟨related.drawing, related.glyphs, congrArg (·.or abort?) related.abort⟩

/-- A code shows related events in related states, as the transforms in front are composed with the
same ones. -/
theorem event_related (kept : Transform.KeptInFront relates) {drawing drawing' : DrawingState α}
    (related : drawing.Related relates drawing') (normalForm : NormalForm) (font : Font α)
    (code : CharCode) :
    (event normalForm font drawing code).Related relates (event normalForm font drawing' code) where
  trm := by
    unfold event DrawingState.renderingMatrix
    simp only [related.params, related.textMatrix]
    exact kept _ _ _ related.ctm
  code := rfl
  unicode := rfl
  font := rfl
  fontSize := congrArg TextParams.fontSize related.params
  advance := rfl
  scale := congrArg TextParams.scale related.params

/-- Showing a code keeps recordings related: the same code is added on both sides, and both advance
alike. -/
theorem Related.showCode (kept : Transform.KeptInFront relates)
    (related : recording.Related relates recording') (normalForm : NormalForm) (font : Font α)
    (code : CharCode) :
    (recording.showCode normalForm font code).Related relates
      (recording'.showCode normalForm font code) where
  drawing := by
    apply related.drawing.advance
    simp only [DrawingState.glyphAdvance, related.drawing.params]
  glyphs := by
    simp only [Recording.showCode, Array.toList_push]
    exact List.rel_append related.glyphs
      (.cons (event_related kept related.drawing normalForm font code) .nil)
  abort := congrArg (·.or (font.abortAt? code.code)) related.abort

theorem Related.showCodes (kept : Transform.KeptInFront relates)
    (related : recording.Related relates recording') (normalForm : NormalForm) (font : Font α)
    (codes : List CharCode) :
    (recording.showCodes normalForm font codes).Related relates
      (recording'.showCodes normalForm font codes) := by
  unfold Recording.showCodes
  induction codes generalizing recording recording' with
  | nil => exact related
  | cons code codes ih => exact ih (related.showCode kept normalForm font code)

end Recording

/-! ## Interpreters -/

/-- Two interpreters that find the same fonts and external objects among related resources, and
related resources for the forms that they find. -/
structure Interpreter.Mirrors (α : Type) [Scalar α] (first second : Interpreter)
    (resources : Dictionary → Dictionary → Prop) : Prop where
  options : first.options = second.options
  decoders : first.store.decompress = second.store.decompress
  font : ∀ found found', resources found found' → ∀ name,
    (first.fontDictionary? found name).map
        (fun font => (Font.ofDictionary first.store font name : Font α)) =
      (second.fontDictionary? found' name).map fun font => Font.ofDictionary second.store font name
  externalObject : ∀ found found', resources found found' → ∀ name,
    first.externalObject? found name = second.externalObject? found' name
  formMatrix : ∀ found found', resources found found' → ∀ name form data,
    first.externalObject? found name = some (form, data) →
      (first.formMatrix? form : Option (Transform α)) = second.formMatrix? form
  formResources : ∀ found found', resources found found' → ∀ name form data,
    first.externalObject? found name = some (form, data) →
      Option.Rel resources (first.store.dictionary? form "Resources")
        (second.store.dictionary? form "Resources")

namespace Interpreter

/-- An interpreter mirrors itself. -/
theorem Mirrors.refl (interpreter : Interpreter) : Mirrors α interpreter interpreter Eq where
  options := rfl
  decoders := rfl
  font := by
    rintro found _ rfl name
    rfl
  externalObject := by
    rintro found _ rfl name
    rfl
  formMatrix := fun _ _ _ _ _ _ _ => rfl
  formResources := by
    intro found _ _ name form data _
    cases interpreter.store.dictionary? form "Resources" with
    | none => exact .none
    | some own => exact .some rfl

/-- Whether a fault is that of executing too many operators. -/
def IsOverBudget (interpreter : Interpreter) (fault : ReadFault) : Prop :=
  ∃ executed, fault = interpreter.overBudget executed

variable {first second : Interpreter} {resources : Dictionary → Dictionary → Prop}
  {found found' : Dictionary} {runStream runStream' : Dictionary → Bytes → Interpretation α Unit}

omit [Scalar α] in
/-- Warnings may differ; recordings are related without regard to them. -/
theorem simulates_warn (warning warning' : Warning) :
    Simulates second.IsOverBudget (Recording.Related relates) (fun _ _ => True)
      (first.warn warning : Interpretation α Unit) (second.warn warning') := by
  apply simulates_modify
  intro recording recording' related
  split
  · split
    · exact ⟨related.drawing, related.glyphs, related.abort⟩
    · exact ⟨related.drawing, related.glyphs, related.abort⟩
  · split
    · exact ⟨related.drawing, related.glyphs, related.abort⟩
    · exact related

/-- Fonts are looked up alike, whatever is warned of: a font is entered in the one table they share,
or it is found or missing among both resources. -/
theorem simulates_findFont (mirrors : Mirrors α first second resources)
    (related : resources found found') (index index' : Nat) (fonts : FontTable α) (name : String) :
    Simulates second.IsOverBudget (Recording.Related relates) Eq
      (first.findFont found index fonts name) (second.findFont found' index' fonts name) := by
  unfold findFont
  have same := mirrors.font found found' related name
  cases fonts[name]? with
  | some font => exact simulates_pure rfl
  | none =>
    cases here : first.fontDictionary? found name with
    | some font =>
      cases there : second.fontDictionary? found' name with
      | some font' =>
        rw [here, there, Option.map_some, Option.map_some, Option.some.injEq] at same
        dsimp only
        rw [same]
        exact simulates_pure rfl
      | none =>
        rw [here, there] at same
        cases same
    | none =>
      cases there : second.fontDictionary? found' name with
      | some font' =>
        rw [here, there] at same
        cases same
      | none => exact (simulates_warn _ _).bind fun _ _ _ => simulates_pure rfl

theorem simulates_useFont (mirrors : Mirrors α first second resources)
    (related : resources found found') (index index' : Nat) (fonts : FontTable α) (name : String) :
    Simulates second.IsOverBudget (Recording.Related relates) Eq
      (first.useFont found index fonts name) (second.useFont found' index' fonts name) := by
  refine (simulates_findFont mirrors related index index' fonts name).bind ?_
  rintro ⟨font, used⟩ _ rfl
  exact (simulates_modify fun _ _ drawn => drawn.noting font.abort?).bind fun _ _ _ =>
    simulates_pure rfl

omit [Scalar α] in
/-- Related resources of a form, or else of the streams that invoke it. -/
theorem rel_getD {own? own'? : Option Dictionary} (own : Option.Rel resources own? own'?)
    (related : resources found found') : resources (own?.getD found) (own'?.getD found') := by
  cases own with
  | some own => exact own
  | none => exact related

/-- A form is drawn alike if its content is. -/
theorem simulates_runForm (kept : Transform.KeptInFront relates)
    (ran : ∀ own own' content, resources own own' →
      Simulates second.IsOverBudget (Recording.Related relates) (fun _ _ => True)
        (runStream own content) (runStream' own' content))
    (decoders : first.store.decompress = second.store.decompress)
    (related : resources found found') {form : Dictionary} {data : Bytes}
    (matrix : (first.formMatrix? form : Option (Transform α)) = second.formMatrix? form)
    (own : Option.Rel resources (first.store.dictionary? form "Resources")
      (second.store.dictionary? form "Resources")) :
    Simulates second.IsOverBudget (Recording.Related relates) (fun _ _ => True)
      (first.runForm runStream found form data) (second.runForm runStream' found' form data) := by
  have changed (change : Change α) :
      Simulates second.IsOverBudget (Recording.Related relates) (fun _ _ => True)
      (modify fun recording => recording.change change : Interpretation α PUnit)
      (modify fun recording => recording.change change : Interpretation α PUnit) :=
    simulates_modify fun _ _ related => related.change kept change
  have chosen := rel_getD own related
  unfold runForm
  rw [Store.decoded_congr decoders]
  cases second.store.decoded form data with
  | error fault => exact simulates_throw
  | ok content =>
    dsimp only
    rw [matrix]
    have rest := (ran _ _ content chosen).bind fun _ _ _ => changed .restore
    refine (changed .save).bind fun _ _ _ => ?_
    cases (second.formMatrix? form : Option (Transform α)) with
    | none => exact rest
    | some t => exact (changed (.concat t)).bind fun _ _ _ => rest

/-- An external object is drawn in related ways, if streams with related resources are run so. -/
theorem simulates_invoke (kept : Transform.KeptInFront relates)
    (mirrors : Mirrors α first second resources)
    (ran : ∀ own own' content, resources own own' →
      Simulates second.IsOverBudget (Recording.Related relates) (fun _ _ => True)
        (runStream own content) (runStream' own' content))
    (related : resources found found') (name : String) :
    Simulates second.IsOverBudget (Recording.Related relates) (fun _ _ => True)
      (first.invoke runStream found name) (second.invoke runStream' found' name) := by
  unfold invoke
  have same := mirrors.externalObject found found' related name
  rw [← same]
  cases here : first.externalObject? found name with
  | none => exact simulates_warn _ _
  | some object =>
    obtain ⟨form, data⟩ := object
    have matrix := mirrors.formMatrix found found' related name form data here
    have own := mirrors.formResources found found' related name form data here
    dsimp only
    split
    · exact simulates_runForm kept ran mirrors.decoders related matrix own
    · exact simulates_pure trivial

/-- An action has the same effect in both runs. One case for each action; the tables of fonts stay
equal, which is why the answers are compared by equality. -/
theorem simulates_perform (kept : Transform.KeptInFront relates)
    (mirrors : Mirrors α first second resources)
    (ran : ∀ own own' content, resources own own' →
      Simulates second.IsOverBudget (Recording.Related relates) (fun _ _ => True)
        (runStream own content) (runStream' own' content))
    (related : resources found found') (index index' : Nat) (fonts : FontTable α)
    (action : Action α) :
    Simulates second.IsOverBudget (Recording.Related relates) Eq
      (first.perform runStream found index fonts action)
      (second.perform runStream' found' index' fonts action) := by
  cases action with
  | change change =>
    refine (simulates_modify ?_).bind fun _ _ _ => simulates_pure rfl
    exact fun _ _ related => related.change kept change
  | selectFont name size =>
    refine (simulates_modify ?_).bind fun _ _ _ =>
      (simulates_useFont mirrors related index index' fonts name).bind fun _ _ same =>
        simulates_pure (congrArg Prod.snd same)
    exact fun _ _ related =>
      ⟨related.drawing.selectFont name size, related.glyphs, related.abort⟩
  | showText bytes =>
    refine Simulates.bind simulates_get fun recording recording' drawn => ?_
    rw [drawn.drawing.params]
    cases recording'.drawing.params.font? with
    | none => exact simulates_pure rfl
    | some name =>
      refine (simulates_useFont mirrors related index index' fonts name).bind ?_
      rintro ⟨font, used⟩ _ rfl
      refine (simulates_modify ?_).bind fun _ _ _ => simulates_pure rfl
      intro _ _ drawn
      rw [mirrors.options]
      exact drawn.showCodes kept _ font _
  | invoke name =>
    exact (simulates_invoke kept mirrors ran related name).bind fun _ _ _ => simulates_pure rfl

omit [Scalar α] in
/-- A charge succeeds on both sides, or exceeds the budget of the second one, which is excused. -/
theorem simulates_charge :
    Simulates second.IsOverBudget (Recording.Related relates) (fun _ _ => True)
      (first.charge : Interpretation α Unit) second.charge := by
  refine (simulates_modify ?_).bind fun _ _ _ =>
    Simulates.bind simulates_get fun recording recording' _ => ?_
  · exact fun _ _ related => ⟨related.drawing, related.glyphs, related.abort⟩
  dsimp only
  split
  · exact simulates_throw
  · split
    · exact simulates_excused ⟨_, rfl⟩
    · exact simulates_pure trivial

/-- An operator has the same effect in both runs, also if it stands elsewhere in its stream. -/
theorem simulates_execute (kept : Transform.KeptInFront relates)
    (mirrors : Mirrors α first second resources)
    (ran : ∀ own own' content, resources own own' →
      Simulates second.IsOverBudget (Recording.Related relates) (fun _ _ => True)
        (runStream own content) (runStream' own' content))
    (related : resources found found') (index index' : Nat) (fonts : FontTable α)
    (operator : Operator α) :
    Simulates second.IsOverBudget (Recording.Related relates) Eq
      (first.execute runStream found index fonts operator)
      (second.execute runStream' found' index' fonts operator) := by
  refine simulates_charge.bind fun _ _ _ => Simulates.foldlM ?_ rfl _
  rintro fonts _ action rfl
  exact simulates_perform kept mirrors ran related index index' fonts action

/-- Operators are run in related ways from any place in a stream. By induction on the operators: a
charge, the actions, the rest. -/
theorem simulates_runOperators (kept : Transform.KeptInFront relates)
    (mirrors : Mirrors α first second resources)
    (ran : ∀ own own' content, resources own own' →
      Simulates second.IsOverBudget (Recording.Related relates) (fun _ _ => True)
        (runStream own content) (runStream' own' content))
    (related : resources found found') (index index' : Nat) (fonts : FontTable α)
    (operators : List (Operator α)) :
    Simulates second.IsOverBudget (Recording.Related relates) (fun _ _ => True)
      (first.runOperators runStream found index fonts operators)
      (second.runOperators runStream' found' index' fonts operators) := by
  induction operators generalizing index index' fonts with
  | nil => exact simulates_pure trivial
  | cons operator operators ih =>
    unfold runOperators
    refine (simulates_execute kept mirrors ran related index index' fonts operator).bind ?_
    rintro fonts _ rfl
    exact ih (index + 1) (index' + 1) fonts

/-- **The same content is drawn alike by related transforms.** -/
theorem simulates_runStream (kept : Transform.KeptInFront relates)
    (mirrors : Mirrors α first second resources) (levels : Nat) (related : resources found found')
    (content : Bytes) :
    Simulates second.IsOverBudget (Recording.Related relates) (fun _ _ => True)
      (first.runStream (α := α) levels found content) (second.runStream levels found' content) := by
  induction levels generalizing found found' content with
  | zero => exact simulates_throw
  | succ levels ih =>
    unfold runStream
    cases (operators content : Except SyntaxFault (List (Operator α))) with
    | error fault => exact simulates_throw
    | ok operators =>
      exact simulates_runOperators kept mirrors (fun _ _ content related => ih related content)
        related 0 0 ∅ operators

end Interpreter

end PlacedText
