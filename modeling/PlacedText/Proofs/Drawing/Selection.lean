import PlacedText.Proofs.Drawing.Course

/-! # Selected fonts

A font is selected by a name, which stands for a font of the stream that selects it. The text
parameters keep the name alone, and a string is shown in the font that the stream it stands in has
under that name. So every string is shown in the font that was selected for it, saved and restored
states and forms included, as long as no form that shows it has another font under the same name
(`Store.interpret_fonts`); forms with the fonts of their page have not
(`Interpreter.pageCourse_unshadowed`).
-/

namespace PlacedText

variable {α : Type} [Scalar α]

/-- Whether a step has no other fonts than those of a book. -/
def Step.HasFonts (fonts : FontBook α) : Step α → Prop
  | .selectFont own _ _ => own = fonts
  | .showText own _ => own = fonts
  | _ => True

/-- A selected font: its name, among the fonts of the stream that selected it. -/
structure Selection (α : Type) where
  fonts : FontBook α
  name : String

/-- The font that was selected. -/
def Selection.font (selection : Selection α) : Font α := selection.fonts selection.name

/-- The selection in effect and those that are saved, the last first. -/
structure Selections (α : Type) where
  selected? : Option (Selection α)
  saved : List (Option (Selection α))

namespace Selections

/-- No font is selected where a page begins. -/
def initial : Selections α := ⟨none, []⟩

/-- What a step does to the selection in effect. -/
def step (selections : Selections α) : Step α → Selections α
  | .selectFont fonts name _ => { selections with selected? := some ⟨fonts, name⟩ }
  | .change .save => { selections with saved := selections.selected? :: selections.saved }
  | .change .restore =>
    match selections.saved with
    | [] => selections
    | selected? :: saved => ⟨selected?, saved⟩
  | _ => selections

/-- The fonts of a string, where a font is chosen by what is selected and by the fonts of the stream
that shows it. -/
def chosen (choose : Selection α → FontBook α → Font α) (selections : Selections α)
    (fonts : FontBook α) : FontBook α :=
  match selections.selected? with
  | none => fonts
  | some selection => fun _ => choose selection fonts

/-- The same steps with the font of each string chosen. -/
def bind (choose : Selection α → FontBook α → Font α) :
    Selections α → List (Step α) → List (Step α)
  | _, [] => []
  | selections, .showText fonts bytes :: steps =>
    .showText (selections.chosen choose fonts) bytes :: bind choose selections steps
  | selections, step :: steps => step :: bind choose (selections.step step) steps

/-- Whether the choice of a font comes to the one that the stream of each string has under the
selected name. -/
def Unshadowed (choose : Selection α → FontBook α → Font α) : Selections α → List (Step α) → Prop
  | _, [] => True
  | selections, .showText fonts _ :: steps =>
    (∀ selection ∈ selections.selected?, choose selection fonts = fonts selection.name) ∧
      Unshadowed choose selections steps
  | selections, step :: steps => Unshadowed choose (selections.step step) steps

variable {choose : Selection α → FontBook α → Font α} {selections : Selections α}

omit [Scalar α] in
/-- What is chosen along a course is chosen along each beginning of it. -/
theorem Unshadowed.of_prefix {steps taken : List (Step α)}
    (unshadowed : selections.Unshadowed choose steps) (begins : taken <+: steps) :
    selections.Unshadowed choose taken := by
  induction taken generalizing selections steps with
  | nil => trivial
  | cons step taken ih =>
    obtain ⟨rest, rfl⟩ := begins
    cases step with
    | showText fonts bytes => exact ⟨unshadowed.1, ih unshadowed.2 (List.prefix_append taken rest)⟩
    | _ =>
      refine ih ?_ (List.prefix_append taken rest)
      exact unshadowed

/-! ## The names of the selected fonts -/

/-- Whether a drawing state has the names of what is selected and saved. -/
structure NamedBy (drawing : DrawingState α) (selections : Selections α) : Prop where
  selected : drawing.params.font? = selections.selected?.map Selection.name
  saved : drawing.saved.map (fun entry => entry.2.font?) =
    selections.saved.map (Option.map Selection.name)

theorem NamedBy.showCodes {recording : Recording α} (named : NamedBy recording.drawing selections)
    (normalForm : NormalForm) (font : Font α) (codes : List CharCode) :
    NamedBy (recording.showCodes normalForm font codes).drawing selections :=
  Recording.showCodes_keeps (fun later => NamedBy later.drawing selections)
    (fun _ _ named => ⟨named.selected, named.saved⟩) named codes

omit [Scalar α] in
/-- The names that are saved are restored together with the drawing state. -/
theorem NamedBy.restore {drawing : DrawingState α} (named : NamedBy drawing selections) :
    NamedBy drawing.restore (selections.step (.change .restore)) := by
  have lengths := named.saved
  unfold DrawingState.restore Selections.step
  cases before : drawing.saved with
  | nil =>
    rw [before] at lengths
    rw [List.map_eq_nil_iff.mp lengths.symm]
    exact named
  | cons entry rest =>
    obtain ⟨selected?, saved⟩ := selections
    cases saved with
    | nil =>
      rw [before] at lengths
      cases lengths
    | cons first others =>
      rw [before] at lengths
      obtain ⟨name, names⟩ := List.cons.inj lengths
      exact ⟨name, names⟩

/-- A step leaves a drawing state with the names of what is selected. -/
theorem NamedBy.step {recording : Recording α} (named : NamedBy recording.drawing selections)
    (normalForm : NormalForm) (step : Step α) :
    NamedBy (recording.step normalForm step).drawing (selections.step step) := by
  cases step with
  | operator => exact named
  | selectFont fonts name size => exact ⟨rfl, named.saved⟩
  | showText fonts bytes =>
    unfold Recording.step Recording.showText
    dsimp only
    split
    · exact named
    · next name _ =>
      have noted : NamedBy (recording.noting (fonts name).abort?).drawing selections := named
      exact noted.showCodes _ _ _
  | change change =>
    cases change with
    | save => exact ⟨named.selected, congrArg₂ List.cons named.selected named.saved⟩
    | restore => exact named.restore
    | set parameter value =>
      refine ⟨?_, named.saved⟩
      cases parameter <;> exact named.selected
    | _ => exact ⟨named.selected, named.saved⟩

/-- A string is shown in the font that is chosen for it, if its stream has that one under the
selected name. -/
theorem NamedBy.showText {recording : Recording α} (named : NamedBy recording.drawing selections)
    (normalForm : NormalForm) (fonts : FontBook α) (bytes : Bytes)
    (unshadowed : ∀ selection ∈ selections.selected?,
      choose selection fonts = fonts selection.name) :
    recording.showText normalForm (selections.chosen choose fonts) bytes =
      recording.showText normalForm fonts bytes := by
  unfold Recording.showText Selections.chosen
  rw [named.selected]
  cases selected : selections.selected? with
  | none => rfl
  | some selection =>
    rw [selected] at unshadowed
    dsimp only [Option.map_some]
    rw [unshadowed selection rfl]

/-- Steps lead to the same with their fonts chosen, as long as none is shadowed. -/
theorem NamedBy.after_bind {recording : Recording α} (named : NamedBy recording.drawing selections)
    (normalForm : NormalForm) {steps : List (Step α)}
    (unshadowed : selections.Unshadowed choose steps) :
    recording.after normalForm (selections.bind choose steps) =
      recording.after normalForm steps := by
  unfold Recording.after
  induction steps generalizing recording selections with
  | nil => rfl
  | cons step steps ih =>
    cases step with
    | showText fonts bytes =>
      have shown := named.showText normalForm fonts bytes unshadowed.1
      unfold Selections.bind
      rw [List.foldl_cons, List.foldl_cons]
      change List.foldl _ (recording.showText _ _ _) _ = List.foldl _ (recording.showText _ _ _) _
      rw [shown]
      exact ih (named.step normalForm (.showText fonts bytes)) unshadowed.2
    | _ => exact ih (named.step normalForm _) unshadowed

theorem ofSteps_bind (normalForm : NormalForm) {steps : List (Step α)}
    (unshadowed : initial.Unshadowed choose steps) :
    Recording.ofSteps normalForm (initial.bind choose steps) =
      Recording.ofSteps normalForm steps := by
  have named : NamedBy (Recording.start .identity : Recording α).drawing initial := ⟨rfl, rfl⟩
  exact named.after_bind normalForm unshadowed

omit [Scalar α] in
/-- The font of the stream that shows a string is never shadowed. -/
theorem unshadowed_shown (selections : Selections α) (steps : List (Step α)) :
    selections.Unshadowed (fun selection fonts => fonts selection.name) steps := by
  induction steps generalizing selections with
  | nil => trivial
  | cons step steps ih =>
    cases step with
    | showText fonts bytes => exact ⟨fun _ _ => rfl, ih _⟩
    | _ => exact ih _

/-- Selections of fonts of one book. -/
structure Among (fonts : FontBook α) (selections : Selections α) : Prop where
  selected : ∀ selection ∈ selections.selected?, selection.fonts = fonts
  saved : ∀ selected? ∈ selections.saved, ∀ selection ∈ selected?, selection.fonts = fonts

omit [Scalar α] in
/-- A step with fonts of a book leaves selections of that book. -/
theorem Among.step {fonts : FontBook α} (among : selections.Among fonts) {step : Step α}
    (own : step.HasFonts fonts) : (selections.step step).Among fonts := by
  cases step with
  | selectFont other name size =>
    refine ⟨?_, among.saved⟩
    rintro selection ⟨⟩
    exact own
  | change change =>
    cases change with
    | save => exact ⟨among.selected, List.forall_mem_cons.mpr ⟨among.selected, among.saved⟩⟩
    | restore =>
      obtain ⟨selected?, saved⟩ := selections
      cases saved with
      | nil => exact among
      | cons first others =>
        obtain ⟨here, later⟩ := List.forall_mem_cons.mp among.saved
        exact ⟨here, later⟩
    | _ => exact among
  | _ => exact among

omit [Scalar α] in
/-- Nor is the selected font, where all steps have the same fonts. -/
theorem Among.unshadowed {fonts : FontBook α} {steps : List (Step α)}
    (among : selections.Among fonts) (own : ∀ step ∈ steps, step.HasFonts fonts) :
    selections.Unshadowed (fun selection _ => selection.font) steps := by
  induction steps generalizing selections with
  | nil => trivial
  | cons step steps ih =>
    obtain ⟨here, later⟩ := List.forall_mem_cons.mp own
    have rest := ih (among.step here) later
    cases step with
    | showText other bytes =>
      refine ⟨fun selection selected => ?_, rest⟩
      have book : selection.fonts = other := (among.selected selection selected).trans here.symm
      exact congrFun book selection.name
    | _ => exact rest

end Selections

namespace Store

variable {store : Store} {options : ExtractOptions} {page : Nat}

/-- A page is interpreted along the beginning of its course, and all of it if it does not fail. -/
theorem interpret_taken (store : Store) (options : ExtractOptions) (page : Nat) :
    ∃ taken, taken <+: (Interpreter.pageCourse (α := α) ⟨store, options⟩ page).steps ∧
      ((store.interpret options page : Recording α × Option ReadFault).2 = none →
        taken = (Interpreter.pageCourse ⟨store, options⟩ page).steps) ∧
      (store.interpret options page).1.SameShown (.ofSteps options.normalForm taken) := by
  rcases Nat.lt_or_ge options.maxOperators
      (Interpreter.pageCourse (α := α) ⟨store, options⟩ page).operators with exceeded | bounded
  · obtain ⟨failed, done, begins, -, same⟩ := interpret_of_lt exceeded
    refine ⟨done ++ [.operator], begins, fun none => ?_, same⟩
    rw [failed] at none
    cases none
  · exact ⟨_, List.prefix_refl _, fun _ => rfl, (interpret_of_le bounded).2⟩

/-- **Every string is shown in a font that its stream has under the selected name**, and so in the
selected font, unless another one has its name in the stream that shows the string. This is so of
every glyph that is recorded, also where the page fails. -/
theorem interpret_fonts (store : Store) (options : ExtractOptions) (page : Nat) :
    ∃ taken, taken <+: (Interpreter.pageCourse (α := α) ⟨store, options⟩ page).steps ∧
      ((store.interpret options page : Recording α × Option ReadFault).2 = none →
        taken = (Interpreter.pageCourse ⟨store, options⟩ page).steps) ∧
      (store.interpret options page).1.glyphs = (Recording.ofSteps options.normalForm
        (Selections.initial.bind (fun selection fonts => fonts selection.name) taken)).glyphs ∧
      (Selections.initial.Unshadowed (fun selection _ => selection.font)
          (Interpreter.pageCourse (α := α) ⟨store, options⟩ page).steps →
        (store.interpret options page).1.glyphs = (Recording.ofSteps options.normalForm
          (Selections.initial.bind (fun selection _ => selection.font) taken)).glyphs) := by
  obtain ⟨taken, begins, whole, same⟩ := interpret_taken (α := α) store options page
  refine ⟨taken, begins, whole, ?_, fun unshadowed => ?_⟩
  · rw [Selections.ofSteps_bind _ (Selections.unshadowed_shown _ taken)]
    exact same.glyphs
  · rw [Selections.ofSteps_bind _ (unshadowed.of_prefix begins)]
    exact same.glyphs

end Store

/-! ## Forms with the fonts of their page -/

omit [Scalar α] in
theorem Course.mem_andThen {first second : Course α} {step : Step α}
    (member : step ∈ (first.andThen second).steps) :
    step ∈ first.steps ∨ step ∈ second.steps := by
  unfold andThen at member
  split at member
  · exact List.mem_append.mp member
  · exact .inl member

omit [Scalar α] in
/-- A step of several courses in a row is one of one of them. -/
theorem Course.mem_all {courses : List (Course α)} {step : Step α}
    (member : step ∈ (all courses).steps) : ∃ course ∈ courses, step ∈ course.steps := by
  induction courses with
  | nil => cases member
  | cons course courses ih =>
    rcases mem_andThen member with here | later
    · exact ⟨course, .head _, here⟩
    · obtain ⟨other, known, there⟩ := ih later
      exact ⟨other, .tail _ known, there⟩

namespace Interpreter

variable {interpreter : Interpreter} {resources : Dictionary}
  {streamCourse : Dictionary → Bytes → Course α}

/-- Whether every form has the fonts of the resources that it is found among, as those without
resources of their own have. -/
def SharesFonts (α : Type) [Scalar α] (interpreter : Interpreter) : Prop :=
  ∀ resources name form data, interpreter.externalObject? resources name = some (form, data) →
    ∀ own, interpreter.store.dictionary? form "Resources" = some own →
      (interpreter.fontNamed own : FontBook α) = interpreter.fontNamed resources

/-- Where forms share fonts, the steps of an external object have those of the resources that it is
found among. -/
theorem hasFonts_of_mem_objectCourse (shares : interpreter.SharesFonts α)
    (inside : ∀ own content, ∀ step ∈ (streamCourse own content).steps,
      step.HasFonts (interpreter.fontNamed own)) {name : String} {step : Step α}
    (member : step ∈ (interpreter.objectCourse streamCourse resources name).steps) :
    step.HasFonts (interpreter.fontNamed resources) := by
  unfold objectCourse at member
  cases found : interpreter.externalObject? resources name with
  | none =>
    rw [found] at member
    cases member
  | some object =>
    obtain ⟨form, data⟩ := object
    rw [found] at member
    dsimp only at member
    split at member
    · unfold formCourse at member
      split at member
      · cases member
      · next content _ =>
        rcases Course.mem_andThen member with placed | member
        · rcases List.mem_cons.mp placed with rfl | placed
          · trivial
          · obtain ⟨t, -, rfl⟩ := Option.map_eq_some_iff.mp (Option.mem_toList.mp placed)
            trivial
        rcases Course.mem_andThen member with drawn | restored
        · have own := inside _ content step drawn
          cases inherited : interpreter.store.dictionary? form "Resources" with
          | none => rwa [inherited] at own
          | some other =>
            rw [inherited] at own
            rwa [← shares resources name form data found other inherited]
        · cases List.mem_singleton.mp restored
          trivial
    · cases member

/-- Where forms share fonts, so have all steps of some operators. -/
theorem hasFonts_of_mem_operatorsCourse (shares : interpreter.SharesFonts α)
    (inside : ∀ own content, ∀ step ∈ (streamCourse own content).steps,
      step.HasFonts (interpreter.fontNamed own)) {operators : List (Operator α)} {step : Step α}
    (member : step ∈ (interpreter.operatorsCourse streamCourse resources operators).steps) :
    step.HasFonts (interpreter.fontNamed resources) := by
  obtain ⟨_, known, member⟩ := Course.mem_all member
  obtain ⟨operator, -, rfl⟩ := List.mem_map.mp known
  rcases Course.mem_andThen member with counted | performed
  · cases List.mem_singleton.mp counted
    trivial
  obtain ⟨_, known, member⟩ := Course.mem_all performed
  obtain ⟨action, -, rfl⟩ := List.mem_map.mp known
  cases action with
  | invoke name => exact hasFonts_of_mem_objectCourse shares inside member
  | _ =>
    cases List.mem_singleton.mp member
    trivial

/-- A stream and its forms have the same fonts. -/
theorem hasFonts_of_mem_streamCourse (shares : interpreter.SharesFonts α) (levels : Nat)
    (resources : Dictionary) (content : Bytes) :
    ∀ step ∈ (interpreter.streamCourse levels resources content).steps,
      step.HasFonts (interpreter.fontNamed resources : FontBook α) := by
  induction levels generalizing resources content with
  | zero =>
    intro step member
    cases member
  | succ levels ih =>
    intro step member
    unfold streamCourse at member
    split at member
    · cases member
    · exact hasFonts_of_mem_operatorsCourse shares ih member

/-- Where every form has the fonts of its page, the selected font is never shadowed. -/
theorem pageCourse_unshadowed (shares : interpreter.SharesFonts α) (page : Nat) :
    Selections.initial.Unshadowed (fun selection _ => selection.font)
      (interpreter.pageCourse page : Course α).steps := by
  unfold pageCourse
  split
  · trivial
  · split
    · trivial
    · next resources _ =>
      have among : Selections.initial.Among (interpreter.fontNamed resources : FontBook α) :=
        ⟨by simp [Selections.initial], by simp [Selections.initial]⟩
      exact among.unshadowed (hasFonts_of_mem_streamCourse shares _ _ _)

end Interpreter

end PlacedText
