import Mathlib
import PlacedText.Proofs.Drawing.Course
import PlacedText.Proofs.Geometry.Rotation

/-! # Showing strings

In exact arithmetic, the codes of a string are shown one after the other, each moved along the line
by the advances of those in front of it (`Recording.showCodes_eq`). A string may be shown at once or
in two parts, by one operator or by two, unless it is cut inside a code
(`Interpreter.runOperators_shows`).
-/

namespace PlacedText

open Effect

/-! ## Strings in two parts -/

namespace Font

variable {α : Type} {font : Font α} {first : Bytes}

/-- Bytes are paired apart where the front has an even number of them. -/
theorem pairCodes_append (even : Even first.length) (second : Bytes) :
    pairCodes (first ++ second) = pairCodes first ++ pairCodes second := by
  fun_induction pairCodes first with
  | case1 high low rest ih =>
    have shorter : Even rest.length := by
      simpa [Nat.even_add_one] using even
    simp [pairCodes, ih shorter]
  | case2 b => simp at even
  | case3 => rfl

/-- A string that is not cut inside a code has the codes of its parts. -/
theorem codes_append (apart : font.isComposite = false ∨ Even first.length) (second : Bytes) :
    font.codes (first ++ second) = font.codes first ++ font.codes second := by
  unfold codes
  by_cases composite : font.isComposite = true
  · have even : Even first.length := apart.resolve_left (by simp [composite])
    simp [composite, pairCodes_append even]
  · simp [composite]

/-! ## Advances -/

/-- The distance, in text space, from the glyph of a code to the next one. -/
noncomputable def advance (font : Font ℝ) (params : TextParams ℝ) (code : CharCode) : ℝ :=
  (font.width code.code * params.fontSize + params.charSpacing +
    if code.bytes = 1 ∧ code.code = 32 then params.wordSpacing else 0) * params.scale

/-- The distance, in text space, that codes lead along the line. -/
noncomputable def extent (font : Font ℝ) (params : TextParams ℝ) (codes : List CharCode) : ℝ :=
  (codes.map (font.advance params)).sum

theorem extent_cons (font : Font ℝ) (params : TextParams ℝ) (code : CharCode)
    (codes : List CharCode) :
    font.extent params (code :: codes) = font.advance params code + font.extent params codes :=
  List.sum_cons

theorem glyphAdvance_eq (font : Font ℝ) (drawing : DrawingState ℝ) (code : CharCode) :
    drawing.glyphAdvance (font.width code.code) code.isWordSpace =
      font.advance drawing.params code := by
  have zero : (0.0 : ℝ) = 0 := by norm_num
  unfold DrawingState.glyphAdvance advance CharCode.isWordSpace
  simp [zero]

end Font

namespace Recording

variable {normalForm : NormalForm} {font : Font ℝ}

/-! ## One code after the other -/

/-- The events of codes that are shown in a drawing state. What places a glyph is the size, scaling
and rise of the font, then the advances of the codes in front of it, then the text matrix, then the
current transform. -/
noncomputable def placed (normalForm : NormalForm) (font : Font ℝ) (drawing : DrawingState ℝ)
    (codes : List CharCode) : List (GlyphEvent ℝ) :=
  let params := drawing.params
  let glyph : Transform ℝ := ⟨params.fontSize * params.scale, 0, 0, params.fontSize, 0, params.rise⟩
  codes.mapIdx fun position code =>
    { event normalForm font drawing code with
      trm := glyph.andThen ((Transform.shift (font.extent params (codes.take position)) 0).andThen
        (drawing.textMatrix.andThen drawing.ctm)) }

/-- What showing codes leads to: their events, a text matrix that is moved by all of them, and the
end of the program at the first code that the font ends it at, unless it has ended already. -/
noncomputable def shown (normalForm : NormalForm) (font : Font ℝ) (recording : Recording ℝ)
    (codes : List CharCode) : Recording ℝ :=
  let drawing := recording.drawing
  { recording with
    drawing := { drawing with
      textMatrix := (Transform.shift (font.extent drawing.params codes) 0).andThen
        drawing.textMatrix }
    glyphs := recording.glyphs ++ (placed normalForm font drawing codes).toArray
    abort? := recording.abort?.or (codes.findSome? fun code => font.abortAt? code.code) }

/-- The codes behind the first one are placed from where it leaves the drawing state. -/
theorem placed_cons (drawing : DrawingState ℝ) (code : CharCode) (codes : List CharCode) :
    placed normalForm font drawing (code :: codes) = event normalForm font drawing code ::
      placed normalForm font (drawing.advance (font.advance drawing.params code)) codes := by
  have zero : (0.0 : ℝ) = 0 := by norm_num
  unfold placed
  dsimp only
  rw [List.mapIdx_cons]
  congr 1
  · unfold event DrawingState.renderingMatrix
    simp [Font.extent, zero, Transform.shift_zero, Transform.identity_andThen,
      Transform.andThen_assoc]
  · -- the first advance is part of every later shift, or else of the text matrix
    refine List.mapIdx_eq_mapIdx_iff.mpr fun position within => ?_
    unfold event DrawingState.advance
    simp only [List.take_succ_cons, Font.extent_cons, zero, Transform.andThen_assoc]
    rw [← Transform.shift_andThen_shift_andThen]

/-- **Codes are shown one after the other**, each at the end of those in front of it. -/
theorem showCodes_eq (recording : Recording ℝ) (codes : List CharCode) :
    recording.showCodes normalForm font codes = recording.shown normalForm font codes := by
  have zero : (0.0 : ℝ) = 0 := by norm_num
  unfold showCodes
  induction codes generalizing recording with
  | nil => simp [shown, placed, Font.extent, Transform.shift_zero, Transform.identity_andThen]
  | cons code codes ih =>
    rw [List.foldl_cons, ih]
    unfold shown showCode
    dsimp only
    have ends : recording.abort?.or
        ((code :: codes).findSome? fun code => font.abortAt? code.code) =
        (recording.abort?.or (font.abortAt? code.code)).or
          (codes.findSome? fun code => font.abortAt? code.code) := by
      rw [List.findSome?_cons, Option.or_assoc]
      cases font.abortAt? code.code <;> rfl
    rw [placed_cons, Font.glyphAdvance_eq, Font.extent_cons, Transform.shift_andThen_shift_andThen,
      ends]
    simp [DrawingState.advance, zero]

end Recording

/-! ## Operators that show strings -/

/-- The operator that shows a string. -/
def Operator.shows {α : Type} (bytes : Bytes) : Operator α := ⟨"Tj", [.string bytes]⟩

/-- The operator that shows strings one behind the other. -/
def Operator.showsBoth {α : Type} (first second : Bytes) : Operator α :=
  ⟨"TJ", [.array [.string first, .string second]]⟩

section

variable {α : Type} [Scalar α]

namespace Recording

theorem showCodes_append (normalForm : NormalForm) (font : Font α) (recording : Recording α)
    (first second : List CharCode) :
    (recording.showCodes normalForm font first).showCodes normalForm font second =
      recording.showCodes normalForm font (first ++ second) :=
  List.foldl_append.symm

theorem showCodes_params (normalForm : NormalForm) (font : Font α) (recording : Recording α)
    (codes : List CharCode) :
    (recording.showCodes normalForm font codes).drawing.params = recording.drawing.params :=
  showCodes_keeps (fun later => later.drawing.params = recording.drawing.params)
    (fun _ _ same => same) rfl codes

/-- How many operators were counted does not matter for what is shown. -/
theorem showCodes_counted (normalForm : NormalForm) (font : Font α) (recording : Recording α)
    (codes : List CharCode) (executed : Nat) :
    { recording.showCodes normalForm font codes with executed } =
      ({ recording with executed } : Recording α).showCodes normalForm font codes := by
  unfold showCodes
  induction codes generalizing recording with
  | nil => rfl
  | cons code codes ih => exact ih (recording.showCode normalForm font code)

/-- A recording in which some operators have been begun in a font, and some warnings raised. -/
def begun (recording : Recording α) (count : Nat) (raised : Array Warning) (font : Font α) :
    Recording α :=
  { recording.noting font.abort? with
    executed := recording.executed + count
    warnings := recording.warnings ++ raised }

omit [Scalar α] in
theorem noting_eq_self {abort? : Option FontAbort} {recording : Recording α} :
    recording.noting abort? = recording ↔ recording.abort?.or abort? = recording.abort? := by
  refine ⟨fun same => congrArg Recording.abort? same, fun same => ?_⟩
  unfold noting
  rw [same]

omit [Scalar α] in
theorem noting_begun (recording : Recording α) (count : Nat) (raised : Array Warning)
    (font : Font α) :
    (recording.begun count raised font).noting font.abort? = recording.begun count raised font := by
  apply noting_eq_self.mpr
  unfold begun noting
  rw [Option.or_assoc, Option.or_self]

/-- What a font ends the program with need not be noted again behind its codes. -/
theorem noting_showCodes {abort? : Option FontAbort} {recording : Recording α}
    (noted : recording.noting abort? = recording) (normalForm : NormalForm) (font : Font α)
    (codes : List CharCode) :
    (recording.showCodes normalForm font codes).noting abort? =
      recording.showCodes normalForm font codes := by
  refine showCodes_keeps (fun later => later.noting abort? = later) (fun later code same => ?_)
    noted codes
  rw [noting_eq_self] at same ⊢
  unfold showCode
  cases ended : later.abort? with
  | some cause => rfl
  | none =>
    rw [ended, Option.none_or] at same
    rw [same, Option.or_none]

end Recording

namespace Action

theorem ofOperator_shows (bytes : Bytes) :
    ofOperator (.shows bytes : Operator α) = [showText bytes] := rfl

theorem ofOperator_showsBoth (first second : Bytes) :
    ofOperator (.showsBoth first second : Operator α) = [showText first, showText second] := rfl

end Action

namespace Interpreter

variable {interpreter : Interpreter} {runStream : Dictionary → Bytes → Interpretation α Unit}
  {resources : Dictionary} {index : Nat} {table table' : FontTable α} {start : Recording α}
  {name : String} {font : Font α} {raised : Array Warning} {first : Bytes}

/-- The font of a name: the one that was used before, or else the one of the resources. -/
def fontFor (interpreter : Interpreter) (resources : Dictionary) (table : FontTable α)
    (name : String) : Font α :=
  (table[name]?).getD (interpreter.fontNamed resources name)

theorem findFont_of_used (used : table[name]? = some font) :
    interpreter.findFont resources index table name start = .ok (font, table) start := by
  unfold findFont
  rw [used]
  rfl

theorem useFont_of_used (used : table[name]? = some font) :
    interpreter.useFont resources index table name start =
      .ok (font, table) (start.noting font.abort?) :=
  bind_of_ok (findFont_of_used used)

/-- What comes of looking up a font by its name: it is found from then on, and some warnings may be
raised. -/
structure Finds (interpreter : Interpreter) (resources : Dictionary) (index : Nat)
    (table : FontTable α) (name : String) (font : Font α) (table' : FontTable α)
    (raised : Array Warning) : Prop where
  look : ∀ start, interpreter.findFont resources index table name start =
    .ok (font, table') { start with warnings := start.warnings ++ raised }
  known : table'[name]? = some font

/-- Using it notes what loading it ended the program with. -/
theorem Finds.use (finds : interpreter.Finds resources index table name font table' raised)
    (start : Recording α) :
    interpreter.useFont resources index table name start =
      .ok (font, table') (start.begun 0 raised font) :=
  bind_of_ok (finds.look start)

/-- A name is always looked up to the font that the course has for it, whether that is entered,
loaded or missing. -/
theorem exists_finds (interpreter : Interpreter) (resources : Dictionary) (index : Nat)
    (table : FontTable α) (name : String) :
    ∃ (table' : FontTable α) (raised : Array Warning), interpreter.Finds resources index table name
      (interpreter.fontFor resources table name) table' raised := by
  have inserted (font : Font α) : (table.insert name font)[name]? = some font :=
    Std.HashMap.getElem?_insert_self
  unfold fontFor fontNamed
  cases used : table[name]? with
  | some font => exact ⟨table, #[], fun _ => findFont_of_used used, used⟩
  | none =>
    cases own : interpreter.fontDictionary? resources name with
    | some dictionary =>
      refine ⟨_, #[], fun _ => ?_, inserted _⟩
      unfold findFont
      rw [used, own]
      rfl
    | none =>
      obtain ⟨raised, warned⟩ := exists_warn interpreter
        ((Warning.of .missingFont "font not found in page resources").atOperator index name)
      refine ⟨_, raised, fun start => ?_, inserted _⟩
      unfold findFont
      rw [used, own]
      exact bind_of_ok (warned start)

theorem perform_showText_begun (selected : start.drawing.params.font? = some name)
    (finds : interpreter.Finds resources index table name font table' raised) (bytes : Bytes) :
    interpreter.perform runStream resources index table (.showText bytes)
        { start with executed := start.executed + 1 } =
      .ok table' ((start.begun 1 raised font).showCodes interpreter.options.normalForm font
        (font.codes bytes)) := by
  have selected' : ({ start with executed := start.executed + 1 } :
      Recording α).drawing.params.font? = some name := selected
  rw [perform_showText selected' (finds.use _)]
  rfl

/-- Showing goes on where it stopped, in a font that has been found. -/
theorem perform_showText_behind (selected : start.drawing.params.font? = some name)
    (known : table[name]? = some font) (noted : start.noting font.abort? = start)
    (apart : font.isComposite = false ∨ Even first.length)
    (second : Bytes) :
    interpreter.perform runStream resources index table (.showText second)
        (start.showCodes interpreter.options.normalForm font (font.codes first)) =
      .ok table
        (start.showCodes interpreter.options.normalForm font (font.codes (first ++ second))) := by
  have selected' : (start.showCodes interpreter.options.normalForm font
      (font.codes first)).drawing.params.font? = some name := by
    rw [Recording.showCodes_params, selected]
  rw [perform_showText selected' (useFont_of_used known), Recording.noting_showCodes noted,
    Recording.showCodes_append, Font.codes_append apart]

theorem runOperators_shows_once (bounded : start.executed < interpreter.options.maxOperators)
    (selected : start.drawing.params.font? = some name)
    (finds : interpreter.Finds resources index table name font table' raised) (bytes : Bytes)
    (operators : List (Operator α)) :
    interpreter.runOperators runStream resources index table (.shows bytes :: operators) start =
      interpreter.runOperators runStream resources (index + 1) table' operators
        ((start.begun 1 raised font).showCodes interpreter.options.normalForm font
          (font.codes bytes)) := by
  refine runOperators_cons bounded ?_
  rw [Action.ofOperator_shows, List.foldlM_cons,
    bind_of_ok (perform_showText_begun selected finds bytes)]
  rfl

/-- One operator that shows two strings in a row shows their codes in one run, if the font takes
them apart where the strings meet. -/
theorem runOperators_shows_both (bounded : start.executed < interpreter.options.maxOperators)
    (selected : start.drawing.params.font? = some name)
    (finds : interpreter.Finds resources index table name font table' raised)
    (apart : font.isComposite = false ∨ Even first.length) (second : Bytes)
    (operators : List (Operator α)) :
    interpreter.runOperators runStream resources index table
        (.showsBoth first second :: operators) start =
      interpreter.runOperators runStream resources (index + 1) table' operators
        ((start.begun 1 raised font).showCodes interpreter.options.normalForm font
          (font.codes (first ++ second))) := by
  have selected' : (start.begun 1 raised font).drawing.params.font? = some name := selected
  refine runOperators_cons bounded ?_
  rw [Action.ofOperator_showsBoth, List.foldlM_cons,
    bind_of_ok (perform_showText_begun selected finds first), List.foldlM_cons,
    bind_of_ok (perform_showText_behind selected' finds.known (Recording.noting_begun _ _ _ _)
      apart second)]
  rfl

/-- Two operators that show a string each do the same. The second one finds the font that the first
one entered, so no warning is raised twice. -/
theorem runOperators_shows_twice
    (bounded : start.executed + 1 < interpreter.options.maxOperators)
    (selected : start.drawing.params.font? = some name)
    (finds : interpreter.Finds resources index table name font table' raised)
    (apart : font.isComposite = false ∨ Even first.length) (second : Bytes)
    (operators : List (Operator α)) :
    interpreter.runOperators runStream resources index table
        (.shows first :: .shows second :: operators) start =
      interpreter.runOperators runStream resources (index + 2) table' operators
        ((start.begun 2 raised font).showCodes interpreter.options.normalForm font
          (font.codes (first ++ second))) := by
  have selected' : (start.begun 2 raised font).drawing.params.font? = some name := selected
  have counted := showCodes_executed interpreter.options.normalForm font (start.begun 1 raised font)
    (font.codes first)
  rw [runOperators_shows_once (by omega) selected finds]
  -- the second operator is counted behind the first string, which makes no difference to it
  refine runOperators_cons (by rwa [counted]) ?_
  rw [Recording.showCodes_counted, counted, Action.ofOperator_shows, List.foldlM_cons]
  exact bind_of_ok (perform_showText_behind selected' finds.known (Recording.noting_begun _ _ _ _)
      apart second)

end Interpreter

end

namespace Interpreter

/-- **Strings are shown by the advance formula, and in one part as in two.** With the selected font
each code of a string is recorded where the widths, spacings and scaling of the codes before it have
moved the text matrix, and the state is left behind the last code. A string that is shown in two
parts, by one operator or by two, shows the same if the font does not take its bytes apart
differently. -/
theorem runOperators_shows (interpreter : Interpreter)
    (runStream : Dictionary → Bytes → Interpretation ℝ Unit) (resources : Dictionary) (index : Nat)
    (table : FontTable ℝ) {start : Recording ℝ} {name : String}
    (selected : start.drawing.params.font? = some name) :
    let font := interpreter.fontFor resources table name
    ∃ (table' : FontTable ℝ) (raised : Array Warning),
      let after (bytes : Bytes) (count : Nat) : Recording ℝ :=
        { (start.noting font.abort?).shown interpreter.options.normalForm font
            (font.codes bytes) with
          executed := start.executed + count
          warnings := start.warnings ++ raised }
      interpreter.useFont resources index table name start =
        .ok (font, table')
          { start.noting font.abort? with warnings := start.warnings ++ raised } ∧
      (∀ bytes operators, start.executed < interpreter.options.maxOperators →
        interpreter.runOperators runStream resources index table (.shows bytes :: operators) start =
          interpreter.runOperators runStream resources (index + 1) table' operators
            (after bytes 1)) ∧
      ∀ first second operators, font.isComposite = false ∨ Even first.length →
        (start.executed < interpreter.options.maxOperators →
          interpreter.runOperators runStream resources index table
              (.showsBoth first second :: operators) start =
            interpreter.runOperators runStream resources (index + 1) table' operators
              (after (first ++ second) 1)) ∧
        (start.executed + 1 < interpreter.options.maxOperators →
          interpreter.runOperators runStream resources index table
              (.shows first :: .shows second :: operators) start =
            interpreter.runOperators runStream resources (index + 2) table' operators
              (after (first ++ second) 2)) := by
  intro font
  obtain ⟨table', raised, finds⟩ := exists_finds interpreter resources index table name
  refine ⟨table', raised, ?_⟩
  intro after
  have complete (bytes : Bytes) (count : Nat) : after bytes count =
      (start.begun count raised font).showCodes interpreter.options.normalForm font
        (font.codes bytes) := by
    rw [Recording.showCodes_eq]
    rfl
  simp only [complete]
  exact ⟨finds.use start, fun bytes operators bounded =>
    runOperators_shows_once bounded selected finds bytes operators,
    fun first second operators apart =>
      ⟨fun bounded => runOperators_shows_both bounded selected finds apart second operators,
        fun bounded => runOperators_shows_twice bounded selected finds apart second operators⟩⟩

/-- Two codes of two bytes and a blank of a single byte, shown by one operator and by two. -/
theorem runOperators_shows_pairs :
    let interpreter : Interpreter := ⟨.empty [], .standard⟩
    let font : Font ℝ := ⟨.standard "F", .composite ∅ 1000, none, none, none⟩
    let table : FontTable ℝ := (∅ : FontTable ℝ).insert "F" font
    let drawing : DrawingState ℝ :=
      ⟨.shift 10 0, ⟨1, 3, 50, 0, some "F", 12, 2, .fill⟩, [], .shift 100 200, .identity, true⟩
    let start : Recording ℝ := ⟨drawing, 0, #[], #[], none⟩
    let run := fun operators =>
      interpreter.runOperators (interpreter.runStream 11) [] 0 table operators start
    start.drawing.params.font? = some "F" ∧ Even ([0, 65] : Bytes).length ∧
      ∃ recording recording', run [.showsBoth [0, 65] [0, 66, 32]] = .ok () recording ∧
        run [.shows [0, 65], .shows [0, 66, 32]] = .ok () recording' ∧
        recording'.glyphs = recording.glyphs ∧ recording'.drawing = recording.drawing ∧
        recording.glyphs.toList.map GlyphEvent.trm =
          [⟨6, 0, 0, 12, 110, 202⟩, ⟨6, 0, 0, 12, 116.5, 202⟩, ⟨6, 0, 0, 12, 123, 202⟩] ∧
        recording.drawing = { drawing with textMatrix := .shift 121 200 } := by
  intro interpreter font table drawing start run
  have selected : start.drawing.params.font? = some "F" := rfl
  have even : Even ([0, 65] : Bytes).length := by decide
  have known : interpreter.fontFor [] table "F" = font := by
    unfold fontFor
    rw [Std.HashMap.getElem?_insert_self]
    rfl
  obtain ⟨table', raised, -, -, both⟩ :=
    runOperators_shows interpreter (interpreter.runStream 11) [] 0 table selected
  obtain ⟨one, two⟩ := both [0, 65] [0, 66, 32] [] (.inr even)
  rw [known] at one two
  have codes : font.codes ([0, 65] ++ [0, 66, 32]) = [⟨65, 2⟩, ⟨66, 2⟩, ⟨32, 1⟩] := rfl
  have width (code : UInt32) : font.width code = 1 := by
    unfold Font.width Font.rawWidth
    norm_num [font]
  have scale : drawing.params.scale = 1 / 2 := by
    norm_num [drawing, TextParams.scale]
  have wide (code : UInt32) : font.advance drawing.params ⟨code, 2⟩ = 13 / 2 := by
    norm_num [Font.advance, width, scale, drawing]
  have blank : font.advance drawing.params ⟨32, 1⟩ = 8 := by
    norm_num [Font.advance, width, scale, drawing]
  have line : drawing.textMatrix.andThen drawing.ctm = .shift 110 200 := by
    norm_num [drawing, Transform.shift_andThen_shift]
  have glyph (x : ℝ) : (⟨12 * drawing.params.scale, 0, 0, 12, 0, 2⟩ : Transform ℝ).andThen
      ((Transform.shift x 0).andThen (drawing.textMatrix.andThen drawing.ctm)) =
        ⟨6, 0, 0, 12, x + 110, 202⟩ := by
    rw [scale, line, Transform.shift_andThen_shift]
    norm_num [Transform.andThen, Transform.shift]
  refine ⟨selected, even, _, _, one (by decide), two (by decide), rfl, rfl, ?_, ?_⟩
  · change (start.shown interpreter.options.normalForm font (font.codes _)).glyphs.toList.map _ = _
    rw [codes]
    norm_num [Recording.shown, Recording.placed, start, Font.extent, wide, glyph]
  · change (start.shown interpreter.options.normalForm font (font.codes _)).drawing = _
    have all : font.extent drawing.params [⟨65, 2⟩, ⟨66, 2⟩, ⟨32, 1⟩] = 21 := by
      norm_num [Font.extent, wide, blank]
    have moved : (Transform.shift (21 : ℝ) 0).andThen (.shift 100 200) = .shift 121 200 := by
      rw [Transform.shift_andThen_shift]
      norm_num
    rw [codes]
    unfold Recording.shown
    dsimp only [start]
    rw [all, moved]

end Interpreter

end PlacedText
