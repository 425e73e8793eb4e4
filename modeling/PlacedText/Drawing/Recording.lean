import PlacedText.Content.Stream
import PlacedText.Drawing.Action
import PlacedText.Fault.Warning
import PlacedText.Font.Basic
import PlacedText.Options.Basic
import PlacedText.Store.PageContent

/-! # Recording what a page shows

The operators of a page are executed in order, and every glyph that is shown is recorded with the
transform it is drawn by. Forms are executed where they are invoked, up to a depth, and count
towards the number of operators that a page may execute.
-/

namespace PlacedText

variable {α : Type} [Scalar α]

/-- A glyph that is shown. -/
structure GlyphEvent (α : Type) where
  /-- The transform from the space of the glyph to that of the page. -/
  trm : Transform α
  code : UInt32
  /-- The text of the glyph in the normalization form; none if the font does not tell. -/
  unicode? : Option String
  font : FontInfo α
  fontSize : α
  /-- The advance for a font of size one. -/
  advance : α
  scale : α

/-- What the interpretation of a page has come to. -/
structure Recording (α : Type) where
  drawing : DrawingState α
  /-- The number of operators executed on the page. -/
  executed : Nat
  glyphs : Array (GlyphEvent α)
  warnings : Array Warning
  /-- What a font ended the program with. What was recorded since is of no account. -/
  abort? : Option FontAbort

namespace Recording

def start (ctm : Transform α) : Recording α := ⟨.initial ctm, 0, #[], #[], none⟩

def change (recording : Recording α) (change : Change α) : Recording α :=
  { recording with drawing := recording.drawing.apply change }

/-- Notes what a font ends the program with, unless it has ended already. -/
def noting (abort? : Option FontAbort) (recording : Recording α) : Recording α :=
  { recording with abort? := recording.abort?.or abort? }

/-- The event of showing a code with a font in a drawing state. -/
def event (normalForm : NormalForm) (font : Font α) (drawing : DrawingState α) (code : CharCode) :
    GlyphEvent α where
  trm := drawing.renderingMatrix
  code := code.code
  unicode? := (font.readText code.code).toOption.join.map normalForm.apply
  font := font.info
  fontSize := drawing.params.fontSize
  advance := font.width code.code
  scale := drawing.params.scale

/-- Shows a code and moves on by its advance. -/
def showCode (normalForm : NormalForm) (font : Font α) (recording : Recording α)
    (code : CharCode) : Recording α :=
  let drawing := recording.drawing
  let distance := drawing.glyphAdvance (font.width code.code) code.isWordSpace
  { recording with
    drawing := drawing.advance distance
    glyphs := recording.glyphs.push (event normalForm font drawing code)
    abort? := recording.abort?.or (font.abortAt? code.code) }

/-- Shows the codes of a string. -/
def showCodes (normalForm : NormalForm) (font : Font α) (recording : Recording α)
    (codes : List CharCode) : Recording α :=
  codes.foldl (showCode normalForm font) recording

end Recording

/-- A computation that records a page. What was recorded before a fault stays. -/
abbrev Interpretation (α β : Type) := EStateM ReadFault (Recording α) β

/-- The fonts that a content stream has used so far, by their resource names. -/
abbrev FontTable (α : Type) := Std.HashMap String (Font α)

/-- What does not change while a page is interpreted. -/
structure Interpreter where
  store : Store
  options : ExtractOptions

namespace Interpreter

/-- Records a warning, if warnings are collected. -/
def warn (interpreter : Interpreter) (warning : Warning) : Interpretation α Unit :=
  modify fun recording =>
    if interpreter.options.collectWarnings then
      { recording with warnings := recording.warnings.push warning }
    else recording

/-- The dictionary of a font among some resources. -/
def fontDictionary? (interpreter : Interpreter) (resources : Dictionary) (name : String) :
    Option Dictionary := do
  let fonts ← interpreter.store.dictionary? resources "Font"
  interpreter.store.dictionary? fonts name

/-- Finds the font of a resource name, and the fonts used so far with it. A font that is missing is
reported the first time that a content stream uses it, and has a stand-in. -/
def findFont (interpreter : Interpreter) (resources : Dictionary) (operator : Nat)
    (fonts : FontTable α) (name : String) : Interpretation α (Font α × FontTable α) := do
  match fonts[name]? with
  | some font => return (font, fonts)
  | none =>
    match interpreter.fontDictionary? resources name with
    | some dictionary =>
      let font := Font.ofDictionary interpreter.store dictionary name
      return (font, fonts.insert name font)
    | none =>
      let warning := Warning.of .missingFont "font not found in page resources"
      interpreter.warn (warning.atOperator operator name)
      let font := Font.fallback name
      return (font, fonts.insert name font)

/-- Finds a font that is used, and notes what loading it ended the program with. -/
def useFont (interpreter : Interpreter) (resources : Dictionary) (operator : Nat)
    (fonts : FontTable α) (name : String) : Interpretation α (Font α × FontTable α) := do
  let (font, fonts) ← interpreter.findFont resources operator fonts name
  modify (Recording.noting font.abort?)
  return (font, fonts)

/-- The stream of an external object among some resources. -/
def externalObject? (interpreter : Interpreter) (resources : Dictionary) (name : String) :
    Option (Dictionary × Bytes) := do
  let objects ← interpreter.store.dictionary? resources "XObject"
  (← interpreter.store.value? objects name).stream?

/-- The transform that a form places its content by. -/
def formMatrix? (interpreter : Interpreter) (form : Dictionary) : Option (Transform α) := do
  let items ← interpreter.store.array? form "Matrix"
  if items.length = 6 then Transform.ofList? (← interpreter.store.numbers? items) else none

/-- A fault of a content stream as a fault of the page. -/
def malformed (fault : SyntaxFault) : ReadFault := .content (.malformed fault)

/-- The fault of executing too many operators. -/
def overBudget (interpreter : Interpreter) (executed : Nat) : ReadFault :=
  .process (.limitExceeded "max_operators_per_page" interpreter.options.maxOperators executed)

/-- Counts an operator; it is a fault to execute more of them than the page may. -/
def charge (interpreter : Interpreter) : Interpretation α Unit := do
  modify fun recording => { recording with executed := recording.executed + 1 }
  let executed := (← get).executed
  if executed > interpreter.options.maxOperators then throw (interpreter.overBudget executed)

/-- Executes the content of a form. The drawing state is saved before and restored after it, and
the resources are its own, or else those of the stream that invokes it. -/
def runForm (interpreter : Interpreter)
    (runStream : Dictionary → Bytes → Interpretation α Unit) (resources : Dictionary)
    (form : Dictionary) (data : Bytes) : Interpretation α Unit := do
  match interpreter.store.decoded form data with
  | .error fault => throw (.object fault)
  | .ok content =>
    let own := (interpreter.store.dictionary? form "Resources").getD resources
    modify fun recording => recording.change .save
    match interpreter.formMatrix? form with
    | some t => modify fun recording => recording.change (.concat t)
    | none => pure ()
    runStream own content
    modify fun recording => recording.change .restore

/-- Draws an external object. Only forms are drawn; one that is missing is reported. -/
def invoke (interpreter : Interpreter)
    (runStream : Dictionary → Bytes → Interpretation α Unit) (resources : Dictionary)
    (name : String) : Interpretation α Unit := do
  match interpreter.externalObject? resources name with
  | none => interpreter.warn (.of .malformedObject s!"XObject /{name} not found in resources")
  | some (entries, data) =>
    if (entries.find? "Subtype" >>= Object.name?) = some (Text.Utf8.encode "Form") then
      interpreter.runForm runStream resources entries data

/-- Performs an action. Nothing is shown before a font has been selected. -/
def perform (interpreter : Interpreter)
    (runStream : Dictionary → Bytes → Interpretation α Unit) (resources : Dictionary)
    (operator : Nat) (fonts : FontTable α) (action : Action α) :
    Interpretation α (FontTable α) := do
  match action with
  | .change change =>
    modify fun recording => recording.change change
    return fonts
  | .selectFont name size =>
    modify fun recording =>
      { recording with drawing := recording.drawing.selectFont name size }
    return (← interpreter.useFont resources operator fonts name).2
  | .showText bytes =>
    match (← get).drawing.params.font? with
    | none => return fonts
    | some name =>
      let (font, fonts) ← interpreter.useFont resources operator fonts name
      modify fun recording =>
        recording.showCodes interpreter.options.normalForm font (font.codes bytes)
      return fonts
  | .invoke name =>
    interpreter.invoke runStream resources name
    return fonts

/-- Executes an operator: counts it and performs its actions. -/
def execute (interpreter : Interpreter)
    (runStream : Dictionary → Bytes → Interpretation α Unit) (resources : Dictionary)
    (index : Nat) (fonts : FontTable α) (operator : Operator α) :
    Interpretation α (FontTable α) := do
  interpreter.charge
  (Action.ofOperator operator).foldlM (interpreter.perform runStream resources index) fonts

/-- Executes operators, the first of which has the given position in its stream. -/
def runOperators (interpreter : Interpreter)
    (runStream : Dictionary → Bytes → Interpretation α Unit) (resources : Dictionary) :
    (index : Nat) → FontTable α → List (Operator α) → Interpretation α Unit
  | _, _, [] => pure ()
  | index, fonts, operator :: operators => do
    let fonts ← interpreter.execute runStream resources index fonts operator
    runOperators interpreter runStream resources (index + 1) fonts operators

/-- The operators of a content stream, with the numbers that they are computed with. -/
def operators (content : Bytes) : Except SyntaxFault (List (Operator α)) :=
  (Content.operators content).map fun operators => operators.map (Operator.map Numeral.value)

/-- Executes a content stream in which forms may nest to so many further levels. -/
def runStream (interpreter : Interpreter) :
    (levels : Nat) → Dictionary → Bytes → Interpretation α Unit
  | 0, _, _ =>
    let limit := interpreter.options.maxDepth
    throw (.content (.formsTooDeep (limit + 1) limit))
  | levels + 1, resources, content =>
    match operators content with
    | .error fault => throw (malformed fault)
    | .ok operators =>
      interpreter.runOperators (interpreter.runStream levels) resources 0 ∅ operators

/-- Executes the content of a page. -/
def runPage (interpreter : Interpreter) (page : Nat) : Interpretation α Unit :=
  match interpreter.store.pageContent page with
  | .error fault => throw fault
  | .ok content =>
    match interpreter.store.pageResources page with
    | .error fault => throw fault
    | .ok resources => interpreter.runStream (interpreter.options.maxDepth + 1) resources content

end Interpreter

/-- What is recorded of a page, and the fault that ended it if there is one. -/
def Store.interpret (store : Store) (options : ExtractOptions) (page : Nat) :
    Recording α × Option ReadFault :=
  match Interpreter.runPage ⟨store, options⟩ page (Recording.start .identity) with
  | .ok _ recording => (recording, none)
  | .error fault recording => (recording, some fault)

/-- What an interpretation comes to: its recording, or what a font ended the program with, or the
fault that ended it. -/
def Recording.ended (recording : Recording α) (fault? : Option ReadFault) :
    Except ReadFault (Recording α) :=
  match recording.abort?, fault? with
  | some abort, _ => .error (.abort abort)
  | none, some fault => .error fault
  | none, none => .ok recording

end PlacedText
