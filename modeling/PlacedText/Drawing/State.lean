import PlacedText.Geometry.Transform

/-! # The drawing state

What decides where and how the next glyph is drawn: the current transform and the text parameters,
which are saved and restored together, and the text and line matrices of a text object, which are
not.
-/

namespace PlacedText

variable {α : Type} [Scalar α]

/-- How glyphs are painted. Invisible text counts as text. -/
inductive RenderMode where
  | fill
  | stroke
  | fillStroke
  | invisible
  | fillClip
  | strokeClip
  | fillStrokeClip
  | clip
deriving DecidableEq

namespace RenderMode

/-- The modes in the order of their numbers. -/
def all : List RenderMode :=
  [fill, stroke, fillStroke, invisible, fillClip, strokeClip, fillStrokeClip, clip]

/-- The mode of a number. -/
def ofInt? (number : Int) : Option RenderMode :=
  if number < 0 then none else all[number.toNat]?

end RenderMode

/-- The text parameters. -/
structure TextParams (α : Type) where
  charSpacing : α
  /-- Added behind the single-byte code 32. -/
  wordSpacing : α
  /-- Horizontal scaling in percent. -/
  scaling : α
  leading : α
  /-- The resource name of the font. -/
  font? : Option String
  fontSize : α
  rise : α
  renderMode : RenderMode

namespace TextParams

def initial : TextParams α := ⟨0.0, 0.0, 100.0, 0.0, none, 0.0, 0.0, .fill⟩

/-- Horizontal scaling as a factor. -/
def scale (params : TextParams α) : α := params.scaling / 100.0

end TextParams

structure DrawingState (α : Type) where
  /-- From the current user space to that of the page. -/
  ctm : Transform α
  params : TextParams α
  /-- Saved transforms and parameters, the last first. -/
  saved : List (Transform α × TextParams α)
  textMatrix : Transform α
  lineMatrix : Transform α
  inText : Bool

/-- The text parameters that are set to a number by an operator of their own. -/
inductive TextParameter where
  | charSpacing
  | wordSpacing
  | scaling
  | leading
  | rise
deriving DecidableEq

/-- An elementary change of the drawing state. -/
inductive Change (α : Type) where
  | save
  | restore
  /-- Puts a transform in front of the current one. -/
  | concat (t : Transform α)
  | beginText
  | endText
  | setTextMatrix (t : Transform α)
  /-- Starts a line at an offset from the start of the current one. -/
  | moveLine (x y : α)
  /-- Starts a line one leading below the current one. -/
  | nextLine
  | set (parameter : TextParameter) (value : α)
  | setRenderMode (mode : RenderMode)
  /-- Moves along the line by thousandths of the font size, to the left if they are positive. -/
  | adjust (amount : α)

namespace TextParams

def set (params : TextParams α) (parameter : TextParameter) (value : α) : TextParams α :=
  match parameter with
  | .charSpacing => { params with charSpacing := value }
  | .wordSpacing => { params with wordSpacing := value }
  | .scaling => { params with scaling := value }
  | .leading => { params with leading := value }
  | .rise => { params with rise := value }

end TextParams

namespace DrawingState

/-- The state in which a page begins, or anything else that is drawn with a transform. -/
def initial (ctm : Transform α) : DrawingState α :=
  ⟨ctm, .initial, [], .identity, .identity, false⟩

def concat (state : DrawingState α) (t : Transform α) : DrawingState α :=
  { state with ctm := t.andThen state.ctm }

def save (state : DrawingState α) : DrawingState α :=
  { state with saved := (state.ctm, state.params) :: state.saved }

/-- Goes back to what was saved last; without it nothing changes. -/
def restore (state : DrawingState α) : DrawingState α :=
  match state.saved with
  | [] => state
  | (ctm, params) :: saved => { state with ctm, params, saved }

def moveLine (state : DrawingState α) (x y : α) : DrawingState α :=
  let lineMatrix := (Transform.shift x y).andThen state.lineMatrix
  { state with lineMatrix, textMatrix := lineMatrix }

/-- Moves along the line. -/
def advance (state : DrawingState α) (x : α) : DrawingState α :=
  { state with textMatrix := (Transform.shift x 0.0).andThen state.textMatrix }

/-- The distance, in text space, that an adjustment in thousandths amounts to. -/
def adjustment (state : DrawingState α) (amount : α) : α :=
  -amount / 1000.0 * state.params.fontSize * state.params.scale

/-- The distance, in text space, from a glyph to the next, for a glyph of a width. -/
def glyphAdvance (state : DrawingState α) (width : α) (isWordSpace : Bool) : α :=
  let params := state.params
  let word := if isWordSpace then params.wordSpacing else 0.0
  (width * params.fontSize + params.charSpacing + word) * params.scale

/-- The transform from the space of the next glyph to that of the page: the size, scaling and rise
of the font, then the text matrix, then the current transform. -/
def renderingMatrix (state : DrawingState α) : Transform α :=
  let params := state.params
  let glyph : Transform α :=
    ⟨params.fontSize * params.scale, 0.0, 0.0, params.fontSize, 0.0, params.rise⟩
  (glyph.andThen state.textMatrix).andThen state.ctm

/-- What a change does. -/
def apply (state : DrawingState α) : Change α → DrawingState α
  | .save => state.save
  | .restore => state.restore
  | .concat t => state.concat t
  | .beginText => { state with textMatrix := .identity, lineMatrix := .identity, inText := true }
  | .endText => { state with inText := false }
  | .setTextMatrix t => { state with textMatrix := t, lineMatrix := t }
  | .moveLine x y => state.moveLine x y
  | .nextLine => state.moveLine 0.0 (-state.params.leading)
  | .set parameter value => { state with params := state.params.set parameter value }
  | .setRenderMode mode => { state with params := { state.params with renderMode := mode } }
  | .adjust amount => state.advance (state.adjustment amount)

/-- Selects a font by its resource name. -/
def selectFont (state : DrawingState α) (name : String) (size : α) : DrawingState α :=
  { state with params := { state.params with font? := some name, fontSize := size } }

end DrawingState

end PlacedText
