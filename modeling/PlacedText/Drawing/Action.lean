import PlacedText.Content.Operand
import PlacedText.Drawing.State

/-! # What operators do

An operator stands for a sequence of elementary actions. The compound text operators are written out
in terms of the simple ones; an operator that is unknown or lacks an operand does nothing, or what
it can do without it.
-/

namespace PlacedText

variable {α : Type} [Scalar α]

/-- An elementary action of a content stream. -/
inductive Action (α : Type) where
  | change (change : Change α)
  | selectFont (name : String) (size : α)
  /-- Shows a string. -/
  | showText (bytes : Bytes)
  /-- Draws an external object. -/
  | invoke (name : String)

namespace Action

/-- Sets a text parameter to the first operand. -/
def setFirst (parameter : TextParameter) (operator : Operator α) : List (Action α) :=
  ((operator.number? 0).map fun value => change (.set parameter value)).toList

/-- Shows the last operand. -/
def showLast (operator : Operator α) : List (Action α) :=
  ((operator.operands.getLast? >>= Operand.string?).map showText).toList

/-- Moves the line by the first two operands, after what the second of them calls for. -/
def moveLine (before : α → List (Action α)) (operator : Operator α) : List (Action α) :=
  match operator.number? 0, operator.number? 1 with
  | some x, some y => before y ++ [change (.moveLine x y)]
  | _, _ => []

/-- What the first six operands, as a transform, call for. -/
def withTransform (action : Transform α → Change α) (operator : Operator α) : List (Action α) :=
  match operator.sixNumbers? >>= Transform.ofList? with
  | some t => [change (action t)]
  | none => []

/-- Shows the strings of an array and adjusts the position by its numbers. -/
def showItems (items : List (Operand α)) : List (Action α) :=
  items.filterMap fun item =>
    match item with
    | .string bytes => some (showText bytes)
    | .number amount => some (change (.adjust amount))
    | _ => none

/-- The actions of an operator. -/
def ofOperator (operator : Operator α) : List (Action α) :=
  match operator.name with
  | "q" => [change .save]
  | "Q" => [change .restore]
  | "cm" => withTransform .concat operator
  | "BT" => [change .beginText]
  | "ET" => [change .endText]
  | "Tf" =>
    match operator.operands.head? >>= Operand.name?, operator.number? 1 with
    | some name, some size => [selectFont name size]
    | _, _ => []
  | "Tm" => withTransform .setTextMatrix operator
  | "Td" => moveLine (fun _ => []) operator
  | "TD" => moveLine (fun y => [change (.set .leading (-y))]) operator
  | "T*" => [change .nextLine]
  | "Tc" => setFirst .charSpacing operator
  | "Tw" => setFirst .wordSpacing operator
  | "Tz" => setFirst .scaling operator
  | "TL" => setFirst .leading operator
  | "Ts" => setFirst .rise operator
  | "Tr" =>
    match operator.number? 0 >>= fun value =>
        RenderMode.ofInt? (Scalar.clampToInt (-0x8000000000000000) 0x7fffffffffffffff value) with
    | some mode => [change (.setRenderMode mode)]
    | none => []
  | "Tj" => showLast operator
  | "'" => change .nextLine :: showLast operator
  | "\"" =>
    let spacing := match operator.number? 0, operator.number? 1 with
      | some word, some char =>
        [change (.set .wordSpacing word), change (.set .charSpacing char)]
      | _, _ => []
    spacing ++ change .nextLine :: showLast operator
  | "TJ" =>
    match operator.operands.head? with
    | some (.array items) => showItems items
    | _ => []
  | "Do" => ((operator.operands.head? >>= Operand.name?).map invoke).toList
  | _ => []

end Action

end PlacedText
