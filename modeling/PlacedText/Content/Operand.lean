import PlacedText.Scalar.Basic
import PlacedText.Text.Utf8

/-! # Operators and their operands

A content stream is a list of operators, each behind its operands. A number is read as the decimal
that is written; what type of number computes with it is left open.
-/

namespace PlacedText

/-- A decimal: `± digits · 10 ^ -places`. -/
structure Numeral where
  negative : Bool
  digits : Nat
  places : Nat
deriving DecidableEq

namespace Numeral

/-- The number that a decimal stands for. -/
def value {α : Type} [Scalar α] (numeral : Numeral) : α :=
  let magnitude : α := OfScientific.ofScientific numeral.digits true numeral.places
  if numeral.negative then -magnitude else magnitude

end Numeral

/-- An operand, with numbers of type `ν`. -/
inductive Operand (ν : Type) where
  | number (value : ν)
  | name (text : String)
  | string (bytes : Bytes)
  | array (items : List (Operand ν))
  | dictionary (entries : List (String × Operand ν))
  | bool (value : Bool)
  | null

/-- An operator with its operands in the order they are written in. -/
structure Operator (ν : Type) where
  name : String
  operands : List (Operand ν)

namespace Operand

variable {ν μ : Type}

mutual

/-- Changes the numbers in an operand. -/
def map (f : ν → μ) : Operand ν → Operand μ
  | number value => number (f value)
  | name text => name text
  | string bytes => string bytes
  | array items => array (mapItems f items)
  | dictionary entries => dictionary (mapEntries f entries)
  | bool value => bool value
  | null => null

def mapItems (f : ν → μ) : List (Operand ν) → List (Operand μ)
  | [] => []
  | item :: items => item.map f :: mapItems f items

def mapEntries (f : ν → μ) : List (String × Operand ν) → List (String × Operand μ)
  | [] => []
  | (key, value) :: entries => (key, value.map f) :: mapEntries f entries

end

def number? : Operand ν → Option ν
  | number value => some value
  | _ => none

def name? : Operand ν → Option String
  | name text => some text
  | _ => none

def string? : Operand ν → Option Bytes
  | string bytes => some bytes
  | _ => none

end Operand

namespace Operator

variable {ν μ : Type}

/-- Changes the numbers in the operands. -/
def map (f : ν → μ) (operator : Operator ν) : Operator μ :=
  ⟨operator.name, operator.operands.map (Operand.map f)⟩

/-- The number at a position among the operands. -/
def number? (operator : Operator ν) (index : Nat) : Option ν :=
  operator.operands[index]? >>= Operand.number?

/-- The first six operands, if they are numbers. -/
def sixNumbers? (operator : Operator ν) : Option (List ν) :=
  (List.range 6).mapM operator.number?

end Operator

end PlacedText
