/-! # Hexadecimal numbers

Reading one digit, and reading tables that are written as hexadecimal numbers.
-/

namespace PlacedText.Text

/-- The value of a hexadecimal digit of either case. -/
def hexDigit? (c : Char) : Option Nat :=
  if '0' ≤ c ∧ c ≤ '9' then some (c.toNat - '0'.toNat)
  else if 'a' ≤ c ∧ c ≤ 'f' then some (c.toNat - 'a'.toNat + 10)
  else if 'A' ≤ c ∧ c ≤ 'F' then some (c.toNat - 'A'.toNat + 10)
  else none

/-- The values of the maximal runs of hexadecimal digits, given that of the digits just read. -/
def hexRuns : Option Nat → List Char → List Nat
  | value?, [] => value?.toList
  | value?, c :: rest =>
    match hexDigit? c with
    | some digit => hexRuns (some (16 * value?.getD 0 + digit)) rest
    | none => value?.toList ++ hexRuns none rest

/-- The hexadecimal numbers in a text, whatever stands between them. -/
def hexNumbers (text : String) : List Nat := hexRuns none text.toList

/-- A list of numbers taken two by two. -/
def pairs : List Nat → List (Nat × Nat)
  | first :: second :: rest => (first, second) :: pairs rest
  | _ => []

/-- A list of numbers taken three by three. -/
def triples : List Nat → List (Nat × Nat × Nat)
  | first :: second :: third :: rest => (first, second, third) :: triples rest
  | _ => []

/-- Entries between semicolons: the first number of each, and the characters that the others
stand for. -/
def mappings (text : String) : List (Nat × List Char) :=
  (text.splitOn ";").filterMap fun entry =>
    match hexNumbers entry with
    | key :: values => some (key, values.map Char.ofNat)
    | [] => none

end PlacedText.Text
