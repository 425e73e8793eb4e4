import PlacedText.Text.Hexadecimal
import PlacedText.Text.Normalization.CanonicalMappings
import PlacedText.Text.Normalization.CombiningClasses
import PlacedText.Text.Normalization.CompatibilityMappings
import Std.Data.HashMap

/-! # Unicode normalization

The four normalization forms: text is decomposed character by character, combining marks are put
into the order of their classes, and the composed forms join what canonical composition joins.
-/

namespace PlacedText

namespace Text.Normalization

/-- Canonical decompositions by code point. -/
def canonicalTable : Std.HashMap Nat (List Char) := .ofList (mappings canonicalEntries)

/-- Compatibility decompositions by code point, where they differ from the canonical ones. -/
def compatibilityTable : Std.HashMap Nat (List Char) := .ofList (mappings compatibilityEntries)

/-- Composed characters by the pairs they are composed of. -/
def compositionTable : Std.HashMap (Nat × Nat) Char :=
  .ofList <| (triples (hexNumbers compositionTriples)).map fun (first, second, composed) =>
    ((first, second), Char.ofNat composed)

/-- The ranges of characters with a combining class. -/
def combiningClassIntervals : List (Nat × Nat × Nat) :=
  triples (hexNumbers combiningClassRanges)

/-- The canonical combining class; zero for a starter. -/
def combiningClass (c : Char) : Nat :=
  let code := c.toNat
  if code < 0x300 then 0
  else
    match combiningClassIntervals.find? fun (first, last, _) => first ≤ code && code ≤ last with
    | some (_, _, value) => value
    | none => 0

/-- The Hangul syllables are arranged by formula: 19 leading consonants, 21 vowels, and 27 trailing
consonants or none. -/
def decomposeHangul? (code : Nat) : Option (List Char) :=
  if 0xac00 ≤ code ∧ code < 0xac00 + 11172 then
    let index := code - 0xac00
    let leading := Char.ofNat (0x1100 + index / 588)
    let vowel := Char.ofNat (0x1161 + index % 588 / 28)
    some (if index % 28 = 0 then [leading, vowel]
      else [leading, vowel, Char.ofNat (0x11a7 + index % 28)])
  else none

/-- A leading consonant joins a vowel, and the result joins a trailing consonant. -/
def composeHangul? (first second : Nat) : Option Char :=
  if 0x1100 ≤ first ∧ first < 0x1113 ∧ 0x1161 ≤ second ∧ second < 0x1176 then
    some (Char.ofNat (0xac00 + ((first - 0x1100) * 21 + (second - 0x1161)) * 28))
  else if 0xac00 ≤ first ∧ first < 0xac00 + 11172 ∧ (first - 0xac00) % 28 = 0 ∧
      0x11a8 ≤ second ∧ second < 0x11c3 then
    some (Char.ofNat (first + (second - 0x11a7)))
  else none

/-- The full decomposition of one character. -/
def decomposeChar (compatible : Bool) (c : Char) : List Char :=
  let code := c.toNat
  if code < 0xa0 then [c]
  else
    match decomposeHangul? code with
    | some parts => parts
    | none =>
      match if compatible then compatibilityTable[code]? else none with
      | some parts => parts
      | none => canonicalTable[code]?.getD [c]

/-- Puts one more mark behind the marks collected so far, last first: it moves in front of marks
of a higher class. -/
def insertMark (mark : Char) : List Char → List Char
  | [] => [mark]
  | last :: earlier =>
    if combiningClass mark < combiningClass last then last :: insertMark mark earlier
    else mark :: last :: earlier

/-- Orders each run of marks by combining class, marks of one class keeping their order. The marks
collected so far come last first. -/
def orderMarks (marks : List Char) : List Char → List Char
  | [] => marks.reverse
  | c :: rest =>
    if combiningClass c = 0 then marks.reverse ++ c :: orderMarks [] rest
    else orderMarks (insertMark c marks) rest

/-- The character that two characters compose to. -/
def composePair? (first second : Char) : Option Char :=
  (composeHangul? first.toNat second.toNat).or compositionTable[(first.toNat, second.toNat)]?

/-- Joins a starter with the characters behind it that are not blocked: a character is blocked when
a mark of its own class or a higher one stands between. The marks passed so far come last first. -/
def composeAfter (starter : Char) (marks : List Char) : List Char → List Char
  | [] => starter :: marks.reverse
  | c :: rest =>
    let blocked := match marks with
      | [] => false
      | last :: _ => combiningClass c ≤ combiningClass last
    match if blocked then none else composePair? starter c with
    | some composed => composeAfter composed marks rest
    | none =>
      if combiningClass c = 0 then starter :: marks.reverse ++ composeAfter c [] rest
      else composeAfter starter (c :: marks) rest

/-- Canonical composition of ordered text; marks before the first starter stay. -/
def compose : List Char → List Char
  | [] => []
  | c :: rest => if combiningClass c = 0 then composeAfter c [] rest else c :: compose rest

/-- Full decomposition with the marks in order. -/
def decompose (compatible : Bool) (text : List Char) : List Char :=
  orderMarks [] (text.flatMap (decomposeChar compatible))

end Text.Normalization

/-- A normalization form, or none. -/
inductive NormalForm where
  | none
  | nfc
  | nfd
  | nfkc
  | nfkd
deriving DecidableEq

namespace NormalForm

open Text.Normalization (compose decompose)

/-- Brings text into the form. -/
def apply (form : NormalForm) (text : String) : String :=
  let letters := text.toList
  match form with
  | .none => text
  | .nfc => String.ofList (compose (decompose false letters))
  | .nfd => String.ofList (decompose false letters)
  | .nfkc => String.ofList (compose (decompose true letters))
  | .nfkd => String.ofList (decompose true letters)

/-- The name of a form in settings. -/
def name : NormalForm → String
  | .none => "none"
  | .nfc => "nfc"
  | .nfd => "nfd"
  | .nfkc => "nfkc"
  | .nfkd => "nfkd"

/-- The form of a name. -/
def ofName? (name : String) : Option NormalForm :=
  [.none, .nfc, .nfd, .nfkc, .nfkd].find? fun form => form.name == name

end NormalForm

end PlacedText
