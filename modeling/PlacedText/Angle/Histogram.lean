import PlacedText.Angle.Basic
import PlacedText.Text.CharClass

/-! # The histogram of glyph angles

A histogram adds up the weight of the glyphs drawn in each direction, to the tenth of a degree. Its
buckets are kept in ascending order of the angle, each angle at most once.
-/

namespace PlacedText

variable {α : Type} [Scalar α]

/-- An angle in degrees and the weight of the text drawn at it. -/
structure WeightedAngle (α : Type) where
  angle : α
  weight : α

namespace Histogram

/-- The bucket of an angle: its direction in tenths of a degree, in `-1800 < key ≤ 1800`. -/
def bucketKey (degrees : α) : Int :=
  let key := Scalar.clampToInt (-1800) 1800 (Scalar.round (Angle.roundToTenth degrees * 10.0))
  if key = -1800 then 1800 else key

/-- Adds weight to the bucket of a key, which is put in its place if it is new. -/
def addAt (key : Int) (weight : α) : List (Int × α) → List (Int × α)
  | [] => [(key, 0.0 + weight)]
  | (other, present) :: rest =>
    if key < other then (key, 0.0 + weight) :: (other, present) :: rest
    else if key = other then (key, present + weight) :: rest
    else (other, present) :: addAt key weight rest

theorem mem_keys_addAt {key k : Int} {weight : α} {buckets : List (Int × α)}
    (member : k ∈ (addAt key weight buckets).map Prod.fst) :
    k = key ∨ k ∈ buckets.map Prod.fst := by
  induction buckets with
  | nil => simpa [addAt] using member
  | cons bucket rest ih =>
    obtain ⟨other, present⟩ := bucket
    simp only [addAt] at member
    split at member
    · simpa using member
    · split at member
      · next same => simp_all
      · simp only [List.map_cons, List.mem_cons] at member ⊢
        rcases member with here | later
        · exact Or.inr (Or.inl here)
        · exact (ih later).imp_right Or.inr

theorem pairwise_addAt {key : Int} {weight : α} {buckets : List (Int × α)}
    (ascending : (buckets.map Prod.fst).Pairwise (· < ·)) :
    ((addAt key weight buckets).map Prod.fst).Pairwise (· < ·) := by
  induction buckets with
  | nil => simp [addAt]
  | cons bucket rest ih =>
    obtain ⟨other, present⟩ := bucket
    simp only [List.map_cons, List.pairwise_cons] at ascending
    simp only [addAt]
    split
    · next before =>
      simp only [List.map_cons, List.pairwise_cons, List.mem_cons]
      refine ⟨fun k member => ?_, ascending⟩
      rcases member with rfl | later
      · exact before
      · exact Int.lt_trans before (ascending.1 k later)
    · split
      · next same =>
        subst same
        simpa using ascending
      · next notBefore different =>
        simp only [List.map_cons, List.pairwise_cons]
        refine ⟨fun k member => ?_, ih ascending.2⟩
        rcases mem_keys_addAt member with rfl | later
        · omega
        · exact ascending.1 k later

end Histogram

/-- Weight per direction, in ascending order of the direction in tenths of a degree. -/
structure Histogram (α : Type) where
  buckets : List (Int × α)
  ascending : (buckets.map Prod.fst).Pairwise (· < ·)

namespace Histogram

def empty : Histogram α := ⟨[], List.Pairwise.nil⟩

/-- Adds weight at an angle. A weight that is zero or negative and an angle that is not finite
leave the histogram as it is. -/
def add (histogram : Histogram α) (degrees weight : α) : Histogram α :=
  if weight ≤ 0.0 || !Scalar.isFinite degrees then histogram
  else ⟨addAt (bucketKey degrees) weight histogram.buckets, pairwise_addAt histogram.ascending⟩

/-- Whether a text tells how it is oriented: punctuation and blanks are often drawn at any angle,
so it takes a letter or a number. -/
def isSignal (text : String) : Bool := text.toList.any Text.isAlphanumeric

/-- The weight of a text is its length in UTF-16 code units. -/
def weightOf (text : String) : α := Scalar.ofNat (Text.length16 text)

/-- Adds a glyph at the angle of its baseline, if its text tells how it is oriented. -/
def addGlyph (histogram : Histogram α) (t : Transform α) (text : String) : Histogram α :=
  if isSignal text then histogram.add (Angle.ofTransform t) (weightOf text) else histogram

/-- The histogram of some weights. -/
def ofEntries (entries : List (WeightedAngle α)) : Histogram α :=
  entries.foldl (fun histogram entry => histogram.add entry.angle entry.weight) empty

def size (histogram : Histogram α) : Nat := histogram.buckets.length

def isEmpty (histogram : Histogram α) : Bool := histogram.buckets.isEmpty

/-- The buckets as angles with their weights, in ascending order of the angle. -/
def entries (histogram : Histogram α) : List (WeightedAngle α) :=
  histogram.buckets.map fun (key, weight) => ⟨Scalar.ofInt key / 10.0, weight⟩

/-- The weight in the bucket of an angle. -/
def weightAt (histogram : Histogram α) (degrees : α) : α :=
  (histogram.buckets.lookup (bucketKey degrees)).getD 0.0

def totalWeight (histogram : Histogram α) : α := Scalar.sum (histogram.buckets.map Prod.snd)

/-- The heaviest of some entries, the first of them on a tie. -/
def heaviest? (entries : List (WeightedAngle α)) : Option (WeightedAngle α) :=
  entries.foldl (fun best? entry =>
    match best? with
    | some best => if best.weight ≥ entry.weight then some best else some entry
    | none => some entry) none

/-- The heaviest bucket; on a tie the one with the lowest angle. -/
def mode? (histogram : Histogram α) : Option (WeightedAngle α) := heaviest? histogram.entries

end Histogram

end PlacedText
