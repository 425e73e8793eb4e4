import PlacedText.Angle.Histogram

/-! # Orientation clusters

Angles that lie close together count as one orientation of the text. Each cluster has an anchor
angle and owns a band of angles around it.
-/

namespace PlacedText

variable {α : Type} [Scalar α]

/-- The orientations of the text on a page: anchors in ascending order of the angle, each with the
weight of the angles merged into it, and the distance below which angles merge. -/
structure Clusters (α : Type) where
  anchors : List (WeightedAngle α)
  threshold : α

namespace Clusters

/-- The position of the anchor nearest to an angle among those closer than the threshold, the first
one on a tie. -/
def nearestWithin? (threshold : α) (angle : α) (anchors : List (WeightedAngle α)) : Option Nat :=
  let distances := anchors.zipIdx.map fun (anchor, index) =>
    (Angle.distance anchor.angle angle, index)
  (Scalar.firstMinOn? Prod.fst (distances.filter fun (far, _) => far < threshold)).map Prod.snd

/-- An entry gives its weight to the nearest anchor within the threshold, which stays where it is;
without one it becomes a new anchor. -/
def merge (threshold : α) (anchors : List (WeightedAngle α)) (entry : WeightedAngle α) :
    List (WeightedAngle α) :=
  match nearestWithin? threshold entry.angle anchors with
  | some index =>
    anchors.modify index fun anchor => { anchor with weight := anchor.weight + entry.weight }
  | none => anchors ++ [entry]

/-- Merges the buckets of a histogram, the heaviest first and the lower angle first on a tie. -/
def ofHistogram (histogram : Histogram α) (threshold : α) : Clusters α where
  anchors := Scalar.sortOn WeightedAngle.angle <|
    (Scalar.sortOnDescending WeightedAngle.weight histogram.entries).foldl (merge threshold) []
  threshold

/-- One cluster without weight, for a page whose text does not tell how it is oriented. -/
def single (angle threshold : α) : Clusters α where
  anchors := [⟨Angle.normalize angle, 0.0⟩]
  threshold

def angles (clusters : Clusters α) : List α := clusters.anchors.map WeightedAngle.angle

def weights (clusters : Clusters α) : List α := clusters.anchors.map WeightedAngle.weight

def size (clusters : Clusters α) : Nat := clusters.anchors.length

def isEmpty (clusters : Clusters α) : Bool := clusters.anchors.isEmpty

/-- The band `[left, right)` of a cluster: on each side it reaches half way to the next anchor, or
as far as the threshold where there is none. -/
def limits? (clusters : Clusters α) (index : Nat) : Option (α × α) :=
  clusters.angles[index]?.map fun angle =>
    let before? := if index = 0 then none else clusters.angles[index - 1]?
    let left := match before? with
      | some before => (before + angle) / 2.0
      | none => angle - clusters.threshold
    let right := match clusters.angles[index + 1]? with
      | some after => (angle + after) / 2.0
      | none => angle + clusters.threshold
    (left, right)

/-- Whether an angle lies in the band of the cluster at an index. Angles are compared relative to
the anchor, so that a band may reach past half a turn. -/
def covers (clusters : Clusters α) (angle : α) (index : Nat) : Bool :=
  match clusters.angles[index]?, clusters.limits? index with
  | some anchor, some (left, right) =>
    let offset := Angle.difference angle anchor
    offset ≥ left - anchor && offset < right - anchor
  | _, _ => false

/-- The cluster whose band holds an angle, the first one if there are several. An angle outside
every band goes to the nearest anchor. -/
def bandOf? (clusters : Clusters α) (angle : α) : Option Nat :=
  let direction := Angle.normalize angle
  match (List.range clusters.size).find? (clusters.covers direction) with
  | some index => some index
  | none =>
    (Scalar.firstMinOn? (fun (anchor, _) => Angle.distance anchor direction)
      clusters.angles.zipIdx).map Prod.snd

end Clusters

end PlacedText
