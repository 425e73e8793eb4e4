import PlacedText.Scalar.Basic

/-! # Trimmed weighted means

The mean and the deviation of weighted angles after a share of the total weight has been cut from
the ends of the ordered series. A sample that a cut goes through counts with the part inside.
-/

namespace PlacedText

variable {α : Type} [Scalar α]

/-- An angle with its weight and its distance from a first estimate of the mean. -/
structure Sample (α : Type) where
  angle : α
  weight : α
  distance : α

/-- A mean and the standard deviation around it. -/
structure AngleStats (α : Type) where
  mean : α
  deviation : α

namespace TrimmedMean

/-- The shares of a series of samples, given the weight accumulated so far and whether the head cut
is behind. Samples before the head cut and behind the tail cut have none. -/
def sharesFrom (head tailLimit body : α) (accumulated : α) (inBody : Bool) :
    List (Sample α) → List (α × Sample α)
  | [] => []
  | item :: rest =>
    let reached := accumulated + item.weight
    if !inBody && reached < head then sharesFrom head tailLimit body reached false rest
    else
      let inside := if inBody then item.weight else reached - head
      if reached > tailLimit then [((inside - (reached - tailLimit)) / body, item)]
      else (inside / body, item) :: sharesFrom head tailLimit body reached true rest

/-- The share that each sample has in the body of an ordered series of total weight one, after
`head` has been cut from its front and `tail` from its end. -/
def shares (head tail : α) (series : List (Sample α)) : List (α × Sample α) :=
  let body := 1.0 - head - tail
  if body ≤ 0.0 then [] else sharesFrom head (1.0 - tail) body 0.0 false series

/-- The sum of a quantity over the body, weighted by the shares. -/
def weighted (quantity : Sample α → α → α) (parts : List (α × Sample α)) : α :=
  parts.foldl (fun total (share, item) => total + quantity item share) 0.0

/-- Mean and deviation of the body of an ordered series. -/
def ofSeries (head tail : α) (series : List (Sample α)) : AngleStats α :=
  let parts := shares head tail series
  let mean := weighted (fun item share => item.angle * share) parts
  let variance := weighted (fun item share =>
    let offset := item.angle - mean
    offset * offset * share) parts
  ⟨mean, Scalar.sqrt variance⟩

/-- Mean and deviation of at least two samples whose weights are those of a series of total weight
one. If all distances are zero the samples are ordered by angle and the quantile is cut from both
ends; otherwise they are ordered by distance and twice the quantile is cut from the far end. -/
def ofNormalized (samples : List (Sample α)) (quantile : α) : AngleStats α :=
  if quantile ≤ 0.0 then
    ⟨Scalar.sum (samples.map fun item => item.angle * item.weight), 0.0⟩
  else if samples.all fun item => item.distance == 0.0 then
    ofSeries quantile quantile (Scalar.sortOn Sample.angle samples)
  else ofSeries 0.0 (quantile * 2.0) (Scalar.sortOn Sample.distance samples)

/-- The trimmed mean of samples of any weight. No sample has mean zero, a single one is its own
mean, and samples without positive total weight have mean zero. -/
def ofSamples (samples : List (Sample α)) (quantile : α) : AngleStats α :=
  match samples with
  | [] => ⟨0.0, 0.0⟩
  | [only] => ⟨only.angle, 0.0⟩
  | _ =>
    let total := Scalar.sum (samples.map Sample.weight)
    if total ≤ 0.0 then ⟨0.0, 0.0⟩
    else
      ofNormalized (samples.map fun item => { item with weight := item.weight / total }) quantile

end TrimmedMean

namespace AngleStats

/-- Whether the angles scatter little enough to trust their mean. The tolerance grows with the
mean: about 0.28° at zero, 0.57° at 1° and 4.8° at 90°. -/
def isTight (stats : AngleStats α) : Bool :=
  stats.deviation < Scalar.sqrt ((Scalar.abs stats.mean + 0.32) * 0.25)

end AngleStats

end PlacedText
