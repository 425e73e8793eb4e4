import PlacedText.Page.Layout
import PlacedText.Proofs.Scalar.Ordered
import Mathlib.Data.List.Forall2

/-! # Reading by position

Glyphs that are sorted by position are swept from baseline to baseline, and each line is read from
left to right. The glyphs of one baseline come in the order they are drawn in, and the first of them
opens the line: what follows stays on it when its middle lies in that glyph. So two glyphs of one
baseline read alike in either order exactly when each holds the middle of the other
(`Layout.linesByPosition_swap_iff`), and a page reads the same in whatever order it is drawn once
the glyphs of a baseline are equally high (`PageText.pushRun_eq_of_perm`).
-/

namespace PlacedText

/-! ## Lists that are cut alike -/

/-- Parts that have the same keys, each key in one part only, hold the same items. -/
theorem forall₂_perm_of_flatten {β κ : Type} (key : β → κ) {parts parts' : List (List β)}
    (alike : List.Forall₂ (fun part part' => part.map key = part'.map key) parts parts')
    (apart : parts.Pairwise fun part later => ∀ item ∈ part, ∀ other ∈ later, key item ≠ key other)
    (apart' : parts'.Pairwise fun part later =>
      ∀ item ∈ part, ∀ other ∈ later, key item ≠ key other)
    (perm : parts.flatten.Perm parts'.flatten) : List.Forall₂ List.Perm parts parts' := by
  classical
  induction alike with
  | nil => exact .nil
  | @cons part part' parts parts' same _ ih =>
    obtain ⟨ahead, apart⟩ := List.pairwise_cons.mp apart
    obtain ⟨ahead', apart'⟩ := List.pairwise_cons.mp apart'
    -- the items of a part are those that have one of its keys
    have own (part : List β) (parts : List (List β)) (ahead : ∀ later ∈ parts, ∀ item ∈ part,
        ∀ other ∈ later, key item ≠ key other) :
        ((part :: parts).flatten.filter fun item => key item ∈ part.map key) = part ∧
          ((part :: parts).flatten.filter fun item => key item ∉ part.map key) = parts.flatten := by
      have inside : ∀ item ∈ part, key item ∈ part.map key := fun _ => List.mem_map_of_mem
      have outside : ∀ other ∈ parts.flatten, key other ∉ part.map key := by
        intro other member shared
        obtain ⟨later, isLater, member⟩ := List.mem_flatten.mp member
        obtain ⟨item, isItem, same⟩ := List.mem_map.mp shared
        exact ahead later isLater item isItem other member same
      rw [List.flatten_cons, List.filter_append, List.filter_append]
      constructor
      · rw [List.filter_eq_self.mpr (by simpa using inside),
          List.filter_eq_nil_iff.mpr (by simpa using outside), List.append_nil]
      · rw [List.filter_eq_nil_iff.mpr (by simpa using inside),
          List.filter_eq_self.mpr (by simpa using outside), List.nil_append]
    obtain ⟨first, others⟩ := own part parts ahead
    obtain ⟨first', others'⟩ := own part' parts' ahead'
    rw [← same] at first' others'
    refine .cons ?_ (ih apart apart' ?_)
    · rw [← first, ← first']
      exact perm.filter _
    · rw [← others, ← others']
      exact perm.filter _

variable {α : Type} [Scalar α]

/-! ## Bands -/

namespace Band

variable {glyph other : PlacedGlyph α} {band : Band α}

theorem holds_congr (same : ofGlyph glyph = ofGlyph other) :
    band.holds glyph = band.holds other := by
  obtain ⟨top, bottom⟩ := Band.mk.inj same
  unfold holds PlacedGlyph.middle
  rw [top, bottom]

theorem extend_congr (same : ofGlyph glyph = ofGlyph other) :
    band.extend glyph = band.extend other := by
  obtain ⟨top, bottom⟩ := Band.mk.inj same
  unfold extend
  rw [top, bottom]

/-- A band that is extended by a glyph holds what the glyph alone would. -/
theorem holds_extend [Scalar.Ordered α] (held : (ofGlyph glyph).holds other) :
    (band.extend glyph).holds other := by
  unfold holds ofGlyph extend at *
  simp only [Bool.and_eq_true, decide_eq_true_eq, ge_iff_le] at held ⊢
  exact ⟨Scalar.min_le_of_right_le held.1, Scalar.le_max_of_le_right held.2⟩

end Band

namespace Layout

/-! ## Lines of a sweep -/

section Sweep

variable {follows : PlacedGlyph α → PlacedGlyph α → Bool} {band : Band α} {glyph : PlacedGlyph α}
  {rest : List (PlacedGlyph α)}

omit [Scalar α] in
theorem flatten_consLine (glyph : PlacedGlyph α) (lines : List (List (PlacedGlyph α))) :
    (consLine glyph lines).flatten = glyph :: lines.flatten := by
  cases lines <;> rfl

/-- The lines keep the glyphs and their order. -/
theorem flatten_linesFrom : (linesFrom follows band glyph rest).flatten = glyph :: rest := by
  induction rest generalizing band glyph with
  | nil => rfl
  | cons next rest ih =>
    unfold linesFrom
    split
    · rw [flatten_consLine, ih]
    · rw [List.flatten_cons, ih, List.singleton_append]

/-- Every glyph is on a line, in its order. -/
theorem flatten_lines (follows : PlacedGlyph α → PlacedGlyph α → Bool)
    (glyphs : List (PlacedGlyph α)) : (lines follows glyphs).flatten = glyphs := by
  cases glyphs with
  | nil => rfl
  | cons glyph rest => exact flatten_linesFrom

/-- The first line begins with the first glyph. -/
theorem exists_linesFrom :
    ∃ line lines, linesFrom follows band glyph rest = (glyph :: line) :: lines := by
  induction rest generalizing band glyph with
  | nil => exact ⟨[], [], rfl⟩
  | cons next rest ih =>
    unfold linesFrom
    split
    · obtain ⟨line, lines, swept⟩ := @ih (band.extend next) next
      rw [swept]
      exact ⟨next :: line, lines, rfl⟩
    · exact ⟨[], _, rfl⟩

end Sweep

/-- Two lines whose glyphs have the same extents, one by one. -/
def SameExtents (line line' : List (PlacedGlyph α)) : Prop :=
  line.map Band.ofGlyph = line'.map Band.ofGlyph

omit [Scalar α] in
theorem SameExtents.bottoms {line line' : List (PlacedGlyph α)} (same : SameExtents line line') :
    line.map (fun glyph => glyph.layoutBox.bottom) =
      line'.map fun glyph => glyph.layoutBox.bottom := by
  have bottoms := congrArg (List.map Band.bottom) same
  rwa [List.map_map, List.map_map] at bottoms

omit [Scalar α] in
theorem forall₂_consLine {glyph glyph' : PlacedGlyph α} {lines lines' : List (List (PlacedGlyph α))}
    (same : Band.ofGlyph glyph = Band.ofGlyph glyph')
    (alike : List.Forall₂ SameExtents lines lines') :
    List.Forall₂ SameExtents (consLine glyph lines) (consLine glyph' lines') := by
  cases alike with
  | nil => exact .cons (congrArg (fun band => [band]) same) .nil
  | cons first others => exact .cons (congrArg₂ List.cons same first) others

/-- Glyphs are swept by their extents alone. -/
theorem forall₂_linesFrom {band : Band α} {glyph glyph' : PlacedGlyph α}
    {rest rest' : List (PlacedGlyph α)} (same : Band.ofGlyph glyph = Band.ofGlyph glyph')
    (alike : SameExtents rest rest') :
    List.Forall₂ SameExtents (linesFrom (fun _ _ => true) band glyph rest)
      (linesFrom (fun _ _ => true) band glyph' rest') := by
  induction rest generalizing band glyph glyph' rest' with
  | nil =>
    cases List.map_eq_nil_iff.mp alike.symm
    exact .cons (congrArg (fun band => [band]) same) .nil
  | cons next rest ih =>
    cases rest' with
    | nil => cases alike
    | cons next' rest' =>
      obtain ⟨here, later⟩ := List.cons.inj alike
      unfold linesFrom
      rw [Band.holds_congr here, Band.extend_congr here, here]
      split
      · exact forall₂_consLine same (ih here later)
      · exact .cons (congrArg (fun band => [band]) same) (ih here later)

/-- Lines that are told apart by heights alone begin at the same places for glyphs with the same
extents. -/
theorem forall₂_lines {glyphs glyphs' : List (PlacedGlyph α)} (alike : SameExtents glyphs glyphs') :
    List.Forall₂ SameExtents (lines (fun _ _ => true) glyphs)
      (lines (fun _ _ => true) glyphs') := by
  cases glyphs with
  | nil =>
    cases List.map_eq_nil_iff.mp alike.symm
    exact .nil
  | cons glyph rest =>
    cases glyphs' with
    | nil => cases alike
    | cons glyph' rest' =>
      obtain ⟨same, rest⟩ := List.cons.inj alike
      simp only [lines]
      rw [same]
      exact forall₂_linesFrom same rest

/-! ## Baselines -/

/-- Whether a glyph is not below another one. -/
def Above (glyph other : PlacedGlyph α) : Prop :=
  Scalar.totalLE glyph.layoutBox.bottom other.layoutBox.bottom = true

/-- Glyphs that hold their own middles and are equally high where they share a baseline. -/
structure Even (glyphs : List (PlacedGlyph α)) : Prop where
  middle : ∀ glyph ∈ glyphs, (Band.ofGlyph glyph).holds glyph = true
  height : ∀ glyph ∈ glyphs, ∀ other ∈ glyphs, glyph.layoutBox.bottom = other.layoutBox.bottom →
    glyph.layoutBox.top = other.layoutBox.top

theorem Even.of_subset {glyphs glyphs' : List (PlacedGlyph α)} (even : Even glyphs)
    (subset : glyphs' ⊆ glyphs) : Even glyphs' where
  middle glyph member := even.middle glyph (subset member)
  height glyph member other member' := even.height glyph (subset member) other (subset member')

section Baselines

variable [Scalar.Ordered α]

/-- Two lines that have no baseline in common. -/
def Apart (line later : List (PlacedGlyph α)) : Prop :=
  ∀ glyph ∈ line, ∀ other ∈ later, glyph.layoutBox.bottom ≠ other.layoutBox.bottom

/-- Of glyphs that are sorted by their baselines, those of one baseline come to one line: the extent
that is open holds every glyph which is as high as the last one, and glyphs behind the end of a line
are lower. -/
theorem pairwise_linesFrom {band : Band α} {glyph : PlacedGlyph α} {rest : List (PlacedGlyph α)}
    (even : Even (glyph :: rest)) (sorted : (glyph :: rest).Pairwise Above)
    (opened : ∀ other ∈ rest, Band.ofGlyph other = Band.ofGlyph glyph → band.holds other = true) :
    (linesFrom (fun _ _ => true) band glyph rest).Pairwise Apart := by
  induction rest generalizing band glyph with
  | nil => exact List.pairwise_singleton _ _
  | cons next rest ih =>
    obtain ⟨above, sortedRest⟩ := List.pairwise_cons.mp sorted
    obtain ⟨nextAbove, -⟩ := List.pairwise_cons.mp sortedRest
    have evenRest := even.of_subset (List.subset_cons_self glyph (next :: rest))
    -- a baseline that goes on behind the next glyph is that of the next glyph
    have between : ∀ other ∈ rest, glyph.layoutBox.bottom = other.layoutBox.bottom →
        next.layoutBox.bottom = other.layoutBox.bottom := by
      intro other member same
      have back := above next (.head _)
      unfold Above at back
      rw [same] at back
      exact Scalar.Ordered.totalLE_antisymm _ _ (nextAbove other member) back
    have isHeld (start : Band α) (held : ∀ other, Band.ofGlyph other = Band.ofGlyph next →
        (Band.ofGlyph next).holds other = true → start.holds other = true) :
        ∀ other ∈ rest, Band.ofGlyph other = Band.ofGlyph next → start.holds other = true := by
      intro other member same
      refine held other same ?_
      rw [Band.holds_congr same]
      exact even.middle next (by simp)
    unfold linesFrom
    split
    · have others := ih evenRest sortedRest
        (isHeld (band.extend next) fun other _ held => Band.holds_extend held)
      have flat : (linesFrom (fun _ _ => true) (band.extend next) next rest).flatten =
        next :: rest := flatten_linesFrom
      obtain ⟨line, lines, swept⟩ : ∃ line lines,
        linesFrom (fun _ _ => true) (band.extend next) next rest = (next :: line) :: lines :=
          exists_linesFrom
      rw [swept] at others flat ⊢
      obtain ⟨nextApart, othersApart⟩ := List.pairwise_cons.mp others
      refine List.pairwise_cons.mpr ⟨?_, othersApart⟩
      intro later isLater own isOwn other member same
      rcases List.mem_cons.mp isOwn with rfl | onLine
      · have present : other ∈ rest := by
          rw [List.flatten_cons, List.cons_append] at flat
          rw [← (List.cons.inj flat).2]
          exact List.mem_append_right _ (List.mem_flatten.mpr ⟨later, isLater, member⟩)
        exact nextApart later isLater next (.head _) other member (between other present same)
      · exact nextApart later isLater own onLine other member same
    · next left =>
      refine List.pairwise_cons.mpr ⟨?_, ih evenRest sortedRest (isHeld _ fun _ _ held => held)⟩
      intro line isLine own isGlyph other member same
      cases List.mem_singleton.mp isGlyph
      have present := List.mem_flatten.mpr ⟨line, isLine, member⟩
      rw [flatten_linesFrom] at present
      have onNext : next.layoutBox.bottom = glyph.layoutBox.bottom := by
        rcases List.mem_cons.mp present with rfl | later
        · exact same.symm
        · exact (between other later same).trans same.symm
      have extent : Band.ofGlyph next = Band.ofGlyph glyph :=
        congrArg₂ Band.mk (even.height next (by simp) glyph (by simp) onNext) onNext
      simp [opened next (by simp) extent] at left

/-- **A baseline is on one line**, if its glyphs are even. -/
theorem pairwise_lines {glyphs : List (PlacedGlyph α)} (even : Even glyphs)
    (sorted : glyphs.Pairwise Above) : (lines (fun _ _ => true) glyphs).Pairwise Apart := by
  cases glyphs with
  | nil => exact .nil
  | cons glyph rest =>
    refine pairwise_linesFrom even sorted fun other member same => ?_
    rw [Band.holds_congr same]
    exact even.middle glyph (.head _)

/-- Glyphs by their baselines, as they are swept. -/
def byBaseline (glyphs : List (PlacedGlyph α)) : List (PlacedGlyph α) :=
  Scalar.sortOn (fun glyph => glyph.layoutBox.bottom) glyphs

theorem byBaseline_pairwise (glyphs : List (PlacedGlyph α)) :
    (byBaseline glyphs).Pairwise Above :=
  (Scalar.pairwise_sortOn _ (fun _ _ => True) (List.pairwise_of_forall fun _ _ => trivial)).imp
    And.left

/-- Even glyphs have their extents in one order when they are swept. -/
theorem byBaseline_sameExtents {glyphs glyphs' : List (PlacedGlyph α)} (even : Even glyphs)
    (perm : glyphs.Perm glyphs') : SameExtents (byBaseline glyphs) (byBaseline glyphs') := by
  have members : (byBaseline glyphs).Perm glyphs := Scalar.sortOn_perm _ glyphs
  have members' : (byBaseline glyphs').Perm glyphs' := Scalar.sortOn_perm _ glyphs'
  have ascending (glyphs : List (PlacedGlyph α)) :
      ((byBaseline glyphs).map Band.ofGlyph).Pairwise fun band later =>
        Scalar.totalLE band.bottom later.bottom = true :=
    List.pairwise_map.mpr (byBaseline_pairwise glyphs)
  refine List.Perm.eq_of_pairwise ?_ (ascending glyphs) (ascending glyphs')
    (((members.trans perm).trans members'.symm).map _)
  intro band band' member member' le ge
  obtain ⟨glyph, isGlyph, rfl⟩ := List.mem_map.mp member
  obtain ⟨other, isOther, rfl⟩ := List.mem_map.mp member'
  have level := Scalar.Ordered.totalLE_antisymm _ _ le ge
  have known := members.mem_iff.mp isGlyph
  have known' := perm.mem_iff.mpr (members'.mem_iff.mp isOther)
  exact congrArg₂ Band.mk (even.height glyph known other known' level) level

/-- Whether two glyphs stand at different places of a baseline or on different baselines. -/
def Elsewhere (glyph other : PlacedGlyph α) : Prop :=
  ¬(glyph.layoutBox.bottom = other.layoutBox.bottom ∧
    glyph.layoutBox.left = other.layoutBox.left)

omit [Scalar α] [Scalar.Ordered α] in
instance : Std.Symm (Elsewhere (α := α)) where
  symm _ _ elsewhere same := elsewhere ⟨same.1.symm, same.2.symm⟩

/-- Lines of the same glyphs read the same from left to right, if they come by their baselines. -/
theorem sortOn_left_eq {line line' : List (PlacedGlyph α)} (perm : line.Perm line')
    (sorted : line.Pairwise Above) (sorted' : line'.Pairwise Above)
    (places : line.Pairwise Elsewhere) :
    Scalar.sortOn (fun glyph => glyph.layoutBox.left) line =
      Scalar.sortOn (fun glyph => glyph.layoutBox.left) line' := by
  refine Scalar.sortOn_eq_of_perm _ perm sorted sorted' ?_
  intro glyph member other member' left above below
  by_contra different
  refine places.forall member member' different ⟨?_, left⟩
  exact Scalar.Ordered.totalLE_antisymm _ _ above below

/-- Even glyphs at different places have the same lines in whatever order they come. -/
theorem linesByPosition_eq_of_perm {glyphs glyphs' : List (PlacedGlyph α)} (even : Even glyphs)
    (places : glyphs.Pairwise Elsewhere) (perm : glyphs.Perm glyphs') :
    linesByPosition glyphs = linesByPosition glyphs' := by
  have members : (byBaseline glyphs).Perm glyphs := Scalar.sortOn_perm _ glyphs
  have members' : (byBaseline glyphs').Perm glyphs' := Scalar.sortOn_perm _ glyphs'
  have sorted := byBaseline_pairwise glyphs
  have sorted' := byBaseline_pairwise glyphs'
  have placed : (byBaseline glyphs).Pairwise Elsewhere :=
    places.perm members.symm fun elsewhere => Std.Symm.symm _ _ elsewhere
  have apart := pairwise_lines (even.of_subset members.subset) sorted
  have apart' := pairwise_lines (even.of_subset (members'.trans perm.symm).subset) sorted'
  have flat : (lines (fun _ _ => true) (byBaseline glyphs)).flatten.Perm
      (lines (fun _ _ => true) (byBaseline glyphs')).flatten := by
    rw [flatten_lines, flatten_lines]
    exact (members.trans perm).trans members'.symm
  have permuted := forall₂_perm_of_flatten (fun glyph => glyph.layoutBox.bottom)
    ((forall₂_lines (byBaseline_sameExtents even perm)).imp fun _ _ => SameExtents.bottoms)
    apart apart' flat
  rw [← flatten_lines (fun _ _ => true) (byBaseline glyphs)] at sorted placed
  rw [← flatten_lines (fun _ _ => true) (byBaseline glyphs')] at sorted'
  have first := (List.forall₂_and_left _ _).mpr ⟨fun line isLine =>
    And.intro ((List.pairwise_flatten.mp sorted).1 line isLine)
      ((List.pairwise_flatten.mp placed).1 line isLine), permuted⟩
  have both := (List.forall₂_and_left _ _).mpr ⟨(List.pairwise_flatten.mp sorted').1, first.flip⟩
  have read := List.forall₂_map_left_iff.mpr (List.forall₂_map_right_iff.mpr (both.flip.imp
    fun line line' ⟨sorted', ⟨sorted, placed⟩, perm⟩ => sortOn_left_eq perm sorted sorted' placed))
  rw [List.forall₂_eq_eq_eq] at read
  exact read

/-- **Two glyphs of one baseline** have the same lines in either order exactly when each holds the
middle of the other: the one that is drawn first opens the line. -/
theorem linesByPosition_swap_iff {glyph other : PlacedGlyph α}
    (level : glyph.layoutBox.bottom = other.layoutBox.bottom)
    (beside : glyph.layoutBox.left ≠ other.layoutBox.left) :
    linesByPosition [glyph, other] = linesByPosition [other, glyph] ↔
      (Band.ofGlyph glyph).holds other = true ∧ (Band.ofGlyph other).holds glyph = true := by
  have reflexive (height : α) : Scalar.totalLE height height = true := by
    simpa using Scalar.Ordered.totalLE_total height height
  have swept (first second : PlacedGlyph α)
      (level : first.layoutBox.bottom = second.layoutBox.bottom) :
      linesByPosition [first, second] = if (Band.ofGlyph first).holds second then
        [Scalar.sortOn (fun glyph => glyph.layoutBox.left) [first, second]]
      else [[first], [second]] := by
    have kept : byBaseline [first, second] = [first, second] := by
      apply List.mergeSort_of_pairwise
      simp [level, reflexive]
    change (lines (fun _ _ => true) (byBaseline [first, second])).map _ = _
    rw [kept]
    simp only [lines, linesFrom, Bool.and_true]
    split <;> simp [consLine, Scalar.sortOn]
  have different : glyph ≠ other := by
    rintro rfl
    exact beside rfl
  rw [swept glyph other level, swept other glyph level.symm]
  split <;> split
  · next held held' =>
    refine iff_of_true (congrArg (fun line => [line]) ?_) ⟨held, held'⟩
    exact sortOn_left_eq (.swap other glyph []) (by simp [Above, level, reflexive])
      (by simp [Above, level, reflexive]) (by simp [Elsewhere, beside])
  · next held left => simp [left]
  · next left held => simp [left]
  · next left left' => simp [left, different]

end Baselines

end Layout

namespace PageText

theorem kept_perm (options : LayoutOptions α) {glyphs glyphs' : List (PlacedGlyph α)}
    (perm : glyphs.Perm glyphs') : (kept options glyphs).Perm (kept options glyphs') := by
  unfold kept
  split
  · exact perm
  · exact perm.filter _

theorem kept_sublist (options : LayoutOptions α) (glyphs : List (PlacedGlyph α)) :
    (kept options glyphs).Sublist glyphs := by
  unfold kept
  split
  · exact .refl _
  · exact List.filter_sublist

open Layout in
/-- **A page reads the same in whatever order it is drawn**, if its glyphs are even: sorted by
position, runs of the same glyphs add the same characters with the same boxes. -/
theorem pushRun_eq_of_perm [Scalar.Ordered α] (page : PageText α) {options : LayoutOptions α}
    {glyphs glyphs' : List (PlacedGlyph α)} (sorting : options.sortByPosition = true)
    (perm : glyphs.Perm glyphs') (places : glyphs.Pairwise Elsewhere) (even : Even glyphs) :
    page.pushRun options glyphs = page.pushRun options glyphs' := by
  have present := kept_sublist options glyphs
  have read : runLines options glyphs = runLines options glyphs' := by
    unfold runLines
    rw [if_pos sorting, if_pos sorting]
    exact linesByPosition_eq_of_perm (even.of_subset present.subset) (places.sublist present)
      (kept_perm options perm)
  unfold pushRun
  rw [read]

/-- A line of two glyphs with a third one below them, drawn from the end. -/
theorem pushRun_eq_of_perm_of_reversed :
    let a : PlacedGlyph Float := ⟨"a", ⟨10, 100, 16, 112⟩, ⟨10, 100, 16, 112⟩⟩
    let b : PlacedGlyph Float := ⟨"b", ⟨30, 100, 36, 112⟩, ⟨30, 100, 36, 112⟩⟩
    let c : PlacedGlyph Float := ⟨"c", ⟨10, 114, 16, 126⟩, ⟨10, 114, 16, 126⟩⟩
    LayoutOptions.standard.sortByPosition (α := Float) = true ∧ [c, b, a].Perm [a, b, c] ∧
      [c, b, a].Pairwise Layout.Elsewhere ∧ Layout.Even [c, b, a] ∧
      PageText.empty.pushRun .standard [c, b, a] = PageText.empty.pushRun .standard [a, b, c] := by
  intro a b c
  have perm : [c, b, a].Perm [a, b, c] := List.reverse_perm [a, b, c]
  have places : [c, b, a].Pairwise Layout.Elsewhere := by
    unfold Layout.Elsewhere
    decide
  have even : Layout.Even [c, b, a] := ⟨by decide, by decide⟩
  exact ⟨rfl, perm, places, even, pushRun_eq_of_perm .empty rfl perm places even⟩

end PageText

end PlacedText
