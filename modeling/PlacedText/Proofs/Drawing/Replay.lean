import PlacedText.Proofs.Content.Prefix
import PlacedText.Proofs.Drawing.Aborts
import PlacedText.Proofs.Drawing.Likeness

/-! # Drawing a page again

A page that is drawn again, with a transform in front of its content and in a store that is like the
first one but for edits of pages, shows the same glyphs in the same order
(`Store.interpret_again`). Nothing is said here about the transforms they are drawn by.
-/

namespace PlacedText

open Effect

variable {α : Type} [Scalar α]

/-- The same glyph, wherever it is drawn. -/
def GlyphEvent.Same (glyph glyph' : GlyphEvent α) : Prop :=
  glyph.Related (fun _ _ => True) glyph'

/-- Whether an operator does nothing but put transforms in front of the current one. -/
def Operator.OnlyConcats (operator : Operator α) : Prop :=
  ∃ ts : List (Transform α), Action.ofOperator operator = (ts.map Change.concat).map .change

/-- An operator with the name of the injected one concatenates a transform or does nothing. -/
theorem onlyConcats_of_isOfTransform {operator : Operator Numeral}
    (named : Content.isOfTransform operator) :
    (operator.map Numeral.value : Operator α).OnlyConcats := by
  obtain ⟨name, operands⟩ := operator
  rcases named with same | same | same
  · cases same
    exact ⟨[], rfl⟩
  · cases same
    exact ⟨[], rfl⟩
  · cases same
    change ∃ ts : List (Transform α), Action.withTransform Change.concat _ = _
    unfold Action.withTransform
    split
    · next t _ => exact ⟨[t], rfl⟩
    · exact ⟨[], rfl⟩

/-- Transforms in front of one state leave it related to the other, if all transforms are. -/
theorem DrawingState.Related.concats {state state' : DrawingState α}
    (related : state.Related (fun _ _ => True) state') (ts : List (Transform α)) :
    state.Related (fun _ _ => True) ((ts.map Change.concat).foldl DrawingState.apply state') := by
  induction ts generalizing state' with
  | nil => exact related
  | cons t ts ih =>
    apply ih
    exact ⟨trivial, related.params, related.saved, related.textMatrix, related.lineMatrix,
      related.inText⟩

namespace Interpreter

variable {interpreter : Interpreter} {runStream : Dictionary → Bytes → Interpretation α Unit}
  {found : Dictionary} {fonts : FontTable α} {operators front : List (Operator α)}
  {first start stop : Recording α}

/-- Operators that only put transforms in front lead to a state that is related to the one before.
-/
theorem runOperators_concats (concats : ∀ operator ∈ front, operator.OnlyConcats) {index : Nat}
    (related : first.Related (fun _ _ => True) start)
    (ended : interpreter.runOperators runStream found index fonts (front ++ operators) start =
      .ok () stop) :
    ∃ index' between, first.Related (fun _ _ => True) between ∧
      interpreter.runOperators runStream found index' fonts operators between = .ok () stop := by
  induction front generalizing index start with
  | nil => exact ⟨index, start, related, ended⟩
  | cons operator front ih =>
    obtain ⟨ts, actions⟩ := concats operator (.head front)
    have behind := runOperators_changes actions ended
    have moved : first.Related (fun _ _ => True) { start with
        drawing := (ts.map Change.concat).foldl DrawingState.apply start.drawing
        executed := start.executed + 1 } :=
      ⟨related.drawing.concats ts, related.glyphs, related.abort⟩
    exact ih (fun operator member => concats operator (.tail _ member)) moved behind

/-- A stream that reads as another one does behind a transform shows the same glyphs. The operators
in front only concatenate transforms, which leaves the states related; from there on the operators
are the same. -/
theorem runStream_behind {second : Interpreter} {resources : Dictionary → Dictionary → Prop}
    {found' : Dictionary} {content content' : Bytes} {stop' : Recording α} {levels : Nat}
    {ctm : Transform α} (mirrors : Mirrors α interpreter second resources)
    (related : resources found found') (behind : Content.ReadsBehindTransform content content')
    (ended : interpreter.runStream levels found content (.start ctm) = .ok () stop)
    (ended' : second.runStream levels found' content' (.start ctm) = .ok () stop') :
    stop.Related (fun _ _ => True) stop' := by
  have kept := Transform.true_keptInFront (α := α)
  have started : (Recording.start ctm).Related (fun _ _ => True) (Recording.start ctm) :=
    ⟨.initial trivial, .nil, rfl⟩
  cases levels with
  | zero => cases ended
  | succ levels =>
    unfold runStream Interpreter.operators at ended ended'
    cases read : Content.operators content with
    | error fault =>
      rw [read] at ended
      cases ended
    | ok operators =>
      cases read' : Content.operators content' with
      | error fault =>
        rw [read'] at ended'
        cases ended'
      | ok operators' =>
        obtain ⟨front, named, rfl⟩ := behind operators operators' read read'
        rw [read] at ended
        rw [read'] at ended'
        simp only [Except.map, List.map_append] at ended ended'
        have concats : ∀ operator ∈ front.map (Operator.map Numeral.value),
            (operator : Operator α).OnlyConcats := by
          intro operator member
          obtain ⟨written, inFront, rfl⟩ := List.mem_map.mp member
          exact onlyConcats_of_isOfTransform (named written inFront)
        obtain ⟨index, between, between_related, rest⟩ :=
          runOperators_concats concats started ended'
        have drawn := simulates_runOperators kept mirrors
          (fun _ _ content related => simulates_runStream kept mirrors levels related content)
          related 0 index ∅ (operators.map (Operator.map Numeral.value))
        exact (drawn.ok between_related ended rest).1

end Interpreter

/-- A page that is interpreted to its end has content and resources that are. -/
theorem Store.interpret_eq_ok {store : Store} {options : ExtractOptions} {page : Nat}
    {recording : Recording α} (ended : store.interpret options page = (recording, none)) :
    ∃ content resources, store.pageContent page = .ok content ∧
      store.pageResources page = .ok resources ∧
      Interpreter.runStream ⟨store, options⟩ (options.maxDepth + 1) resources content
        (.start .identity) = .ok () recording := by
  unfold Store.interpret Interpreter.runPage at ended
  dsimp only at ended
  cases contentFound : store.pageContent page with
  | error fault =>
    rw [contentFound] at ended
    cases ended
  | ok content =>
    cases resourcesFound : store.pageResources page with
    | error fault =>
      rw [contentFound, resourcesFound] at ended
      cases ended
    | ok resources =>
      rw [contentFound, resourcesFound] at ended
      dsimp only at ended
      cases ran : Interpreter.runStream (α := α) ⟨store, options⟩ (options.maxDepth + 1) resources
          content (.start .identity) with
      | ok _ stop =>
        rw [ran] at ended
        cases ended
        exact ⟨content, resources, rfl, rfl, ran⟩
      | error fault stop =>
        rw [ran] at ended
        cases ended

/-- **A page that is drawn again shows the same glyphs.** -/
theorem Store.interpret_again {store other : Store} {options : ExtractOptions} {page : Nat}
    {recording recording' : Recording α} (alike : store.Alike other)
    (behind : ∀ content content', store.pageContent page = .ok content →
      other.pageContent page = .ok content' → Content.ReadsBehindTransform content content')
    (ended : store.interpret options page = (recording, none))
    (ended' : other.interpret options page = (recording', none)) :
    List.Forall₂ GlyphEvent.Same recording.glyphs.toList recording'.glyphs.toList := by
  obtain ⟨content, resources, contentFound, resourcesFound, ran⟩ := interpret_eq_ok ended
  obtain ⟨content', resources', contentFound', resourcesFound', ran'⟩ := interpret_eq_ok ended'
  obtain ⟨shown, shownFound, held, same⟩ := alike.pageResources resourcesFound
  rw [resourcesFound'] at shownFound
  cases shownFound
  have reads := behind content content' contentFound contentFound'
  have mirrors := Interpreter.mirrors_of_alike (α := α) alike options
  exact (Interpreter.runStream_behind mirrors ⟨held, same⟩ reads ran ran').glyphs

end PlacedText
