import PlacedText.Proofs.Drawing.Aborts
import PlacedText.Proofs.Drawing.Equivariance
import PlacedText.Proofs.Drawing.Likeness

/-! # Drawing a page behind a transform that is not written out

The numbers of a transform that is put in front of a page are rounded when they are written. In
exact arithmetic the page is drawn by the transform itself (`Interpreter.runPageInstead`). Each
glyph is then drawn by its own transform followed by that one, and the page fails only by having too
many operators (`Interpreter.runPageInstead_again`).
-/

namespace PlacedText

open Effect

variable {α : Type} [Scalar α]

/-- Operators that begin with another transform than they do. -/
def Operator.instead (t? : Option (Transform α)) (operators : List (Operator α)) :
    List (Operator α) :=
  match t?, operators with
  | some t, operator :: rest => (if operator.name = "cm" then .concat t else operator) :: rest
  | _, _ => operators

namespace Interpreter

variable {interpreter : Interpreter} {t? : Option (Transform α)} {page : Nat}
  {start stop : Recording α}

/-- Executes the content of a page, with another transform in place of the one that it begins
with. -/
def runPageInstead (interpreter : Interpreter) (t? : Option (Transform α)) (page : Nat) :
    Interpretation α Unit :=
  match interpreter.store.pageContent page with
  | .error fault => throw fault
  | .ok content =>
    match interpreter.store.pageResources page with
    | .error fault => throw fault
    | .ok resources =>
      match operators content with
      | .error fault => throw (malformed fault)
      | .ok operators =>
        interpreter.runOperators (interpreter.runStream interpreter.options.maxDepth) resources 0 ∅
          (Operator.instead t? operators)

theorem runPageInstead_none (interpreter : Interpreter) (page : Nat) :
    interpreter.runPageInstead (none : Option (Transform α)) page = interpreter.runPage page := rfl

theorem runPageInstead_of_operators {content : Bytes} {resources : Dictionary}
    {operators : List (Operator α)} (found : interpreter.store.pageContent page = .ok content)
    (shown : interpreter.store.pageResources page = .ok resources)
    (read : Interpreter.operators content = .ok operators) :
    interpreter.runPageInstead t? page =
      interpreter.runOperators (interpreter.runStream interpreter.options.maxDepth) resources 0 ∅
        (Operator.instead t? operators) := by
  unfold runPageInstead
  rw [found, shown]
  dsimp only
  rw [read]

/-- A page that is drawn to its end has content that is read, and resources; its operators are drawn
with the transform in place of a `cm` that they begin with. -/
theorem runPageInstead_eq_ok (ended : interpreter.runPageInstead t? page start = .ok () stop) :
    ∃ content resources operators, interpreter.store.pageContent page = .ok content ∧
      interpreter.store.pageResources page = .ok resources ∧
      Interpreter.operators content = .ok operators ∧
      interpreter.runOperators (interpreter.runStream interpreter.options.maxDepth) resources 0 ∅
        (Operator.instead t? operators) start = .ok () stop := by
  unfold runPageInstead at ended
  cases found : interpreter.store.pageContent page with
  | error fault =>
    rw [found] at ended
    cases ended
  | ok content =>
    cases shown : interpreter.store.pageResources page with
    | error fault =>
      rw [found, shown] at ended
      cases ended
    | ok resources =>
      cases read : (operators content : Except SyntaxFault (List (Operator α))) with
      | error fault =>
        rw [found, shown] at ended
        dsimp only at ended
        rw [read] at ended
        cases ended
      | ok operators =>
        rw [found, shown] at ended
        dsimp only at ended
        rw [read] at ended
        exact ⟨content, resources, operators, rfl, rfl, read, ended⟩

end Interpreter

/-- Whether a page of the second document reads as that of the first one, behind the transform that
it is to begin with if there is one. -/
def Store.ReadsBehind (store other : Store) (page : Nat) (t? : Option (Transform α)) : Prop :=
  ∀ content operators, store.pageContent page = .ok content →
    Interpreter.operators content = .ok operators →
    ∃ content' operators', other.pageContent page = .ok content' ∧
      Interpreter.operators content' = .ok operators' ∧
      Operator.instead t? operators' = (t?.map .concat).toList ++ operators

namespace Interpreter

variable {store other : Store} {options : ExtractOptions} {page : Nat}

/-- The operators of a page behind a transform, drawn from the start, draw each glyph by its own
transform followed by that one. -/
theorem simulates_behind {found found' : Dictionary} (alike : store.Alike other)
    (held : store.HoldsDictionary found) (same : found.SameElsewhere found')
    (t? : Option (Transform ℝ)) (levels : Nat) (operators : List (Operator ℝ))
    {recording : Recording ℝ}
    (ran : Interpreter.runOperators ⟨store, options⟩ (Interpreter.runStream ⟨store, options⟩ levels)
      found 0 ∅ operators (.start .identity) = .ok () recording) :
    (∃ recording', Interpreter.runOperators ⟨other, options⟩
        (Interpreter.runStream ⟨other, options⟩ levels) found' 0 ∅
        ((t?.map Operator.concat).toList ++ operators) (.start .identity) = .ok () recording' ∧
      List.Forall₂ (GlyphEvent.Related (t?.getD .identity).IsFollowedBy) recording.glyphs.toList
        recording'.glyphs.toList) ∨
    ∃ fault stop, Interpreter.runOperators ⟨other, options⟩
        (Interpreter.runStream ⟨other, options⟩ levels) found' 0 ∅
        ((t?.map Operator.concat).toList ++ operators) (.start .identity) = .error fault stop ∧
      IsOverBudget ⟨other, options⟩ fault := by
  have kept := (t?.getD .identity).isFollowedBy_keptInFront
  have mirrors := mirrors_of_alike (α := ℝ) alike options
  have drawn (index : Nat) := simulates_runOperators kept mirrors
    (fun _ _ content related => simulates_runStream kept mirrors levels related content)
    ⟨held, same⟩ 0 index ∅ operators
  have follow (index : Nat) {start : Recording ℝ}
      (started : (Recording.start .identity).Related (t?.getD .identity).IsFollowedBy start) :=
    drawn index _ _ started _ _ ran
  cases t? with
  | none =>
    have started : (Recording.start .identity).Related Transform.identity.IsFollowedBy
        (Recording.start .identity) := ⟨.initial (Transform.andThen_identity _).symm, .nil, rfl⟩
    rcases follow 0 started with ⟨_, recording', ended, related, -⟩ | failed
    · exact .inl ⟨recording', ended, related.glyphs⟩
    · exact .inr failed
  | some t =>
    have started : (Recording.start .identity : Recording ℝ).Related t.IsFollowedBy
        { Recording.start .identity with
          drawing := DrawingState.initial (t.andThen .identity), executed := 1 } :=
      ⟨.initial t.isFollowedBy_start, .nil, rfl⟩
    rcases runOperators_changes_or ⟨other, options⟩
        (Interpreter.runStream ⟨other, options⟩ levels) found' 0 ∅ (Action.ofOperator_concat t)
        operators (.start .identity) with ⟨stop, exceeded⟩ | moved
    · exact .inr ⟨_, stop, exceeded, _, rfl⟩
    · change _ = Interpreter.runOperators _ _ _ 1 _ _ _ at moved
      rcases follow 1 started with
        ⟨_, recording', ended, related, -⟩ | ⟨fault, stop, failed, exceeded⟩
      · exact .inl ⟨recording', moved.trans ended, related.glyphs⟩
      · exact .inr ⟨fault, stop, moved.trans failed, exceeded⟩

/-- If operators meet no font that ends the program, they meet none behind a transform, wherever
they stop. -/
theorem unended_behind {found found' : Dictionary} (alike : store.Alike other)
    (held : store.HoldsDictionary found) (same : found.SameElsewhere found')
    (t? : Option (Transform α)) (levels : Nat) (operators : List (Operator α))
    {recording : Recording α}
    (ran : Interpreter.runOperators ⟨store, options⟩ (Interpreter.runStream ⟨store, options⟩ levels)
      found 0 ∅ operators (.start .identity) = .ok () recording)
    (unended : recording.abort? = none) :
    (finalState (Interpreter.runOperators ⟨other, options⟩
      (Interpreter.runStream ⟨other, options⟩ levels) found' 0 ∅
      ((t?.map Operator.concat).toList ++ operators) (.start .identity))).abort? = none := by
  have mirrors := mirrors_of_alike (α := α) alike options
  have drawn := runOperators_sameEnd ⟨store, options⟩ levels found operators
  have again := runOperators_sameEnd ⟨other, options⟩ levels found'
    ((t?.map Operator.concat).toList ++ operators)
  rw [ran] at drawn
  have whole := (sameShown_of_sameEnd (Nat.zero_le _) drawn).2.abort
  have course := operatorsCourse_mirrored mirrors (fun _ _ content related =>
    streamCourse_mirrored mirrors levels related content) ⟨held, same⟩
  rw [unended, congrFun course operators] at whole
  refine abort_eq_none_of_sameEnd (Nat.zero_le _) again ?_
  cases t? with
  | none => exact whole.symm
  | some t =>
    rw [Option.map_some, Option.toList_some, List.singleton_append, operatorsCourse_cons]
    exact abort_eq_none_of_transform (t.toList.map .number) whole.symm

/-- **A page that is drawn behind a transform shows its glyphs moved by it.** Only the number of
operators may be too large for that. -/
theorem runPageInstead_again (alike : store.Alike other) {t? : Option (Transform ℝ)}
    (behind : store.ReadsBehind other page t?) {recording : Recording ℝ}
    (ran : Interpreter.runPageInstead ⟨store, options⟩ none page (.start .identity) =
      .ok () recording) :
    (∃ recording', Interpreter.runPageInstead ⟨other, options⟩ t? page (.start .identity) =
        .ok () recording' ∧
      List.Forall₂ (GlyphEvent.Related (t?.getD .identity).IsFollowedBy) recording.glyphs.toList
        recording'.glyphs.toList) ∨
    ∃ fault stop, Interpreter.runPageInstead ⟨other, options⟩ t? page (.start .identity) =
        .error fault stop ∧ IsOverBudget ⟨other, options⟩ fault := by
  obtain ⟨content, resources, operators, found, shown, read, ran⟩ := runPageInstead_eq_ok ran
  obtain ⟨resources', shown', held, same⟩ := alike.pageResources shown
  obtain ⟨content', operators', found', read', instead⟩ := behind content operators found read
  rw [runPageInstead_of_operators found' shown' read', instead]
  exact simulates_behind alike held same t? options.maxDepth operators ran

/-- It meets no font that ends the program if it met none before. -/
theorem runPageInstead_unended (alike : store.Alike other) {t? : Option (Transform α)}
    (behind : store.ReadsBehind other page t?) {recording : Recording α}
    (ran : Interpreter.runPageInstead ⟨store, options⟩ none page (.start .identity) =
      .ok () recording)
    (unended : recording.abort? = none) :
    (finalState (Interpreter.runPageInstead ⟨other, options⟩ t? page
      (.start .identity))).abort? = none := by
  obtain ⟨content, resources, operators, found, shown, read, ran⟩ := runPageInstead_eq_ok ran
  obtain ⟨resources', shown', held, same⟩ := alike.pageResources shown
  obtain ⟨content', operators', found', read', instead⟩ := behind content operators found read
  rw [runPageInstead_of_operators found' shown' read', instead]
  exact unended_behind alike held same t? options.maxDepth operators ran unended

end Interpreter

end PlacedText
