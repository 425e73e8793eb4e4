import PlacedText.Proofs.Drawing.Redrawn
import PlacedText.Proofs.Paged.Rotation

/-! # Interpreting a page behind a transform that is not written out

A page whose rotation was changed, and whose content was put behind a transform, is interpreted as
before: each glyph is drawn by its own transform followed by that one
(`PagedStore.Redrawn.interpretInstead`).
-/

namespace PlacedText

open Effect

variable {α : Type} [Scalar α]

namespace PagedStore

/-- The glyphs and warnings that the interpretation of a page comes to, with another transform in
place of the one that its content begins with. -/
def interpretInstead (paged : PagedStore) (t? : Option (Transform α)) (options : ExtractOptions)
    (index : Nat) : Except ReadFault (Recording α) := do
  let page ← paged.pageId index
  match Interpreter.runPageInstead ⟨paged.store, options⟩ t? page (.start .identity) with
  | .ok _ recording => recording.ended none
  | .error fault recording => recording.ended (some fault)

/-- Without a transform in its place a page is interpreted as it stands. -/
theorem interpretInstead_none (paged : PagedStore) (options : ExtractOptions) (index : Nat) :
    paged.interpretInstead (none : Option (Transform Float)) options index =
      paged.interpret options index := by
  unfold interpretInstead PagedStore.interpret Store.interpret
  congr 1
  funext page
  rw [Interpreter.runPageInstead_none]
  cases Interpreter.runPage (α := Float) ⟨paged.store, options⟩ page (.start .identity) with
  | ok _ recording => rfl
  | error fault recording => rfl

variable {first second third : PagedStore} {t? : Option (Transform α)} {options : ExtractOptions}
  {index page at' : Nat} {entries entries' : Dictionary}

/-- Such an interpretation comes to a recording where the page has an object, its run succeeds and
no font ends it. -/
theorem interpretInstead_eq_ok {recording : Recording α}
    (ended : first.interpretInstead t? options index = .ok recording) :
    ∃ page, first.pageId index = .ok page ∧
      Interpreter.runPageInstead ⟨first.store, options⟩ t? page (.start .identity) =
        .ok () recording ∧
      recording.abort? = none := by
  unfold interpretInstead at ended
  cases id : first.pageId index with
  | error fault =>
    rw [id] at ended
    cases ended
  | ok page =>
    refine ⟨page, rfl, ?_⟩
    rw [id] at ended
    dsimp only [bind, Except.bind] at ended
    split at ended
    · next ran =>
      obtain ⟨unended, -, rfl⟩ := Recording.ended_eq_ok ended
      exact ⟨ran, unended⟩
    · exact absurd (Recording.ended_eq_ok ended).2.1 (Option.some_ne_none _)

/-- A page whose content is found is found. -/
theorem pageAt_of_pageContent {content : Bytes} (id : first.pageId index = .ok page)
    (found : first.store.pageContent page = .ok content) :
    ∃ at' entries, first.PageAt index page at' entries := by
  cases dictionary : first.store.dictionary page with
  | error fault =>
    unfold Store.pageContent at found
    rw [dictionary] at found
    cases found
  | ok entries =>
    obtain ⟨at', there⟩ := pageAt_of_dictionary id dictionary
    exact ⟨at', entries, there⟩

/-- A page that is interpreted is found. -/
theorem pageAt_of_interpretInstead {recording : Recording α}
    (ended : first.interpretInstead t? options index = .ok recording) :
    ∃ page at' entries, first.PageAt index page at' entries := by
  obtain ⟨page, id, ran, -⟩ := interpretInstead_eq_ok ended
  obtain ⟨content, _, _, found, _⟩ := Interpreter.runPageInstead_eq_ok ran
  obtain ⟨at', entries, there⟩ := pageAt_of_pageContent id found
  exact ⟨page, at', entries, there⟩

/-! ## What is read -/

theorem readsBehind_none
    (same : ∀ content, first.store.pageContent page = .ok content →
      second.store.pageContent page = .ok content) :
    first.store.ReadsBehind second.store page (none : Option (Transform α)) :=
  fun content operators found read => ⟨content, operators, same content found, read, rfl⟩

/-- A page that is put behind the writing of some transform reads behind any. -/
theorem PageAt.readsBehind_prepended (found : first.PageAt index page at' entries)
    (closed : first.store.Closed) {written : Transform Float}
    (finite : ∀ x ∈ written.toList, Scalar.isFinite x = true) (t : Transform α) :
    first.store.ReadsBehind (first.prepended at' entries written).store page (some t) := by
  intro content operators read parsed
  unfold Interpreter.operators at parsed
  cases lexed : Content.operators content with
  | error fault =>
    rw [lexed] at parsed
    cases parsed
  | ok before =>
    rw [lexed] at parsed
    cases parsed
    obtain ⟨content', numerals, read', lexed'⟩ :=
      operators_prepended found closed (.refl first) finite read lexed
    refine ⟨content', (⟨"cm", numerals⟩ :: before).map (Operator.map Numeral.value), read', ?_, rfl⟩
    unfold Interpreter.operators
    rw [lexed']
    rfl

/-! ## Edits of a page -/

/-- Two documents that show the same page, the second one behind a transform if there is one. -/
structure Redrawn (first second : PagedStore) (index page : Nat) (t? : Option (Transform α)) :
    Prop where
  here : first.pageId index = .ok page
  there : second.pageId index = .ok page
  alike : first.store.Alike second.store
  behind : first.store.ReadsBehind second.store page t?

/-- **A page shows its glyphs again.** They are moved by the transform that it was put behind. -/
theorem Redrawn.interpretInstead {t? : Option (Transform ℝ)}
    (redrawn : first.Redrawn second index page t?) {measured : Recording ℝ}
    (ended : first.interpretInstead none options index = .ok measured) :
    (∃ recording, second.interpretInstead t? options index = .ok recording ∧
      List.Forall₂ (GlyphEvent.Related (t?.getD .identity).IsFollowedBy) measured.glyphs.toList
        recording.glyphs.toList) ∨
    ∃ fault, second.interpretInstead t? options index = .error fault ∧
      Interpreter.IsOverBudget ⟨second.store, options⟩ fault := by
  obtain ⟨_, id, ran, unended⟩ := interpretInstead_eq_ok ended
  cases redrawn.here.symm.trans id
  unfold PagedStore.interpretInstead
  rw [redrawn.there]
  dsimp only [bind, Except.bind]
  have unended' := Interpreter.runPageInstead_unended redrawn.alike redrawn.behind ran unended
  rcases Interpreter.runPageInstead_again redrawn.alike redrawn.behind ran with
    ⟨recording, again, moved⟩ | ⟨fault, stop, failed, exceeded⟩
  · rw [again] at unended' ⊢
    exact .inl ⟨recording, Recording.ended_of_none unended' none, moved⟩
  · rw [failed] at unended' ⊢
    exact .inr ⟨fault, Recording.ended_of_none unended' (some fault), exceeded⟩

/-- A page is shown again in a document that differs in its rotation. -/
theorem Turned.redrawn (turned : first.Turned second index page at' entries entries')
    (orderly : first.Orderly) :
    first.Redrawn second index page (none : Option (Transform α)) where
  here := turned.here.id
  there := turned.there.id
  alike := turned.alike orderly
  behind := readsBehind_none fun _ => turned.pageContent

/-- So is a page that was then put behind a transform. -/
theorem Turned.redrawn_prepended (turned : first.Turned second index page at' entries entries')
    (orderly : first.Orderly) (orderly' : second.Orderly) {written : Transform Float}
    (finite : ∀ x ∈ written.toList, Scalar.isFinite x = true) (t : Transform α) :
    first.Redrawn (second.prepended at' entries' written) index page (some t) where
  here := turned.here.id
  there := (turned.there.prepended written).id
  alike := by
    have put := turned.there.changedAt_prepended (.refl second) written
    have both : first.store.ChangedAt (second.prepended at' entries' written).store at' entries
        (entries'.set "Contents" (second.contentsBehind entries')) := by
      refine ⟨turned.decoders.trans put.decoders, turned.here.getElem?, put.there,
        fun id different object present => ?_⟩
      exact put.others id different object (turned.changedAt.others id different object present)
    exact both.alike (turned.sameElsewhere.trans (entries'.sameElsewhere_set (.inl rfl) _))
      orderly.closed (orderly.apart index page at' entries turned.here)
  behind := by
    intro content operators read parsed
    exact turned.there.readsBehind_prepended orderly'.closed finite t content operators
      (turned.pageContent read) parsed

end PagedStore

end PlacedText
