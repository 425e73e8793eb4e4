import PlacedText.Document.Extraction
import PlacedText.Proofs.Document.Processing
import PlacedText.Proofs.Paged.Restoration

/-! # Processing that does not straighten leaves the document alone

Every edit that measuring and replaying a page makes is taken back on every way out. Without
straightening the document is therefore what it was, whichever pages fail and wherever they do
(`PagedStore.extract_untouched`).
-/

namespace PlacedText

open Effect PagedStore

namespace PageEdit

variable {paged between other : PagedStore} {index : Nat} {options : ProcessOptions Float}

/-- A question keeps the document. -/
theorem read_keeps {β : Type} {holds : PagedStore → Prop}
    (question : PagedStore → Except ReadFault β) : Keeps holds (read question) := by
  intro paged held
  unfold read
  split
  · exact held
  · exact held

/-! ## Suspending the rotation -/

/-- The rotation of a page's own is the entry of its dictionary. -/
theorem ownRotation_of_pageAt {page at' : Nat} {entries : Dictionary}
    (found : paged.PageAt index page at' entries) :
    paged.ownRotation? index = .ok (entries.find? "Rotate") := by
  unfold ownRotation?
  rw [found.id]
  dsimp only [bind, Except.bind]
  rw [found.dictionary]
  rfl

/-- The rotation of a page is suspended by an entry of its own, or nothing changes. -/
theorem suspendRotation_cases (paged : PagedStore) (index rotation : Nat) :
    (∃ fault, suspendRotation index rotation paged = .error fault paged) ∨
    suspendRotation index rotation paged = .ok none paged ∨
    ∃ page at' entries, paged.PageAt index page at' entries ∧
      suspendRotation index rotation paged = .ok (some (entries.find? "Rotate"))
        (paged.putDictionary at' (entries.set "Rotate" (.integer 0))) := by
  unfold suspendRotation
  by_cases upright : rotation = 0
  · rw [if_pos upright]
    exact Or.inr (Or.inl rfl)
  · rw [if_neg upright]
    rcases changePage_or_pageAt paged index with ⟨page, at', entries, found⟩ | unchanged
    · refine Or.inr (Or.inr ⟨page, at', entries, found, ?_⟩)
      rw [bind_of_ok (read_of_ok (ownRotation_of_pageAt found))]
      exact bind_of_ok (changePage_of_pageAt found _)
    · refine Or.inl ?_
      cases own : paged.ownRotation? index with
      | error fault => exact ⟨fault, bind_of_error (read_of_error own)⟩
      | ok own? =>
        rw [bind_of_ok (read_of_ok own)]
        obtain ⟨fault, failed⟩ := unchanged
        exact ⟨fault, bind_of_error (failed paged (.refl paged) _)⟩

/-- Where a rotation cannot be suspended the document is the same as before. -/
theorem suspendRotation_error {rotation : Nat} {fault : ReadFault}
    (failed : suspendRotation index rotation paged = .error fault between) :
    between.SameDocument paged := by
  rcases suspendRotation_cases paged index rotation with
    ⟨_, kept⟩ | kept | ⟨_, _, _, _, suspended⟩
  · rw [kept] at failed
    cases failed
    exact SameDocument.refl _
  · rw [kept] at failed
    cases failed
  · rw [suspended] at failed
    cases failed

/-- A suspended rotation is none, where the page is upright already, or the entry that was replaced
by zero. -/
theorem suspendRotation_eq_ok {rotation : Nat} {suspended? : Option (Option Object)}
    (ended : suspendRotation index rotation paged = .ok suspended? between) :
    suspended? = none ∧ between = paged ∨
    ∃ page at' entries, paged.PageAt index page at' entries ∧
      suspended? = some (entries.find? "Rotate") ∧
      between = paged.putDictionary at' (entries.set "Rotate" (.integer 0)) := by
  rcases suspendRotation_cases paged index rotation with
    ⟨fault, failed⟩ | kept | ⟨page, at', entries, found, suspended⟩
  · rw [failed] at ended
    cases ended
  · rw [kept] at ended
    cases ended
    exact Or.inl ⟨rfl, rfl⟩
  · rw [suspended] at ended
    cases ended
    exact Or.inr ⟨page, at', entries, found, rfl, rfl⟩

/-- A rotation that was suspended is put back, also after edits that left the document as it was. -/
theorem resumeRotation_of_suspendRotation {rotation : Nat} {suspended? : Option (Option Object)}
    (ended : suspendRotation index rotation paged = .ok suspended? between)
    (same : other.SameDocument between) :
    ∃ last, resumeRotation index suspended? other = .ok () last ∧ last.SameDocument paged := by
  rcases suspendRotation_eq_ok ended with ⟨rfl, rfl⟩ | ⟨page, at', entries, found, rfl, rfl⟩
  · exact ⟨other, rfl, same⟩
  · have there := same.pageAt (found.putDictionary _)
    refine ⟨other.putDictionary at' entries, ?_, same.putBack found⟩
    unfold resumeRotation restoreRotation
    dsimp only
    rw [changePage_of_pageAt there]
    congr 2
    exact Dictionary.restore_set

/-- Setting a page up reads its boxes and its rotation, and suspends that. -/
theorem setUp_eq_ok {setup : PageSetup} (ended : setUp index paged = .ok setup between) :
    paged.mediaBox index = .ok setup.mediaBox ∧ paged.cropBox index = .ok setup.cropBox ∧
      paged.rotation index = .ok setup.rotation ∧
      suspendRotation index setup.rotation paged = .ok setup.suspended? between := by
  obtain ⟨_, _, media, boxed⟩ := bind_eq_ok ended
  obtain ⟨media, rfl⟩ := read_eq_ok media
  obtain ⟨_, _, crop, cropped⟩ := bind_eq_ok boxed
  obtain ⟨crop, rfl⟩ := read_eq_ok crop
  obtain ⟨_, _, turned, rest⟩ := bind_eq_ok cropped
  obtain ⟨turned, rfl⟩ := read_eq_ok turned
  obtain ⟨_, _, suspended, last⟩ := bind_eq_ok rest
  cases last
  exact ⟨media, crop, turned, suspended⟩

theorem setUp_of_ok {setup : PageSetup} (media : paged.mediaBox index = .ok setup.mediaBox)
    (crop : paged.cropBox index = .ok setup.cropBox)
    (turned : paged.rotation index = .ok setup.rotation)
    (suspended : suspendRotation index setup.rotation paged = .ok setup.suspended? between) :
    setUp index paged = .ok setup between := by
  unfold setUp
  rw [bind_of_ok (read_of_ok media), bind_of_ok (read_of_ok crop), bind_of_ok (read_of_ok turned)]
  exact bind_of_ok suspended

theorem resumeRotation_of_setUp {setup : PageSetup} (opened : setUp index paged = .ok setup between)
    (same : other.SameDocument between) :
    ∃ last, resumeRotation index setup.suspended? other = .ok () last ∧
      last.SameDocument paged :=
  resumeRotation_of_suspendRotation (setUp_eq_ok opened).2.2.2 same

end PageEdit

/-! ## Measuring and replaying -/

namespace Arithmetic

open PageEdit

variable {α : Type} [Scalar α] (arithmetic : Arithmetic α)

/-- A turned replay leaves the same document: the stream in front of the content is taken back, also
behind a fault. -/
theorem turnedGlyphs_keeps (options : ExtractOptions) (index : Nat) (centre : Point α) (angle : α)
    (origin : PagedStore) :
    Keeps (·.SameDocument origin) (arithmetic.turnedGlyphs options index centre angle) := by
  have glyphs (t? : Option (Transform α)) : ∀ origin, Keeps (·.SameDocument origin) (do
      return (← read fun paged => paged.interpretInstead t? options index).glyphs.toList :
        PageEdit (List (GlyphEvent α))) :=
    fun origin => (read_keeps _).bind fun _ => keeps_pure _
  unfold turnedGlyphs
  dsimp only
  split
  · exact glyphs none origin
  · exact underTransform_keeps (glyphs _) _ origin

/-- Measuring a page and replaying it leaves the document as it is. -/
theorem extract_keeps (options : ProcessOptions α) (index : Nat) (mediaBox cropBox : Rect α)
    (origin : PagedStore) :
    Keeps (·.SameDocument origin) (arithmetic.extract options index mediaBox cropBox) := by
  unfold extract
  refine (read_keeps _).bind fun measured => Keeps.bind ?_ fun replays => keeps_pure _
  apply Keeps.mapM
  intro ⟨angle, band⟩
  exact (arithmetic.turnedGlyphs_keeps _ _ _ _ origin).bind fun glyphs => keeps_pure _

/-! ## Processing -/

/-- A page that fails before it is straightened leaves the document as it was; else it ends as it is
straightened, where measuring and replaying have changed nothing. -/
theorem processPage_cases (options : ProcessOptions α) (paged : PagedStore) (index : Nat) :
    (∃ fault stop, arithmetic.processPage options index paged = .error fault stop ∧
      stop.SameDocument paged) ∨
    ∃ (mediaBox cropBox : Rect α) (rotation : Nat) (suspended? : Option (Option Object))
      (opened extracted : PagedStore) (text : PageText α) (decision : DeskewDecision α)
      (warnings : List Warning),
      paged.mediaBox index = .ok mediaBox ∧ paged.cropBox index = .ok cropBox ∧
      paged.rotation index = .ok rotation ∧
      suspendRotation index rotation paged = .ok suspended? opened ∧
      arithmetic.extract options index mediaBox cropBox opened =
        .ok (text, decision, warnings) extracted ∧
      extracted.SameDocument opened ∧
      arithmetic.processPage options index paged =
        (arithmetic.straighten options index decision rotation suspended? >>= fun rotation =>
          pure ⟨mediaBox, text, decision.measuredAngle, rotation, warnings⟩) extracted := by
  have unread {γ : Type} {question : PagedStore → Except ReadFault γ} {fault : ReadFault}
      {next : γ → PageEdit (Outcome α)} (failed : question paged = .error fault) :
      ∃ fault stop, (read question >>= next) paged = .error fault stop ∧
        stop.SameDocument paged :=
    ⟨fault, paged, bind_of_error (read_of_error failed), .refl paged⟩
  unfold processPage
  cases media : (paged.mediaBox index : Except ReadFault (Rect α)) with
  | error fault => exact Or.inl (unread media)
  | ok mediaBox =>
    rw [bind_of_ok (read_of_ok media)]
    cases crop : (paged.cropBox index : Except ReadFault (Rect α)) with
    | error fault => exact Or.inl (unread crop)
    | ok cropBox =>
      rw [bind_of_ok (read_of_ok crop)]
      cases turned : paged.rotation index with
      | error fault => exact Or.inl (unread turned)
      | ok rotation =>
        rw [bind_of_ok (read_of_ok turned)]
        cases suspended : suspendRotation index rotation paged with
        | error fault opened =>
          exact Or.inl ⟨_, _, bind_of_error suspended, suspendRotation_error suspended⟩
        | ok suspended? opened =>
          rw [bind_of_ok suspended]
          have kept := arithmetic.extract_keeps options index mediaBox cropBox opened
          cases ended : arithmetic.extract options index mediaBox cropBox opened with
          | ok found extracted =>
            obtain ⟨text, decision, warnings⟩ := found
            have same := kept.ok (SameDocument.refl opened) ended
            exact Or.inr ⟨mediaBox, cropBox, rotation, suspended?, opened, extracted, text,
              decision, warnings, rfl, rfl, rfl, suspended, ended, same,
              bind_of_ok (orElseDo_of_ok ended)⟩
          | error fault extracted =>
            have same := kept.error (SameDocument.refl opened) ended
            obtain ⟨last, resumed, restored⟩ :=
              resumeRotation_of_suspendRotation suspended same
            refine Or.inl ⟨_, _, bind_of_error (orElseDo_of_error ended), ?_⟩
            rw [resumed]
            exact restored

end Arithmetic

namespace PageEdit

variable {paged other : PagedStore} {index : Nat} {options : ProcessOptions Float}

theorem turnedGlyphs_keeps (options : ExtractOptions) (index : Nat) (centre : Point Float)
    (angle : Float) (origin : PagedStore) :
    Keeps (·.SameDocument origin) (turnedGlyphs options index centre angle) := by
  rw [← Arithmetic.turnedGlyphs_double]
  exact Arithmetic.double.turnedGlyphs_keeps options index centre angle origin

/-- Without straightening only a rotation that was suspended is put back. -/
theorem straighten_eq_resumeRotation (off : options.deskew = false)
    (decision : DeskewDecision Float) (before : Nat) (suspended? : Option (Option Object)) :
    straighten options index decision before suspended? =
      (do resumeRotation index suspended?; return before) := by
  have same : decision.finalRotation options.deskew before = before := by
    simp [DeskewDecision.finalRotation, off]
  have upright : (decision.correctedSkew options.deskew != 0.0) = false := by
    simp only [DeskewDecision.correctedSkew, off, Bool.false_and, Bool.false_eq_true, ↓reduceIte]
    decide
  unfold straighten
  simp only [same, ne_eq, not_true_eq_false, ↓reduceIte, upright, Bool.false_eq_true]

/-- Processing a page leaves the document as it was, whether or not it succeeds. -/
theorem processPage_keeps (off : options.deskew = false) (index : Nat) (origin : PagedStore) :
    Keeps (·.SameDocument origin) (processPage options index) := by
  intro paged held
  rw [finalState_processPage]
  rcases Arithmetic.double.processPage_cases options paged index with
    ⟨fault, stop, failed, unchanged⟩ |
      ⟨mediaBox, cropBox, rotation, suspended?, opened, extracted, text, decision, warnings, -, -,
        -, suspended, -, same, ended⟩
  · rw [failed]
    exact unchanged.trans held
  · obtain ⟨last, resumed, restored⟩ := resumeRotation_of_suspendRotation suspended same
    rw [ended, finalState_bind_pure, Arithmetic.straighten_double,
      straighten_eq_resumeRotation off, bind_of_ok resumed]
    exact restored.trans held

end PageEdit

namespace PagedStore

/-- Without straightening the pages that are processed leave the document as it was. -/
theorem foldl_extractNext_untouched {options : ProcessOptions Float} (off : options.deskew = false)
    (progress : PagedStore × Extraction) (indices : List Nat) :
    (indices.foldl (extractNext options) progress).1.SameDocument progress.1 :=
  foldl_extractNext_keeps (fun index => PageEdit.processPage_keeps off index progress.1) progress
    indices (SameDocument.refl _)

/-- **Processing without straightening changes nothing.** Every object, the trailer and the pages
are what they were before, whichever pages are skipped: rotations that were suspended are resumed
and streams that were put in front are taken back, also behind a fault. -/
theorem extract_untouched (paged : PagedStore) (options : ProcessOptions Float)
    (off : options.deskew = false) :
    (paged.extractPages options).1.SameDocument paged ∧
      (paged.extract options).1.SameDocument paged :=
  ⟨foldl_extractNext_untouched off _ _, foldl_extractNext_untouched off _ _⟩

/-- A page that is turned the other way and refers to a stream that is not there. -/
theorem extract_untouched_of_turned_page :
    let page : Dictionary := [(Text.Utf8.encode "Rotate", .integer (-90)),
      (Text.Utf8.encode "Contents", .reference 9),
      (Text.Utf8.encode "MediaBox", .array [.integer 0, .integer 0, .integer 612, .integer 792])]
    let paged : PagedStore := ⟨.ofObjects [(1, .dictionary page)] [], [1]⟩
    let options : ProcessOptions Float := .standard
    options.deskew = false ∧ (paged.extractPages options).1.SameDocument paged ∧
      (paged.extract options).1.SameDocument paged :=
  ⟨rfl, extract_untouched _ _ rfl⟩

end PagedStore

end PlacedText
