import PlacedText.Proofs.Document.Replays
import PlacedText.Proofs.Paged.Twins

/-! # Pages do not see each other

Without straightening, what a page comes to does not depend on the pages that were processed before
it: a document that they left is the same but for the numbers given out, and if every reference
names an object these numbers do not show (`PageEdit.processPage_agrees`). Each page is therefore
extracted as if it were the only one, and again the same however often a document is processed
(`PagedStore.extract_isolated`).
-/

namespace PlacedText

open Effect

namespace PagedStore

variable {first second : PagedStore} {index : Nat}

/-- The same document twice, but for the numbers given out, and every reference names an object. -/
structure SameClosed (first second : PagedStore) : Prop where
  same : first.SameDocument second
  closed : second.store.Closed

/-! ## What is read of a page -/

namespace SameDocument

variable (same : first.SameDocument second)

include same

theorem pageId : first.pageId = second.pageId :=
  funext (pageId_congr same.pageIds)

theorem inherited : first.store.inherited = second.store.inherited :=
  Store.inherited_congr same.objects

theorem rect? : (first.rect? index : String → Except ReadFault (Option (Rect Float))) =
    second.rect? index := by
  funext key
  unfold PagedStore.rect? rectOf?
  rw [same.pageId, same.inherited, Store.numbers?_congr same.objects]

theorem mediaBox : (first.mediaBox index : Except ReadFault (Rect Float)) =
    second.mediaBox index := by
  unfold PagedStore.mediaBox
  rw [same.rect?]

theorem cropBox : (first.cropBox index : Except ReadFault (Rect Float)) =
    second.cropBox index := by
  unfold PagedStore.cropBox
  rw [same.rect?, same.mediaBox]

theorem rotation : first.rotation index = second.rotation index := by
  unfold PagedStore.rotation
  rw [same.pageId, same.inherited]

theorem ownRotation? : first.ownRotation? index = second.ownRotation? index := by
  unfold PagedStore.ownRotation?
  rw [same.pageId, Store.dictionary_congr same.objects]

theorem contents : first.contents = second.contents := by
  unfold PagedStore.contents
  rw [Store.namedDestinations_congr same.objects same.trailer,
    Store.outline_congr same.objects same.trailer, same.pageIds]

end SameDocument

end PagedStore

/-! ## One page -/

namespace PageEdit

open PagedStore

variable {first second : PagedStore} {index : Nat} {options : ProcessOptions Float}

/-- A question that is answered the same in related documents leaves them as they are. -/
theorem read_agrees {β : Type} {states : PagedStore → PagedStore → Prop}
    {question : PagedStore → Except ReadFault β}
    (same : ∀ first second, states first second → question first = question second) :
    Agrees states Eq (read question) (read question) := by
  intro first second held
  unfold read
  rw [← same first second held]
  cases question first with
  | ok answer => exact .ok held rfl
  | error fault => exact .error held

/-- A page is changed in both of two documents that are the same, or in neither of them. -/
theorem changePage_sameEnd {states : PagedStore → PagedStore → Prop}
    {change : Dictionary → Dictionary} (same : first.SameDocument second)
    (unchanged : states first second)
    (changed : ∀ page at' entries, second.PageAt index page at' entries →
      states (first.putDictionary at' (change entries))
        (second.putDictionary at' (change entries))) :
    SameEnd states Eq (changePage index change first) (changePage index change second) := by
  rcases changePage_or_pageAt second index with ⟨page, at', entries, found⟩ | ⟨fault, failed⟩
  · rw [changePage_of_pageAt found, changePage_of_pageAt (same.pageAt found)]
    exact .ok (changed page at' entries found) rfl
  · rw [failed first same, failed second (.refl second)]
    exact .error unchanged

theorem setRotation_agrees (index degrees : Nat) :
    Agrees SameClosed Eq (setRotation index degrees) (setRotation index degrees) := by
  intro first second held
  refine changePage_sameEnd held.same held fun page at' entries found => ?_
  exact ⟨held.same.putDictionary _ _, found.closed_setRotate held.closed _⟩

/-- A rotation is suspended alike in the same closed documents, and they are the same and closed
behind it. -/
theorem suspendRotation_agrees (index rotation : Nat) :
    Agrees SameClosed Eq (suspendRotation index rotation) (suspendRotation index rotation) := by
  unfold suspendRotation
  split
  · exact agrees_pure rfl
  · refine (read_agrees fun _ _ held => held.same.ownRotation?).bind ?_
    rintro own? _ rfl
    exact (setRotation_agrees index 0).bind fun _ _ _ => agrees_pure rfl

/-- A rotation is resumed alike, which need not leave a closed document closed. -/
theorem resumeRotation_agrees (index : Nat) (suspended? : Option (Option Object)) :
    Agrees SameDocument Eq (resumeRotation index suspended?) (resumeRotation index suspended?) := by
  unfold resumeRotation
  cases suspended? with
  | none => exact agrees_pure rfl
  | some own? =>
    intro first second same
    exact changePage_sameEnd same same fun _ _ _ _ => same.putDictionary _ _

/-- Pages show the same glyphs if they are interpreted the same, also behind a transform that is
taken back. It is asked of each pair of related documents that the page can be put behind the
transform in both or in neither, and that they are related again when it is taken back. -/
theorem turnedGlyphs_agrees_of {states : PagedStore → PagedStore → Prop} {options : ExtractOptions}
    (interpreted : ∀ first second, states first second →
      first.interpret options index = second.interpret options index)
    (moved : ∀ first second (t : Transform Float), states first second →
      (∃ page at' entries entries', first.PageAt index page at' entries ∧
        second.PageAt index page at' entries' ∧
        (first.prepended at' entries t).interpret options index =
          (second.prepended at' entries' t).interpret options index ∧
        states ((first.prepended at' entries t).withdraw
            ⟨page, first.store.maxId + 1, entries.find? "Contents"⟩)
          ((second.prepended at' entries' t).withdraw
            ⟨page, second.store.maxId + 1, entries'.find? "Contents"⟩)) ∨
      ∃ fault, prepend index t first = .error fault first ∧
        prepend index t second = .error fault second)
    (centre : Point Float) (angle : Float) :
    Agrees states Eq (turnedGlyphs options index centre angle)
      (turnedGlyphs options index centre angle) := by
  unfold turnedGlyphs
  dsimp only
  split
  · refine (read_agrees interpreted).bind ?_
    rintro recording _ rfl
    exact agrees_pure rfl
  · intro first second held
    unfold underTransform
    rcases moved first second (.rotationAbout (-angle) centre) held with
      ⟨page, at', entries, entries', there, found, shown, kept⟩ | ⟨fault, failed, failed'⟩
    · rw [prepend_of_pageAt there, prepend_of_pageAt found]
      dsimp only
      cases drawn : (second.prepended at' entries' (.rotationAbout (-angle) centre)).interpret
          options index with
      | ok recording =>
        rw [bind_of_ok (read_of_ok (shown.trans drawn)), bind_of_ok (read_of_ok drawn)]
        exact .ok kept rfl
      | error fault =>
        rw [bind_of_error (read_of_error (shown.trans drawn)), bind_of_error (read_of_error drawn)]
        exact .error kept
    · rw [failed, failed']
      exact .error held

/-- A page of a closed document shows the same glyphs, also behind a transform. -/
theorem turnedGlyphs_agrees (options : ExtractOptions) (index : Nat) (centre : Point Float)
    (angle : Float) :
    Agrees SameClosed Eq (turnedGlyphs options index centre angle)
      (turnedGlyphs options index centre angle) := by
  refine turnedGlyphs_agrees_of (fun _ _ held => held.same.interpret) ?_ centre angle
  intro first second t ⟨same, closed⟩
  rcases prepend_cases second index t with ⟨page, at', entries, found, _⟩ | ⟨fault, failed⟩
  · have there := same.pageAt found
    have withdrawn := withdraw_of_prepended (t := t) there (.refl _)
    have withdrawn' := withdraw_of_prepended (t := t) found (.refl _)
    exact .inl ⟨page, at', entries, entries, there, found,
      found.interpret_prepended_eq same (.refl second) t closed,
      withdrawn.trans (same.trans withdrawn'.symm), withdrawn'.closed closed⟩
  · exact .inr ⟨fault, failed first same, failed second (.refl second)⟩

/-- What is measured and replayed of a page is the same if it shows the same glyphs. -/
theorem extract_agrees_of {states : PagedStore → PagedStore → Prop}
    (interpreted : ∀ first second, states first second →
      first.interpret options.extract index = second.interpret options.extract index)
    (turned : ∀ (centre : Point Float) (angle : Float), Agrees states Eq
      (turnedGlyphs options.extract index centre angle)
      (turnedGlyphs options.extract index centre angle))
    (mediaBox cropBox : Rect Float) :
    Agrees states Eq (extract options index mediaBox cropBox)
      (extract options index mediaBox cropBox) := by
  unfold extract
  refine (read_agrees interpreted).bind ?_
  rintro measured _ rfl
  have replayed : Agrees states Eq
      (PageLayout.replays (.ofGlyphs options measured.glyphs.toList)
        (turnedGlyphs options.extract index cropBox.centre))
      (PageLayout.replays (.ofGlyphs options measured.glyphs.toList)
        (turnedGlyphs options.extract index cropBox.centre)) := by
    unfold PageLayout.replays
    rw [← List.forall₂_eq_eq_eq]
    refine Agrees.mapM (fun (angle, band) => ?_) _
    refine (turned cropBox.centre angle).bind ?_
    rintro glyphs _ rfl
    exact agrees_pure rfl
  refine replayed.bind ?_
  rintro replays _ rfl
  exact agrees_pure rfl

theorem extract_agrees (index : Nat) (mediaBox cropBox : Rect Float) :
    Agrees SameClosed Eq (extract options index mediaBox cropBox)
      (extract options index mediaBox cropBox) :=
  extract_agrees_of (fun _ _ held => held.same.interpret)
    (turnedGlyphs_agrees options.extract index) mediaBox cropBox

/-- A page is opened alike in the same closed documents. -/
theorem setUp_agrees (index : Nat) : Agrees SameClosed Eq (setUp index) (setUp index) := by
  unfold setUp
  refine (read_agrees fun _ _ held => held.same.mediaBox).bind ?_
  rintro mediaBox _ rfl
  refine (read_agrees fun _ _ held => held.same.cropBox).bind ?_
  rintro cropBox _ rfl
  refine (read_agrees fun _ _ held => held.same.rotation).bind ?_
  rintro rotation _ rfl
  refine (suspendRotation_agrees index rotation).bind ?_
  rintro suspended? _ rfl
  exact agrees_pure rfl

/-- What ends alike ends alike also if something is done about its faults. -/
theorem orElseDo_bind_sameEnd {β γ δ : Type} {between states : PagedStore → PagedStore → Prop}
    {answers : γ → δ → Prop} {action action' : PageEdit β} {recover recover' : PageEdit Unit}
    {next : β → PageEdit γ} {next' : β → PageEdit δ}
    (ended : SameEnd between Eq (action first) (action' second))
    (recovered : ∀ stop stop', between stop stop' →
      states (finalState (recover stop)) (finalState (recover' stop')))
    (continued : ∀ answer stop stop', between stop stop' →
      SameEnd states answers (next answer stop) (next' answer stop')) :
    SameEnd states answers ((orElseDo action recover >>= next) first)
      ((orElseDo action' recover' >>= next') second) := by
  generalize here : action first = answered at ended
  generalize there : action' second = answered' at ended
  cases ended with
  | ok held related =>
    subst related
    rw [bind_of_ok (orElseDo_of_ok here), bind_of_ok (orElseDo_of_ok there)]
    exact continued _ _ _ held
  | error held =>
    rw [bind_of_error (orElseDo_of_error here), bind_of_error (orElseDo_of_error there)]
    exact .error (recovered _ _ held)

/-- **Without straightening a page comes to the same in the same document**, whatever numbers were
given out, if every reference names an object. -/
theorem processPage_sameEnd (off : options.deskew = false) (index : Nat)
    (held : SameClosed first second) :
    SameEnd SameDocument Eq (processPage options index first)
      (processPage options index second) := by
  unfold processPage
  refine (setUp_agrees index first second held).bind ?_ fun _ _ held => held.same
  rintro setup _ opened opened' held rfl
  have recovered := resumeRotation_agrees index setup.suspended?
  refine orElseDo_bind_sameEnd (extract_agrees index setup.mediaBox setup.cropBox _ _ held) ?_ ?_
  · intro stop stop' held
    exact (recovered stop stop' held.same).finalState
  · rintro ⟨text, decision, warnings⟩ extracted extracted' held
    dsimp only
    rw [straighten_eq_resumeRotation off]
    have settled : Agrees SameDocument Eq
        (do resumeRotation index setup.suspended?; return setup.rotation : PageEdit Nat)
        (do resumeRotation index setup.suspended?; return setup.rotation : PageEdit Nat) :=
      recovered.bind fun _ _ _ => agrees_pure rfl
    refine (settled.bind ?_) _ _ held.same
    rintro rotation _ rfl
    exact agrees_pure rfl

end PageEdit

/-! ## All pages -/

namespace Extraction

/-- Appends what a page came to, or reports that it is left out. -/
def record (extraction : Extraction) (index : Nat) : Except ReadFault PageOutcome → Extraction
  | .ok outcome => extraction.addPage index outcome
  | .error fault => extraction.skipPage index fault

end Extraction

namespace PagedStore

variable {paged first second : PagedStore} {options : ProcessOptions Float}

/-- What a page comes to when it is processed alone, the first of the document. -/
def alone (paged : PagedStore) (options : ProcessOptions Float) (index : Nat) :
    Except ReadFault PageOutcome :=
  outcome (PageEdit.processPage options index paged)

theorem extractNext_eq (progress : PagedStore × Extraction) (index : Nat) :
    (extractNext options progress index).2 =
      progress.2.record index (progress.1.alone options index) := by
  unfold extractNext alone
  cases PageEdit.processPage options index progress.1 with
  | ok => rfl
  | error => rfl

/-- A page comes to the same in the same document. -/
theorem SameClosed.alone_eq (held : SameClosed first second) (off : options.deskew = false)
    (index : Nat) : first.alone options index = second.alone options index :=
  (PageEdit.processPage_sameEnd off index held).outcome_eq

/-- The pages that were processed before do not show in a page. -/
theorem alone_foldl (closed : paged.store.Closed) (off : options.deskew = false)
    (processed : List Nat) (extraction : Extraction) (index : Nat) :
    (processed.foldl (extractNext options) (paged, extraction)).1.alone options index =
      paged.alone options index :=
  SameClosed.alone_eq ⟨foldl_extractNext_untouched off _ processed, closed⟩ off index

/-- Pages are extracted as each of them is alone. -/
theorem foldl_extractNext_eq (closed : paged.store.Closed) (off : options.deskew = false)
    (extraction : Extraction) (indices : List Nat) :
    (indices.foldl (extractNext options) (paged, extraction)).2 =
      indices.foldl (fun extraction index =>
        extraction.record index (paged.alone options index)) extraction := by
  induction indices using List.reverseRecOn with
  | nil => rfl
  | append_singleton processed index ih =>
    rw [List.foldl_append, List.foldl_append, List.foldl_cons, List.foldl_nil, List.foldl_cons,
      List.foldl_nil, extractNext_eq, alone_foldl closed off, ih]

/-- The same document is extracted the same, with its table of contents. -/
theorem SameClosed.extract_eq (held : SameClosed first second) (off : options.deskew = false) :
    (first.extract options).2 = (second.extract options).2 := by
  have pages : (first.extractPages options).2 = (second.extractPages options).2 := by
    unfold extractPages pageCount
    rw [foldl_extractNext_eq held.closed off,
      foldl_extractNext_eq (held.same.closed held.closed) off, held.same.pageIds]
    simp only [held.alone_eq off]
  have left : (first.extractPages options).1.SameDocument (second.extractPages options).1 :=
    (extract_untouched first options off).1.trans
      (held.same.trans (extract_untouched second options off).1.symm)
  unfold extract
  dsimp only
  rw [pages, left.contents]

/-- A document that is processed again and again stays the same. -/
theorem iterate_extract_sameDocument (off : options.deskew = false) (times : Nat) :
    ((fun paged : PagedStore => (paged.extract options).1)^[times] paged).SameDocument paged := by
  induction times with
  | zero => exact .refl paged
  | succ times ih =>
    rw [Function.iterate_succ_apply']
    exact (extract_untouched _ options off).2.trans ih

/-- **Pages do not see each other.** Without straightening, and if every reference names an object,
a page comes to the same whatever pages were processed before it, and whether they failed; so the
document is extracted as each of its pages is alone, and the same however often it was processed
before. -/
theorem extract_isolated (paged : PagedStore) (options : ProcessOptions Float)
    (closed : paged.store.Closed) (off : options.deskew = false) :
    (∀ (processed : List Nat) (index : Nat),
      (processed.foldl (extractNext options) (paged, .empty)).1.alone options index =
        paged.alone options index) ∧
    (paged.extractPages options).2 =
      (List.range paged.pageCount).foldl (fun extraction index =>
        extraction.record index (paged.alone options index)) .empty ∧
    ∀ times : Nat,
      (((fun paged : PagedStore => (paged.extract options).1)^[times] paged).extract options).2 =
        (paged.extract options).2 :=
  ⟨fun processed index => alone_foldl closed off processed .empty index,
    foldl_extractNext_eq closed off .empty (List.range paged.pageCount),
    fun times => SameClosed.extract_eq ⟨iterate_extract_sameDocument off times, closed⟩ off⟩

/-- A page with content, and its fonts as another page, which has no boxes. -/
def ofMixedPageAndFonts : PagedStore := ⟨ofMixedPage.store, [1, 2]⟩

/-- The second page fails, and the first is what it is alone. -/
theorem extract_isolated_of_mixed_page :
    let paged := ofMixedPageAndFonts
    let options : ProcessOptions Float := .standard
    paged.store.Closed ∧ options.deskew = false ∧
    (∃ outcome, paged.alone options 0 = .ok outcome) ∧
    (∃ fault, paged.alone options 1 = .error fault) ∧
    (∀ (processed : List Nat) (index : Nat),
      (processed.foldl (extractNext options) (paged, .empty)).1.alone options index =
        paged.alone options index) ∧
    (paged.extractPages options).2 =
      (List.range paged.pageCount).foldl (fun extraction index =>
        extraction.record index (paged.alone options index)) .empty ∧
    ∀ times : Nat,
      (((fun paged : PagedStore => (paged.extract options).1)^[times] paged).extract options).2 =
        (paged.extract options).2 := by
  intro paged options
  have closed : paged.store.Closed := ofMixedPage_orderly.closed
  obtain ⟨setup, opening⟩ : ∃ setup, PageEdit.setUp 0 ofMixedPageAndFonts = .ok setup
      (ofMixedPageAndFonts.putDictionary 1 (writtenPage.set "Rotate" (.integer 0))) := ⟨_, by rfl⟩
  obtain ⟨measured, interpreted, texts⟩ := interpret_ofMixedPage 0
  obtain ⟨outcome, after, ended⟩ := PageEdit.processPage_of_unoriented
    (rfl : options.deskew = false) opening interpreted
    (PageOrientation.unoriented_of_texts texts (by simp))
  refine ⟨closed, rfl, ⟨outcome, ?_⟩, ⟨_, rfl⟩, extract_isolated paged options closed rfl⟩
  unfold alone
  rw [ended]
  rfl

end PagedStore

end PlacedText
