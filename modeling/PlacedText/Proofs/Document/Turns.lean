import PlacedText.Proofs.Document.Edited
import PlacedText.Proofs.Document.Isolated
import PlacedText.Proofs.Paged.Inherited

/-! # Rotations do not show in what is extracted

Two documents that differ only in numbers of degrees are processed side by side. A page is measured
and replayed without the rotation of its own, so that it comes to the same but for the rotation that
is reported (`PageEdit.processPage_alike`). What is left are documents that differ in rotations
again, as long as rotations are found for the same pages. With straightening pages get rotations of
their own, which may help pages below them to one. If those pages find one without that help, the
documents are extracted the same (`PagedStore.extractPages_of_degrees`).
-/

namespace PlacedText

open Effect PagedStore

/-! ## Numbers that are given out -/

/-- Changing a dictionary gives out no number. -/
theorem Store.maxId_modifyDictionary {store changed : Store} {id : Nat}
    {change : Dictionary → Dictionary} (ended : store.modifyDictionary id change = .ok changed) :
    changed.maxId = store.maxId := by
  unfold modifyDictionary at ended
  split at ended
  · cases ended
  · next at' entries found =>
    cases ended
    exact max_eq_left (le_maxId_of_getElem? (getElem?_of_locateFrom found).1)
  · cases ended

/-- Taking back an injected stream leaves the greatest number, as the number itself is not given
back. -/
theorem PagedStore.maxId_withdraw (paged : PagedStore) (prepended : PrependedStream) :
    (paged.withdraw prepended).store.maxId = paged.store.maxId := by
  unfold withdraw
  dsimp only [Store.erase]
  split
  · next store ended => exact Store.maxId_modifyDictionary ended
  · rfl

namespace PageEdit

/-- A change of a page adds no object. -/
theorem changePage_maxId (index : Nat) (change : Dictionary → Dictionary) (last : Nat) :
    Keeps (·.store.maxId = last) (changePage index change) := by
  intro paged held
  rw [changePage_eq]
  split
  · exact held
  · split
    · next store ended => exact (Store.maxId_modifyDictionary ended).trans held
    · exact held

theorem resumeRotation_maxId (index : Nat) (suspended? : Option (Option Object)) (last : Nat) :
    Keeps (·.store.maxId = last) (resumeRotation index suspended?) := by
  unfold resumeRotation
  cases suspended? with
  | none => exact keeps_pure ()
  | some own? => exact changePage_maxId index _ last

theorem settle_maxId (index before rotation : Nat) (suspended? : Option (Option Object))
    (last : Nat) : Keeps (·.store.maxId = last)
      (if rotation ≠ before then setRotation index rotation
        else resumeRotation index suspended?) := by
  split
  · exact changePage_maxId index _ last
  · exact resumeRotation_maxId index suspended? last

end PageEdit

/-! ## Pages that differ in their rotation -/

/-- What a page comes to, but for the rotation that it is left with. -/
def PageOutcome.withoutRotation (outcome : PageOutcome) : PageOutcome :=
  { outcome with rotation := 0 }

/-- Two documents that differ in rotations, in both of which a page is found. -/
structure PagedStore.ShownAlike (index : Nat) (first second : PagedStore) : Prop where
  alike : first.AlikeBy Dictionary.SameButTurn second
  found : ∃ page at' entries, first.PageAt index page at' entries

namespace PageEdit

variable {paged first second opened opened' : PagedStore}
  {index page at' before before' : Nat} {entries entries' : Dictionary}
  {suspended? suspended'? : Option (Option Object)} {options : ProcessOptions Float}

/-- Whether the entries of a page differ in its rotation only, and its rotation, own or inherited,
is the same unless its own entries are at most numbers of degrees. -/
structure TurnsAlike (before before' : Nat) (entries entries' : Dictionary) : Prop where
  same : entries.SameButTurn entries'
  turn : before = before' ∨
    Dictionary.IsTurn (entries.find? "Rotate") ∧ Dictionary.IsTurn (entries'.find? "Rotate")

/-- Settling the rotation touches no other entry of the page. -/
theorem get?_settled (before rotation : Nat) {key : Bytes}
    (different : key ≠ Text.Utf8.encode "Rotate") :
    (settled before rotation entries).get? key = entries.get? key := by
  unfold settled
  split
  · unfold Dictionary.set
    rw [Dictionary.get?_put, if_neg (Ne.symm different)]
  · rfl

/-- An entry that is a rotation is one when it is settled. -/
theorem isTurn_settled (before rotation : Nat)
    (turn : Dictionary.IsTurn (entries.find? "Rotate")) :
    Dictionary.IsTurn ((settled before rotation entries).find? "Rotate") := by
  unfold settled
  split
  · rw [Dictionary.find?_set_self]
    exact Dictionary.isTurn_integer _
  · exact turn

/-- A page whose rotation is settled differs in its rotation only, also if it is settled by the
rotation that it had. -/
theorem TurnsAlike.settled (turns : TurnsAlike before before' entries entries')
    (rotation : Nat → Nat) : (settled before (rotation before) entries).SameButTurn
      (PageEdit.settled before' (rotation before') entries') where
  rest := by
    intro key different
    rw [get?_settled _ _ different, get?_settled _ _ different, turns.same.rest key different]
  turn := by
    rcases turns.turn with rfl | ⟨turn, turn'⟩
    · unfold PageEdit.settled
      split
      · rw [Dictionary.find?_set_self, Dictionary.find?_set_self]
        exact .inl rfl
      · exact turns.same.turn
    · exact .inr ⟨isTurn_settled _ _ turn, isTurn_settled _ _ turn'⟩

/-- Suspending its rotation settles a page that is found. -/
theorem suspendRotation_of_pageAt (found : paged.PageAt index page at' entries) (before : Nat) :
    ∃ suspended? opened, suspendRotation index before paged = .ok suspended? opened ∧
      opened.SameDocument (paged.putDictionary at' (settled before 0 entries)) ∧
      opened.store.maxId = paged.store.maxId := by
  unfold suspendRotation settled
  by_cases upright : before = 0
  · rw [if_pos upright, if_neg fun other => other upright.symm]
    exact ⟨none, paged, rfl, found.putDictionary_self.symm, rfl⟩
  · rw [if_neg upright, if_pos (Ne.symm upright)]
    refine ⟨some (entries.find? "Rotate"), _, ?_, .refl _,
      max_eq_left (Store.le_maxId_of_getElem? found.getElem?)⟩
    rw [bind_of_ok (read_of_ok (ownRotation_of_pageAt found))]
    exact bind_of_ok (changePage_of_pageAt found _)

section

variable (alike : first.AlikeBy Dictionary.SameButTurn second)

include alike

/-- A page whose rotation is found in both documents has another one in one of them only by an entry
of its own. -/
theorem turnsAlike_of_rotation (turned : first.rotation index = .ok before)
    (turned' : second.rotation index = .ok before') :
    ∃ page at' entries entries', first.PageAt index page at' entries ∧
      second.PageAt index page at' entries' ∧ TurnsAlike before before' entries entries' := by
  obtain ⟨page, at', entries, found⟩ := pageAt_of_rotation turned
  obtain ⟨entries', found', same⟩ := alike.pageAt Dictionary.SameButTurn.refl found
  refine ⟨page, at', entries, entries', found, found', same, ?_⟩
  rcases alike.rotation_or_isTurn found found' same with rotations | turns
  · rw [turned, turned'] at rotations
    cases rotations
    exact .inl rfl
  · exact .inr turns

/-- With their rotation suspended, pages are shown alike. -/
theorem suspendRotation_alike (found : first.PageAt index page at' entries)
    (found' : second.PageAt index page at' entries')
    (turns : TurnsAlike before before' entries entries') :
    ∃ suspended? suspended'? opened opened',
      suspendRotation index before first = .ok suspended? opened ∧
      suspendRotation index before' second = .ok suspended'? opened' ∧
      ShownAlike index opened opened' := by
  obtain ⟨suspended?, opened, suspended, put, given⟩ := suspendRotation_of_pageAt found before
  obtain ⟨suspended'?, opened', suspended', put', given'⟩ :=
    suspendRotation_of_pageAt found' before'
  have upright := alike.putDictionary (turns.settled fun _ => 0) at'
  exact ⟨suspended?, suspended'?, opened, opened', suspended, suspended',
    upright.sameDocument put put' (given.trans (alike.maxId.trans given'.symm)),
    page, at', _, put.pageAt (found.putDictionary _)⟩

end

/-! ## Measuring and replaying -/

/-- A turned page shows the same glyphs whatever the rotations in the document. -/
theorem turnedGlyphs_alike (options : ExtractOptions) (index : Nat) (centre : Point Float)
    (angle : Float) :
    Agrees (ShownAlike index) Eq (turnedGlyphs options index centre angle)
      (turnedGlyphs options index centre angle) := by
  refine turnedGlyphs_agrees_of (fun _ _ shown => shown.alike.interpret options) ?_ centre angle
  rintro first second t ⟨alike, page, at', entries, found⟩
  obtain ⟨entries', found', same⟩ := alike.pageAt Dictionary.SameButTurn.refl found
  have moved := alike.prepended same at' t
  have withdrawn := withdraw_of_prepended (t := t) found (.refl _)
  have withdrawn' := withdraw_of_prepended (t := t) found' (.refl _)
  refine .inl ⟨page, at', entries, entries', found, found', moved.interpret options, ?_, ?_⟩
  · refine alike.sameDocument withdrawn withdrawn' ?_
    rw [maxId_withdraw, maxId_withdraw, moved.maxId]
  · exact ⟨page, at', entries, withdrawn.pageAt found⟩

/-- **A page that is not rotated comes to the same.** -/
theorem extract_alike (options : ProcessOptions Float) (index : Nat)
    (mediaBox cropBox : Rect Float) :
    Agrees (ShownAlike index) Eq (extract options index mediaBox cropBox)
      (extract options index mediaBox cropBox) :=
  extract_agrees_of (fun _ _ shown => shown.alike.interpret options.extract)
    (turnedGlyphs_alike options.extract index) mediaBox cropBox

/-! ## Straightening -/

/-- The content of a page is turned alike whatever the rotations in the document. -/
theorem rotateContents_alike (index : Nat) (degrees : Float) :
    Agrees (ShownAlike index) Eq (rotateContents index degrees) (rotateContents index degrees) := by
  unfold rotateContents
  refine (read_agrees fun _ _ shown => shown.alike.cropBox).bind ?_
  rintro cropBox _ rfl first second ⟨alike, page, at', entries, found⟩
  obtain ⟨entries', found', same⟩ := alike.pageAt Dictionary.SameButTurn.refl found
  rw [bind_of_ok (prepend_of_pageAt found _), bind_of_ok (prepend_of_pageAt found' _)]
  exact .ok ⟨alike.prepended same at' _, page, at', _, found.prepended _⟩ rfl

section

variable {extracted extracted' : PagedStore}
  (alike : first.AlikeBy Dictionary.SameButTurn second)
  (shown : extracted.AlikeBy Dictionary.SameButTurn extracted')
  (suspended : suspendRotation index before first = .ok suspended? opened)
  (suspended' : suspendRotation index before' second = .ok suspended'? opened')
  (kept : extracted.SameDocument opened) (kept' : extracted'.SameDocument opened')

include alike shown suspended suspended' kept kept'

/-- Rotations that were suspended are put back. -/
theorem resumeRotation_alike :
    (finalState (resumeRotation index suspended? extracted)).AlikeBy Dictionary.SameButTurn
      (finalState (resumeRotation index suspended'? extracted')) := by
  obtain ⟨last, resumed, restored⟩ := resumeRotation_of_suspendRotation suspended kept
  obtain ⟨last', resumed', restored'⟩ := resumeRotation_of_suspendRotation suspended' kept'
  have left := (resumeRotation_maxId index suspended? _).ok rfl resumed
  have right := (resumeRotation_maxId index suspended'? _).ok rfl resumed'
  rw [resumed, resumed']
  exact alike.sameDocument restored restored' (left.trans (shown.maxId.trans right.symm))

/-- A page is rotated and straightened by the same decision. -/
theorem straighten_alike (options : ProcessOptions Float) (decision : DeskewDecision Float)
    (found : first.PageAt index page at' entries) (found' : second.PageAt index page at' entries')
    (turns : TurnsAlike before before' entries entries') :
    SameEnd (PagedStore.AlikeBy Dictionary.SameButTurn) (fun _ _ => True)
      (straighten options index decision before suspended? extracted)
      (straighten options index decision before' suspended'? extracted') := by
  obtain ⟨between, ended, settled⟩ :=
    settle_eq found suspended kept (decision.finalRotation options.deskew before)
  obtain ⟨between', ended', settled'⟩ :=
    settle_eq found' suspended' kept' (decision.finalRotation options.deskew before')
  have left := (settle_maxId index before _ suspended? _).ok rfl ended
  have right := (settle_maxId index before' _ suspended'? _).ok rfl ended'
  have put := alike.putDictionary (turns.settled (decision.finalRotation options.deskew)) at'
  have stands : ShownAlike index between between' :=
    ⟨put.sameDocument settled settled' (left.trans (shown.maxId.trans right.symm)),
      page, at', _, settled.pageAt (found.putDictionary _)⟩
  rw [← Arithmetic.straighten_double, Arithmetic.double.straighten_of_settled ended,
    Arithmetic.double.straighten_of_settled ended']
  split
  · refine (rotateContents_alike index _ _ _ stands).bind ?_ fun _ _ shown => shown.alike
    rintro _ _ stop stop' shown -
    exact .ok shown.alike trivial
  · exact .ok stands.alike trivial

end

/-! ## Processing -/

/-- What is read ends alike, in the states that it is read in. -/
theorem read_sameEnd {β γ : Type} {answers : β → γ → Prop}
    {question : PagedStore → Except ReadFault β} {question' : PagedStore → Except ReadFault γ}
    (same : SameAnswer answers (question first) (question' second)) :
    SameEnd (fun stop stop' => stop = first ∧ stop' = second)
      (fun answer answer' => answers answer answer' ∧ question first = .ok answer ∧
        question' second = .ok answer') (read question first) (read question' second) := by
  unfold read
  revert same
  generalize question first = answered
  generalize question' second = answered'
  rintro (related | fault)
  · exact .ok ⟨rfl, rfl⟩ ⟨related, rfl, rfl⟩
  · exact .error ⟨rfl, rfl⟩

/-- **A page comes to the same in documents that differ in rotations**, if its rotation is found in
both or in neither of them, and leaves documents that differ in rotations. -/
theorem processPage_alike (options : ProcessOptions Float) (index : Nat)
    (alike : first.AlikeBy Dictionary.SameButTurn second)
    (rotations : first.HasRotation index ↔ second.HasRotation index) :
    SameEnd (PagedStore.AlikeBy Dictionary.SameButTurn)
      (fun outcome outcome' => outcome.withoutRotation = outcome'.withoutRotation)
      (processPage options index first) (processPage options index second) := by
  have failed : ∀ stop stop', stop = first ∧ stop' = second →
      stop.AlikeBy Dictionary.SameButTurn stop' := by
    rintro _ _ ⟨rfl, rfl⟩
    exact alike
  have kept (mediaBox cropBox : Rect Float) (origin : PagedStore) :
      (finalState (extract options index mediaBox cropBox origin)).SameDocument origin :=
    Arithmetic.extract_double ▸
      Arithmetic.double.extract_keeps options index mediaBox cropBox origin origin (.refl origin)
  unfold processPage setUp
  simp only [bind_assoc, pure_bind]
  refine (read_sameEnd (.of_eq alike.mediaBox)).bind ?_ failed
  rintro mediaBox _ _ _ ⟨rfl, rfl⟩ ⟨rfl, -⟩
  refine (read_sameEnd (.of_eq alike.cropBox)).bind ?_ failed
  rintro cropBox _ _ _ ⟨rfl, rfl⟩ ⟨rfl, -⟩
  refine (read_sameEnd (alike.rotation rotations)).bind ?_ failed
  rintro before before' _ _ ⟨rfl, rfl⟩ ⟨-, turned, turned'⟩
  -- The rotations may differ from here on, and with them whether anything was suspended.
  obtain ⟨page, at', entries, entries', found, found', turns⟩ :=
    turnsAlike_of_rotation alike turned turned'
  obtain ⟨suspended?, suspended'?, opened, opened', suspended, suspended', shown⟩ :=
    suspendRotation_alike alike found found' turns
  rw [bind_of_ok suspended, bind_of_ok suspended']
  have extracted : SameEnd (fun stop stop' => ShownAlike index stop stop' ∧
        stop.SameDocument opened ∧ stop'.SameDocument opened') Eq
      (extract options index mediaBox cropBox opened)
      (extract options index mediaBox cropBox opened') :=
    (extract_alike options index mediaBox cropBox opened opened' shown).keeping
      (kept mediaBox cropBox opened) (kept mediaBox cropBox opened')
  refine orElseDo_bind_sameEnd extracted ?_ ?_
  · rintro stop stop' ⟨shown, kept, kept'⟩
    exact resumeRotation_alike alike shown.alike suspended suspended' kept kept'
  · rintro ⟨text, decision, warnings⟩ stop stop' ⟨shown, kept, kept'⟩
    refine (straighten_alike alike shown.alike suspended suspended' kept kept' options decision
      found found' turns).bind ?_ fun _ _ alike => alike
    rintro rotation rotation' _ _ alike -
    exact .ok alike rfl

/-- A page that is settled refers to the same node above, and keeps having a rotation. -/
theorem settled_keeps (before rotation : Nat) (entries : Dictionary) :
    (settled before rotation entries).find? "Parent" = entries.find? "Parent" ∧
      ∀ value, entries.find? "Rotate" = some value →
        ∃ value', (settled before rotation entries).find? "Rotate" = some value' := by
  refine ⟨get?_settled _ _ (by decide), fun value own => ?_⟩
  unfold settled
  split
  · exact ⟨_, Dictionary.find?_set_self⟩
  · exact ⟨value, own⟩

/-- **Processing a page changes no page's finding a rotation**, if pages are not straightened or
find one wherever a page above them does; which they do then as before. -/
theorem processPage_rotations (options : ProcessOptions Float) (index : Nat)
    (rotations : options.deskew = true → paged.RotationsFound) :
    (∀ index', (finalState (processPage options index paged)).HasRotation index' ↔
        paged.HasRotation index') ∧
      (options.deskew = true → (finalState (processPage options index paged)).RotationsFound) := by
  cases on : options.deskew with
  | false =>
    have same := processPage_keeps on index paged paged (.refl paged)
    exact ⟨fun index' => same.hasRotation, nofun⟩
  | true =>
    -- Whatever was put in front of its content, a page that was straightened was settled.
    have straightened {after : PagedStore} {page at' : Nat} {entries changed : Dictionary}
        (found : paged.PageAt index page at' entries) (has : paged.HasRotation index)
        (settled : paged.store.Settled after.store at' entries changed)
        (pageIds : after.pageIds = paged.pageIds) :
        (∀ index', after.HasRotation index' ↔ paged.HasRotation index') ∧
          (true = true → after.RotationsFound) :=
      ⟨hasRotation_settled settled pageIds found has (rotations on),
        fun _ => rotationsFound_settled settled pageIds found has (rotations on)⟩
    rw [finalState_processPage]
    rcases Arithmetic.double.processPage_cases options paged index with
      ⟨fault, stop, failed, same⟩ |
        ⟨mediaBox, cropBox, before, suspended?, opened, extracted, text, decision, warnings, -,
          crop, turned, suspended, -, same, ended⟩
    · rw [failed]
      exact ⟨fun index' => same.hasRotation, fun _ => same.rotationsFound (rotations on)⟩
    · obtain ⟨page, at', entries, found⟩ := pageAt_of_rotation turned
      obtain ⟨between, put, left⟩ :=
        Arithmetic.double.straighten_eq found crop suspended same options decision
      obtain ⟨parent, rotate⟩ :=
        settled_keeps before (decision.finalRotation options.deskew before) entries
      rw [ended, finalState_bind_pure, left]
      dsimp only [finalState]
      split
      · exact straightened found ⟨before, turned⟩ (settled_prepended found put parent rotate _)
          put.pageIds
      · exact straightened found ⟨before, turned⟩ (settled_putDictionary found put parent rotate)
          put.pageIds

end PageEdit

/-! ## All pages -/

namespace Extraction

/-- What is extracted, but for the rotations that pages are left with. -/
def withoutRotations (extraction : Extraction) : Extraction :=
  { extraction with document :=
    { extraction.document with pages :=
      extraction.document.pages.map fun record => { record with rotation := 0 } } }

/-- What is recorded of a page is the same but for its rotation. -/
theorem withoutRotations_record (extraction : Extraction) (index : Nat)
    (outcome : Except ReadFault PageOutcome) :
    (extraction.record index outcome).withoutRotations =
      extraction.withoutRotations.record index (outcome.map PageOutcome.withoutRotation) := by
  cases outcome with
  | error fault => rfl
  | ok outcome =>
    unfold record withoutRotations addPage Document.pushPage
    dsimp only
    rw [List.map_append]
    rfl

end Extraction

namespace PagedStore

variable {first second : PagedStore} {options : ProcessOptions Float}

/-- Two documents that differ in rotations, which are found for the same pages, and stay so even if
pages are straightened. -/
structure ExtractedAlike (options : ProcessOptions Float) (first second : PagedStore) : Prop where
  alike : first.AlikeBy Dictionary.SameButTurn second
  rotations : ∀ index, first.HasRotation index ↔ second.HasRotation index
  found : options.deskew = true → first.RotationsFound

/-- Pages that stand apart do not help each other to a rotation. -/
theorem PagesApart.rotationsFound (apart : first.PagesApart) : first.RotationsFound := by
  intro index index' page page' at' at'' entries entries' node object found found' above placed has
  by_cases same : index = index'
  · exact same ▸ has
  · exact absurd placed (apart.unrelated _ _ _ _ _ _ _ _ same found found' _ above _)

/-- One more page comes to the same. -/
theorem ExtractedAlike.extractNext {progress progress' : PagedStore × Extraction}
    (held : ExtractedAlike options progress.1 progress'.1)
    (same : progress.2.withoutRotations = progress'.2.withoutRotations) (index : Nat) :
    ExtractedAlike options (PagedStore.extractNext options progress index).1
        (PagedStore.extractNext options progress' index).1 ∧
      (PagedStore.extractNext options progress index).2.withoutRotations =
        (PagedStore.extractNext options progress' index).2.withoutRotations := by
  have ended := PageEdit.processPage_alike options index held.alike (held.rotations index)
  obtain ⟨kept, found⟩ := PageEdit.processPage_rotations options index held.found
  obtain ⟨kept', -⟩ := PageEdit.processPage_rotations options index
    fun on => held.alike.rotationsFound held.rotations (held.found on)
  constructor
  · rw [extractNext_fst, extractNext_fst]
    exact ⟨ended.finalState,
      fun index' => (kept index').trans ((held.rotations index').trans (kept' index').symm), found⟩
  · rw [extractNext_eq, extractNext_eq, Extraction.withoutRotations_record,
      Extraction.withoutRotations_record, same]
    unfold alone
    rw [ended.map_outcome]

/-- So do any pages. -/
theorem ExtractedAlike.foldl_extractNext {progress progress' : PagedStore × Extraction}
    (held : ExtractedAlike options progress.1 progress'.1)
    (same : progress.2.withoutRotations = progress'.2.withoutRotations) (indices : List Nat) :
    (indices.foldl (PagedStore.extractNext options) progress).2.withoutRotations =
      (indices.foldl (PagedStore.extractNext options) progress').2.withoutRotations := by
  induction indices generalizing progress progress' with
  | nil => exact same
  | cons index indices ih =>
    obtain ⟨heldNext, sameNext⟩ := held.extractNext same index
    exact ih heldNext sameNext

/-- **Rotations do not show in what is extracted.** Two documents that differ only in the numbers of
degrees that their dictionaries turn pages by are extracted the same, with the same warnings, but
for the rotations that are reported. If pages are straightened, a page must find a rotation wherever
a page above it finds one: straightening may give a rotation of its own to the page above, and then
the page below finds that one. -/
theorem extractPages_of_degrees (first second : PagedStore) (options : ProcessOptions Float)
    (alike : first.AlikeBy Dictionary.SameButDegrees second)
    (found : options.deskew = true → first.RotationsFound) :
    (first.extractPages options).2.withoutRotations =
      (second.extractPages options).2.withoutRotations := by
  have held : ExtractedAlike options (first, Extraction.empty).1 (second, Extraction.empty).1 :=
    ⟨alike.mono fun _ _ same => same.sameButTurn, fun _ => alike.hasRotation_degrees, found⟩
  unfold extractPages pageCount
  rw [alike.pageIds]
  exact held.foldl_extractNext rfl _

/-- Two pages that are not turned by the node above them. -/
def ofTwoUprightPages : PagedStore :=
  ofTwoPages.putDictionary 3 (turningNode.set "Rotate" (.integer 0))

/-- Two pages are straightened the same whether or not the node above them turns them. -/
theorem extractPages_of_degrees_of_two_pages :
    let options : ProcessOptions Float := { ProcessOptions.standard with deskew := true }
    ofTwoPages.AlikeBy Dictionary.SameButDegrees ofTwoUprightPages ∧
    (options.deskew = true → ofTwoPages.RotationsFound) ∧
    (ofTwoPages.extractPages options).2.withoutRotations =
      (ofTwoUprightPages.extractPages options).2.withoutRotations := by
  intro options
  have turned : turningNode.SameButDegrees (turningNode.set "Rotate" (.integer 0)) := by
    refine ⟨fun key different => ?_, .inr ⟨90, 0, rfl, rfl⟩⟩
    unfold Dictionary.set
    rw [Dictionary.get?_put, if_neg (Ne.symm different)]
  have alike : ofTwoPages.AlikeBy Dictionary.SameButDegrees ofTwoUprightPages := by
    refine ⟨⟨fun id => ?_, rfl⟩, rfl, rfl⟩
    unfold ofTwoUprightPages
    rw [getElem?_putDictionary]
    split
    · next node =>
      subst node
      exact .some (.dictionary turned)
    · generalize ofTwoPages.store.objects[id]? = object?
      cases object? with
      | none => exact .none
      | some object => exact .some (.same object)
  have found : options.deskew = true → ofTwoPages.RotationsFound :=
    fun _ => ofTwoPages_apart.rotationsFound
  exact ⟨alike, found, extractPages_of_degrees ofTwoPages ofTwoUprightPages options alike found⟩

end PagedStore

end PlacedText
