import PlacedText.Proofs.Document.Straightening
import PlacedText.Proofs.Drawing.SafeFonts
import PlacedText.Proofs.Paged.Edited

/-! # Straightening edits what it reports

With straightening a page that is skipped is left as it was, and one that is processed is rotated
and given a stream as its decision calls for (`PageEdit.straighten_eq`). If no page stands above
another one, these are the only edits of a document, and the records tell the rotations that its
pages are left with (`PagedStore.extract_edits`).
-/

namespace PlacedText

open Effect PagedStore

/-! ## Decisions -/

namespace DeskewDecision

variable {α : Type} [Scalar α] (decision : DeskewDecision α)

/-- The rotation that a decision calls for, if it can be trusted and the page has another one. -/
def turn? (before : Nat) : Option Nat :=
  if decision.reliable ∧ decision.pageRotation ≠ before then some decision.pageRotation else none

/-- The transform that takes the skew out of a page about a point, if the decision can be trusted
and there is any. -/
def slant? (centre : Point α) : Option (Transform α) :=
  if decision.reliable ∧ decision.skewAngle != 0.0 then
    some (.rotationAbout (-decision.skewAngle) centre)
  else none

omit [Scalar α] in
/-- A page is turned to the rotation of the decision, if it is turned at all. -/
theorem turn?_eq_some {before degrees : Nat} (turned : decision.turn? before = some degrees) :
    degrees = decision.pageRotation := by
  unfold turn? at turned
  split at turned
  · cases turned
    rfl
  · cases turned

omit [Scalar α] in
/-- The rotation that is recorded is the one that the page is turned to, or else the one it has. -/
theorem finalRotation_eq (before : Nat) :
    decision.finalRotation true before = (decision.turn? before).getD before := by
  unfold finalRotation turn?
  cases decision.reliable with
  | false => rfl
  | true =>
    by_cases same : decision.pageRotation = before
    · simp [same]
    · simp [same]

/-- The content is turned against the skew, unless there is none to correct. -/
theorem slant?_eq (decision : DeskewDecision Float) (centre : Point Float) :
    decision.slant? centre =
      if decision.correctedSkew true != 0.0 then
        some (.rotationAbout (-decision.correctedSkew true) centre)
      else none := by
  unfold slant? correctedSkew
  cases decision.reliable with
  | false =>
    have straight : ((0.0 : Float) != 0.0) = false := by decide
    simp [straight]
  | true => simp

end DeskewDecision

/-- A page is rotated by right angles. -/
theorem Histogram.deskew_pageRotation {α : Type} [Scalar α] (histogram : Histogram α)
    (quantile maxSkew : α) :
    ∃ quarterTurns < 4, (histogram.deskew quantile maxSkew).pageRotation = quarterTurns * 90 := by
  unfold deskew
  split
  · exact ⟨0, by omega, rfl⟩
  · dsimp only
    split
    · exact ⟨0, by omega, rfl⟩
    · exact ⟨_, by omega, rfl⟩

namespace PageEdit

variable {paged before opened extracted : PagedStore} {index page at' rotation : Nat}
  {entries : Dictionary} {suspended? : Option (Option Object)} {options : ProcessOptions Float}
  {cropBox : Rect Float}

/-! ## Straightening -/

/-- The entries that a page is settled with are those that its decision calls for. -/
theorem settled_eq_turn {decision : DeskewDecision Float}
    (right : decision.pageRotation % 360 = decision.pageRotation) (before : Nat)
    (entries : Dictionary) :
    settled before (decision.finalRotation true before) entries =
      PageChange.turn (decision.turn? before) entries := by
  rw [decision.finalRotation_eq]
  unfold settled DeskewDecision.turn?
  split
  · next turned =>
    rw [Option.getD_some, if_pos turned.2, right]
    rfl
  · rw [Option.getD_none, if_neg (by simp)]
    rfl

/-- **A page is left as its decision calls for**: rotated, if it has another rotation, and behind a
transform, if it is skewed. -/
theorem straighten_eq (on : options.deskew = true) (found : paged.PageAt index page at' entries)
    (crop : paged.cropBox index = .ok cropBox)
    (suspended : suspendRotation index rotation paged = .ok suspended? opened)
    (same : extracted.SameDocument opened) {decision : DeskewDecision Float}
    (right : decision.pageRotation % 360 = decision.pageRotation) :
    ∃ between, between.SameDocument
        (paged.putDictionary at' (PageChange.turn (decision.turn? rotation) entries)) ∧
      straighten options index decision rotation suspended? extracted =
        .ok ((decision.turn? rotation).getD rotation)
          (match decision.slant? cropBox.centre with
          | some t => between.prepended at' (PageChange.turn (decision.turn? rotation) entries) t
          | none => between) := by
  obtain ⟨between, settled, straightened⟩ :=
    Arithmetic.double.straighten_eq found crop suspended same options decision
  rw [on, settled_eq_turn right] at settled straightened
  refine ⟨between, settled, ?_⟩
  rw [← Arithmetic.straighten_double, straightened, decision.finalRotation_eq, decision.slant?_eq]
  split
  · rfl
  · rfl

/-- What is decided about a page are right angles. -/
theorem pageRotation_of_extract {mediaBox : Rect Float} {text : PageText Float}
    {decision : DeskewDecision Float} {warnings : List Warning}
    (ended : extract options index mediaBox cropBox opened =
      .ok (text, decision, warnings) extracted) :
    ∃ quarterTurns < 4, decision.pageRotation = quarterTurns * 90 := by
  obtain ⟨measured, replays, -, -, -, rfl, -⟩ := extract_eq_ok ended
  exact Histogram.deskew_pageRotation _ _ _

end PageEdit

/-! ## One page -/

/-- What processing a page of a document changes of it: nothing if it is skipped, else what the
decision about it calls for. -/
inductive PageChange.LeftBy (options : ProcessOptions Float) (paged before : PagedStore)
    (index : Nat) : PageChange → Prop where
  | skipped {fault : ReadFault} {stop : PagedStore}
    (failed : PageEdit.processPage options index before = .error fault stop) :
    LeftBy options paged before index .none
  | processed {outcome : PageOutcome} {stop opened extracted : PagedStore} {setup : PageSetup}
    {decision : DeskewDecision Float} {change : PageChange}
    (ended : PageEdit.processPage options index before = .ok outcome stop)
    (opening : PageEdit.setUp index before = .ok setup opened)
    (extraction : PageEdit.extract options index setup.mediaBox setup.cropBox opened =
      .ok (outcome.text, decision, outcome.warnings) extracted)
    (original : paged.rotation index = .ok setup.rotation)
    (rotation : change.rotation? = decision.turn? setup.rotation)
    (front : change.front?.map Prod.snd = decision.slant? setup.cropBox.centre) :
    LeftBy options paged before index change

namespace PagedStore

variable {paged before after : PagedStore} {changes : Nat → PageChange} {index : Nat}
  {options : ProcessOptions Float}

/-- The rotation that a page is left with by a change of it. -/
theorem Edited.rotation_of_change (edited : paged.Edited after changes) (apart : paged.PagesApart)
    (found : ∃ page at' entries, paged.PageAt index page at' entries)
    {decision : DeskewDecision Float} {before : Nat}
    (right : rightAngle decision.pageRotation = decision.pageRotation)
    (original : paged.rotation index = .ok before)
    (changed : (changes index).rotation? = decision.turn? before) :
    after.rotation index = .ok ((decision.turn? before).getD before) := by
  obtain ⟨page, at', entries, found⟩ := found
  cases turned : decision.turn? before with
  | none => exact (edited.rotation_of_kept apart found (changed.trans turned)).mpr original
  | some degrees =>
    rw [edited.rotation_of_turned found (changed.trans turned), Option.getD_some,
      decision.turn?_eq_some turned, right]

/-- A page that is straightened is edited as its decision calls for: it is turned if the decision
says so, its content is put behind the slant if there is a skew, and the rotation it is left with is
the one that is returned. -/
theorem Edited.straighten (on : options.deskew = true) (apart : paged.PagesApart)
    (edited : paged.Edited before changes) (plain : changes index = .none)
    {opened extracted : PagedStore} {cropBox : Rect Float} {rotation : Nat}
    {suspended? : Option (Option Object)} (crop : before.cropBox index = .ok cropBox)
    (turned : before.rotation index = .ok rotation)
    (suspended : PageEdit.suspendRotation index rotation before = .ok suspended? opened)
    (same : extracted.SameDocument opened) {decision : DeskewDecision Float}
    (right : ∃ quarterTurns < 4, decision.pageRotation = quarterTurns * 90) :
    ∃ stop change, PageEdit.straighten options index decision rotation suspended? extracted =
        .ok ((decision.turn? rotation).getD rotation) stop ∧
      change.rotation? = decision.turn? rotation ∧
      change.front?.map Prod.snd = decision.slant? cropBox.centre ∧
      paged.rotation index = .ok rotation ∧
      stop.rotation index = .ok ((decision.turn? rotation).getD rotation) ∧
      paged.Edited stop (Function.update changes index change) := by
  obtain ⟨page, at', entries, found, there⟩ := edited.pageAt_of_plain plain turned
  have original := (edited.rotation_of_kept apart found (by rw [plain]; rfl)).mp turned
  obtain ⟨quarterTurns, few, right⟩ := right
  have whole : decision.pageRotation % 360 = decision.pageRotation := by omega
  have settled : rightAngle decision.pageRotation = decision.pageRotation := by
    unfold rightAngle
    omega
  obtain ⟨between, same, straightened⟩ :=
    PageEdit.straighten_eq on there crop suspended same whole
  have rotated := edited.turn apart found plain same
  have left {stop : PagedStore} {change : PageChange}
      (turn : change.rotation? = decision.turn? rotation)
      (edited' : paged.Edited stop (Function.update changes index change)) :
      stop.rotation index = .ok ((decision.turn? rotation).getD rotation) := by
    refine edited'.rotation_of_change apart ⟨page, at', entries, found⟩ settled original ?_
    rw [Function.update_self, turn]
  cases slanted : decision.slant? cropBox.centre with
  | none =>
    rw [slanted] at straightened
    exact ⟨between, _, straightened, rfl, rfl, original, left rfl rotated, rotated⟩
  | some t =>
    rw [slanted] at straightened
    have behind := rotated.prepend apart found (Function.update_self _ _ _) t
    rw [Function.update_idem] at behind
    exact ⟨_, _, straightened, rfl, rfl, original, left rfl behind, behind⟩

/-- **Processing a page edits what it reports.** A page that fails leaves the document as it was,
and one that does not fail comes to its straightening with the document unchanged. -/
theorem Edited.processPage (on : options.deskew = true) (apart : paged.PagesApart)
    (edited : paged.Edited before changes) (plain : changes index = .none) :
    ∃ change : PageChange, change.LeftBy options paged before index ∧
      paged.Edited (finalState (PageEdit.processPage options index before))
        (Function.update changes index change) ∧
      ∀ outcome stop, PageEdit.processPage options index before = .ok outcome stop →
        stop.rotation index = .ok outcome.rotation := by
  rcases Arithmetic.double.processPage_cases options before index with
    ⟨fault, stop, failed, same⟩ |
      ⟨mediaBox, cropBox, rotation, suspended?, opened, extracted, text, decision, warnings, media,
        crop, turned, suspended, extraction, same, ended⟩
  · have failed : PageEdit.processPage options index before = .error fault stop := by
      rw [Arithmetic.processPage_double, map_eq_pure_bind, bind_of_error failed]
    refine ⟨.none, .skipped failed, ?_, ?_⟩
    · rw [failed, ← plain, Function.update_eq_self]
      exact edited.sameDocument same
    · intro outcome stop ended
      cases failed.symm.trans ended
  · rw [Arithmetic.extract_double] at extraction
    have opening : PageEdit.setUp index before =
        .ok ⟨mediaBox, cropBox, rotation, suspended?⟩ opened :=
      PageEdit.setUp_of_ok media crop turned suspended
    obtain ⟨stop, change, straightened, turn, front, original, left, edited'⟩ :=
      edited.straighten on apart plain crop turned suspended same
        (PageEdit.pageRotation_of_extract extraction)
    have processed : PageEdit.processPage options index before =
        .ok ⟨mediaBox, text, decision.measuredAngle, (decision.turn? rotation).getD rotation,
          warnings⟩ stop := by
      rw [Arithmetic.processPage_double, map_eq_pure_bind,
        bind_of_ok (ended.trans (bind_of_ok straightened))]
      rfl
    refine ⟨change, .processed processed opening extraction original turn front, ?_, ?_⟩
    · rw [processed]
      exact edited'
    · intro outcome stop ended
      cases processed.symm.trans ended
      exact left

/-! ## All pages -/

/-- An edit of one page does not show in the rotation of another. -/
theorem Edited.rotation_of_other {last : PagedStore} {changes' : Nat → PageChange}
    (edited : paged.Edited before changes) (edited' : paged.Edited last changes')
    (apart : paged.PagesApart) (same : changes' index = changes index) {degrees : Nat}
    (turned : before.rotation index = .ok degrees) : last.rotation index = .ok degrees := by
  obtain ⟨page, at', own, there⟩ := pageAt_of_rotation turned
  obtain ⟨entries, found⟩ := edited.pageAt_back there
  cases changed : (changes index).rotation? with
  | none =>
    have original := (edited.rotation_of_kept apart found changed).mp turned
    exact (edited'.rotation_of_kept apart found (by rw [same, changed])).mpr original
  | some rotated =>
    rw [edited'.rotation_of_turned found (by rw [same, changed])]
    rwa [edited.rotation_of_turned found changed] at turned

theorem extractNext_fst (progress : PagedStore × Extraction) (index : Nat) :
    (extractNext options progress index).1 =
      finalState (PageEdit.processPage options index progress.1) := by
  unfold extractNext
  cases PageEdit.processPage options index progress.1 with
  | ok => rfl
  | error => rfl

/-- A record is there already, or of the page that was processed. -/
theorem mem_pages_extractNext {progress : PagedStore × Extraction} {record : PageRecord Float}
    (member : record ∈ (extractNext options progress index).2.document.pages) :
    record ∈ progress.2.document.pages ∨ record.pageIndex = index ∧
      ∃ outcome stop, PageEdit.processPage options index progress.1 = .ok outcome stop ∧
        record.rotation = outcome.rotation := by
  unfold extractNext at member
  cases ended : PageEdit.processPage options index progress.1 with
  | ok outcome stop =>
    rw [ended] at member
    rcases List.mem_append.mp member with before | last
    · exact .inl before
    · rw [List.mem_singleton.mp last]
      exact .inr ⟨rfl, outcome, stop, rfl, rfl⟩
  | error fault stop =>
    rw [ended] at member
    exact .inl member

/-- **The pages that are processed are edited as their records report.** By induction on the pages:
a page that is still to come has no changes, and one that was processed keeps its rotation, since it
does not inherit from the next one. -/
theorem foldl_extractNext_edits (on : options.deskew = true) (apart : paged.PagesApart)
    (count : Nat) :
    ∃ changes : Nat → PageChange,
      paged.Edited ((List.range count).foldl (extractNext options) (paged, .empty)).1 changes ∧
      (∀ index < count, (changes index).LeftBy options paged
        ((List.range index).foldl (extractNext options) (paged, .empty)).1 index) ∧
      (∀ index, count ≤ index → changes index = .none) ∧
      ∀ record ∈ ((List.range count).foldl (extractNext options)
          (paged, .empty)).2.document.pages, record.pageIndex < count ∧
        ((List.range count).foldl (extractNext options) (paged, .empty)).1.rotation
          record.pageIndex = .ok record.rotation := by
  induction count with
  | zero =>
    refine ⟨fun _ => .none, .refl paged, fun _ few => ?_, fun _ _ => rfl, fun _ member => ?_⟩
    · exact absurd few (Nat.not_lt_zero _)
    · cases member
  | succ count ih =>
    obtain ⟨changes, edited, left, later, recorded⟩ := ih
    rw [List.range_succ, List.foldl_append, List.foldl_cons, List.foldl_nil]
    obtain ⟨change, leftBy, editedNext, rotated⟩ := edited.processPage on apart (later count le_rfl)
    rw [← extractNext_fst] at editedNext
    refine ⟨Function.update changes count change, editedNext, ?left, ?later, ?recorded⟩
    case left =>
      intro index few
      rcases Nat.lt_succ_iff_lt_or_eq.mp few with before | rfl
      · rw [Function.update_of_ne before.ne]
        exact left index before
      · rw [Function.update_self]
        exact leftBy
    case later =>
      intro index many
      rw [Function.update_of_ne (by omega)]
      exact later index (by omega)
    case recorded =>
      intro record member
      rcases mem_pages_extractNext member with before | ⟨last, outcome, stop, ended, same⟩
      · obtain ⟨few, turned⟩ := recorded record before
        exact ⟨by omega, edited.rotation_of_other editedNext apart
          (Function.update_of_ne few.ne _ _) turned⟩
      · rw [last, same, extractNext_fst, ended]
        exact ⟨Nat.lt_succ_self _, rotated outcome stop ended⟩

/-- **Straightening edits exactly what it reports.** If no page of a document stands above another
one, then whatever pages are skipped, the document that is left is the one before but for the
changes of its pages: none of a page that is skipped, and of one that is processed those that the
decision about it calls for. The record of a page tells the rotation that the page is left with. -/
theorem extract_edits (paged : PagedStore) (options : ProcessOptions Float)
    (on : options.deskew = true) (apart : paged.PagesApart) :
    ∃ changes : Nat → PageChange,
      paged.Edited (paged.extract options).1 changes ∧
      (∀ index < paged.pageCount, (changes index).LeftBy options paged
        ((List.range index).foldl (extractNext options) (paged, .empty)).1 index) ∧
      ∀ record ∈ (paged.extract options).2.document.pages,
        (paged.extract options).1.rotation record.pageIndex = .ok record.rotation := by
  obtain ⟨changes, edited, left, -, recorded⟩ := foldl_extractNext_edits on apart paged.pageCount
  exact ⟨changes, edited, left, fun record member => (recorded record member).2⟩

/-- The node above two pages, which turns them. -/
def turningNode : Dictionary :=
  [(Text.Utf8.encode "Rotate", .integer 90),
    (Text.Utf8.encode "MediaBox", .array [.integer 0, .integer 0, .integer 612, .integer 792])]

/-- The dictionary of a page below that node. -/
def turnedLeaf : Dictionary :=
  [(Text.Utf8.encode "Parent", .reference 3), (Text.Utf8.encode "Contents", .reference 4),
    (Text.Utf8.encode "Resources", .dictionary [])]

/-- A document of two pages that are turned by the node above them and share a slanted text. -/
def ofTwoPages : PagedStore :=
  ⟨.ofObjects [(1, .dictionary turnedLeaf), (2, .dictionary turnedLeaf),
    (3, .dictionary turningNode), (4, .ofData [] slantedText)] [], [1, 2]⟩

/-- Both pages show the text. -/
theorem interpret_ofTwoPages {options : ExtractOptions} (few : 5 ≤ options.maxOperators)
    {index : Nat} (two : index < 2) :
    ∃ measured, ofTwoPages.interpret options index = .ok measured ∧ measured.glyphs.size = 2 := by
  have shown {page : Nat} (id : ofTwoPages.pageId index = .ok page)
      (content : ofTwoPages.store.pageContent page = .ok slantedText)
      (resources : ofTwoPages.store.pageResources page = .ok []) :
      ∃ measured, ofTwoPages.interpret options index = .ok measured ∧
        measured.glyphs.size = 2 := by
    obtain ⟨measured, ran, unended, -, size⟩ :=
      Store.interpret_slantedText (α := Float) content resources few fun _ => rfl
    exact ⟨measured, interpret_of_pageId id ran unended, size⟩
  match index, two with
  | 0, _ => exact shown (rfl : ofTwoPages.pageId 0 = .ok 1) rfl rfl
  | 1, _ => exact shown (rfl : ofTwoPages.pageId 1 = .ok 2) rfl rfl

/-- The document has two pages, each in the object of its own number. -/
theorem pageAt_ofTwoPages {page at' : Nat} {entries : Dictionary}
    (found : ofTwoPages.PageAt index page at' entries) :
    page = index + 1 ∧ at' = index + 1 ∧ index < 2 := by
  match index, found with
  | 0, found =>
    cases (rfl : ofTwoPages.pageId 0 = .ok 1).symm.trans found.id
    cases (rfl : ofTwoPages.store.locate 1 = .ok (1, .dictionary turnedLeaf)).symm.trans found.found
    exact ⟨rfl, rfl, by omega⟩
  | 1, found =>
    cases (rfl : ofTwoPages.pageId 1 = .ok 2).symm.trans found.id
    cases (rfl : ofTwoPages.store.locate 2 = .ok (2, .dictionary turnedLeaf)).symm.trans found.found
    exact ⟨rfl, rfl, by omega⟩
  | _ + 2, found => cases found.id

/-- Above each of the pages there is only the root of the tree. -/
theorem above_ofTwoPages {page node : Nat} (here : page = 1 ∨ page = 2)
    (above : ofTwoPages.store.Above page node) : node = 3 := by
  induction above with
  | parent own refers =>
    rcases here with rfl | rfl
    · cases (rfl : ofTwoPages.store.dictionary 1 = .ok turnedLeaf).symm.trans own
      cases refers
      rfl
    · cases (rfl : ofTwoPages.store.dictionary 2 = .ok turnedLeaf).symm.trans own
      cases refers
      rfl
  | above _ own refers ih =>
    cases ih
    cases (rfl : ofTwoPages.store.dictionary 3 = .ok turningNode).symm.trans own
    cases refers

/-- The pages stand in different objects, and neither stands above the other. -/
theorem ofTwoPages_apart : ofTwoPages.PagesApart where
  distinct := by
    intro index index' page page' at' at'' entries entries' different found found'
    have first := pageAt_ofTwoPages found
    have second := pageAt_ofTwoPages found'
    omega
  unrelated := by
    intro index index' page page' at' at'' entries entries' different found found' node above object
      located
    have first := pageAt_ofTwoPages found
    have second := pageAt_ofTwoPages found'
    cases above_ofTwoPages (by omega) above
    cases (rfl : ofTwoPages.store.locate 3 = .ok (3, .dictionary turningNode)).symm.trans located
    omega

/-- Two pages with slanted text, which are turned by the node above them. How far each of them is
straightened is told by an arc tangent of doubles, of which nothing is assumed. -/
theorem extract_edits_of_two_pages :
    let options : ProcessOptions Float := { ProcessOptions.standard with deskew := true }
    options.deskew = true ∧ ofTwoPages.PagesApart ∧
    (∀ index < ofTwoPages.pageCount, ∃ measured,
      ofTwoPages.interpret options.extract index = .ok measured ∧ measured.glyphs.size = 2) ∧
    ∃ changes : Nat → PageChange,
      ofTwoPages.Edited (ofTwoPages.extract options).1 changes ∧
      (∀ index < ofTwoPages.pageCount, (changes index).LeftBy options ofTwoPages
        ((List.range index).foldl (extractNext options) (ofTwoPages, .empty)).1 index) ∧
      ∀ record ∈ (ofTwoPages.extract options).2.document.pages,
        (ofTwoPages.extract options).1.rotation record.pageIndex = .ok record.rotation := by
  intro options
  exact ⟨rfl, ofTwoPages_apart, fun _ two => interpret_ofTwoPages (by decide) two,
    extract_edits ofTwoPages options rfl ofTwoPages_apart⟩

end PagedStore

end PlacedText
