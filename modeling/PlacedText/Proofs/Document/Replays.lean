import PlacedText.Proofs.Document.Orderly
import PlacedText.Proofs.Document.Unoriented
import PlacedText.Proofs.Drawing.SafeFonts
import PlacedText.Proofs.Page.Runs
import PlacedText.Proofs.Paged.Twins

/-! # Every glyph is emitted once

A page of an orderly document shows the same glyphs each time it is replayed, with a transform in
front of its content or without one (`PageEdit.turnedGlyphs_same`). Each glyph that was measured is
therefore in the run of its band and in no other (`PagedStore.extract_emits_once`).
-/

namespace PlacedText

open Effect PagedStore

/-! ## Replaying a page -/

namespace PagedStore

variable {paged other : PagedStore} {options : ExtractOptions} {index : Nat}
  {measured recording : Recording Float}

/-- A page that is interpreted is found. -/
theorem exists_pageAt (ended : paged.interpret options index = .ok measured) :
    ∃ page at' entries, paged.PageAt index page at' entries ∧
      paged.store.interpret options page = (measured, none) ∧ measured.abort? = none := by
  obtain ⟨page, id, ran, unended⟩ := interpret_eq_ok ended
  obtain ⟨content, _, read, _⟩ := Store.interpret_eq_ok ran
  obtain ⟨at', entries, found⟩ := pageAt_of_pageContent id read
  exact ⟨page, at', entries, found, ran, unended⟩

/-- A page is interpreted again in a store that is like the first one but for edits of pages. -/
theorem interpret_again {page : Nat} (id : other.pageId index = .ok page)
    (ran : paged.store.interpret options page = (measured, none))
    (alike : paged.store.Alike other.store)
    (behind : ∀ content content', paged.store.pageContent page = .ok content →
      other.store.pageContent page = .ok content' → Content.ReadsBehindTransform content content')
    (ended : other.interpret options index = .ok recording) :
    List.Forall₂ GlyphEvent.Same measured.glyphs.toList recording.glyphs.toList := by
  obtain ⟨page', id', ran', -⟩ := interpret_eq_ok ended
  rw [id] at id'
  cases id'
  exact Store.interpret_again alike behind ran ran'

end PagedStore

namespace PageEdit

variable {opened before after : PagedStore} {options : ExtractOptions} {index : Nat}
  {measured : Recording Float} {centre : Point Float} {angle : Float}
  {glyphs : List (GlyphEvent Float)}

/-- **A replay shows the glyphs that were measured.** The page is drawn again as it stands, or
behind a transform whose operator is read in front of the same content; the glyphs show the same
then, and are only placed elsewhere. -/
theorem turnedGlyphs_same (orderly : opened.Orderly) (same : before.SameDocument opened)
    (interpreted : opened.interpret options index = .ok measured)
    (replayed : turnedGlyphs options index centre angle before = .ok glyphs after) :
    List.Forall₂ GlyphEvent.Same measured.glyphs.toList glyphs := by
  obtain ⟨page, at', entries, found, ran, -⟩ := exists_pageAt interpreted
  have there := same.pageAt found
  unfold turnedGlyphs at replayed
  split at replayed
  · obtain ⟨recording, between, shown, rest⟩ := bind_eq_ok replayed
    cases rest
    obtain ⟨ended, _⟩ := read_eq_ok shown
    cases ended.symm.trans (same.interpret.trans interpreted)
    exact List.forall₂_same.mpr fun glyph _ => ⟨trivial, rfl, rfl, rfl, rfl, rfl, rfl⟩
  · generalize Transform.rotationAbout (-angle) centre = t at replayed
    unfold underTransform at replayed
    rw [prepend_of_pageAt there] at replayed
    dsimp only at replayed
    split at replayed
    · next answer last shown =>
      cases replayed
      obtain ⟨recording, between, shown, rest⟩ := bind_eq_ok shown
      cases rest
      obtain ⟨ended, _⟩ := read_eq_ok shown
      have alike := (found.changedAt_prepended same t).alike
        (entries.sameElsewhere_set (.inl rfl) _) orderly.closed (orderly.apart _ _ _ _ found)
      refine interpret_again (there.prepended t).id ran alike
        (fun content content' read read' => ?_) ended
      exact readsBehind_prepended found orderly.closed same t read read'
    · cases replayed

/-- Each replay of a page, turned by the angle of its band, shows the glyphs that were measured. -/
theorem replays_showAgain {orientation : PageOrientation Float} {replays : List (Replay Float)}
    (orderly : opened.Orderly) (interpreted : opened.interpret options index = .ok measured)
    (replayed : PageLayout.replays orientation (turnedGlyphs options index centre) opened =
      .ok replays after) :
    Replay.ShowAgain orientation measured.glyphs.toList replays := by
  apply Replay.views_of_replays (·.SameDocument opened) ?kept ?shown (SameDocument.refl opened)
    replayed
  case kept => exact fun angle => turnedGlyphs_keeps options index centre angle opened
  case shown =>
    intro angle before glyphs last same turned
    exact turnedGlyphs_same orderly same interpreted turned

end PageEdit

/-! ## A document of one turned page -/

namespace PagedStore

/-- The dictionary of a page that is turned and has a font. -/
def turnedPage : Dictionary :=
  [(Text.Utf8.encode "MediaBox", .array [.integer 0, .integer 0, .integer 612, .integer 792]),
    (Text.Utf8.encode "Rotate", .integer 90),
    (Text.Utf8.encode "Resources", .dictionary [(Text.Utf8.encode "Font", .reference 2)])]

/-- A document of one page that is turned, with some fonts. -/
def ofTurnedPageWith (fonts : Dictionary) : PagedStore :=
  ⟨.ofObjects [(1, .dictionary turnedPage), (2, .dictionary fonts)] [], [1]⟩

section

variable {fonts : Dictionary}

theorem getElem?_ofTurnedPageWith (id : Nat) : (ofTurnedPageWith fonts).store.objects[id]? =
    if 2 = id then some (.dictionary fonts) else if 1 = id then some (.dictionary turnedPage)
    else none := by
  unfold ofTurnedPageWith Store.ofObjects
  simp only [List.foldl_cons, List.foldl_nil, Store.getElem?_insert]
  rfl

/-- What the document holds is held by its fonts, or refers to nothing but them and has the entries
of the page or of its resources. -/
theorem holds_ofTurnedPageWith {inner : Object}
    (held : (ofTurnedPageWith fonts).store.Holds inner) :
    (Object.dictionary fonts).Holds inner ∨ (∀ id, inner = .reference id → id = 2) ∧
      ∀ own, Store.entriesOf inner = some own →
        own = turnedPage ∨ own = [(Text.Utf8.encode "Font", .reference 2)] := by
  obtain ⟨id, root, found, within⟩ := held
  rw [getElem?_ofTurnedPageWith] at found
  split at found
  · cases found
    exact .inl within
  refine .inr ?_
  split at found
  · cases found
    rcases within.of_entries rfl with rfl | ⟨_, _, member, deeper⟩
    · simp [Store.entriesOf]
    · simp only [turnedPage, List.mem_cons, Prod.mk.injEq, List.not_mem_nil, or_false] at member
      rcases member with ⟨_, rfl⟩ | ⟨_, rfl⟩ | ⟨_, rfl⟩
      · cases deeper with
        | self => simp [Store.entriesOf]
        | entry own => cases own
        | item number last =>
          simp only [List.mem_cons, List.not_mem_nil, or_false] at number
          rcases number with rfl | rfl | rfl | rfl
          all_goals
            rw [last.eq_of_plain rfl rfl]
            simp [Store.entriesOf]
      · rw [deeper.eq_of_plain rfl rfl]
        simp [Store.entriesOf]
      · rcases deeper.of_entries rfl with rfl | ⟨_, _, font, last⟩
        · simp [Store.entriesOf]
        · cases List.mem_singleton.mp font
          rw [last.eq_of_plain rfl rfl]
          simp [Store.entriesOf]
  · cases found

/-- The document is orderly if its fonts refer to nothing. -/
theorem ofTurnedPageWith_orderly
    (direct : ∀ id : Nat, ¬(Object.dictionary fonts).Holds (.reference id)) :
    (ofTurnedPageWith fonts).Orderly := by
  refine ⟨fun id held => ?_, fun index page at' entries found own held key isCategory id refers
    object located => ?_⟩
  · rcases holds_ofTurnedPageWith held with within | ⟨second, -⟩
    · exact absurd within (direct id)
    · rw [second id rfl, Std.ExtTreeMap.mem_iff_isSome_getElem?, getElem?_ofTurnedPageWith]
      rfl
  · have font : id = 2 := by
      rcases held with rfl | ⟨inner, within, its⟩
      · cases refers
      · rcases holds_ofTurnedPageWith within with inside | ⟨-, known⟩
        · exact absurd (inside.trans
            (.entry its (Dictionary.mem_of_get? refers) (.self _))) (direct id)
        · rcases known own its with rfl | rfl
          · rcases isCategory with rfl | rfl
            · cases (show none = some (Object.reference id) from refers)
            · cases (show none = some (Object.reference id) from refers)
          · rcases isCategory with rfl | rfl
            · cases (show some (Object.reference 2) = some (Object.reference id) from refers)
              rfl
            · cases (show none = some (Object.reference id) from refers)
    subst font
    cases (show Except.ok (2, Object.dictionary fonts) = .ok (at', object) from located)
    have first : page = 1 := by
      have id := found.id
      unfold pageId at id
      split at id
      · next there =>
        cases id
        exact List.mem_singleton.mp (List.mem_of_getElem? there)
      · cases id
    subst first
    cases (show Except.ok (1, Object.dictionary turnedPage) = .ok (2, .dictionary entries) from
      found.found)

end

/-- The dictionary of the page if it has content. -/
def writtenPage : Dictionary := turnedPage.set "Contents" (.reference 3)

/-- A document of one page that is turned and has some content. -/
def ofWrittenPage (fonts : Dictionary) (text : Bytes) : PagedStore :=
  ((ofTurnedPageWith fonts).withNew (.ofData [] text)).putDictionary 1 writtenPage

/-- The document of a page is orderly if its fonts refer to nothing: no page stands in what the
pages hold. -/
theorem ofWrittenPage_orderly {fonts : Dictionary}
    (direct : ∀ id : Nat, ¬(Object.dictionary fonts).Holds (.reference id)) (text : Bytes) :
    (ofWrittenPage fonts text).Orderly := by
  have found : (ofTurnedPageWith fonts).PageAt 0 1 1 turnedPage := ⟨rfl, rfl⟩
  apply ((ofTurnedPageWith_orderly direct).withData found _).putDictionary (found.withNew _)
  · rintro category (rfl | rfl)
    · decide
    · decide
  · intro inner held
    rw [held.eq_of_plain rfl rfl]
    refine Or.inr ⟨rfl, fun id same => ?_⟩
    cases same
    exact Store.mem_of_getElem? (Store.getElem?_insert.trans (if_pos rfl))

/-- A font of two-byte codes that have no text. -/
def twoByteFonts : Dictionary :=
  [(Text.Utf8.encode "G", .dictionary
    [(Text.Utf8.encode "Subtype", .name (Text.Utf8.encode "Type0"))])]

/-- Two marks in a font that is missing, and two codes without text. -/
def mixedText : Bytes :=
  Text.Utf8.encode "BT /F 12 Tf 72 700 Td (!,) Tj /G 12 Tf (abcd) Tj ET"

/-- A document of one page with this content. -/
def ofMixedPage : PagedStore := ofWrittenPage twoByteFonts mixedText

def mixedOperators : List (Operator Numeral) :=
  [⟨"BT", []⟩, ⟨"Tf", [.name "F", .number ⟨false, 12, 0⟩]⟩,
    ⟨"Td", [.number ⟨false, 72, 0⟩, .number ⟨false, 700, 0⟩]⟩, ⟨"Tj", [.string [33, 44]]⟩,
    ⟨"Tf", [.name "G", .number ⟨false, 12, 0⟩]⟩, ⟨"Tj", [.string [97, 98, 99, 100]]⟩, ⟨"ET", []⟩]

theorem operators_mixedText : Content.operators mixedText = .ok mixedOperators := by
  cbv

/-- The fonts of the page are written in place, so its document is orderly. -/
theorem ofMixedPage_orderly : ofMixedPage.Orderly := by
  refine ofWrittenPage_orderly (fun id held => ?_) mixedText
  rcases held.of_entries rfl with same | ⟨_, _, font, inside⟩
  · cases same
  · cases List.mem_singleton.mp font
    rcases inside.of_entries rfl with same | ⟨_, _, subtype, inner⟩
    · cases same
    · cases List.mem_singleton.mp subtype
      cases inner.eq_of_plain rfl rfl

/-- The page is measured. Its marks have a text, and the codes behind them have none. -/
theorem interpret_ofMixedPage (degrees : Int) :
    ∃ measured : Recording Float,
      (ofMixedPage.putDictionary 1 (writtenPage.set "Rotate" (.integer degrees))).interpret
        .standard 0 = .ok measured ∧
      measured.glyphs.toList.map GlyphEvent.unicode? = [some "!", some ",", none, none] := by
  let store := (ofMixedPage.putDictionary 1 (writtenPage.set "Rotate" (.integer degrees))).store
  have content : store.pageContent 1 = .ok mixedText := rfl
  have resources : store.pageResources 1 = .ok [(Text.Utf8.encode "Font", .reference 2)] := rfl
  have read : Interpreter.operators mixedText =
      .ok (mixedOperators.map (Operator.map (Numeral.value (α := Float)))) := by
    unfold Interpreter.operators
    rw [operators_mixedText]
    rfl
  have safe (name : String) : (Interpreter.fontNamed ⟨store, .standard⟩
      [(Text.Utf8.encode "Font", .reference 2)] name : Font Float).IsSafe := by
    unfold Interpreter.fontNamed
    cases named : Interpreter.fontDictionary? ⟨store, .standard⟩
        [(Text.Utf8.encode "Font", .reference 2)] name with
    | none => exact Font.fallback_isSafe name
    | some own =>
      change store.dictionary? twoByteFonts name = some own at named
      unfold Store.dictionary? Store.value? Dictionary.find? twoByteFonts at named
      rw [Dictionary.get?_cons] at named
      split at named
      · cases named
        exact Font.isSafe_of_no_encoding rfl rfl
      · cases named
  obtain ⟨measured, ended, unended, shown⟩ := Store.interpret_of_plain content resources read
    (by simp [mixedOperators, Operator.map]) (by decide) safe
  refine ⟨measured, interpret_of_pageId rfl ended unended, ?_⟩
  have texts : measured.glyphs.toList.map GlyphEvent.unicode? =
      [33, 44].map (fun code => ((Font.fallback "F" : Font Float).readText code).toOption.join.map
        NormalForm.none.apply) ++ [none, none] := by
    rw [shown.glyphs]
    rfl
  rw [texts]
  simp only [Font.readText_fallback, List.map_cons, List.map_nil]
  rfl

end PagedStore

/-! ## What a page comes to -/

/-- What a page comes to if every replay of it shows the glyphs that were measured: each of them is
in the run of its band, and counted once if it has no text. -/
structure PageOutcome.EmitsOnce (outcome : PageOutcome) (options : ProcessOptions Float)
    (index : Nat) (setup : PageSetup) (measured : Recording Float)
    (orientation : PageOrientation Float) (replays : List (Replay Float)) : Prop where
  /-- Every replay has the same glyphs in the same order. -/
  replayed : ∀ replay ∈ replays,
    List.Forall₂ GlyphEvent.Same measured.glyphs.toList replay.glyphs
  /-- Each band is replayed once. -/
  distinct : (replays.map Replay.band).Nodup
  /-- The band that a glyph is given is replayed. -/
  given : ∀ glyph, ∃ replay ∈ replays, orientation.bandOf? glyph = some replay.band
  /-- A band is replayed by the angle of its cluster. -/
  angles : ∀ replay ∈ replays, orientation.clusters.angles[replay.band]? = some replay.angle
  descending : (replays.map Replay.angle).Pairwise fun angle later => Scalar.totalLE later angle
  /-- The run of a band has the measured glyphs that are given it, in their order. -/
  runs : ∀ replay ∈ replays, List.Forall₂
    (PageLayout.frame options orientation setup.mediaBox setup.cropBox replay.angle).Shows
    (orientation.inBand measured.glyphs.toList replay.band)
    (PageLayout.run options orientation setup.mediaBox setup.cropBox replay)
  /-- The glyphs of all bands are those that were measured, each as often. -/
  shared : (replays.flatMap fun replay =>
    orientation.inBand measured.glyphs.toList replay.band).Perm measured.glyphs.toList
  /-- So are the texts of all runs. -/
  texts : ((replays.flatMap (PageLayout.run options orientation setup.mediaBox setup.cropBox)).map
    PlacedGlyph.text).Perm (measured.glyphs.toList.map GlyphEvent.shownText)
  /-- The text of the page is laid out of the runs, in the order of the replays. -/
  text : outcome.text =
    ((replays.map (PageLayout.run options orientation setup.mediaBox setup.cropBox)).foldl
      (fun (text : PageText Float) glyphs => text.pushRun options.layout glyphs) .empty).finish
        options.separators
  /-- If some glyphs have no text and warnings are collected, one warning counts these glyphs. It
  comes behind those of the measurement. -/
  counted : options.extract.collectWarnings = true →
    GlyphEvent.unmapped measured.glyphs.toList ≠ 0 →
    outcome.warnings = (measured.warnings.toList.map fun warning => warning.onPage index) ++
      [{ kind := .encodingFallback
         description := toString (GlyphEvent.unmapped measured.glyphs.toList) ++
           " glyphs without a Unicode mapping"
         page? := some index
         operator? := none
         fontName? := none }]
  /-- Otherwise the measurement has warned of everything. -/
  uncounted : options.extract.collectWarnings = false ∨
    GlyphEvent.unmapped measured.glyphs.toList = 0 →
      outcome.warnings = measured.warnings.toList.map fun warning => warning.onPage index

namespace PagedStore

/-- **Every glyph is emitted once.** Whatever pages of an orderly document were processed before, a
page that is not skipped was measured, and every replay of it shows the glyphs that were measured;
so each of them is in the run of the one band it is given. The text is laid out of these runs, and
one warning counts the glyphs that have no text, if there are any and warnings are collected. -/
theorem extract_emits_once (paged : PagedStore) (options : ProcessOptions Float)
    (orderly : paged.Orderly) (processed : List Nat) {index : Nat} {outcome : PageOutcome}
    {after : PagedStore}
    (ended : PageEdit.processPage options index
      (processed.foldl (extractNext options) (paged, .empty)).1 = .ok outcome after) :
    ∃ (setup : PageSetup) (opened extracted : PagedStore) (measured : Recording Float)
      (replays : List (Replay Float)),
      PageEdit.setUp index (processed.foldl (extractNext options) (paged, .empty)).1 =
        .ok setup opened ∧
      opened.interpret options.extract index = .ok measured ∧
      PageLayout.replays (.ofGlyphs options measured.glyphs.toList)
        (PageEdit.turnedGlyphs options.extract index setup.cropBox.centre) opened =
          .ok replays extracted ∧
      outcome.EmitsOnce options index setup measured
        (.ofGlyphs options measured.glyphs.toList) replays := by
  have before := foldl_extractNext_orderly options (paged, .empty) processed orderly
  obtain ⟨setup, opened, extracted, decision, opening, extraction, -⟩ :=
    PageEdit.processPage_eq_ok ended
  have openedOrderly := (PageEdit.setUp_orderly index).ok before opening
  obtain ⟨measured, replays, interpreted, replayed, text, -, warnings⟩ :=
    PageEdit.extract_eq_ok extraction
  have again := PageEdit.replays_showAgain openedOrderly interpreted replayed
  refine ⟨setup, opened, extracted, measured, replays, opening, interpreted, replayed, ?_⟩
  exact {
    replayed := again.glyphs
    distinct := again.nodup
    given := again.exists_replay
    angles := again.ofAngle
    descending := by
      rw [again.angles]
      exact PageOrientation.descending_pairwise _
    runs := again.run
    shared := again.flatMap_perm
    texts := again.runs_perm
    text := by
      rw [text, PageLayout.ofReplays_text]
    counted := by
      intro collected some
      rw [warnings, again.unmapped, List.map_append]
      unfold PageEdit.unmappedWarning?
      rw [if_pos ⟨Nat.pos_of_ne_zero some, collected⟩]
      rfl
    uncounted := by
      intro uncounted
      rw [warnings, again.unmapped, List.map_append]
      unfold PageEdit.unmappedWarning?
      rw [if_neg]
      · exact List.append_nil _
      · rintro ⟨some, collected⟩
        rcases uncounted with uncollected | none
        · exact Bool.false_ne_true (uncollected.symm.trans collected)
        · exact some.ne' none }

/-- A page with two marks and two glyphs that have no text. All four are in the one run of the page,
and the warning counts two. -/
theorem extract_emits_once_of_mixed_page :
    let options : ProcessOptions Float := .standard
    let before := (([] : List Nat).foldl (extractNext options) (ofMixedPage, .empty)).1
    ofMixedPage.Orderly ∧ ∃ (outcome : PageOutcome) (after : PagedStore),
      PageEdit.processPage options 0 before = .ok outcome after ∧
      ∃ (setup : PageSetup) (opened extracted : PagedStore) (measured : Recording Float)
        (replays : List (Replay Float)),
        PageEdit.setUp 0 before = .ok setup opened ∧
        opened.interpret options.extract 0 = .ok measured ∧
        PageLayout.replays (.ofGlyphs options measured.glyphs.toList)
          (PageEdit.turnedGlyphs options.extract 0 setup.cropBox.centre) opened =
            .ok replays extracted ∧
        outcome.EmitsOnce options 0 setup measured (.ofGlyphs options measured.glyphs.toList)
          replays ∧
        measured.glyphs.toList.map GlyphEvent.shownText = ["!", ",", "\uFFFD", "\uFFFD"] ∧
        outcome.warnings.getLast?.map Warning.description =
          some "2 glyphs without a Unicode mapping" := by
  intro options before
  obtain ⟨setup, opening⟩ : ∃ setup, PageEdit.setUp 0 ofMixedPage = .ok setup
      (ofMixedPage.putDictionary 1 (writtenPage.set "Rotate" (.integer 0))) := ⟨_, by rfl⟩
  obtain ⟨measured, interpreted, texts⟩ := interpret_ofMixedPage 0
  have unoriented := PageOrientation.unoriented_of_texts texts (by simp)
  have unmapped : GlyphEvent.unmapped measured.glyphs.toList = 2 := by
    have counted := congrArg (List.countP fun text? : Option String => text? = none) texts
    rwa [List.countP_map] at counted
  obtain ⟨outcome, after, ended⟩ :=
    PageEdit.processPage_of_unoriented (rfl : options.deskew = false) opening interpreted unoriented
  obtain ⟨setup', opened, extracted, measured', replays, opening', interpreted', replayed, once⟩ :=
    extract_emits_once ofMixedPage options ofMixedPage_orderly [] ended
  cases opening.symm.trans opening'
  cases interpreted.symm.trans interpreted'
  have warned := once.counted rfl (by rw [unmapped]; decide)
  refine ⟨ofMixedPage_orderly, outcome, after, ended, setup, _, extracted, measured, replays,
    opening, interpreted, replayed, once, ?_, ?_⟩
  · have shown := congrArg (List.map fun text? : Option String => text?.getD "\uFFFD") texts
    rwa [List.map_map] at shown
  · rw [warned, List.getLast?_concat, unmapped]
    rfl

end PagedStore

end PlacedText
