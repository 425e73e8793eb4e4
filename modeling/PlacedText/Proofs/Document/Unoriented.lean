import PlacedText.Proofs.Document.Untouched
import PlacedText.Proofs.Drawing.Replay

/-! # Pages whose text tells no orientation

Punctuation and glyphs without text do not tell how a page is oriented
(`PageOrientation.histogramOf_unsigned`). A page with no other glyphs counts as upright and is
replayed once, as it is, so it is processed whenever it can be measured
(`PageEdit.processPage_of_unoriented`).
-/

namespace PlacedText

open Effect PagedStore

namespace Text

set_option maxRecDepth 100000 in
theorem exists_alphanumericRanges : ∃ chars, alphanumericRanges = String.ofList chars ∧
    ((pairs (hexRuns none chars)).all fun range => 0x30 ≤ range.1) = true := by
  refine ⟨_, rfl, ?_⟩
  decide +kernel

/-- The first of the letters and numbers is the digit zero. -/
theorem isAlphanumeric_of_lt {c : Char} (before : c.toNat < 0x30) : isAlphanumeric c = false := by
  obtain ⟨chars, table, ranges⟩ := exists_alphanumericRanges
  unfold isAlphanumeric alphanumericIntervals hexNumbers
  rw [table, String.toList_ofList, List.any_eq_false]
  intro range member
  have behind := of_decide_eq_true (List.all_eq_true.mp ranges range member)
  simp only [Bool.and_eq_true, decide_eq_true_eq, not_and]
  omega

end Text

namespace PageOrientation

variable {glyphs : List (GlyphEvent Float)}

/-- Whether no text of some glyphs tells how it is oriented. -/
def Unoriented (glyphs : List (GlyphEvent Float)) : Prop :=
  ∀ glyph ∈ glyphs, ∀ text ∈ glyph.unicode?, Histogram.isSignal text = false

/-- Characters in front of the digits tell no orientation. -/
theorem unoriented_of_texts {texts : List (Option String)}
    (shown : glyphs.map GlyphEvent.unicode? = texts)
    (marks : ∀ text, some text ∈ texts → ∀ c ∈ text.toList, c.toNat < 0x30) :
    Unoriented glyphs := by
  intro glyph member text own
  have listed : some text ∈ texts := by
    rw [← shown, ← Option.mem_def.mp own]
    exact List.mem_map_of_mem member
  unfold Histogram.isSignal
  rw [List.any_eq_false]
  intro c within
  rw [Text.isAlphanumeric_of_lt (marks text listed c within)]
  exact Bool.false_ne_true

/-- Text that tells no orientation leaves the histogram empty, whatever its angles are. -/
theorem histogramOf_unsigned (unoriented : Unoriented glyphs) : histogramOf glyphs = .empty := by
  unfold histogramOf
  induction glyphs with
  | nil => rfl
  | cons glyph glyphs ih =>
    obtain ⟨here, later⟩ := List.forall_mem_cons.mp unoriented
    rw [List.foldl_cons]
    cases found : glyph.unicode? with
    | none => exact ih later
    | some text =>
      have unsigned : Histogram.empty.addGlyph glyph.trm text = .empty := by
        unfold Histogram.addGlyph
        rw [here text found]
        rfl
      dsimp only
      rw [unsigned]
      exact ih later

/-- Such text has one orientation, the upright one. -/
theorem descending_of_unoriented (unoriented : Unoriented glyphs)
    (options : ProcessOptions Float) :
    (ofGlyphs options glyphs).descending = [(0.0, 0)] := by
  have one : (ofGlyphs options glyphs).clusters = .single 0.0 options.clusterThreshold := by
    unfold ofGlyphs clustersOf
    dsimp only
    rw [histogramOf_unsigned unoriented]
    exact if_pos rfl
  have upright : (Angle.normalize 0.0 : Float) = 0.0 := by decide +kernel
  unfold descending Scalar.sortOnDescending
  rw [one]
  unfold Clusters.single Clusters.angles
  rw [upright]
  exact List.mergeSort_singleton _

end PageOrientation

namespace PageEdit

variable {options : ProcessOptions Float} {index : Nat} {paged opened : PagedStore}
  {measured : Recording Float}

/-- Without glyphs that tell an orientation a page is replayed once, as it stands. The replay is the
interpretation that measured it, so the extraction succeeds and changes nothing. -/
theorem extract_of_unoriented
    (interpreted : opened.interpret options.extract index = .ok measured)
    (unoriented : PageOrientation.Unoriented measured.glyphs.toList)
    (mediaBox cropBox : Rect Float) :
    ∃ found, extract options index mediaBox cropBox opened = .ok found opened := by
  have shown : turnedGlyphs options.extract index cropBox.centre 0.0 opened =
      .ok measured.glyphs.toList opened := by
    unfold turnedGlyphs
    rw [if_pos (by decide), bind_of_ok (read_of_ok interpreted)]
    rfl
  have first : (do
      return ⟨0.0, 0, ← turnedGlyphs options.extract index cropBox.centre 0.0⟩ :
        PageEdit (Replay Float)) opened = .ok ⟨0.0, 0, measured.glyphs.toList⟩ opened :=
    bind_of_ok shown
  have replayed : PageLayout.replays (.ofGlyphs options measured.glyphs.toList)
      (turnedGlyphs options.extract index cropBox.centre) opened =
        .ok [⟨0.0, 0, measured.glyphs.toList⟩] opened := by
    unfold PageLayout.replays
    rw [PageOrientation.descending_of_unoriented unoriented, List.mapM_cons]
    exact bind_of_ok first
  unfold extract
  rw [bind_of_ok (read_of_ok interpreted)]
  exact ⟨_, bind_of_ok replayed⟩

/-- **A page whose text tells no orientation is processed** if it can be measured. -/
theorem processPage_of_unoriented (off : options.deskew = false) {setup : PageSetup}
    (opening : setUp index paged = .ok setup opened)
    (interpreted : opened.interpret options.extract index = .ok measured)
    (unoriented : PageOrientation.Unoriented measured.glyphs.toList) :
    ∃ outcome after, processPage options index paged = .ok outcome after := by
  obtain ⟨⟨text, decision, warnings⟩, extracted⟩ :=
    extract_of_unoriented interpreted unoriented setup.mediaBox setup.cropBox
  obtain ⟨last, resumed, -⟩ := resumeRotation_of_setUp opening (SameDocument.refl opened)
  have straightened : straighten options index decision setup.rotation setup.suspended? opened =
      .ok setup.rotation last := by
    rw [straighten_eq_resumeRotation off, bind_of_ok resumed]
    rfl
  unfold processPage
  rw [bind_of_ok opening, bind_of_ok (orElseDo_of_ok extracted)]
  exact ⟨_, _, bind_of_ok straightened⟩

end PageEdit

end PlacedText
