import PlacedText.Proofs.Document.Partition
import PlacedText.Scalar.Binary64
import Mathlib.Data.List.Nodup

/-! # The pages of a document tile it

The check of a document accepts just those whose page ranges lie between cut points from the start
of the text to its end (`consecutive_iff_exists_cutBy`). The texts of the pages, one after the
other, are then the text, and every character has a row with its page and its box (`check_tiles`).
-/

namespace PlacedText

variable {α β γ : Type}

namespace Document

variable {start stop place : Nat} {record : PageRecord α} {records : List (PageRecord α)}

/-! ## Consecutive ranges -/

/-- The ranges of records lie between cut points, one after the other. -/
def CutBy (cut : Nat → Nat) (records : List (PageRecord α)) : Prop :=
  ∀ (place : Nat) (within : place < records.length), cut place ≤ cut (place + 1) ∧
    records[place].start = cut place ∧ records[place].stop = cut (place + 1)

/-- The first record lies between the first two cut points, and the others are cut by those behind.
-/
theorem cutBy_cons_iff {cut : Nat → Nat} :
    CutBy cut (record :: records) ↔ cut 0 ≤ cut 1 ∧ record.start = cut 0 ∧ record.stop = cut 1 ∧
      CutBy (fun place => cut (place + 1)) records := by
  constructor
  · intro cuts
    obtain ⟨ordered, started, stopped⟩ := cuts 0 (Nat.succ_pos _)
    exact ⟨ordered, started, stopped, fun place within =>
      cuts (place + 1) (Nat.succ_lt_succ within)⟩
  · rintro ⟨ordered, started, stopped, later⟩ place within
    cases place with
    | zero => exact ⟨ordered, started, stopped⟩
    | succ place => exact later place (Nat.lt_of_succ_lt_succ within)

/-- Ranges follow one another just where they lie between cut points. By induction on the records,
with one cut point in front of the others for each. -/
theorem consecutive_iff_exists_cutBy :
    Consecutive start records stop ↔
      ∃ cut : Nat → Nat, cut 0 = start ∧ cut records.length = stop ∧ CutBy cut records := by
  induction records generalizing start with
  | nil =>
    constructor
    · rintro rfl
      exact ⟨fun _ => start, rfl, rfl, fun place within => absurd within (Nat.not_lt_zero place)⟩
    · rintro ⟨cut, rfl, rfl, -⟩
      rfl
  | cons record records ih =>
    simp only [Consecutive, ih, cutBy_cons_iff, List.length_cons]
    constructor
    · rintro ⟨rfl, ordered, cut, stopped, ended, later⟩
      refine ⟨fun place => place.casesOn record.start cut, rfl, ended, ?_, rfl, stopped.symm, later⟩
      exact Nat.le_trans ordered (Nat.le_of_eq stopped.symm)
    · rintro ⟨cut, rfl, ended, ordered, started, stopped, later⟩
      exact ⟨started, stopped ▸ ordered, fun place => cut (place + 1), stopped.symm, ended, later⟩

/-- Ranges that follow one another do not go back. -/
theorem Consecutive.le (consecutive : Consecutive start records stop) : start ≤ stop := by
  induction records generalizing start with
  | nil => exact Nat.le_of_eq consecutive
  | cons record records ih =>
    obtain ⟨-, ordered, later⟩ := consecutive
    exact Nat.le_trans ordered (ih later)

/-- Each of the ranges lies between the ends of all of them. -/
theorem Consecutive.bounds (consecutive : Consecutive start records stop)
    (member : record ∈ records) :
    start ≤ record.start ∧ record.start ≤ record.stop ∧ record.stop ≤ stop := by
  induction records generalizing start with
  | nil => cases member
  | cons first records ih =>
    obtain ⟨started, ordered, later⟩ := consecutive
    rcases List.mem_cons.mp member with rfl | behind
    · exact ⟨Nat.le_of_eq started.symm, started ▸ ordered, later.le⟩
    · obtain ⟨follows, bounds⟩ := ih later behind
      exact ⟨Nat.le_trans ordered follows, bounds⟩

/-- Every position between the first and the last cut point is in one of the ranges. -/
theorem Consecutive.exists_record (consecutive : Consecutive start records stop)
    (after : start ≤ place) (before : place < stop) :
    ∃ record ∈ records, record.start ≤ place ∧ place < record.stop := by
  induction records generalizing start with
  | nil =>
    have : start = stop := consecutive
    omega
  | cons first records ih =>
    obtain ⟨started, -, later⟩ := consecutive
    by_cases here : place < first.stop
    · exact ⟨first, .head _, started ▸ after, here⟩
    · obtain ⟨record, member, within⟩ := ih later (Nat.not_lt.mp here)
      exact ⟨record, .tail _ member, within⟩

/-! ## Segments of a list -/

/-- The items in the range of a record. -/
def segment (items : List β) (record : PageRecord α) : List β :=
  (items.drop record.start).take (record.stop - record.start)

/-- The segments of a list by consecutive ranges join to the part that the ranges cover. By
induction on the records. -/
theorem Consecutive.flatMap_segment (consecutive : Consecutive start records stop)
    (items : List β) :
    records.flatMap (segment items) = (items.drop start).take (stop - start) := by
  induction records generalizing start with
  | nil =>
    cases consecutive
    simp
  | cons record records ih =>
    obtain ⟨rfl, ordered, later⟩ := consecutive
    have split : stop - record.start = (record.stop - record.start) + (stop - record.stop) := by
      have := later.le
      omega
    rw [List.flatMap_cons, ih later, split, List.take_add, List.drop_drop,
      Nat.add_sub_cancel' ordered]
    rfl

/-- What is made of the items in consecutive ranges is found at their positions. -/
theorem Consecutive.getElem?_flatMap (consecutive : Consecutive start records stop)
    {items : List β} (within : stop ≤ items.length) (view : PageRecord α → β → γ)
    (member : record ∈ records) (after : record.start ≤ place) (before : place < record.stop) :
    (records.flatMap fun record => (segment items record).map (view record))[place - start]? =
      items[place]?.map (view record) := by
  induction records generalizing start with
  | nil => cases member
  | cons first records ih =>
    obtain ⟨started, ordered, later⟩ := consecutive
    have fits := later.le
    have size : ((segment items first).map (view first)).length = first.stop - start := by
      simp only [segment, List.length_map, List.length_take, List.length_drop]
      omega
    rw [List.flatMap_cons]
    rcases List.mem_cons.mp member with rfl | behind
    · rw [List.getElem?_append_left (by omega), List.getElem?_map, segment,
        List.getElem?_take_of_lt (by omega), List.getElem?_drop, started]
      congr 2
      omega
    · have follows := (later.bounds behind).1
      rw [List.getElem?_append_right (by omega), size, ← ih later behind]
      congr 1
      omega

/-! ## Texts and rows -/

/-- Where page indices are distinct, a record is found by its own. -/
theorem find?_pageIndex (distinct : (records.map PageRecord.pageIndex).Nodup)
    (member : record ∈ records) :
    records.find? (fun other => other.pageIndex == record.pageIndex) = some record := by
  induction records with
  | nil => cases member
  | cons first records ih =>
    rw [List.map_cons, List.nodup_cons] at distinct
    rcases List.mem_cons.mp member with rfl | behind
    · simp
    · have other : first.pageIndex ≠ record.pageIndex := fun same =>
        distinct.1 (same ▸ List.mem_map_of_mem behind)
      rw [List.find?_cons_of_neg (by simpa using other), ih distinct.2 behind]

variable {document : Document α}

/-- The text of a page is the segment of the text by the range of its record. -/
theorem Partitioned.pageText?_eq (partitioned : document.Partitioned)
    (distinct : (document.pages.map PageRecord.pageIndex).Nodup)
    (member : record ∈ document.pages) :
    document.pageText? record.pageIndex =
      some (String.ofList (segment document.text.toList record)) := by
  have ordered := (partitioned.ranges.bounds member).2.1
  unfold pageText?
  rw [find?_pageIndex distinct member, Option.map_some]
  dsimp only
  rw [if_neg (Nat.not_lt.mpr ordered)]
  rfl

variable [Scalar α]

/-- The row of a character: the index of its page, and its box or the box of no area at the
origin. -/
def row (record : PageRecord α) (box? : Option (CharBox α)) : Nat × CharBox α :=
  (record.pageIndex, box?.getD CharBox.zero)

/-- The rows are the segments of the boxes, each box with the page of the record. -/
theorem Partitioned.boxesWithPages_eq (partitioned : document.Partitioned) :
    document.boxesWithPages = document.pages.flatMap fun record =>
      (segment document.charBoxes record).map (row record) := by
  unfold boxesWithPages
  refine List.flatMap_congr fun record member => ?_
  have bounds := partitioned.ranges.bounds member
  unfold boxesOf
  rw [if_pos bounds.2]
  rfl

/-- **The check is exact, and the pages tile the document.** A document passes the check if and only
if it has as many boxes as characters and its page ranges lie between cut points, the first of which
is the start of the text and the last one its end. If it passes and the indices of its pages are
distinct, then the texts of its pages, one after the other, are its text, and there is a row for
every character: each character is in the range of a page, and its row has the index of that page
and the box of the character, or the box of no area at the origin if it has none. -/
theorem check_tiles (document : Document α) :
    (document.check = .ok () ↔
      document.text.length = document.charBoxes.length ∧
        ∃ cut : Nat → Nat, cut 0 = 0 ∧ cut document.pages.length = document.charBoxes.length ∧
          CutBy cut document.pages) ∧
      (document.check = .ok () → (document.pages.map PageRecord.pageIndex).Nodup →
        (∃ texts, document.pages.map (fun record => document.pageText? record.pageIndex) =
            texts.map some ∧ String.join texts = document.text) ∧
          document.boxesWithPages.length = document.text.length ∧
          ∀ place < document.text.length,
            (∃ record ∈ document.pages, record.start ≤ place ∧ place < record.stop) ∧
            ∀ record ∈ document.pages, record.start ≤ place → place < record.stop →
              document.boxesWithPages[place]? =
                document.charBoxes[place]?.map fun box? =>
                  (record.pageIndex, box?.getD ⟨0.0, 0.0, 0.0, 0.0⟩)) := by
  refine ⟨?_, fun checked distinct => ?_⟩
  · rw [check_eq_ok_iff, ← consecutive_iff_exists_cutBy]
    exact ⟨fun partitioned => ⟨partitioned.boxes, partitioned.ranges⟩, fun ⟨boxes, ranges⟩ =>
      ⟨boxes, ranges⟩⟩
  · have partitioned := check_eq_ok_iff.mp checked
    have ranges := partitioned.ranges
    have whole := ranges.flatMap_segment document.text.toList
    rw [List.drop_zero, Nat.sub_zero, ← partitioned.boxes, String.length_toList.symm,
      List.take_length] at whole
    refine ⟨⟨document.pages.map fun record =>
      String.ofList (segment document.text.toList record), ?_, ?_⟩, ?_, fun place within =>
      ⟨?_, fun record member after before => ?_⟩⟩
    · rw [List.map_map]
      exact List.map_congr_left fun record member => partitioned.pageText?_eq distinct member
    · rw [← String.toList_inj, String.toList_join, List.flatMap_map]
      simpa using whole
    · have segments := congrArg List.length (ranges.flatMap_segment document.charBoxes)
      rw [partitioned.boxesWithPages_eq]
      simp only [List.length_flatMap, List.length_map] at segments ⊢
      rw [segments]
      simp [partitioned.boxes]
    · exact ranges.exists_record (Nat.zero_le place) (partitioned.boxes ▸ within)
    · rw [partitioned.boxesWithPages_eq]
      exact ranges.getElem?_flatMap Nat.le.refl row member after before

/-- A page of one character, a page without text, and a page of two characters. -/
def ofThreePages : Document Float where
  text := "aé\n"
  charBoxes := [some ⟨1.0, 2.0, 3.0, 4.0⟩, some ⟨5.0, 6.0, 7.0, 8.0⟩, none]
  pages := [⟨4, ⟨0.0, 0.0, 9.0, 9.0⟩, 0, 1, 0.0, 0⟩, ⟨0, ⟨0.0, 0.0, 9.0, 9.0⟩, 1, 1, 0.0, 0⟩,
    ⟨7, ⟨0.0, 0.0, 9.0, 9.0⟩, 1, 3, 0.0, 90⟩]
  tableOfContents := []

/-- One page has a character of one byte, one has none, and one has a character of two bytes and a
separator. -/
theorem check_tiles_of_three_pages :
    ofThreePages.check = .ok () ∧ (ofThreePages.pages.map PageRecord.pageIndex).Nodup ∧
      (∃ texts, ofThreePages.pages.map (fun record => ofThreePages.pageText? record.pageIndex) =
        texts.map some ∧ String.join texts = "aé\n") ∧
      ofThreePages.boxesWithPages.length = 3 ∧
      ofThreePages.boxesWithPages[1]? = some (7, ⟨5.0, 6.0, 7.0, 8.0⟩) ∧
      ofThreePages.boxesWithPages[2]? = some (7, ⟨0.0, 0.0, 0.0, 0.0⟩) := by
  have checked : ofThreePages.check = .ok () := rfl
  have distinct : (ofThreePages.pages.map PageRecord.pageIndex).Nodup := by decide
  obtain ⟨texts, rows, row⟩ := (check_tiles ofThreePages).2 checked distinct
  have last : ofThreePages.pages[2] ∈ ofThreePages.pages := List.getElem_mem _
  exact ⟨checked, distinct, texts, rows, (row 1 (by decide)).2 _ last (by decide) (by decide),
    (row 2 (by decide)).2 _ last (by decide) (by decide)⟩

end Document

end PlacedText
