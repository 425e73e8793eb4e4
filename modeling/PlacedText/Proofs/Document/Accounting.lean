import PlacedText.Proofs.Document.Partition
import PlacedText.Proofs.Document.Processing
import PlacedText.Proofs.Drawing.Warnings

/-! # Every page is accounted for

An extraction has a record or a warning for every page of the document, whichever pages fail, and
the ranges of its records partition its text (`PagedStore.extract_accounts`). It is the end of the
program unless a font ends the processing of a page (`PagedStore.process_eq_ok_iff`).
-/

namespace PlacedText

namespace Extraction

/-- The pages that an extraction reports as skipped, in the order of the warnings. -/
def skipped (extraction : Extraction) : List (Option Nat) :=
  (Warning.ofKind .pageSkipped extraction.warnings).map Warning.page?

/-- The pages that an extraction has a record for. -/
def recorded (extraction : Extraction) : List Nat :=
  extraction.document.pages.map PageRecord.pageIndex

/-- The records of an extraction partition its text, stand in the order of the pages, and together
with the warnings about skipped pages name each of so many pages once. -/
structure Accounts (extraction : Extraction) (pageCount : Nat) : Prop where
  partitioned : extraction.document.Partitioned
  ascending : extraction.recorded.Pairwise (· < ·)
  named : (extraction.recorded.map some ++ extraction.skipped).Perm
    ((List.range pageCount).map some)

variable {extraction : Extraction} {pageCount : Nat}

theorem Accounts.empty : empty.Accounts 0 :=
  ⟨Document.Partitioned.empty, .nil, .nil⟩

/-- A page that has a record is one of the pages that are accounted for. -/
theorem Accounts.lt_of_recorded (accounts : extraction.Accounts pageCount) {page : Nat}
    (member : page ∈ extraction.recorded) : page < pageCount := by
  have present : some page ∈ extraction.recorded.map some ++ extraction.skipped :=
    List.mem_append_left _ (List.mem_map_of_mem member)
  obtain ⟨index, inRange, same⟩ := List.mem_map.mp (accounts.named.mem_iff.mp present)
  cases same
  exact List.mem_range.mp inRange

/-- Warnings that do not report a skipped page leave the skipped pages as they are. -/
theorem ofKind_append_of_other {warnings others : List Warning}
    (other : ∀ warning ∈ others, warning.kind ≠ .pageSkipped) :
    Warning.ofKind .pageSkipped (warnings ++ others) = Warning.ofKind .pageSkipped warnings := by
  unfold Warning.ofKind
  have none : (others.filter fun warning => warning.kind == .pageSkipped) = [] := by
    apply List.filter_eq_nil_iff.mpr
    intro warning member
    rw [beq_iff_eq]
    exact other warning member
  rw [List.filter_append, none, List.append_nil]

/-- A page that was processed is accounted for by its record: its index is greater than all before,
and none of its warnings is that of a skipped page. -/
theorem Accounts.addPage (accounts : extraction.Accounts pageCount) {outcome : PageOutcome}
    (other : ∀ warning ∈ outcome.warnings, warning.kind ≠ .pageSkipped) :
    (extraction.addPage pageCount outcome).Accounts (pageCount + 1) := by
  have recorded : (extraction.addPage pageCount outcome).recorded =
      extraction.recorded ++ [pageCount] := by
    simp [Extraction.recorded, Extraction.addPage, Document.pushPage]
  have skipped : (extraction.addPage pageCount outcome).skipped = extraction.skipped := by
    unfold Extraction.skipped Extraction.addPage
    rw [ofKind_append_of_other other]
  refine ⟨accounts.partitioned.pushPage .., ?_, ?_⟩
  · rw [recorded, List.pairwise_append]
    refine ⟨accounts.ascending, List.pairwise_singleton _ _, ?_⟩
    intro page member last isLast
    rw [List.mem_singleton.mp isLast]
    exact accounts.lt_of_recorded member
  · rw [recorded, skipped, List.range_succ, List.map_append, List.map_append, List.append_assoc]
    refine (List.perm_append_comm.append_left _).trans ?_
    rw [← List.append_assoc]
    exact accounts.named.append_right _

/-- A page that failed is accounted for by the one warning that it was skipped. -/
theorem Accounts.skipPage (accounts : extraction.Accounts pageCount) (fault : ReadFault) :
    (extraction.skipPage pageCount fault).Accounts (pageCount + 1) := by
  have skipped : (extraction.skipPage pageCount fault).skipped =
      extraction.skipped ++ [some pageCount] := by
    simp [Extraction.skipped, Extraction.skipPage, Warning.ofKind, Warning.of, Warning.onPage]
  refine ⟨accounts.partitioned, accounts.ascending, ?_⟩
  rw [skipped, List.range_succ, List.map_append, ← List.append_assoc]
  exact accounts.named.append_right _

/-- The table of contents and warnings about other things do not matter. -/
theorem Accounts.withContents (accounts : extraction.Accounts pageCount)
    (entries : List (ContentsEntry Float)) {warnings : List Warning}
    (other : ∀ warning ∈ warnings, warning.kind ≠ .pageSkipped) :
    Accounts ⟨{ extraction.document with tableOfContents := entries },
      extraction.warnings ++ warnings, extraction.abort?⟩ pageCount := by
  refine ⟨⟨accounts.partitioned.boxes, accounts.partitioned.ranges⟩, accounts.ascending, ?_⟩
  unfold skipped
  rw [ofKind_append_of_other other]
  exact accounts.named

end Extraction

/-! ## Warnings about other things -/

theorem Warning.kind_onPage (warning : Warning) (page : Nat) :
    (warning.onPage page).kind = warning.kind := rfl

namespace PageEdit

/-- What is warned of glyphs without a text is no skipped page. -/
theorem unmappedWarning_kind {options : ExtractOptions} {unmapped : Nat} {warning : Warning}
    (warned : unmappedWarning? options unmapped = some warning) :
    warning.kind = .encodingFallback := by
  unfold unmappedWarning? at warned
  split at warned
  · cases warned
    rfl
  · cases warned

/-- A page that is processed does not report a page as skipped. -/
theorem processPage_warnings {options : ProcessOptions Float} {index : Nat}
    {before after : PagedStore} {outcome : PageOutcome}
    (ended : processPage options index before = .ok outcome after) :
    ∀ warning ∈ outcome.warnings, warning.kind ≠ .pageSkipped := by
  obtain ⟨setup, opened, extracted, decision, -, extraction, -⟩ := processPage_eq_ok ended
  obtain ⟨measured, replays, interpreted, -, -, -, warnings⟩ := extract_eq_ok extraction
  intro warning member
  rw [warnings] at member
  obtain ⟨unplaced, recorded, rfl⟩ := List.mem_map.mp member
  rw [Warning.kind_onPage]
  rcases List.mem_append.mp recorded with content | unmapped
  · have ofContent : measured.WarnsOfContent := by
      obtain ⟨page, -, whole, -⟩ := PagedStore.interpret_eq_ok interpreted
      have kept := opened.store.interpret_warnings (α := Float) options.extract page
      rw [whole] at kept
      exact kept
    rcases ofContent unplaced (Array.mem_toList_iff.mp content) with kind | kind
    · simp [kind]
    · simp [kind]
  · rw [unmappedWarning_kind (Option.mem_toList.mp unmapped)]
    simp

end PageEdit

namespace NamedDestinations

variable {ι α : Type}

/-- Reading named destinations warns of duplicate definitions only. -/
theorem ofDefinitions_warnings (definitions : List (DestinationDefinition ι α)) :
    ∀ warning ∈ (ofDefinitions definitions).2, warning.kind = .duplicateDestination := by
  have run : ∀ known : NamedDestinations ι α × Array Warning,
      (∀ warning ∈ known.2, warning.kind = .duplicateDestination) →
        ∀ warning ∈ (definitions.foldl addDefinition known).2,
          warning.kind = .duplicateDestination := by
    induction definitions with
    | nil => exact fun known held => held
    | cons definition definitions ih =>
      intro known held
      apply ih
      unfold addDefinition
      split
      · intro warning member
        rcases Array.mem_push.mp member with before | rfl
        · exact held warning before
        · rfl
      · exact held
  intro warning member
  exact run (.empty, #[]) (by simp) warning (Array.mem_toList_iff.mp member)

end NamedDestinations

/-! ## All pages -/

namespace PagedStore

/-- One more page keeps the account. -/
theorem extractNext_accounts {options : ProcessOptions Float} {progress : PagedStore × Extraction}
    {index : Nat} (accounts : progress.2.Accounts index) :
    (extractNext options progress index).2.Accounts (index + 1) := by
  unfold extractNext
  split
  · next outcome paged ended => exact accounts.addPage (PageEdit.processPage_warnings ended)
  · exact accounts.skipPage _

/-- Behind every number of pages all of them are accounted for. By induction on the pages. -/
theorem foldl_extractNext_accounts (paged : PagedStore) (options : ProcessOptions Float)
    (count : Nat) :
    ((List.range count).foldl (extractNext options) (paged, .empty)).2.Accounts count := by
  induction count with
  | zero => exact .empty
  | succ count ih =>
    rw [List.range_succ, List.foldl_append]
    exact extractNext_accounts ih

/-- **Every page is accounted for.** Whatever the document and the options are, the text has a box
or none for every character, the page records partition it and stand in the order of the pages, and
each page has either one record or one warning that it was skipped; with the table of contents or
without it. -/
theorem extract_accounts (paged : PagedStore) (options : ProcessOptions Float) :
    ((paged.extractPages options).2.Accounts paged.pageCount ∧
      (paged.extractPages options).2.document.check = .ok ()) ∧
    ((paged.extract options).2.Accounts paged.pageCount ∧
      (paged.extract options).2.document.check = .ok ()) := by
  have pages : (paged.extractPages options).2.Accounts paged.pageCount :=
    foldl_extractNext_accounts paged options paged.pageCount
  have all : (paged.extract options).2.Accounts paged.pageCount := by
    apply pages.withContents
    intro warning member
    rw [NamedDestinations.ofDefinitions_warnings _ warning member]
    simp
  exact ⟨⟨pages, Document.check_eq_ok_iff.mpr pages.partitioned⟩,
    ⟨all, Document.check_eq_ok_iff.mpr all.partitioned⟩⟩

/-! ## Fonts that end the program -/

/-- The first of several numbers that something is found for. -/
theorem findSome?_range_eq_some_iff {β : Type} {found? : Nat → Option β} {count : Nat} {found : β} :
    (List.range count).findSome? found? = some found ↔
      ∃ index < count, found? index = some found ∧ ∀ earlier < index, found? earlier = none := by
  induction count with
  | zero => simp
  | succ count ih =>
    rw [List.range_succ, List.findSome?_append, Option.or_eq_some_iff, ih,
      List.findSome?_eq_none_iff, List.findSome?_singleton, Nat.exists_lt_succ_right]
    simp only [List.mem_range, and_comm]

/-- What a font ends the processing of a page with. -/
def pageAbort? (options : ProcessOptions Float) (index : Nat) (paged : PagedStore) :
    Option FontAbort :=
  match PageEdit.processPage options index paged with
  | .ok _ _ => none
  | .error fault _ => fault.abort?

/-- What it ends with behind the pages before it. -/
def abortAt? (paged : PagedStore) (options : ProcessOptions Float) (index : Nat) :
    Option FontAbort :=
  pageAbort? options index ((List.range index).foldl (extractNext options) (paged, .empty)).1

/-- One more page ends the program if none before it did and a font of its own does. -/
theorem extractNext_abort (options : ProcessOptions Float) (progress : PagedStore × Extraction)
    (index : Nat) :
    (extractNext options progress index).2.abort? =
      progress.2.abort?.or (pageAbort? options index progress.1) := by
  unfold extractNext pageAbort?
  cases PageEdit.processPage options index progress.1 with
  | ok outcome after => exact (Option.or_none ..).symm
  | error fault after => rfl

/-- Several pages end the program with what the first of them does that ends it. By induction on the
pages. -/
theorem foldl_extractNext_abort (paged : PagedStore) (options : ProcessOptions Float)
    (count : Nat) :
    ((List.range count).foldl (extractNext options) (paged, .empty)).2.abort? =
      (List.range count).findSome? (paged.abortAt? options) := by
  induction count with
  | zero => rfl
  | succ count ih =>
    rw [List.range_succ, List.foldl_append, List.findSome?_append, ← ih, List.foldl_cons,
      List.foldl_nil, extractNext_abort, List.findSome?_singleton]
    rfl

/-- The table of contents loads no fonts, so a document ends the program as its pages do. -/
theorem extract_abort (paged : PagedStore) (options : ProcessOptions Float) :
    (paged.extract options).2.abort? =
      (List.range paged.pageCount).findSome? (paged.abortAt? options) :=
  foldl_extractNext_abort paged options paged.pageCount

/-- **A document is processed if and only if no font ends the program at one of its pages**, behind
the pages before it; it comes to its extraction then. -/
theorem process_eq_ok_iff {paged : PagedStore} {options : ProcessOptions Float}
    {result : PagedStore × Extraction} :
    paged.process options = .ok result ↔
      (∀ index < paged.pageCount, paged.abortAt? options index = none) ∧
        paged.extract options = result := by
  have unended : (paged.extract options).2.abort? = none ↔
      ∀ index < paged.pageCount, paged.abortAt? options index = none := by
    simp only [extract_abort, List.findSome?_eq_none_iff, List.mem_range]
  unfold process
  rw [← unended]
  cases ended : (paged.extract options).2.abort? <;> simp [ended]

/-- Otherwise the program ends at the first page that a font ends it at, whatever the pages behind
it would come to. -/
theorem process_eq_error_iff {paged : PagedStore} {options : ProcessOptions Float}
    {abort : FontAbort} :
    paged.process options = .error abort ↔
      ∃ index < paged.pageCount, paged.abortAt? options index = some abort ∧
        ∀ earlier < index, paged.abortAt? options earlier = none := by
  rw [← findSome?_range_eq_some_iff, ← extract_abort]
  unfold process
  cases ended : (paged.extract options).2.abort? <;> simp [ended]

end PagedStore

end PlacedText
