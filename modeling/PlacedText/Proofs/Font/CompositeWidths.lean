import Mathlib
import PlacedText.Proofs.Font.Codes
import PlacedText.Proofs.Scalar.Whole

/-! # The widths of two-byte codes

The widths of two-byte codes are written as entries of two shapes, a first code with the list of the
widths from it on, or a first and a last code with one width for all (`Font.WritesWidths`). An entry
is read as the run that it stands for, so the last entry that covers a code decides how wide it is
(`Font.load_width`).
-/

namespace PlacedText

namespace Font

variable {α : Type}

/-! ## Entries -/

/-- An entry of the widths of two-byte codes. -/
inductive WidthEntry (α : Type) where
  /-- The widths of consecutive codes. -/
  | listed (first : ℕ) (widths : List α)
  /-- One width for the codes from one to another. -/
  | shared (first last : ℕ) (width : α)

namespace WidthEntry

/-- The width that an entry gives a code, if it covers the code. A range covers at most `2 ^ 16`
codes, and none if it is reversed. -/
def width? (code : ℕ) : WidthEntry α → Option α
  | .listed first widths => if first ≤ code then widths[code - first]? else none
  | .shared first last width =>
    if first ≤ code ∧ code ≤ min last (first + 65535) then some width else none

/-- The codes that an entry can cover stay below `2 ^ 32`. -/
def Fits : WidthEntry α → Prop
  | .listed first widths => first + widths.length < 2 ^ 32
  | .shared first _ _ => first + 65536 < 2 ^ 32

/-- The run that an entry is read as. A last code that is none is cut to the last one there is. -/
def run : WidthEntry α → WidthRun α
  | .listed first widths => .listed (.ofNat first) (widths.map some)
  | .shared first last width => .shared (.ofNat first) (.ofNat (min last 4294967295)) width

/-- An entry and the run that is read for it give every code the same width. The bounds of the codes
let the sums of 32 bits be those of the naturals. -/
theorem width?_run {entry : WidthEntry α} (fits : entry.Fits) (code : UInt32) :
    entry.run.width? code.toNat = entry.width? code.toNat := by
  cases entry with
  | listed first widths =>
    have below : first < 2 ^ 32 := Nat.lt_of_le_of_lt (Nat.le_add_right _ _) fits
    simp only [run, width?, WidthRun.width?, UInt32.toNat_ofNat_of_lt' below, List.getElem?_map]
    cases widths[code.toNat - first]? <;> rfl
  | shared first last width =>
    have below : first + 65536 < 2 ^ 32 := fits
    have clipped : min last 4294967295 < 2 ^ 32 := by omega
    have same : CMap.InRange (.ofNat first) (.ofNat (min last 4294967295)) code.toNat ↔
        first ≤ code.toNat ∧ code.toNat ≤ min last (first + 65535) := by
      unfold CMap.InRange
      rw [UInt32.toNat_ofNat_of_lt' (by omega : first < 2 ^ 32), UInt32.toNat_ofNat_of_lt' clipped]
      omega
    simp only [run, width?, WidthRun.width?, same]

/-- A run of an entry that fits has codes with 32 bits only. -/
theorem lt_of_mem_run {entry : WidthEntry α} (fits : entry.Fits) {numbered : ℕ × α}
    (member : numbered ∈ entry.run.entries) : numbered.1 < 2 ^ 32 := by
  by_contra beyond
  obtain ⟨first, widths, same, more⟩ := entry.run.exists_listed member (not_lt.mp beyond)
  cases entry with
  | listed first' widths' =>
    cases same
    have below : first' + widths'.length < 2 ^ 32 := fits
    rw [UInt32.toNat_ofNat_of_lt' (by omega : first' < 2 ^ 32), List.length_map] at more
    omega
  | shared => cases same

/-- The places in the list of an entry that fits have 32 bits. -/
theorem isShort_run {entry : WidthEntry α} (fits : entry.Fits) : entry.run.IsShort := by
  cases entry with
  | listed first widths =>
    have below : first + widths.length < 2 ^ 32 := fits
    unfold run WidthRun.IsShort
    dsimp only
    rw [List.length_map]
    omega
  | shared first last width => exact trivial

end WidthEntry

variable [Scalar α]

/-- How entries are written one after the other, with integers for the codes and numbers for the
widths, all of them directly or through references. -/
inductive WritesWidths (store : Store) : List Object → List (WidthEntry α) → Prop
  | nil : WritesWidths store [] []
  | listed {code list : Object} {items rest : List Object} {first : ℕ} {widths : List α}
      {entries : List (WidthEntry α)} (begins : store.resolve code = .integer first)
      (lists : store.resolve list = .array items)
      (numbers : List.Forall₂ (fun item width => (store.resolve item).number? = some width)
        items widths)
      (fits : (WidthEntry.listed first widths).Fits) (later : WritesWidths store rest entries) :
      WritesWidths store (code :: list :: rest) (.listed first widths :: entries)
  | shared {code code' item : Object} {rest : List Object} {first last : ℕ} {width : α}
      {entries : List (WidthEntry α)} (begins : store.resolve code = .integer first)
      (ends : store.resolve code' = .integer last)
      (number : (store.resolve item).number? = some width)
      (fits : (WidthEntry.shared first last width).Fits)
      (later : WritesWidths store rest entries) :
      WritesWidths store (code :: code' :: item :: rest) (.shared first last width :: entries)

/-! ## Reading -/

theorem number?_integer (value : ℤ) :
    (Object.integer value).number? = some (Scalar.ofInt value : α) := rfl

theorem codeOfNumber_ofInt [Scalar.KeepsWhole α] (number : ℕ) :
    codeOfNumber (Scalar.ofInt number : α) = .ofNat (min number 4294967295) := by
  have kept := Scalar.KeepsWhole.clampToInt_ofInt (α := α) 4294967295 number (by norm_num)
  change (Scalar.clampToInt 0 (4294967295 : ℕ) (Scalar.ofInt number : α)).toNat.toUInt32 = _
  rw [kept, Int.toNat_natCast]

variable {store : Store} {items : List Object} {entries : List (WidthEntry α)}

theorem map_number?_of_forall₂ {widths : List α}
    (numbers : List.Forall₂ (fun item width => (store.resolve item).number? = some width)
      items widths) :
    (items.map fun item => (store.resolve item).number?) = widths.map some := by
  induction numbers with
  | nil => rfl
  | cons number numbers ih => rw [List.map_cons, List.map_cons, number, ih]

/-- Entries are read as their runs, each from where the entry before it ends. -/
theorem WritesWidths.widthRuns_eq [Scalar.KeepsWhole α]
    (written : WritesWidths store items entries) :
    widthRuns store items = entries.map WidthEntry.run := by
  induction written with
  | nil => rfl
  | @listed code list items rest first widths entries begins lists numbers fits later ih =>
    have below : first < 2 ^ 32 := Nat.lt_of_le_of_lt (Nat.le_add_right _ _) fits
    have first' : min first 4294967295 = first := by omega
    unfold widthRuns
    simp only [begins, lists, number?_integer, codeOfNumber_ofInt, first', ih,
      map_number?_of_forall₂ numbers, List.map_cons, WidthEntry.run]
  | @shared code code' item rest first last width entries begins ends number fits later ih =>
    have below : first + 65536 < 2 ^ 32 := fits
    have first' : min first 4294967295 = first := by omega
    unfold widthRuns
    simp only [begins, ends, number, number?_integer, codeOfNumber_ofInt, first', ih,
      Option.map_some, Option.getD_some, Option.toList_some, List.singleton_append, List.map_cons,
      WidthEntry.run]

theorem WritesWidths.fits (written : WritesWidths store items entries) :
    ∀ entry ∈ entries, entry.Fits := by
  induction written with
  | nil => simp
  | listed _ _ _ fits _ ih => exact List.forall_mem_cons.mpr ⟨fits, ih⟩
  | shared _ _ _ fits _ ih => exact List.forall_mem_cons.mpr ⟨fits, ih⟩

/-- Entries come to no number that is not a code. -/
theorem WritesWidths.lt_of_mem [Scalar.KeepsWhole α] (written : WritesWidths store items entries)
    {numbered : ℕ × α}
    (member : numbered ∈ (widthRuns store items).flatMap WidthRun.entries) :
    numbered.1 < 2 ^ 32 := by
  rw [written.widthRuns_eq] at member
  obtain ⟨run, listed, within⟩ := List.mem_flatMap.mp member
  obtain ⟨entry, listed', rfl⟩ := List.mem_map.mp listed
  exact WidthEntry.lt_of_mem_run (written.fits entry listed') within

/-- A code has the width of the last entry that covers it. -/
theorem WritesWidths.getElem?_table [Scalar.KeepsWhole α]
    (written : WritesWidths store items entries) (code : UInt32) :
    (Counting.table ((widthRuns store items).flatMap WidthRun.entries))[code]? =
      entries.reverse.findSome? (·.width? code.toNat) := by
  have fits := written.fits
  have short : ∀ run ∈ entries.map WidthEntry.run, run.IsShort := by
    simpa using fun entry member => WidthEntry.isShort_run (fits entry member)
  rw [Counting.getElem?_table fun _ => written.lt_of_mem, written.widthRuns_eq, lookup_runs short,
    ← List.map_reverse, List.findSome?_map, ← List.head?_filterMap, ← List.head?_filterMap]
  refine congrArg List.head? (List.filterMap_congr fun entry member => ?_)
  exact WidthEntry.width?_run (fits entry (List.mem_reverse.mp member)) code

/-- **The last entry that covers a code gives its width.** Let the widths of a font of two-byte
codes be written as entries whose codes stay below `2 ^ 32`. The font is loaded, and the width of a
code, in thousandths, is that of the last entry that covers the code, a list by the place of the
code in it and a range up to its `2 ^ 16`-th code; if none does, it is the default width, which is
1000 if it is not given. It is a thousandth of that number, which multiplying by 1000 gives back
where it undoes the division. -/
theorem load_width [Scalar.KeepsWhole α] {font descendant : Dictionary} (resourceName : String)
    (composite : store.name? font "Subtype" = some "Type0")
    (descends : descendant? store font = some descendant)
    (written : WritesWidths store ((store.array? descendant "W").getD []) entries) :
    ∃ loaded : Font α, load store font resourceName = .ok loaded ∧ ∀ code : UInt32,
      let width : α := (entries.reverse.findSome? (·.width? code.toNat)).getD
        ((store.number? descendant "DW").getD 1000.0)
      loaded.width code = width / 1000.0 ∧
        (width / 1000.0 * 1000.0 = width → loaded.width code * 1000.0 = width) := by
  have runs : (writtenRuns store font : List (WidthRun α)) =
      widthRuns store ((store.array? descendant "W").getD []) := by
    unfold writtenRuns
    rw [descends, Option.bind_some]
  have missing : (missingWidth store font : α) = (store.number? descendant "DW").getD 1000.0 := by
    unfold missingWidth
    rw [descends]
    rfl
  have near : ¬CountsTooFar α store font := by
    unfold CountsTooFar
    rw [if_pos composite, runs]
    rintro ⟨entry, member, far⟩
    exact Nat.not_lt_of_le far (written.lt_of_mem member)
  obtain ⟨loaded, loads⟩ := exists_load resourceName near
  obtain ⟨-, widths⟩ := loadComposite_eq_ok ((if_pos composite).symm.trans loads)
  refine ⟨loaded, loads, fun code => ?_⟩
  intro width
  have raw : loaded.rawWidth code = width := by
    unfold rawWidth
    rw [widths, missing, runs]
    change (Counting.table _).getD code _ = _
    rw [Std.HashMap.getD_eq_getD_getElem?, written.getElem?_table]
  have thousandth : loaded.width code = width / 1000.0 := congrArg (· / 1000.0) raw
  exact ⟨thousandth, fun undone => thousandth ▸ undone⟩

/-- A font whose widths are referred to. -/
def clippedFont : Dictionary :=
  [(Text.Utf8.encode "Subtype", .name (Text.Utf8.encode "Type0")),
    (Text.Utf8.encode "DescendantFonts", .array [.dictionary
      [(Text.Utf8.encode "W", .reference 1)]])]

/-- Its widths: a list, a range that overlaps the list and is cut, a range that is reversed, and a
list of none. -/
def ofClippedWidths : Store :=
  .ofObjects
    [(1, .array [.integer 10, .reference 2, .integer 11, .reference 3, .integer 700,
        .integer 20, .integer 15, .integer 900, .integer 30, .array []]),
      (2, .array [.integer 500, .reference 4]), (3, .integer 4000000000), (4, .integer 600)] []

def clippedEntries : List (WidthEntry α) :=
  [.listed 10 [Scalar.ofInt 500, Scalar.ofInt 600], .shared 11 4000000000 (Scalar.ofInt 700),
    .shared 20 15 (Scalar.ofInt 900), .listed 30 []]

/-- A range that is longer than any other is clipped, the entry behind it counts where they overlap,
and a code without an entry has the default width. With doubles the quotient is the rounded one. -/
theorem load_width_clipped :
    (∃ exact : Font ℝ, load ofClippedWidths clippedFont "F" = .ok exact ∧
      exact.width 10 * 1000.0 = 500 ∧ exact.width 11 * 1000.0 = 700 ∧
      exact.width 65547 * 1000.0 = 1000) ∧
      ∃ double : Font Float, load ofClippedWidths clippedFont "F" = .ok double ∧
        double.width 65546 = Scalar.ofInt 700 / 1000.0 := by
  have written (α : Type) [Scalar α] : WritesWidths ofClippedWidths
      ((ofClippedWidths.array? [(Text.Utf8.encode "W", .reference 1)] "W").getD [])
      (clippedEntries : List (WidthEntry α)) :=
    .listed rfl rfl (.cons rfl (.cons rfl .nil)) (by norm_num [WidthEntry.Fits])
      (.shared rfl rfl rfl (by norm_num [WidthEntry.Fits])
        (.shared rfl rfl rfl (by norm_num [WidthEntry.Fits])
          (.listed rfl rfl .nil (by norm_num [WidthEntry.Fits]) .nil)))
  have descends : descendant? ofClippedWidths clippedFont =
      some [(Text.Utf8.encode "W", .reference 1)] := rfl
  have undone (x : ℝ) : x / 1000.0 * 1000.0 = x := by norm_num
  constructor
  · obtain ⟨loaded, loads, widths⟩ := load_width "F" rfl descends (written ℝ)
    refine ⟨loaded, loads, ?_, ?_, ?_⟩
    · exact ((widths 10).2 (undone _)).trans (Int.cast_ofNat 500)
    · exact ((widths 11).2 (undone _)).trans (Int.cast_ofNat 700)
    · refine ((widths 65547).2 (undone _)).trans ?_
      change (1000.0 : ℝ) = 1000
      norm_num
  · obtain ⟨loaded, loads, widths⟩ := load_width "F" rfl descends (written Float)
    exact ⟨loaded, loads, (widths 65546).1⟩

end Font

end PlacedText
