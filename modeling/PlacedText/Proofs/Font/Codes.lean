import PlacedText.Font.Basic
import PlacedText.Proofs.Effect.Invariant
import PlacedText.Proofs.Font.CharacterMap
import PlacedText.Proofs.Scalar.Real

/-! # The codes that a font is loaded for

The widths of two-byte codes and the names of glyphs are written for numbers that count up without
an end (`Font.writtenRuns`, `Font.writtenNames`). A font has them under these very numbers, or it
cannot be loaded because a number is behind the last code (`Font.load_counted`). A range never comes
to such a number, but a list of widths does, and so does the number behind the last name.
-/

namespace PlacedText

namespace Font

open Counting Effect

variable {α : Type}

/-! ## Widths -/

/-- Widths that are written for consecutive numbers. -/
inductive WidthRun (α : Type) where
  /-- A width for each number; an item that is no number gives none. -/
  | listed (first : UInt32) (widths : List (Option α))
  /-- One width for the numbers from one to another, at most `2 ^ 16` of them. -/
  | shared (first last : UInt32) (width : α)

namespace WidthRun

/-- The numbers of a run, with their widths. The place of an item in its list is cut to 32 bits. -/
def entries : WidthRun α → List (Nat × α)
  | .listed first widths => (List.range widths.length).filterMap fun place =>
      widths[place]?.join.map fun width => (first.toNat + place % 2 ^ 32, width)
  | .shared first last width =>
    counted first.toNat (CMap.rangeLength first last) fun _ => some width

/-- The width that a run gives a number. -/
def width? (number : Nat) : WidthRun α → Option α
  | .listed first widths =>
    if first.toNat ≤ number then widths[number - first.toNat]?.join else none
  | .shared first last width => if CMap.InRange first last number then some width else none

/-- The places in a list have 32 bits. -/
def IsShort : WidthRun α → Prop
  | .listed _ widths => widths.length ≤ 2 ^ 32
  | .shared .. => True

theorem entries_listed {first : UInt32} {widths : List (Option α)}
    (short : widths.length ≤ 2 ^ 32) :
    entries (.listed first widths) =
      counted first.toNat widths.length fun offset => widths[offset]?.join := by
  refine List.filterMap_congr fun place within => ?_
  rw [Nat.mod_eq_of_lt ((List.mem_range.mp within).trans_le short)]

/-- The last width that a run lists for a number is the one at the number's place. -/
theorem lookup_entries {run : WidthRun α} (short : run.IsShort) (number : Nat) :
    run.entries.reverse.lookup number = run.width? number := by
  cases run with
  | listed first widths =>
    rw [entries_listed short, lookup_counted]
    unfold width?
    by_cases within : number < first.toNat + widths.length
    · simp [within]
    · have beyond : widths[number - first.toNat]? = none :=
        List.getElem?_eq_none (by omega)
      simp [within, beyond]
  | shared first last width =>
    unfold entries width?
    rw [lookup_counted]
    simp only [CMap.inRange_iff]

/-- The numbers of a range are codes. -/
theorem lt_of_mem_shared {first last : UInt32} {width : α} {entry : Nat × α}
    (member : entry ∈ (shared first last width).entries) : entry.1 < 2 ^ 32 :=
  (lt_of_mem_counted member).trans_le (CMap.add_rangeLength_le first last)

/-- Only a list that is longer than there are codes from its first one on comes to a number that is
no code. -/
theorem exists_listed (run : WidthRun α) {entry : Nat × α} (member : entry ∈ run.entries)
    (beyond : 2 ^ 32 ≤ entry.1) :
    ∃ first widths, run = .listed first widths ∧ 2 ^ 32 < first.toNat + widths.length := by
  cases run with
  | listed first widths =>
    obtain ⟨place, within, listed⟩ := List.mem_filterMap.mp member
    obtain ⟨width, -, rfl⟩ := Option.map_eq_some_iff.mp listed
    have below := List.mem_range.mp within
    have cut := Nat.mod_le place (2 ^ 32)
    exact ⟨first, widths, rfl, by dsimp only at beyond; omega⟩
  | shared => exact absurd (lt_of_mem_shared member) (Nat.not_lt.mpr beyond)

end WidthRun

theorem codeRange_eq (first last : UInt32) (width : α) :
    (codeRange first last).map (fun code => (code, width)) =
      coded (WidthRun.shared first last width).entries := by
  unfold codeRange WidthRun.entries
  rw [coded_counted]
  simp [-Nat.toUInt32_eq]

/-- A code is counted on as the number that it is, as long as this is a code. -/
theorem codeBehind_eq (code offset : UInt32) :
    codeBehind code offset = codeBelow (2 ^ 32) (code.toNat + offset.toNat) := by
  have fits : code.toNat + offset.toNat ≤ 4294967295 ↔ code.toNat + offset.toNat < 2 ^ 32 := by
    omega
  unfold codeBehind codeBelow
  rw [toUInt32_add]
  simp only [fits, Nat.toUInt32, UInt32.ofNat_toNat]

variable [Scalar α]

/-- The runs in a list of widths. -/
def widthRuns (store : Store) : List Object → List (WidthRun α)
  | [] => []
  | item :: rest =>
    match (store.resolve item).number? (α := α) with
    | none => widthRuns store rest
    | some number =>
      let first := codeOfNumber number
      match rest with
      | [] => []
      | next :: others =>
        match store.resolve next with
        | .array widths =>
          .listed first (widths.map fun width => (store.resolve width).number?) ::
            widthRuns store others
        | last =>
          let last := (last.number?.map (codeOfNumber (α := α))).getD first
          match others with
          | [] => []
          | width :: later =>
            (((store.resolve width).number?).map (.shared first last)).toList ++
              widthRuns store later

/-- Widths that are listed from a code on are the counted run of the list, coded with 32 bits. An
item without a number is passed over, but its place is counted. -/
theorem listedWidths_eq (store : Store) (first : UInt32) (items : List Object) :
    (listedWidths store first items : Except FontAbort (List (UInt32 × α))) =
      codedBelow (2 ^ 32) (WidthRun.listed first
        (items.map fun item => (store.resolve item).number?)).entries := by
  have listed : (WidthRun.listed first
      (items.map fun item => (store.resolve item).number? (α := α))).entries =
        (items.zipIdx.filterMap fun item =>
          (store.resolve item.1).number?.map fun width => (item.2.toUInt32, width)).map
            fun entry => (first.toNat + entry.1.toNat, entry.2) := by
    unfold WidthRun.entries
    dsimp only
    rw [List.map_filterMap, filterMap_zipIdx, List.length_map]
    refine List.filterMap_congr fun place _ => ?_
    cases found : items[place]? <;> simp [found, Function.comp_def]
  unfold listedWidths codedBelow
  rw [listed, List.mapM_map]
  refine congrArg (fun check => List.mapM check _) (funext fun entry => ?_)
  dsimp only [Function.comp_apply]
  rw [codeBehind_eq]
  cases codeBelow (2 ^ 32) (first.toNat + entry.1.toNat) <;> rfl

/-- The entries of `/W` are the runs that are written there, coded with 32 bits one behind the
other. By recursion on the items as `widthRuns` takes them. -/
theorem widthEntries_eq (store : Store) (items : List Object) :
    (widthEntries store items : Except FontAbort (List (UInt32 × α))) =
      codedBelow (2 ^ 32) ((widthRuns store items).flatMap WidthRun.entries) := by
  fun_induction widthRuns (α := α) store items with
  | case1 => simp [widthEntries, codedBelow, pure, Except.pure]
  | case2 item rest absent ih =>
    unfold widthEntries
    rw [absent]
    exact ih
  | case3 item number found =>
    unfold widthEntries
    rw [found]
    rfl
  | case4 item number found first next others widths listed ih =>
    unfold widthEntries
    rw [found]
    dsimp only
    rw [listed, List.flatMap_cons, codedBelow_append, ← ih, ← listedWidths_eq]
    rfl
  | case5 item number found next unlisted =>
    unfold widthEntries
    rw [found]
    dsimp only
    split
    · next widths listed => exact (unlisted widths listed).elim
    · rfl
  | case6 item number found first next width later unlisted last ih =>
    unfold widthEntries
    rw [found]
    dsimp only
    split
    · next widths listed => exact (unlisted widths listed).elim
    · rw [List.flatMap_append, codedBelow_append, ← ih]
      cases shared : (store.resolve width).number? (α := α) with
      | none => rfl
      | some number =>
        have bounded : ∀ entry ∈ (WidthRun.shared first last number).entries,
            entry.1 < 2 ^ 32 := fun _ => WidthRun.lt_of_mem_shared
        rw [Option.map_some, Option.toList_some, List.flatMap_singleton,
          codedBelow_of_lt bounded, ← codeRange_eq]
        rfl

/-! ## Names of glyphs -/

/-- The glyph names in a list of differences, each with its number: an integer sets the number of
the next name, and each name takes the number after that of the name before. -/
def numberedNames (store : Store) (number : Nat) : List Object → List (Nat × String)
  | [] => []
  | item :: rest =>
    match store.resolve item with
    | .integer start =>
      numberedNames store (if 0 ≤ start ∧ start ≤ maxCode then start.toNat else 0) rest
    | .name glyph =>
      (number, Text.Utf8.decodeLossy glyph) :: numberedNames store (number + 1) rest
    | _ => numberedNames store number rest

/-- The code behind a name is counted, so no name can have the last one. -/
theorem differences_eq (store : Store) {number : Nat} (code : number < 2 ^ 32)
    (items : List Object) :
    differences store number.toUInt32 items =
      codedBelow (2 ^ 32 - 1) (numberedNames store number items) := by
  induction items generalizing number with
  | nil => rfl
  | cons item rest ih =>
    unfold differences numberedNames
    cases store.resolve item with
    | integer start =>
      dsimp only
      rw [← ih (by unfold maxCode; split <;> omega)]
      split <;> rfl
    | name glyph =>
      have behind : codeBehind number.toUInt32 1 = codeBelow (2 ^ 32) (number + 1) := by
        rw [codeBehind_eq, Nat.toUInt32, UInt32.toNat_ofNat_of_lt' code]
        rfl
      dsimp only
      rw [codedBelow_cons, behind]
      unfold codeBelow
      by_cases last : number + 1 < 2 ^ 32
      · rw [if_pos last, if_pos (by omega), ← ih last]
        change ((differences store (number + 1).toUInt32 rest).bind fun later => .ok (_ :: later)) =
          _
        cases differences store (number + 1).toUInt32 rest <;> rfl
      · rw [if_neg last, if_neg (by omega)]
        rfl
    | _ => exact ih code

/-! ## Loading -/

omit [Scalar α] in
/-- Runs with short lists have the width of the last run that gives the number one. -/
theorem lookup_runs {runs : List (WidthRun α)} (short : ∀ run ∈ runs, run.IsShort)
    (number : Nat) :
    (runs.flatMap WidthRun.entries).reverse.lookup number =
      runs.reverse.findSome? (·.width? number) := by
  induction runs with
  | nil => rfl
  | cons run runs ih =>
    obtain ⟨here, later⟩ := List.forall_mem_cons.mp short
    rw [List.flatMap_cons, List.reverse_append, List.lookup_append, ih later,
      WidthRun.lookup_entries here, List.reverse_cons, List.findSome?_append]
    cases found : run.width? number <;> simp [found]

/-- The dictionary that has the widths of a font of two-byte codes. -/
def descendant? (store : Store) (font : Dictionary) : Option Dictionary := do
  (store.resolve (← (← store.array? font "DescendantFonts").head?)).dictionary?

/-- The runs of widths that a font of two-byte codes is written with. -/
def writtenRuns (store : Store) (font : Dictionary) : List (WidthRun α) :=
  widthRuns store (((descendant? store font).bind (store.array? · "W")).getD [])

/-- The names of glyphs that the encoding of a font is written with. -/
def writtenNames (store : Store) (font : Dictionary) : List (Nat × String) :=
  let names? := do
    store.array? (← (← store.value? font "Encoding").dictionary?) "Differences"
  numberedNames store 0 (names?.getD [])

/-- The width of a code that no run gives one. -/
def missingWidth (store : Store) (font : Dictionary) : α :=
  ((descendant? store font).bind (store.number? · "DW")).getD standardCompositeWidth

/-- A number that is counted in loading a font is no code: that of a width, or the one behind that
of a glyph name. -/
def CountsTooFar (α : Type) [Scalar α] (store : Store) (font : Dictionary) : Prop :=
  if store.name? font "Subtype" = some "Type0" then
    ∃ entry ∈ (writtenRuns store font : List (WidthRun α)).flatMap WidthRun.entries,
      2 ^ 32 ≤ entry.1
  else ∃ entry ∈ writtenNames store font, 2 ^ 32 ≤ entry.1 + 1

variable (store : Store) (font : Dictionary) (name : String)

/-- The widths of two-byte codes are checked, and are what the font is loaded with. -/
theorem loadComposite_widths :
    (loadComposite store font name : Except FontAbort (Font α)).map Font.widths =
      (codedBelow (2 ^ 32) ((writtenRuns store font).flatMap WidthRun.entries)).map fun codes =>
        .composite (codes.foldl (fun byCode (code, width) => byCode.insert code width) ∅)
          (missingWidth store font) := by
  unfold loadComposite writtenRuns missingWidth descendant?
  dsimp only
  generalize (do (store.resolve (← (← store.array? font "DescendantFonts").head?)).dictionary? :
    Option Dictionary) = descendant?
  cases descendant? with
  | none => rfl
  | some descendant =>
    rw [← widthEntries_eq]
    unfold loadCompositeWidths
    dsimp only [Option.bind_some]
    cases widthEntries (α := α) store ((store.array? descendant "W").getD []) <;> rfl

/-- The glyph names are checked, and are what the encoding is loaded with. -/
theorem loadEncoding_differences :
    (loadEncoding store font).map Encoding.differences =
      (codedBelow (2 ^ 32 - 1) (writtenNames store font)).map fun codes =>
        codes.foldl (fun byCode (code, glyph) => byCode.insert code glyph) ∅ := by
  have start (items : List Object) : differences store 0 items =
      codedBelow (2 ^ 32 - 1) (numberedNames store 0 items) :=
    differences_eq store (by decide) items
  unfold loadEncoding writtenNames
  cases store.value? font "Encoding" with
  | none => rfl
  | some value =>
    cases value with
    | dictionary entries =>
      dsimp only [Object.dictionary?, Option.bind_eq_bind, Option.bind_some]
      rw [← start]
      cases differences store 0 ((store.array? entries "Differences").getD []) <;> rfl
    | _ => rfl

theorem loadSimple_encoding :
    (loadSimple store font name : Except FontAbort (Font α)).map Font.encoding? =
      (loadEncoding store font).map some := by
  unfold loadSimple
  cases loadEncoding store font <;> rfl

variable {store font name}

theorem loadComposite_eq_error_iff {abort : FontAbort} :
    (loadComposite store font name : Except FontAbort (Font α)) = .error abort ↔
      abort = .codeOverflow ∧ ∃ entry ∈ (writtenRuns store font : List (WidthRun α)).flatMap
        WidthRun.entries, 2 ^ 32 ≤ entry.1 := by
  rw [← map_eq_error_iff (f := Font.widths), loadComposite_widths, map_eq_error_iff,
    codedBelow_eq_error_iff]

theorem loadSimple_eq_error_iff {abort : FontAbort} :
    (loadSimple store font name : Except FontAbort (Font α)) = .error abort ↔
      abort = .codeOverflow ∧ ∃ entry ∈ writtenNames store font, 2 ^ 32 ≤ entry.1 + 1 := by
  rw [← map_eq_error_iff (f := Font.encoding?), loadSimple_encoding, map_eq_error_iff,
    ← map_eq_error_iff (f := Encoding.differences), loadEncoding_differences, map_eq_error_iff,
    codedBelow_eq_error_iff]
  simp only [Nat.sub_le_iff_le_add]

/-- A composite font that is loaded has codes with 32 bits only, and the table of its written runs.
-/
theorem loadComposite_eq_ok {loaded : Font α} (loads : loadComposite store font name = .ok loaded) :
    (∀ entry ∈ (writtenRuns store font : List (WidthRun α)).flatMap WidthRun.entries,
      entry.1 < 2 ^ 32) ∧
      loaded.widths = .composite (table ((writtenRuns store font).flatMap WidthRun.entries))
        (missingWidth store font) := by
  have widths := loadComposite_widths (α := α) store font name
  rw [loads] at widths
  obtain ⟨codes, checked, same⟩ := map_eq_ok_iff.mp widths.symm
  obtain ⟨bounded, rfl⟩ := codedBelow_eq_ok_iff.mp checked
  exact ⟨bounded, same.symm⟩

/-- A simple font that is loaded counts its names up to the code before the last at most, as the
code behind each name is counted as well, and has the table of the names. -/
theorem loadSimple_eq_ok {loaded : Font α} (loads : loadSimple store font name = .ok loaded) :
    ∃ encoding, loaded.encoding? = some encoding ∧
      (∀ entry ∈ writtenNames store font, entry.1 < 2 ^ 32 - 1) ∧
      encoding.differences = table (writtenNames store font) := by
  have own := loadSimple_encoding (α := α) store font name
  rw [loads] at own
  obtain ⟨encoding, found, same⟩ := map_eq_ok_iff.mp own.symm
  have names := loadEncoding_differences store font
  rw [found] at names
  obtain ⟨codes, checked, same'⟩ := map_eq_ok_iff.mp names.symm
  obtain ⟨bounded, rfl⟩ := codedBelow_eq_ok_iff.mp checked
  exact ⟨encoding, same.symm, bounded, same'.symm⟩

/-- Loading ends the program just where the counting of codes comes too far, and by an overflow
only. -/
theorem load_eq_error_iff {abort : FontAbort} :
    (load store font name : Except FontAbort (Font α)) = .error abort ↔
      abort = .codeOverflow ∧ CountsTooFar α store font := by
  unfold load CountsTooFar
  dsimp only
  split
  · exact loadComposite_eq_error_iff
  · exact loadSimple_eq_error_iff

variable (name) in
/-- Nothing else keeps a font from being loaded. -/
theorem exists_load (near : ¬CountsTooFar α store font) :
    ∃ loaded : Font α, load store font name = .ok loaded := by
  cases ended : (load store font name : Except FontAbort (Font α)) with
  | ok loaded => exact ⟨loaded, rfl⟩
  | error abort => exact absurd (load_eq_error_iff.mp ended).2 near

/-- A font of two-byte codes has no glyph names. -/
theorem encoding?_of_loadComposite {loaded : Font α}
    (loads : loadComposite store font name = .ok loaded) : loaded.encoding? = none := by
  unfold loadComposite at loads
  dsimp only at loads
  split at loads
  · next descendant found =>
    cases widths : (loadCompositeWidths store descendant :
        Except FontAbort (Std.HashMap UInt32 α)) with
    | error abort =>
      rw [widths] at loads
      cases loads
    | ok byCode =>
      rw [widths] at loads
      cases loads
      rfl
  · cases loads
    rfl

/-- The glyph name of a code is the last one that is written for it. -/
theorem differences_of_load {loaded : Font α} {encoding : Encoding}
    (loads : load store font name = .ok loaded) (own : loaded.encoding? = some encoding)
    (code : UInt32) :
    encoding.differences[code]? = (writtenNames store font).reverse.lookup code.toNat := by
  unfold load at loads
  dsimp only at loads
  split at loads
  · rw [encoding?_of_loadComposite loads] at own
    cases own
  · obtain ⟨encoding', own', bounded, table⟩ := loadSimple_eq_ok loads
    cases own.symm.trans own'
    rw [table, getElem?_table fun entry member => (bounded entry member).trans (by decide)]

variable (store font)

/-- **A font has its widths and its names under the numbers they are written for, or counting them
comes too far.** Loading fails if and only if it counts on from the last code, to the number of a
width or to the one behind the number of a name. A font that is loaded has for each code the last
width, or the last name, that is written for this very number, so no number of a font comes back to
a small code; for a width it is that of the last run which gives the number one, unless a list has
more places than there are codes. Only a list of more widths than there are codes from its first one
on can count too far; in a range, be it of widths or of a character map, no code is larger than the
last one. -/
theorem load_counted (resourceName : String) :
    let runs : List (WidthRun α) := writtenRuns store font
    let names := writtenNames store font
    (∀ abort, (load store font resourceName : Except FontAbort (Font α)) = .error abort ↔
      abort = .codeOverflow ∧ CountsTooFar α store font) ∧
      (∀ loaded : Font α, load store font resourceName = .ok loaded →
        if store.name? font "Subtype" = some "Type0" then
          ∃ byCode, loaded.widths = .composite byCode (missingWidth store font) ∧
            ∀ code : UInt32,
              byCode[code]? = (runs.flatMap WidthRun.entries).reverse.lookup code.toNat ∧
                ((∀ run ∈ runs, run.IsShort) →
                  byCode[code]? = runs.reverse.findSome? (·.width? code.toNat))
        else ∃ encoding, loaded.encoding? = some encoding ∧
          ∀ code : UInt32, encoding.differences[code]? = names.reverse.lookup code.toNat) ∧
      (∀ run ∈ runs, (∃ entry ∈ run.entries, 2 ^ 32 ≤ entry.1) →
        ∃ first widths, run = .listed first widths ∧ 2 ^ 32 < first.toNat + widths.length) ∧
      (∀ first last : UInt32, ∀ offset < CMap.rangeLength first last,
        (first + offset.toUInt32).toNat = first.toNat + offset) := by
  intro runs names
  refine ⟨fun abort => load_eq_error_iff, fun loaded loads => ?_, ?_, ?_⟩
  · by_cases composite : store.name? font "Subtype" = some "Type0"
    · rw [if_pos composite]
      obtain ⟨bounded, widths⟩ := loadComposite_eq_ok ((if_pos composite).symm.trans loads)
      refine ⟨_, widths, fun code => ?_⟩
      rw [getElem?_table bounded]
      exact ⟨rfl, fun short => lookup_runs short code.toNat⟩
    · rw [if_neg composite]
      obtain ⟨encoding, own, -⟩ := loadSimple_eq_ok ((if_neg composite).symm.trans loads)
      exact ⟨encoding, own, differences_of_load loads own⟩
  · rintro run - ⟨entry, member, beyond⟩
    exact run.exists_listed member beyond
  · exact fun first last offset within => CMap.toNat_add_of_lt_rangeLength within

/-- A font of two widths and two glyph names that are written from a code on. -/
def pairFont (subtype : String) (first : Nat) : Dictionary :=
  [(Text.Utf8.encode "Subtype", .name (Text.Utf8.encode subtype)),
    (Text.Utf8.encode "DescendantFonts", .array [.dictionary
      [(Text.Utf8.encode "W", .array [.integer first, .array [.integer 500, .integer 600]])]]),
    (Text.Utf8.encode "Encoding", .dictionary
      [(Text.Utf8.encode "Differences", .array [.integer first,
        .name (Text.Utf8.encode "A"), .name (Text.Utf8.encode "B")])])]

/-- The font of a pair has one run, of two widths from the first code on. -/
theorem writtenRuns_pairFont {first : Nat} (code : first < 2 ^ 32) :
    writtenRuns (α := ℝ) (.empty []) (pairFont "Type0" first) =
      [.listed first.toUInt32 [some (Scalar.ofInt 500), some (Scalar.ofInt 600)]] := by
  have cut : codeOfNumber (Scalar.ofInt first : ℝ) = first.toUInt32 := by
    change (max 0 (min maxCode (ExactScalar.truncate ((first : ℤ) : ℝ)))).toNat.toUInt32 = _
    rw [ExactScalar.truncate_intCast]
    unfold maxCode
    congr 1
    omega
  change [WidthRun.listed (codeOfNumber (Scalar.ofInt first : ℝ)) _] = _
  rw [cut]
  rfl

/-- Widths can be written up to the last code, and names up to the one before it. -/
theorem load_counted_pair :
    load (α := ℝ) (.empty []) (pairFont "Type0" 4294967295) "F" = .error .codeOverflow ∧
      load (α := ℝ) (.empty []) (pairFont "Type1" 4294967294) "F" = .error .codeOverflow ∧
      (∃ loaded : Font ℝ, load (.empty []) (pairFont "Type0" 4294967294) "F" = .ok loaded ∧
        loaded.rawWidth 4294967295 = 600 ∧ loaded.rawWidth 0 = 1000) ∧
      ∃ loaded : Font ℝ, load (.empty []) (pairFont "Type1" 4294967293) "F" = .ok loaded ∧
        ∃ encoding, loaded.encoding? = some encoding ∧
          encoding.differences[(4294967294 : UInt32)]? = some "B" := by
  have composite (first : Nat) :
      (Store.empty []).name? (pairFont "Type0" first) "Subtype" = some "Type0" := rfl
  have simple (first : Nat) :
      (Store.empty []).name? (pairFont "Type1" first) "Subtype" ≠ some "Type0" := by
    change some "Type1" ≠ some "Type0"
    decide
  refine ⟨?_, ?_, ?_, ?_⟩
  · refine ((load_counted _ _ "F").1 _).mpr ⟨rfl, (if_pos (composite _)).mpr ?_⟩
    rw [writtenRuns_pairFont (by decide)]
    exact ⟨(4294967296, _), .tail _ (.head _), by decide⟩
  · refine ((load_counted _ _ "F").1 _).mpr ⟨rfl, (if_neg (simple _)).mpr ?_⟩
    exact ⟨(4294967295, "B"), .tail _ (.head _), by decide⟩
  · have written := writtenRuns_pairFont (show 4294967294 < 2 ^ 32 by decide)
    have near : ¬CountsTooFar ℝ (.empty []) (pairFont "Type0" 4294967294) := by
      unfold CountsTooFar
      rw [if_pos (composite _), written]
      rintro ⟨entry, member, far⟩
      change entry ∈ [(4294967294, (Scalar.ofInt 500 : ℝ)), (4294967295, Scalar.ofInt 600)]
        at member
      simp only [List.mem_cons, List.not_mem_nil, or_false] at member
      obtain rfl | rfl := member <;> exact absurd far (by decide)
    obtain ⟨loaded, loads⟩ := exists_load "F" near
    obtain ⟨byCode, widths, numbered⟩ :=
      (if_pos (composite _)).mp ((load_counted _ _ "F").2.1 loaded loads)
    rw [written] at numbered
    have raw (code : UInt32) : loaded.rawWidth code =
        (byCode[code]?).getD (missingWidth (.empty []) (pairFont "Type0" 4294967294)) := by
      unfold rawWidth
      rw [widths]
      exact Std.HashMap.getD_eq_getD_getElem?
    refine ⟨loaded, loads, ?_, ?_⟩
    · rw [raw, (numbered _).1]
      exact Int.cast_ofNat 600
    · rw [raw, (numbered _).1]
      change (1000.0 : ℝ) = 1000
      norm_num
  · have near : ¬CountsTooFar ℝ (.empty []) (pairFont "Type1" 4294967293) := by
      unfold CountsTooFar
      rw [if_neg (simple _)]
      rintro ⟨entry, member, far⟩
      change entry ∈ [(4294967293, "A"), (4294967294, "B")] at member
      simp only [List.mem_cons, List.not_mem_nil, or_false] at member
      obtain rfl | rfl := member <;> exact absurd far (by decide)
    obtain ⟨loaded, loads⟩ := exists_load "F" near
    obtain ⟨encoding, own, numbered⟩ :=
      (if_neg (simple _)).mp ((load_counted _ _ "F").2.1 loaded loads)
    exact ⟨loaded, loads, encoding, own, numbered _⟩

end Font

end PlacedText
