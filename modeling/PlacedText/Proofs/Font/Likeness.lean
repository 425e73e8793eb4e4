import PlacedText.Font.Basic
import PlacedText.Proofs.Store.Reading
import Mathlib.Data.List.Basic

/-! # Fonts do not depend on what they do not read

A font is the same when it is loaded from two stores in which everything that it is loaded from is
read alike (`Font.load_related`). So it is where a store is edited in pages only
(`Font.ofDictionary_alike`).
-/

namespace PlacedText

open Effect

variable {α : Type} [Scalar α]

namespace Font

/-- The character map of the data of a stream, if it has one that can be read. -/
def characterMap? (store : Store) (stream : Dictionary × Bytes) : Option CMap := do
  (CMap.ofStream (← (store.decoded stream.1 stream.2).toOption)).toOption

/-- The keys that fonts, their descriptors, descendants and encodings are read under. -/
def keys : List String :=
  ["FontDescriptor", "Ascent", "Descent", "CapHeight", "FontBBox", "W", "DW", "Encoding",
    "BaseEncoding", "Differences", "ToUnicode", "DescendantFonts", "FirstChar", "Widths",
    "MissingWidth", "BaseFont", "Subtype"]

/-- Whether fonts are read alike in two stores from related dictionaries: under the keys of a font,
and where a stream is a character map. -/
structure ReadsAlike (first second : Store) (dictionaries : Dictionary → Dictionary → Prop)
    (values : Object → Object → Prop) : Prop
    extends Store.ReadsAlike keys first second dictionaries values where
  characterMap : ∀ value value', values value value' →
    value.stream? >>= characterMap? first = value'.stream? >>= characterMap? second

namespace ReadsAlike

variable {first second : Store} {dictionaries : Dictionary → Dictionary → Prop}
  {values : Object → Object → Prop} (alike : ReadsAlike first second dictionaries values)

include alike

/-! ## Lists of objects -/

section

variable {items : List Object}
  (related : ∀ item ∈ items, values (first.resolve item) (second.resolve item))

include related

theorem listedWidths_eq (code : UInt32) :
    (listedWidths first code items : Except FontAbort (List (UInt32 × α))) =
      listedWidths second code items := by
  unfold listedWidths
  refine congrArg (List.mapM _) (List.filterMap_congr fun item member => ?_)
  dsimp only
  rw [alike.number?_eq (related item.1 (List.fst_mem_of_mem_zipIdx member))]

/-- The entries of `/W` are the same where numbers and arrays are read alike. By recursion on the
items as they are taken. -/
theorem widthEntries_eq :
    (widthEntries first items : Except FontAbort (List (UInt32 × α))) =
      widthEntries second items := by
  have number {item : Object} (member : item ∈ items) :=
    alike.number?_eq (α := α) (related item member)
  fun_induction widthEntries (α := α) first items with
  | case1 => simp [widthEntries]
  | case2 item rest absent ih =>
    have code := number (.head rest)
    rw [absent] at code
    conv_rhs => unfold widthEntries
    rw [← code]
    exact ih (fun item member => related item (.tail _ member)) fun member =>
      number (.tail _ member)
  | case3 item code found =>
    have here := number (.head [])
    rw [found] at here
    conv_rhs => unfold widthEntries
    rw [← here]
  | case4 item code found start next others widths listed ih =>
    have here := number (.head _)
    rw [found] at here
    have there := related next (.tail _ (.head _))
    rw [listed] at there
    conv_rhs => unfold widthEntries
    rw [← here]
    dsimp only
    rw [alike.eq_array there]
    dsimp only
    rw [← ih (fun item member => related item (.tail _ (.tail _ member))) fun member =>
        number (.tail _ (.tail _ member)),
      ← alike.listedWidths_eq (alike.item widths _ there)]
  | case5 item code found next unlisted =>
    have here := number (.head _)
    rw [found] at here
    have there := related next (.tail _ (.head _))
    conv_rhs => unfold widthEntries
    rw [← here]
    dsimp only
    split
    · next widths listed =>
      rw [listed] at there
      exact (unlisted widths (alike.eq_array_of_right there)).elim
    · rfl
  | case6 item code found start next width later unlisted last here ih =>
    have begin := number (.head _)
    rw [found] at begin
    have there := related next (.tail _ (.head _))
    have stop := alike.number?_eq (α := α) there
    have shared := number (.tail _ (.tail _ (.head later)))
    conv_rhs => unfold widthEntries
    rw [← begin]
    dsimp only
    split
    · next widths listed =>
      rw [listed] at there
      exact (unlisted widths (alike.eq_array_of_right there)).elim
    · rw [← stop, ← shared,
        ← ih (fun item member => related item (.tail _ (.tail _ (.tail _ member)))) fun member =>
          number (.tail _ (.tail _ (.tail _ member)))]

/-- The names of `/Differences` are the same. By induction on the items, from any code on. -/
theorem differences_eq (code : UInt32) :
    differences first code items = differences second code items := by
  induction items generalizing code with
  | nil => rfl
  | cons item rest ih =>
    have here := related item (.head _)
    have later := fun code => ih (fun item member => related item (.tail _ member)) code
    unfold differences
    generalize first.resolve item = found at here
    generalize second.resolve item = found' at here
    rcases alike.same found found' here with rfl | ⟨own, own'⟩
    · cases found with
      | integer start => exact later _
      | name glyph =>
        dsimp only
        simp only [later]
      | _ => exact later _
    · cases found <;> cases own
      all_goals cases found' <;> cases own'
      all_goals exact later code

end

/-! ## Parts of a font -/

variable {font font' : Dictionary} (related : dictionaries font font')

include related

/-- The name of a font and its metrics are read alike. -/
theorem loadInfo_eq (name : String) :
    (loadInfo first font name : FontInfo α) = loadInfo second font' name := by
  have found := alike.dictionary? related (by decide : "FontDescriptor" ∈ keys)
  unfold loadInfo
  revert found
  generalize first.dictionary? font "FontDescriptor" = descriptor?
  generalize second.dictionary? font' "FontDescriptor" = descriptor'?
  rintro (@⟨descriptor, descriptor', inner⟩ | _)
  · have bbox : (do
        let items ← first.array? descriptor "FontBBox"
        if items.length = 4 then first.numbers? items else none : Option (List α)) = (do
        let items ← second.array? descriptor' "FontBBox"
        if items.length = 4 then second.numbers? items else none) := by
      rw [← alike.array? inner (by decide)]
      cases listed : first.array? descriptor "FontBBox" with
      | none => simp only [Option.bind_eq_bind, Option.bind_none]
      | some items =>
        change (if _ then _ else _) = (if _ then _ else _)
        rw [alike.numbers? (alike.items inner (by decide) listed)]
    dsimp only
    rw [bbox, alike.number? inner (by decide), alike.number? inner (by decide),
      alike.number? inner (by decide)]
  · rfl

/-- The widths of a composite font are read alike. -/
theorem loadCompositeWidths_eq :
    (loadCompositeWidths first font : Except FontAbort (Std.HashMap UInt32 α)) =
      loadCompositeWidths second font' := by
  unfold loadCompositeWidths
  rw [← alike.array? related (by decide)]
  cases listed : first.array? font "W" with
  | none => simp [widthEntries]
  | some items =>
    rw [Option.getD_some, alike.widthEntries_eq (alike.items related (by decide) listed)]

/-- The character map is the same, as the decoded data of its stream is. -/
theorem loadToUnicode?_eq : loadToUnicode? first font = loadToUnicode? second font' := by
  have read (store : Store) (own : Dictionary) : loadToUnicode? store own =
      store.value? own "ToUnicode" >>= fun value => value.stream? >>= characterMap? store := rfl
  have found := alike.value font font' related "ToUnicode" (by decide)
  rw [read, read]
  exact bind_eq_of_rel found alike.characterMap

/-- The glyph names that the dictionary of an encoding lists are the same. -/
theorem listedDifferences_eq :
    differences first 0 ((first.array? font "Differences").getD []) =
      differences second 0 ((second.array? font' "Differences").getD []) := by
  rw [← alike.array? related (by decide)]
  cases listed : first.array? font "Differences" with
  | none => rfl
  | some items => exact alike.differences_eq (alike.items related (by decide) listed) 0

/-- The encoding of a simple font is read alike, whether it is a name or a dictionary with
differences. -/
theorem loadEncoding_eq : loadEncoding first font = loadEncoding second font' := by
  have found := alike.value font font' related "Encoding" (by decide)
  unfold loadEncoding
  revert found
  generalize first.value? font "Encoding" = value?
  generalize second.value? font' "Encoding" = value'?
  rintro (@⟨value, value', here⟩ | _)
  · have inner := alike.dictionary value value' here
    rcases alike.same value value' here with rfl | ⟨own, own'⟩
    · cases value with
      | dictionary own =>
        cases inner with
        | some inner =>
          dsimp only
          rw [alike.name? inner (by decide), alike.listedDifferences_eq inner]
      | _ => rfl
    · cases value <;> cases own
      · cases value' <;> cases own'
        · cases inner with
          | some inner =>
            dsimp only
            rw [alike.name? inner (by decide), alike.listedDifferences_eq inner]
        · cases inner
      · cases value' <;> cases own'
        · cases inner
        · rfl
  · rfl

/-- The first of the descendants of a font is related in both stores. -/
theorem descendant_related :
    Option.Rel dictionaries
      (do (first.resolve (← (← first.array? font "DescendantFonts").head?)).dictionary?)
      (do (second.resolve (← (← second.array? font' "DescendantFonts").head?)).dictionary?) := by
  rw [← alike.array? related (by decide)]
  cases listed : first.array? font "DescendantFonts" with
  | none => exact .none
  | some items =>
    cases items with
    | nil => exact .none
    | cons item rest =>
      exact alike.dictionary _ _ (alike.items related (by decide) listed item (.head rest))

/-- A composite font is loaded alike, and ends the program alike. -/
theorem loadComposite_eq (name : String) :
    (loadComposite first font name : Except FontAbort (Font α)) =
      loadComposite second font' name := by
  have descendant := alike.descendant_related related
  unfold loadComposite
  rw [alike.loadToUnicode?_eq related]
  dsimp only
  revert descendant
  generalize (do (first.resolve (← (← first.array? font "DescendantFonts").head?)).dictionary? :
    Option Dictionary) = descendant?
  generalize (do (second.resolve (← (← second.array? font' "DescendantFonts").head?)).dictionary? :
    Option Dictionary) = descendant'?
  rintro (@⟨descendant, descendant', inner⟩ | _)
  · dsimp only
    rw [alike.loadInfo_eq inner, alike.loadCompositeWidths_eq inner,
      alike.number? inner (by decide)]
  · rfl

/-- A simple font is loaded alike, and ends the program alike. -/
theorem loadSimple_eq (name : String) :
    (loadSimple first font name : Except FontAbort (Font α)) = loadSimple second font' name := by
  have widths : ((first.array? font "Widths").getD []).map (fun item =>
      (first.resolve item).number?.getD (0.0 : α)) =
        ((second.array? font' "Widths").getD []).map fun item =>
          (second.resolve item).number?.getD 0.0 := by
    rw [← alike.array? related (by decide)]
    cases listed : first.array? font "Widths" with
    | none => simp only [Option.getD_none, List.map_nil]
    | some items =>
      apply List.map_congr_left
      intro item member
      rw [alike.number?_eq (alike.items related (by decide) listed item member)]
  have missing : (first.dictionary? font "FontDescriptor" >>= fun descriptor =>
      (first.number? descriptor "MissingWidth" : Option α)) =
        second.dictionary? font' "FontDescriptor" >>= fun descriptor =>
          second.number? descriptor "MissingWidth" :=
    bind_eq_of_rel (alike.dictionary? related (by decide)) fun _ _ inner =>
      alike.number? inner (by decide)
  unfold loadSimple
  rw [alike.loadInfo_eq related, alike.loadToUnicode?_eq related, alike.loadEncoding_eq related,
    alike.number? related (by decide), widths, missing]

/-- **A font is the same in stores where it is read alike.** -/
theorem load_related (resourceName : String) :
    (load first font resourceName : Except FontAbort (Font α)) =
      load second font' resourceName := by
  have base := alike.name? related (by decide : "BaseFont" ∈ keys)
  have subtype := alike.name? related (by decide : "Subtype" ∈ keys)
  unfold load
  simp only [base, subtype, alike.loadComposite_eq related, alike.loadSimple_eq related]

/-- So is the font that is used for it, whether loading it comes to an end or not. -/
theorem ofDictionary_related (resourceName : String) :
    (ofDictionary first font resourceName : Font α) = ofDictionary second font' resourceName := by
  unfold ofDictionary
  rw [alike.load_related related]

end ReadsAlike

/-! ## Stores that differ in edits of pages -/

variable {store other : Store} {font font' : Dictionary}

/-- No font is read from what edits of pages change. -/
theorem readsAlike_of_foundAlike (alike : store.FoundAlike other)
    (decoders : store.decompress = other.decompress) :
    ReadsAlike store other (fun own own' => store.HoldsDictionary own ∧ own.SameElsewhere own')
      (fun value value' => store.Holds value ∧ value.SameElsewhere value') where
  toReadsAlike := alike.readsAlike (by decide)
  characterMap := by
    rintro value value' ⟨-, same⟩
    unfold characterMap?
    rw [same.stream?, Store.decoded_congr decoders]

/-- **A font is the same in stores that differ in edits of pages.** -/
theorem ofDictionary_alike (alike : store.FoundAlike other)
    (decoders : store.decompress = other.decompress) (held : store.HoldsDictionary font)
    (same : font.SameElsewhere font') (resourceName : String) :
    (ofDictionary store font resourceName : Font α) = ofDictionary other font' resourceName :=
  (readsAlike_of_foundAlike alike decoders).ofDictionary_related ⟨held, same⟩ resourceName

end Font

end PlacedText
