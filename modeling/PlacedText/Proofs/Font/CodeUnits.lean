import PlacedText.Proofs.Content.RoundTrip
import PlacedText.Proofs.Font.CharacterMap
import PlacedText.Proofs.Font.GlyphNames
import PlacedText.Proofs.Text.Spelling
import PlacedText.Proofs.Text.Utf16

/-! # Code units that are written in three places

UTF-16 is read from the bytes of a string, from hexadecimal strings in a character map, and from the
digits of a glyph name. The three readers take the units off in chunks of their own, but they find
the units of the same bytes, so each of them reads back the text that has been encoded
(`Text.readers_invert_encode`).
-/

namespace PlacedText

/-! ## Bytes in hexadecimal -/

namespace Content

/-- The digits of bytes, two of either case for each byte. -/
inductive SpellsBytes : Bytes → Bytes → Prop
  | nil : SpellsBytes [] []
  | cons {high low b : UInt8} {bytes digits : Bytes} (spells : SpellsByte high low b)
      (later : SpellsBytes bytes digits) : SpellsBytes (b :: bytes) (high :: low :: digits)

theorem SpellsBytes.writesHex {bytes digits : Bytes} (spelled : SpellsBytes bytes digits) :
    WritesHex bytes (digits ++ [ascii '>']) := by
  induction spelled with
  | nil => exact .close
  | cons spells later ih => exact @WritesHex.byte _ _ _ [] _ _ spells (List.forall_mem_nil _) ih

/-- All bytes can be spelled in hexadecimal. -/
theorem exists_spellsBytes (bytes : Bytes) : ∃ digits, SpellsBytes bytes digits := by
  induction bytes with
  | nil => exact ⟨_, .nil⟩
  | cons b bytes ih =>
    obtain ⟨digits, spelled⟩ := ih
    exact ⟨_, .cons (spellsByte_hexDigitByte b) spelled⟩

theorem facts_of_hexDigit? {b digit : UInt8} (spelled : hexDigit? b = some digit) :
    Text.hexDigit? (Char.ofNat b.toNat) = some digit.toNat ∧
      b < 0x80 ∧ b ≠ 0x2b ∧ Char.ofNat b.toNat ≠ '.' :=
  forall_byte (P := fun b => ∀ digit ∈ hexDigit? b,
    Text.hexDigit? (Char.ofNat b.toNat) = some digit.toNat ∧
      b < 0x80 ∧ b ≠ 0x2b ∧ Char.ofNat b.toNat ≠ '.') (by decide +kernel) b digit spelled

/-- What every hexadecimal digit satisfies holds of all that spell some bytes. -/
theorem SpellsBytes.all {P : UInt8 → Prop} {bytes digits : Bytes}
    (spelled : SpellsBytes bytes digits)
    (digit : ∀ b value, hexDigit? b = some value → P b) : ∀ b ∈ digits, P b := by
  induction spelled with
  | nil => simp
  | cons spells later ih =>
    obtain ⟨first, second, left, right, -⟩ := spells
    simp only [List.forall_mem_cons]
    exact ⟨digit _ _ left, digit _ _ right, ih⟩

/-- Two digits spell a byte. -/
theorem SpellsBytes.length_eq {bytes digits : Bytes} (spelled : SpellsBytes bytes digits) :
    digits.length = 2 * bytes.length := by
  induction spelled with
  | nil => rfl
  | cons spells later ih =>
    simp only [List.length_cons, ih]
    omega

/-! ## Operators one after the other -/

/-- Operators are not written by the empty text. -/
theorem WritesOperators.ne_nil {operators : List (Operator Literal)} {text : Bytes}
    (written : WritesOperators operators text) (some : operators ≠ []) : text ≠ [] := by
  induction written with
  | nil => exact absurd rfl some
  | blank blank later ih => simp
  | operand written ends later ih => simp [ih]
  | keyword keyword ends later ih =>
    have visible := Text.Utf8.encode_ne_nil (by simpa using keyword.visible)
    simp [visible]

/-- Operators can be written behind others that end with a blank. -/
theorem WritesOperators.append {first second : List (Operator Literal)} {front back : Bytes}
    (written : WritesOperators first front) (apart : ∀ b ∈ front.getLast?, isBlank b)
    (behind : WritesOperators second back) : WritesOperators (first ++ second) (front ++ back) := by
  have later {word text : Bytes} (visible : text ≠ [])
      (apart : ∀ b ∈ (word ++ text).getLast?, isBlank b) : ∀ b ∈ text.getLast?, isBlank b := by
    rwa [List.getLast?_append_of_ne_nil _ visible] at apart
  have ends {text : Bytes} (visible : text ≠ []) (ends : EndsWord text) :
      EndsWord (text ++ back) := by
    rw [EndsWord, List.head?_append_of_ne_nil _ visible]
    exact ends
  induction written with
  | nil => exact behind
  | @blank b operators text blank others ih =>
    refine .blank blank (ih fun c member => ?_)
    cases text with
    | nil => cases member
    | cons c' text => exact apart c (by simpa using member)
  | operand written closes others ih =>
    have visible := others.ne_nil (List.cons_ne_nil _ _)
    rw [List.append_assoc]
    exact .operand written (ends visible closes) (ih (later visible apart))
  | @keyword name operators text keyword closes others ih =>
    -- a word at the end is no blank, so something follows this one
    have visible : text ≠ [] := by
      rintro rfl
      rw [List.append_nil] at apart
      have encoded := Text.Utf8.encode_ne_nil (by simpa using keyword.visible)
      have blank := apart _ (List.getLast?_eq_some_getLast encoded)
      have regular := List.all_eq_true.mp keyword.regular _ (List.getLast_mem encoded)
      simp [isRegular, blank] at regular
    rw [List.append_assoc]
    exact .keyword keyword (ends visible closes) (ih (later visible apart))

theorem WritesOperators.operators_eq {written : List (Operator Literal)} {text : Bytes}
    (writes : WritesOperators written text) :
    operators text = .ok (written.map (Operator.map Literal.numeral)) := by
  refine (writes.readFrom_eq [] []).trans ?_
  rw [List.reverse_nil, List.reverse_nil, List.nil_append, behindOperands_nil]

end Content

/-! ## Character maps -/

namespace CMap

open Content (SpellsBytes WritesOperators Literal EndsWord isBlank endsWord_blank)

/-- The number of a code, whose first byte is the highest. -/
def codeNumber (code : Bytes) : UInt32 :=
  UInt32.ofNat (Nat.ofDigits 256 (code.reverse.map UInt8.toNat))

/-- Shifting a code and filling in a byte is to multiply by 256 and add the byte, modulo `2 ^ 32` on
both sides. -/
theorem shiftLeft_or (number : Nat) (b : UInt8) :
    UInt32.ofNat number <<< 8 ||| b.toUInt32 = UInt32.ofNat (b.toNat + 256 * number) := by
  have joined := Nat.shiftLeft_add_eq_or_of_lt b.toNat_lt (number % 2 ^ 24)
  have shifted : number % 2 ^ 32 * 2 ^ 8 % 2 ^ 32 = number % 2 ^ 24 * 2 ^ 8 := by omega
  have := b.toNat_lt
  rw [Nat.shiftLeft_eq] at joined
  apply UInt32.toNat_inj.mp
  simp only [UInt32.toNat_or, UInt32.toNat_shiftLeft, UInt32.toNat_ofNat', UInt8.toNat_toUInt32,
    UInt32.reduceToNat, Nat.reduceMod, Nat.shiftLeft_eq]
  rw [shifted, ← joined]
  omega

/-- A code of up to four bytes is the number of these bytes. -/
theorem codeOf_eq {code : Bytes} (short : code.length ≤ 4) : codeOf code = codeNumber code := by
  rw [codeOf, List.take_of_length_le short]
  clear short
  induction code using List.reverseRecOn with
  | nil => rfl
  | append_singleton code b ih =>
    rw [List.foldl_concat, ih, codeNumber, shiftLeft_or, codeNumber, List.reverse_append,
      List.reverse_singleton, List.singleton_append, List.map_cons, Nat.ofDigits_cons]

theorem unitsOf_eq {bytes : Bytes} (paired : 2 ∣ bytes.length) :
    unitsOf bytes = Text.Utf16.units bytes := by
  match bytes with
  | [b] => simp at paired
  | [] | _ :: _ :: _ => rfl

/-- The section that gives one code a text, both in hexadecimal digits. -/
def singleSection (code text : Bytes) : Bytes :=
  Text.Utf8.encode "1 beginbfchar <" ++ code ++ Text.Utf8.encode "> <" ++ text ++
    Text.Utf8.encode "> endbfchar"

/-- How many codes a section of one code has, as it is written. -/
def oneLiteral : Literal :=
  ⟨false, [⟨1, Nat.one_lt_succ_succ 8⟩], none, List.cons_ne_nil _ _⟩

def singleOperators (code text : Bytes) : List (Operator Literal) :=
  [⟨"beginbfchar", [.number oneLiteral]⟩,
    ⟨"endbfchar", [.string code, .string text]⟩]

/-- A section with one code and its text is written in front of other operators. -/
theorem writesOperators_single {code text codeDigits textDigits back : Bytes}
    {after : List (Operator Literal)} (spellsCode : SpellsBytes code codeDigits)
    (spellsText : SpellsBytes text textDigits) (written : WritesOperators after back)
    (ends : EndsWord back) :
    WritesOperators (singleOperators code text ++ after)
      (singleSection codeDigits textDigits ++ back) := by
  have begins : Content.IsKeyword "beginbfchar" :=
    ⟨by decide, by decide, by decide, by decide, by decide⟩
  have closes : Content.IsKeyword "endbfchar" :=
    ⟨by decide, by decide, by decide, by decide, by decide⟩
  have blank : isBlank 0x20 := by decide
  have whole : singleSection codeDigits textDigits ++ back =
      [0x31] ++ 0x20 :: (Text.Utf8.encode "beginbfchar" ++ 0x20 ::
        (0x3c :: (codeDigits ++ [0x3e]) ++ 0x20 :: (0x3c :: (textDigits ++ [0x3e]) ++ 0x20 ::
          (Text.Utf8.encode "endbfchar" ++ back)))) := by
    have first : Text.Utf8.encode "1 beginbfchar <" =
        0x31 :: 0x20 :: (Text.Utf8.encode "beginbfchar" ++ [0x20, 0x3c]) := by decide
    have second : Text.Utf8.encode "> <" = [0x3e, 0x20, 0x3c] := by decide
    have third : Text.Utf8.encode "> endbfchar" = 0x3e :: 0x20 :: Text.Utf8.encode "endbfchar" := by
      decide
    simp [singleSection, first, second, third]
  rw [whole]
  exact .operand (.number _) (endsWord_blank _) (.blank blank (.keyword begins (endsWord_blank _)
    (.blank blank (.operand (.hexString spellsCode.writesHex) (endsWord_blank _)
      (.blank blank (.operand (.hexString spellsText.writesHex) (endsWord_blank _)
        (.blank blank (.keyword closes ends written))))))))

/-- A character map with the section that gives one code a text, between operators of which the
later ones give that code no other text. -/
inductive WritesSingle (code text : Bytes) : Bytes → Prop
  | intro {before after : List (Operator Literal)} {front back codeDigits textDigits : Bytes}
      (writtenFront : WritesOperators before front) (apart : ∀ b ∈ front.getLast?, isBlank b)
      (spellsCode : SpellsBytes code codeDigits) (spellsText : SpellsBytes text textDigits)
      (writtenBack : WritesOperators after back) (ends : EndsWord back)
      (undefined : ∀ operator ∈ after, ∀ definition ∈ listedDefinitions operator,
        definition.text? (codeNumber code) = none) :
      WritesSingle code text (front ++ (singleSection codeDigits textDigits ++ back))

theorem exists_writesSingle (code text : Bytes) : ∃ data, WritesSingle code text data := by
  obtain ⟨codeDigits, spellsCode⟩ := Content.exists_spellsBytes code
  obtain ⟨textDigits, spellsText⟩ := Content.exists_spellsBytes text
  exact ⟨_, .intro .nil (by simp) spellsCode spellsText .nil .nil (by simp)⟩

/-- The map gives the code the text whose units are written. -/
theorem WritesSingle.lookup? {code text data : Bytes} (written : WritesSingle code text data)
    (short : code.length ≤ 4) (paired : 2 ∣ text.length) :
    ∃ cmap, ofStream data = .ok cmap ∧
      cmap.lookup? (codeNumber code) = some (Text.Utf16.decode (Text.Utf16.units text)) := by
  obtain @⟨before, after, front, back, codeDigits, textDigits, writtenFront, apart, spellsCode,
    spellsText, writtenBack, ends, undefined⟩ := written
  have read := (writtenFront.append apart
    (writesOperators_single spellsCode spellsText writtenBack ends)).operators_eq
  have listed : ((before ++ (singleOperators code text ++ after)).map
      (Operator.map Literal.numeral)).flatMap definitions =
        before.flatMap listedDefinitions ++ .single (codeOf code) (unitsOf text) ::
          after.flatMap listedDefinitions := by
    have single : (singleOperators code text).flatMap listedDefinitions =
        [.single (codeOf code) (unitsOf text)] := by
      simp [singleOperators, listedDefinitions, pairAt?, pairDefinition?]
    simp [List.flatMap_map, definitions_eq, listedDefinitions_map, single]
  have later : (after.flatMap listedDefinitions).reverse.findSome?
      (·.text? (codeNumber code)) = none := by
    simpa using fun definition operator member defined =>
      undefined operator member definition defined
  refine ⟨_, congrArg (Except.map _) read, ?_⟩
  change (List.foldl define empty (List.flatMap definitions _)).lookup? _ = _
  have here : (Definition.single (codeNumber code) (Text.Utf16.units text)).text?
      (codeNumber code) = some (Text.Utf16.decode (Text.Utf16.units text)) := if_pos rfl
  rw [listed, lookup?_foldl_define, codeOf_eq short, unitsOf_eq paired]
  simp [later, here]

end CMap

/-! ## Glyph names -/

namespace GlyphName

open Content (SpellsByte SpellsBytes)

/-- ASCII characters by their bytes. -/
def letters (bytes : Bytes) : List Char := bytes.map fun b => Char.ofNat b.toNat

theorem utf8EncodeChar_letter {b : UInt8} (small : b < 0x80) :
    String.utf8EncodeChar (Char.ofNat b.toNat) = [b] := by
  have below : b.toNat < 0x80 := UInt8.lt_iff_toNat_lt.mp small
  have same : (Char.ofNat b.toNat).toNat = b.toNat := Text.Utf8.toNat_ofNat_of_valid (by omega)
  rw [Text.Utf8.utf8EncodeChar_eq, same, if_pos (by omega), UInt8.ofNat_toNat]

/-- Bytes below 128 are the bytes of their letters. -/
theorem bytesOf_letters {bytes : Bytes} (small : ∀ b ∈ bytes, b < 0x80) :
    bytesOf (letters bytes) = bytes := by
  induction bytes with
  | nil => rfl
  | cons b bytes ih =>
    obtain ⟨first, others⟩ := List.forall_mem_cons.mp small
    rw [letters, List.map_cons, bytesOf, List.flatMap_cons, utf8EncodeChar_letter first]
    exact congrArg (b :: ·) (ih others)

/-- Bytes below 128 are decoded letter by letter. -/
theorem pieces_letters {bytes : Bytes} (small : ∀ b ∈ bytes, b < 0x80) :
    Text.Utf8.pieces none bytes = (letters bytes).map some := by
  induction bytes with
  | nil => rfl
  | cons b bytes ih =>
    obtain ⟨first, others⟩ := List.forall_mem_cons.mp small
    have complete := Text.Utf8.lead_of_one (UInt8.lt_iff_toNat_lt.mp first)
    rw [Text.Utf8.pieces_of_complete complete, ih others]
    rfl

/-- Characters that are followed by ASCII bytes are read as these bytes are. -/
theorem decodeLossy_append_letters (text : String) {bytes : Bytes}
    (small : ∀ b ∈ bytes, b < 0x80) :
    Text.Utf8.decodeLossy (Text.Utf8.encode text ++ bytes) =
      String.ofList (text.toList ++ letters bytes) := by
  simp [Text.Utf8.decodeLossy, Text.Utf8.pieces_encode, pieces_letters small, Function.comp_def]

/-- The digits of two bytes are those of the number that the bytes spell. -/
theorem hexNumber?_group {high low high' low' first second : UInt8}
    (spells : SpellsByte high low first) (spells' : SpellsByte high' low' second) :
    hexNumber? [high, low, high', low'] = some (256 * first.toNat + second.toNat) := by
  have toNat_joined {b left right : UInt8} (leftSmall : left < 16) (rightSmall : right < 16)
      (joined : b = 16 * left + right) : b.toNat = 16 * left.toNat + right.toNat := by
    rw [UInt8.lt_iff_toNat_lt] at leftSmall rightSmall
    simp only [UInt8.reduceToNat] at leftSmall rightSmall
    rw [joined, UInt8.toNat_add, UInt8.toNat_mul]
    simp only [UInt8.reduceToNat]
    omega
  obtain ⟨a, b, spelled, spelled', joined⟩ := spells
  obtain ⟨c, d, spelled'', spelled''', joined'⟩ := spells'
  have unsigned := (Content.facts_of_hexDigit? spelled).2.2.1
  rw [toNat_joined (Content.hexDigit?_lt spelled) (Content.hexDigit?_lt spelled') joined,
    toNat_joined (Content.hexDigit?_lt spelled'') (Content.hexDigit?_lt spelled''') joined']
  simp [hexNumber?, unsigned, (Content.facts_of_hexDigit? spelled).1,
    (Content.facts_of_hexDigit? spelled').1, (Content.facts_of_hexDigit? spelled'').1,
    (Content.facts_of_hexDigit? spelled''').1]
  omega

/-- The groups of digits are read as the units of the bytes that they spell. -/
theorem readUnits_letters {groups position : Nat} {bytes digits : Bytes}
    (spelled : SpellsBytes bytes digits) (paired : bytes.length = 2 * groups) :
    readUnits groups position (letters digits) = .ok (some (Text.Utf16.units bytes)) := by
  induction groups generalizing position bytes digits with
  | zero =>
    cases List.length_eq_zero_iff.mp paired
    rfl
  | succ groups ih =>
    cases spelled with
    | nil => simp at paired
    | @cons high low first _ _ spells later =>
      cases later with
      | nil =>
        simp only [List.length_cons, List.length_nil] at paired
        omega
      | @cons high' low' second bytes digits spells' later =>
        have small : ∀ b ∈ [high, low, high', low'], b < 0x80 :=
          (SpellsBytes.cons spells (.cons spells' .nil)).all fun b value read =>
            (Content.facts_of_hexDigit? read).2.1
        have group := bytesOf_letters small
        have cut : cutBehind? 4 (letters (high :: low :: high' :: low' :: digits)) =
            some (letters [high, low, high', low'], letters digits) :=
          cutBehind?_eq_some_iff.mpr ⟨rfl, by rw [group]; rfl⟩
        have unit : (256 * first.toNat + second.toNat).toUInt16 =
            first.toUInt16 <<< 8 ||| second.toUInt16 := by
          rw [← Text.Utf16.toNat_join]
          exact UInt16.ofNat_toNat
        simp only [List.length_cons] at paired
        rw [readUnits, cut]
        simp only [group, hexNumber?_group spells spells', ih later (by omega), unit]
        rfl

/-- The digits of pairs of bytes behind `uni` are read as the text of these bytes. -/
theorem readText_uni {bytes digits : Bytes} (spelled : SpellsBytes bytes digits)
    (visible : bytes ≠ []) (paired : 2 ∣ bytes.length) :
    readText (Text.Utf8.decodeLossy (Text.Utf8.encode "uni" ++ digits)) =
      .ok (some (Text.Utf16.decode (Text.Utf16.units bytes))) := by
  have small : ∀ b ∈ digits, b < 0x80 := spelled.all fun b value read =>
    (Content.facts_of_hexDigit? read).2.1
  have pointless : ∀ c ∈ letters digits, c ≠ '.' := by
    simpa [letters] using spelled.all fun b value read => (Content.facts_of_hexDigit? read).2.2.2
  have named : Text.Utf8.decodeLossy (Text.Utf8.encode "uni" ++ digits) =
      String.ofList (['u', 'n', 'i'] ++ letters digits) :=
    decodeLossy_append_letters "uni" small
  have whole : base (String.ofList (['u', 'n', 'i'] ++ letters digits)) =
      ['u', 'n', 'i'] ++ letters digits := by
    rw [base, String.toList_ofList, List.takeWhile_eq_self_iff]
    simpa using pointless
  have sized := spelled.length_eq
  have long := List.length_pos_of_ne_nil visible
  have digits? : unitDigits? (['u', 'n', 'i'] ++ letters digits) = some (letters digits) := by
    rw [unitDigits?_eq_some_iff, bytesOf_letters small]
    exact ⟨rfl, by omega, by omega⟩
  rw [named, readText, whole]
  simp only [digits?, readUnitText, bytesOf_letters small]
  rw [readUnits_letters spelled (by omega)]
  rfl

end GlyphName

/-! ## Text that is written in UTF-16 -/

namespace Text

open Content (SpellsBytes)

/-- **The readers of UTF-16 invert its encoding.** A text is what is read from the bytes of its
units behind a byte order mark; it is what a character map gives a code of up to four bytes that it
is written for, in hexadecimal; and, unless it is empty, it is what is read from a glyph name that
spells these bytes behind `uni`. A text in UTF-8 is what is read from its bytes, too. -/
theorem readers_invert_encode (text : String) :
    let bytes := Utf16.bigEndian (Utf16.encode text)
    ofStringObject (0xfe :: 0xff :: bytes) = text ∧
      (∀ code data : Bytes, code.length ≤ 4 → CMap.WritesSingle code bytes data →
        ∃ cmap, CMap.ofStream data = .ok cmap ∧
          cmap.lookup? (CMap.codeNumber code) = some text) ∧
      (∀ digits, text ≠ "" → SpellsBytes bytes digits →
        GlyphName.readText (Utf8.decodeLossy (Utf8.encode "uni" ++ digits)) = .ok (some text)) ∧
      ofStringObject (Utf8.encode text) = text := by
  intro bytes
  have read : Utf16.decode (Utf16.units bytes) = text := by
    rw [Utf16.units_bigEndian, Utf16.decode_encode]
  have paired : 2 ∣ bytes.length := by
    rw [Utf16.length_bigEndian]
    exact Nat.dvd_mul_right 2 _
  refine ⟨?_, fun code data short written => ?_, fun digits visible spelled => ?_, ?_⟩
  · rw [ofStringObject_marked, read]
  · simpa [read] using written.lookup? short paired
  · have some : bytes ≠ [] := by
      intro none
      rw [none] at read
      exact visible read.symm
    rw [GlyphName.readText_uni spelled some paired, read]
  · exact ofStringObject_encode text

/-- A character map for the code of two bytes 65. -/
def pairCMap : String := "begincmap\n1 beginbfchar <0041> <d835DC00> endbfchar\nendcmap"

theorem spellsBytes_pair :
    SpellsBytes [0xd8, 0x35, 0xdc, 0x00] (Utf8.encode "d835DC00") :=
  .cons ⟨13, 8, by decide, by decide, by decide⟩
    (.cons ⟨3, 5, by decide, by decide, by decide⟩
      (.cons ⟨13, 12, by decide, by decide, by decide⟩
        (.cons ⟨0, 0, by decide, by decide, by decide⟩ .nil)))

/-- The text of the character map defines one code by a surrogate pair. -/
theorem writesSingle_pairCMap :
    CMap.WritesSingle [0x00, 0x41] [0xd8, 0x35, 0xdc, 0x00] (Utf8.encode pairCMap) := by
  have begins : Content.IsKeyword "begincmap" :=
    ⟨by decide, by decide, by decide, by decide, by decide⟩
  have ends : Content.IsKeyword "endcmap" :=
    ⟨by decide, by decide, by decide, by decide, by decide⟩
  have front : Content.WritesOperators [⟨"begincmap", []⟩] (Utf8.encode "begincmap" ++ [0x0a]) :=
    .keyword begins (.of_isBlank (by decide)) (.blank (by decide) .nil)
  have back : Content.WritesOperators [⟨"endcmap", []⟩] (0x0a :: (Utf8.encode "endcmap" ++ [])) :=
    .blank (by decide) (.keyword ends .nil .nil)
  have code : SpellsBytes [0x00, 0x41] (Utf8.encode "0041") :=
    .cons ⟨0, 0, by decide, by decide, by decide⟩
      (.cons ⟨4, 1, by decide, by decide, by decide⟩ .nil)
  exact .intro front (by simp [Content.isBlank]) code spellsBytes_pair back
    (.of_isBlank (by decide)) (by simp [CMap.listedDefinitions])

/-- A character beyond the first plane is read back from UTF-16 in a string, in a character map and
in a glyph name, and from UTF-8. -/
theorem readers_invert_encode_pair :
    ofStringObject [0xfe, 0xff, 0xd8, 0x35, 0xdc, 0x00] = "𝐀" ∧
      (∃ cmap, CMap.ofStream (Utf8.encode pairCMap) = .ok cmap ∧ cmap.lookup? 65 = some "𝐀") ∧
      GlyphName.readText "unid835DC00" = .ok (some "𝐀") ∧
      ofStringObject [0xf0, 0x9d, 0x90, 0x80] = "𝐀" := by
  have units : Utf16.bigEndian (Utf16.encode "𝐀") = [0xd8, 0x35, 0xdc, 0x00] := by decide
  have name : Utf8.decodeLossy (Utf8.encode "uni" ++ Utf8.encode "d835DC00") = "unid835DC00" := by
    decide
  obtain ⟨marked, mapped, named, plain⟩ := readers_invert_encode "𝐀"
  rw [units] at marked mapped named
  refine ⟨marked, mapped _ _ (by decide) writesSingle_pairCMap, ?_, plain⟩
  rw [← name]
  exact named _ (by decide) spellsBytes_pair

end Text

end PlacedText
