import PlacedText.Proofs.Font.Codes

/-! # Glyph names that are cut

The code units of a glyph name are cut off its digits in groups of four bytes, and a group that ends
inside of a character cannot be cut off (`GlyphName.CutsCharacter`). Reading the text of a code of a
font fails for just such names (`Font.load_readText`), which only characters of several bytes make.
-/

namespace PlacedText

namespace GlyphName

variable {front rest chars digits : List Char} {size : Nat}

/-! ## Cutting characters -/

@[simp]
theorem bytesOf_append (first second : List Char) :
    bytesOf (first ++ second) = bytesOf first ++ bytesOf second := List.flatMap_append

@[simp]
theorem length_bytesOf_cons (c : Char) (chars : List Char) :
    (bytesOf (c :: chars)).length = c.utf8Size + (bytesOf chars).length := by
  simp [bytesOf, String.length_utf8EncodeChar]

/-- Characters have as many bytes as their text. -/
theorem length_bytesOf (chars : List Char) :
    (bytesOf chars).length = (String.ofList chars).utf8ByteSize := by
  induction chars with
  | nil => rfl
  | cons c chars ih =>
    rw [length_bytesOf_cons, ih]
    simp

/-- Characters can be cut behind a number of bytes just where some of them have as many together. By
recursion on the characters, each of which takes its bytes off. -/
theorem cutBehind?_eq_some_iff :
    cutBehind? size chars = some (front, rest) ↔
      chars = front ++ rest ∧ (bytesOf front).length = size := by
  fun_induction cutBehind? size chars generalizing front with
  | case1 chars =>
    cases front with
    | nil => simp [bytesOf, eq_comm]
    | cons c front =>
      have := c.utf8Size_pos
      simp [Nat.ne_of_gt this]
  | case2 bytes =>
    cases front <;> simp [bytesOf]
  | case3 bytes c others fits ih =>
    cases front with
    | nil => simp [bytesOf]
    | cons first front =>
      have moved : c.utf8Size + (bytesOf front).length = bytes + 1 ↔
          (bytesOf front).length = bytes + 1 - c.utf8Size := by omega
      by_cases same : c = first
      · subst same
        simp [ih, moved]
      · simp [same]
  | case4 bytes c others wide =>
    cases front with
    | nil => simp [bytesOf]
    | cons first front =>
      simp only [reduceCtorEq, length_bytesOf_cons, false_iff, not_and, List.cons_append,
        List.cons.injEq, and_imp]
      rintro rfl -
      omega

/-- Characters can be cut where a character ends. -/
theorem cutBehind?_eq_none_iff :
    cutBehind? size chars = none ↔ ¬(⟨size⟩ : String.Pos.Raw).IsValid (String.ofList chars) := by
  rw [String.Pos.Raw.isValid_iff_exists_append, Option.eq_none_iff_forall_ne_some]
  constructor
  · rintro uncut ⟨front, rest, joined, ends⟩
    refine uncut (front.toList, rest.toList) (cutBehind?_eq_some_iff.mpr ⟨?_, ?_⟩)
    · simpa using congrArg String.toList joined
    · simpa [length_bytesOf] using (congrArg String.Pos.Raw.byteIdx ends).symm
  · rintro invalid ⟨front, rest⟩ cut
    obtain ⟨rfl, rfl⟩ := cutBehind?_eq_some_iff.mp cut
    exact invalid ⟨String.ofList front, String.ofList rest, String.ofList_append,
      congrArg String.Pos.Raw.mk (length_bytesOf front)⟩

theorem cutBehind?_cons (c : Char) (rest : List Char) (size : Nat) :
    cutBehind? (c.utf8Size + size) (c :: rest) =
      (cutBehind? size rest).map fun (front, behind) => (c :: front, behind) := by
  obtain ⟨bytes, counted⟩ : ∃ bytes, c.utf8Size + size = bytes + 1 :=
    Nat.exists_eq_add_one.mpr (Nat.add_pos_left c.utf8Size_pos size)
  have left : bytes + 1 - c.utf8Size = size := by omega
  rw [counted, cutBehind?, if_pos (by omega), left]

/-- A cut behind the first characters is one of what follows them. -/
theorem isValid_append (front rest : List Char) (size : Nat) :
    (⟨(bytesOf front).length + size⟩ : String.Pos.Raw).IsValid (String.ofList (front ++ rest)) ↔
      (⟨size⟩ : String.Pos.Raw).IsValid (String.ofList rest) := by
  rw [← not_iff_not, ← cutBehind?_eq_none_iff, ← cutBehind?_eq_none_iff]
  induction front with
  | nil => simp [bytesOf]
  | cons c front ih =>
    rw [length_bytesOf_cons, Nat.add_assoc, List.cons_append, cutBehind?_cons,
      Option.map_eq_none_iff, ih]

/-! ## Groups of four bytes -/

/-- The bytes of one of the groups that characters are cut into. -/
def groupAt (digits : List Char) (place : Nat) : Bytes := ((bytesOf digits).drop (4 * place)).take 4

theorem groupAt_zero (group : (bytesOf front).length = 4) :
    groupAt (front ++ rest) 0 = bytesOf front := by
  simp [groupAt, ← group]

theorem groupAt_succ (group : (bytesOf front).length = 4) (place : Nat) :
    groupAt (front ++ rest) (place + 1) = groupAt rest place := by
  have behind : 4 * (place + 1) = (bytesOf front).length + 4 * place := by omega
  rw [groupAt, bytesOf_append, behind, List.drop_length_add_append]
  rfl

/-- The end of a group is a place where a character ends. -/
def EndsCharacter (digits : List Char) (place : Nat) : Prop :=
  (⟨4 * (place + 1)⟩ : String.Pos.Raw).IsValid (String.ofList digits)

theorem endsCharacter_zero_iff :
    EndsCharacter digits 0 ↔ ∃ front rest, cutBehind? 4 digits = some (front, rest) := by
  rw [EndsCharacter, ← not_iff_not, ← cutBehind?_eq_none_iff, Option.eq_none_iff_forall_ne_some]
  simp

theorem endsCharacter_succ (group : (bytesOf front).length = 4) (place : Nat) :
    EndsCharacter (front ++ rest) (place + 1) ↔ EndsCharacter rest place := by
  have behind : 4 * (place + 1 + 1) = (bytesOf front).length + 4 * (place + 1) := by omega
  unfold EndsCharacter
  rw [behind, isValid_append]

/-- The groups in front of one can be cut off and are numbers, and it ends inside of a character. -/
structure CutsAt (digits : List Char) (place : Nat) : Prop where
  inside : ¬EndsCharacter digits place
  before : ∀ earlier < place,
    EndsCharacter digits earlier ∧ (hexNumber? (groupAt digits earlier)).isSome

theorem cutsAt_zero_iff : CutsAt digits 0 ↔ cutBehind? 4 digits = none := by
  rw [cutBehind?_eq_none_iff]
  exact ⟨CutsAt.inside, fun inside => ⟨inside, fun _ none => absurd none (Nat.not_lt_zero _)⟩⟩

/-- A cut behind a first whole group is met just where that group is a number and the cut is met in
the rest. -/
theorem cutsAt_succ_iff (group : (bytesOf front).length = 4) (place : Nat) :
    CutsAt (front ++ rest) (place + 1) ↔
      (hexNumber? (bytesOf front)).isSome ∧ CutsAt rest place := by
  have cut : EndsCharacter (front ++ rest) 0 :=
    endsCharacter_zero_iff.mpr ⟨front, rest, cutBehind?_eq_some_iff.mpr ⟨rfl, group⟩⟩
  constructor
  · rintro ⟨inside, before⟩
    refine ⟨?_, ?_, fun earlier less => ?_⟩
    · simpa [groupAt_zero group] using (before 0 (Nat.succ_pos place)).2
    · rwa [endsCharacter_succ group] at inside
    · simpa [endsCharacter_succ group, groupAt_succ group] using
        before (earlier + 1) (Nat.succ_lt_succ less)
  · rintro ⟨number, inside, before⟩
    refine ⟨?_, fun earlier less => ?_⟩
    · rwa [endsCharacter_succ group]
    · cases earlier with
      | zero => exact ⟨cut, by rwa [groupAt_zero group]⟩
      | succ earlier =>
        simpa [endsCharacter_succ group, groupAt_succ group] using
          before earlier (Nat.lt_of_succ_lt_succ less)

/-- Reading fails at the first group that ends inside of a character, if all groups before it are
numbers. -/
theorem readUnits_eq_error_iff {groups position : Nat} {fault : CutFault} :
    readUnits groups position digits = .error fault ↔
      ∃ place < groups, fault = ⟨position + 4 * (place + 1)⟩ ∧ CutsAt digits place := by
  induction groups generalizing position digits with
  | zero => simp [readUnits]
  | succ groups ih =>
    unfold readUnits
    cases cut : cutBehind? 4 digits with
    | none =>
      have here := cutsAt_zero_iff.mpr cut
      constructor
      · rintro ⟨⟩
        exact ⟨0, Nat.succ_pos groups, rfl, here⟩
      · rintro ⟨place, -, rfl, cuts⟩
        cases place with
        | zero => rfl
        | succ place => exact absurd (cuts.before 0 (Nat.succ_pos place)).1 here.inside
    | some parts =>
      obtain ⟨front, rest⟩ := parts
      obtain ⟨rfl, group⟩ := cutBehind?_eq_some_iff.mp cut
      have none : ¬CutsAt (front ++ rest) 0 := fun here => by simp [cutsAt_zero_iff, cut] at here
      have number (place : Nat) : CutsAt (front ++ rest) (place + 1) ↔
          (hexNumber? (bytesOf front)).isSome ∧ CutsAt rest place := cutsAt_succ_iff group place
      rw [Nat.exists_lt_succ_left]
      cases spelled : hexNumber? (bytesOf front) with
      | none => simp [none, number, spelled]
      | some unit =>
        have later (place : Nat) :
            position + 4 * (place + 1 + 1) = position + 4 + 4 * (place + 1) := by
          omega
        simp [none, number, spelled, later, Effect.map_eq_error_iff, ih]

/-! ## Names -/

/-- What is behind some letters is the rest of a name that begins with them. -/
theorem behind?_eq_some_iff {letters name rest : List Char} :
    behind? letters name = some rest ↔ name = letters ++ rest := by
  fun_induction behind? letters name with
  | case1 => simp [eq_comm]
  | case2 => simp
  | case3 letters c rest' ih => simp [ih]
  | case4 letter letters c rest' other => simp [other]

/-- A glyph name spells code units in groups of four bytes, one of which ends inside of a character,
and those in front of it are numbers. -/
def CutsCharacter (name : String) (place : Nat) : Prop :=
  ∃ digits, base name = ['u', 'n', 'i'] ++ digits ∧ 4 ∣ (bytesOf digits).length ∧
    4 * (place + 1) ≤ (bytesOf digits).length ∧ CutsAt digits place

/-- A name spells code units where `uni` is followed by one or more groups of four bytes. -/
theorem unitDigits?_eq_some_iff {name : List Char} :
    unitDigits? name = some digits ↔ name = ['u', 'n', 'i'] ++ digits ∧
      4 ≤ (bytesOf digits).length ∧ 4 ∣ (bytesOf digits).length := by
  rw [← behind?_eq_some_iff]
  unfold unitDigits?
  cases behind? ['u', 'n', 'i'] name with
  | none => simp
  | some found =>
    simp only [Option.ite_none_right_eq_some, Option.some.injEq, Nat.dvd_iff_mod_eq_zero]
    constructor
    · rintro ⟨sized, rfl⟩
      exact ⟨rfl, sized⟩
    · rintro ⟨rfl, sized⟩
      exact ⟨sized, rfl⟩

/-- Reading a glyph name fails where a group of four bytes ends inside of a character. -/
theorem readText_eq_error_iff {name : String} {fault : CutFault} :
    readText name = .error fault ↔
      ∃ place, fault = ⟨4 * (place + 1)⟩ ∧ CutsCharacter name place := by
  unfold readText CutsCharacter
  dsimp only
  constructor
  · cases spelled : unitDigits? (base name) with
    | none => simp
    | some digits =>
      obtain ⟨begins, -, grouped⟩ := unitDigits?_eq_some_iff.mp spelled
      simp only [readUnitText, Effect.map_eq_error_iff, readUnits_eq_error_iff, Nat.zero_add]
      rintro ⟨place, within, rfl, cuts⟩
      exact ⟨place, rfl, digits, begins, grouped, by omega, cuts⟩
  · rintro ⟨place, rfl, digits, begins, grouped, within, cuts⟩
    rw [unitDigits?_eq_some_iff.mpr ⟨begins, by omega, grouped⟩]
    simp only [readUnitText, Effect.map_eq_error_iff, readUnits_eq_error_iff, Nat.zero_add]
    exact ⟨place, by omega, rfl, cuts⟩

/-- Characters of one byte have as many bytes as there are characters. -/
theorem length_bytesOf_of_single (single : ∀ c ∈ chars, c.utf8Size = 1) :
    (bytesOf chars).length = chars.length := by
  induction chars with
  | nil => rfl
  | cons c chars ih =>
    obtain ⟨first, others⟩ := List.forall_mem_cons.mp single
    rw [length_bytesOf_cons, first, ih others, List.length_cons, Nat.add_comm]

/-- A cut goes through a character of several bytes. -/
theorem CutsCharacter.exists_wide {name : String} {place : Nat} (cuts : CutsCharacter name place) :
    ∃ c ∈ base name, c.utf8Size ≠ 1 := by
  obtain ⟨digits, begins, -, within, inside, -⟩ := cuts
  by_contra narrow
  push Not at narrow
  have single : ∀ c ∈ digits, c.utf8Size = 1 := fun c member => narrow c (by simp [begins, member])
  rw [length_bytesOf_of_single single] at within
  have front : (bytesOf (digits.take (4 * (place + 1)))).length = 4 * (place + 1) := by
    rw [length_bytesOf_of_single fun c member => single c (List.mem_of_mem_take member),
      List.length_take, min_eq_left within]
  apply inside
  have ends := isValid_append (digits.take (4 * (place + 1))) (digits.drop (4 * (place + 1))) 0
  rw [List.take_append_drop, front] at ends
  exact ends.mpr String.Pos.Raw.isValid_zero

end GlyphName

/-! ## Codes -/

/-- The Unicode text of a glyph name; one that cannot be read has none. -/
def GlyphName.text? (name : String) : Option String := (readText name).toOption.join

/-- The text of a code: that of its glyph name if it has one, and else its character. -/
def Encoding.decode? (encoding : Encoding) (code : UInt32) : Option String :=
  match encoding.differences[code]? with
  | some name => GlyphName.text? name
  | none => encoding.character? code

theorem Encoding.readText_eq_error_iff {encoding : Encoding} {code : UInt32}
    {fault : GlyphName.CutFault} :
    encoding.readText code = .error fault ↔
      ∃ name, encoding.differences[code]? = some name ∧ GlyphName.readText name = .error fault := by
  unfold readText
  cases encoding.differences[code]? <;> simp

/-- Where no name is cut the encoding has the text that is read. -/
theorem Encoding.decode?_eq_of_readText {encoding : Encoding} {code : UInt32}
    {text? : Option String} (read : encoding.readText code = .ok text?) :
    encoding.decode? code = text? := by
  unfold readText at read
  unfold decode?
  cases named : encoding.differences[code]? with
  | none =>
    rw [named] at read
    exact Except.ok.inj read
  | some name =>
    have spelled : GlyphName.readText name = .ok text? := by rwa [named] at read
    change (GlyphName.readText name).toOption.join = text?
    rw [spelled]
    rfl

namespace Font

variable {α : Type}

/-- The text of a code: that of the character map, or else that of the encoding. -/
def unicode? (font : Font α) (code : UInt32) : Option String :=
  match font.toUnicode? >>= fun cmap => cmap.lookup? code with
  | some text => some text
  | none => font.encoding? >>= fun encoding => encoding.decode? code

/-- The glyph name that the text of a code is read from. -/
def decodedName? (font : Font α) (code : UInt32) : Option String :=
  match font.toUnicode? >>= fun cmap => cmap.lookup? code with
  | some _ => none
  | none => font.encoding? >>= fun encoding => encoding.differences[code]?

theorem readText_eq_error_iff {font : Font α} {code : UInt32} {fault : GlyphName.CutFault} :
    font.readText code = .error fault ↔
      ∃ name, font.decodedName? code = some name ∧ GlyphName.readText name = .error fault := by
  unfold readText decodedName?
  cases font.toUnicode? >>= fun cmap => cmap.lookup? code with
  | some text => simp
  | none => cases font.encoding? <;> simp [Encoding.readText_eq_error_iff]

/-- What is read is the text of the code. -/
theorem unicode?_eq_of_readText {font : Font α} {code : UInt32} {text? : Option String}
    (read : font.readText code = .ok text?) : font.unicode? code = text? := by
  unfold readText at read
  unfold unicode?
  cases mapped : font.toUnicode? >>= fun cmap => cmap.lookup? code with
  | some text =>
    rw [mapped] at read
    exact Except.ok.inj read
  | none =>
    rw [mapped] at read
    cases own : font.encoding? with
    | none =>
      rw [own] at read
      exact Except.ok.inj read
    | some encoding =>
      rw [own] at read
      exact Encoding.decode?_eq_of_readText read

variable [Scalar α]

/-- A name that a loaded font decodes was written in its `/Differences`, as the last for its code.
-/
theorem lookup_writtenNames_of_decodedName? {store : Store} {font : Dictionary}
    {resourceName name : String} {loaded : Font α} {code : UInt32}
    (loads : load store font resourceName = .ok loaded)
    (decoded : loaded.decodedName? code = some name) :
    (writtenNames store font).reverse.lookup code.toNat = some name := by
  unfold decodedName? at decoded
  split at decoded
  · cases decoded
  · obtain ⟨encoding, own, named⟩ := Option.bind_eq_some_iff.mp decoded
    rwa [differences_of_load loads own] at named

/-- **Reading a code fails where a glyph name is cut inside of a character.** The text of a code is
read from a glyph name where the character map has none and the font has a name for the code, which
is then the last one that its encoding is written with. Reading fails if and only if the name spells
code units in groups of four bytes one of which ends inside of a character, the groups in front of
it being numbers; that takes a character of several bytes. In any other case the text of the code is
what is read, or none. -/
theorem load_readText {store : Store} {font : Dictionary} {resourceName : String}
    {loaded : Font α} (loads : load store font resourceName = .ok loaded) (code : UInt32) :
    (∀ fault, loaded.readText code = .error fault ↔
      ∃ name place, loaded.decodedName? code = some name ∧ GlyphName.CutsCharacter name place ∧
        fault = ⟨4 * (place + 1)⟩) ∧
      (∀ text?, loaded.readText code = .ok text? ↔
        (∀ name place, loaded.decodedName? code = some name →
          ¬GlyphName.CutsCharacter name place) ∧ loaded.unicode? code = text?) ∧
      (∀ name place, loaded.decodedName? code = some name → GlyphName.CutsCharacter name place →
        (writtenNames store font).reverse.lookup code.toNat = some name ∧
          ∃ c ∈ GlyphName.base name, c.utf8Size ≠ 1) := by
  have fails (fault : GlyphName.CutFault) : loaded.readText code = .error fault ↔
      ∃ name place, loaded.decodedName? code = some name ∧ GlyphName.CutsCharacter name place ∧
        fault = ⟨4 * (place + 1)⟩ := by
    rw [readText_eq_error_iff]
    constructor
    · rintro ⟨name, decoded, read⟩
      obtain ⟨place, at', cuts⟩ := GlyphName.readText_eq_error_iff.mp read
      exact ⟨name, place, decoded, cuts, at'⟩
    · rintro ⟨name, place, decoded, cuts, at'⟩
      exact ⟨name, decoded, GlyphName.readText_eq_error_iff.mpr ⟨place, at', cuts⟩⟩
  refine ⟨fails, fun text? => ⟨fun read => ⟨fun name place decoded cuts => ?_, ?_⟩, ?_⟩, ?_⟩
  · have failed := (fails ⟨4 * (place + 1)⟩).mpr ⟨name, place, decoded, cuts, rfl⟩
    rw [read] at failed
    cases failed
  · exact unicode?_eq_of_readText read
  · rintro ⟨uncut, rfl⟩
    cases read : loaded.readText code with
    | ok text? => rw [unicode?_eq_of_readText read]
    | error fault =>
      obtain ⟨name, place, decoded, cuts, -⟩ := (fails fault).mp read
      exact absurd cuts (uncut name place decoded)
  · exact fun name place decoded cuts =>
      ⟨lookup_writtenNames_of_decodedName? loads decoded, cuts.exists_wide⟩

/-- A font with a glyph name whose first four digits end inside of a character. -/
def cutNameFont : Dictionary :=
  [(Text.Utf8.encode "Encoding", .dictionary
    [(Text.Utf8.encode "Differences", .array [.integer 65,
      .name (Text.Utf8.encode "uni000é000"), .name (Text.Utf8.encode "uni00e9")])])]

/-- The first of two names has a character of two bytes where a group of four ends and is cut inside
of it; the other one is read. -/
theorem load_readText_cutName :
    ∃ loaded : Font ℝ, load (.empty []) cutNameFont "F" = .ok loaded ∧
      loaded.readText 65 = .error ⟨4⟩ ∧ loaded.readText 66 = .ok (some "é") := by
  obtain ⟨loaded, loads, unmapped, encoding, own⟩ :
      ∃ loaded : Font ℝ, load (.empty []) cutNameFont "F" = .ok loaded ∧
        loaded.toUnicode? = none ∧ ∃ encoding, loaded.encoding? = some encoding :=
    ⟨_, rfl, rfl, _, rfl⟩
  have named (code : UInt32) : encoding.differences[code]? =
      [(66, "uni00e9"), (65, "uni000é000")].lookup code.toNat := differences_of_load loads own code
  have decoded (code : UInt32) : loaded.decodedName? code = encoding.differences[code]? := by
    simp [decodedName?, unmapped, own]
  have cuts : GlyphName.CutsCharacter "uni000é000" 0 :=
    ⟨['0', '0', '0', 'é', '0', '0', '0'], rfl, by decide, by decide,
      GlyphName.cutsAt_zero_iff.mpr rfl⟩
  refine ⟨loaded, loads, ?_, ?_⟩
  · exact ((load_readText loads 65).1 _).mpr ⟨_, 0, (decoded 65).trans (named 65), cuts, rfl⟩
  · refine ((load_readText loads 66).2.1 _).mpr ⟨fun name place decoded' cuts' => ?_, ?_⟩
    · cases ((decoded 66).trans (named 66)).symm.trans decoded'
      obtain ⟨c, member, wide⟩ := cuts'.exists_wide
      have letters : GlyphName.base "uni00e9" = ['u', 'n', 'i', '0', '0', 'e', '9'] := rfl
      simp only [letters, List.mem_cons, List.not_mem_nil, or_false] at member
      obtain rfl | rfl | rfl | rfl | rfl | rfl | rfl := member
      all_goals exact wide rfl
    · have text : encoding.decode? 66 = some "é" := by
        unfold Encoding.decode?
        rw [named]
        rfl
      simp [unicode?, unmapped, own, text]

end Font

end PlacedText
