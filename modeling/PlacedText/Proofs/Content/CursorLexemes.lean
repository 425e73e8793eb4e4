import PlacedText.Proofs.Content.Cursor
import PlacedText.Proofs.Content.Images
import Mathlib.Data.List.TakeWhile

/-! # Lexemes by their positions

Names, numbers, strings and words are read from a position on, with every index looked up. None of
them comes to a stop but at a fault: what begins at a position is the lexeme that the rest of the
stream begins with, and the position behind it is the one at which what follows begins
(`lexemeFrom_ends`).
-/

namespace PlacedText.Content.Cursor

variable {input raw rest : Bytes} {pos : Nat} {b : UInt8} {test : UInt8 → Bool}

/-! ## Names -/

/-- The byte that is spelled at the front of some bytes, if they begin with an escape. -/
def escape? : Bytes → Option UInt8
  | b :: high :: low :: _ =>
    match if b = ascii '#' then hexDigit? high else none, hexDigit? low with
    | some high, some low => some (high <<< 4 ||| low)
    | _, _ => none
  | _ => none

/-- The byte that is spelled at a position in a name, if an escape begins there. -/
def escapeAt (raw : Bytes) (pos : Nat) : Except Stop (Option UInt8) := do
  let b ← byteAt raw pos
  if b = ascii '#' ∧ pos + 2 < raw.length then
    let high ← byteAt raw (pos + 1)
    let low ← byteAt raw (pos + 2)
    match hexDigit? high, hexDigit? low with
    | some high, some low => return some (high <<< 4 ||| low)
    | _, _ => return none
  else return none

/-- Resolves the escapes of a name from a position in it on. -/
def unescapeFrom (raw : Bytes) (pos : Nat) : Except Stop Bytes :=
  if pos < raw.length then do
    match ← escapeAt raw pos with
    | some spelled => return spelled :: (← unescapeFrom raw (pos + 3))
    | none => return (← byteAt raw pos) :: (← unescapeFrom raw (pos + 1))
  else return []
termination_by raw.length - pos

/-- The name at a position, behind its slash. -/
def nameAt (input : Bytes) (start : Nat) : Except Stop (Option Lexeme × Nat) := do
  let stop := runEnd input isRegular start
  let name ← unescapeFrom (← slice input start stop) 0
  return (some (.value (.name (Text.Utf8.decodeLossy name))), stop)

/-- A name is read byte by byte, an escape with the two digits behind it. -/
theorem unescapeName_eq (b : UInt8) (rest : Bytes) :
    unescapeName (b :: rest) =
      match escape? (b :: rest) with
      | some spelled => spelled :: unescapeName (rest.drop 2)
      | none => b :: unescapeName rest := by
  match rest with
  | [] => rfl
  | [_] => rfl
  | high :: low :: rest =>
    rw [unescapeName, escape?]
    cases if b = ascii '#' then hexDigit? high else none <;> cases hexDigit? low <;> rfl

/-- An escape at a position is that of the bytes from there on; the indices behind it are only
looked up where they are in range. -/
theorem escapeAt_eq (there : raw[pos]? = some b) :
    escapeAt raw pos = .ok (escape? (raw.drop pos)) := by
  have split := drop_of_getElem? there
  unfold escapeAt
  rw [byteAt_of_getElem? there]
  dsimp only [bind, Except.bind]
  match behind : raw.drop (pos + 1) with
  | [] =>
    have outside := List.drop_eq_nil_iff.mp behind
    rw [if_neg (by omega), split, behind]
    rfl
  | [_] =>
    have lengths := congrArg List.length behind
    rw [List.length_drop, List.length_singleton] at lengths
    rw [if_neg (by omega), split, behind]
    rfl
  | high :: low :: rest =>
    have lengths := congrArg List.length behind
    rw [List.length_drop, List.length_cons, List.length_cons] at lengths
    rw [behind] at split
    have first : byteAt raw (pos + 1) = .ok high := byteAt_of_drop split rfl
    have second : byteAt raw (pos + 2) = .ok low := byteAt_of_drop split rfl
    rw [first, second, split, escape?]
    by_cases marked : b = ascii '#'
    · rw [if_pos ⟨marked, by omega⟩, if_pos marked]
      dsimp only
      cases hexDigit? high <;> cases hexDigit? low <;> rfl
    · rw [if_neg fun both => marked both.1, if_neg marked]
      rfl

/-- A name is unescaped from a position on as the bytes from there on are. By recursion on the
position. -/
theorem unescapeFrom_eq (raw : Bytes) (pos : Nat) :
    unescapeFrom raw pos = .ok (unescapeName (raw.drop pos)) := by
  -- The induction is on what is left of the name, since an escape takes three bytes at once.
  induction left : raw.length - pos using Nat.strongRecOn generalizing pos with
  | ind left ih =>
    subst left
    by_cases inside : pos < raw.length
    · have there := List.getElem?_eq_getElem inside
      rw [unescapeFrom, if_pos inside, escapeAt_eq there, byteAt_of_getElem? there]
      dsimp only [bind, Except.bind]
      rw [drop_of_getElem? there, unescapeName_eq]
      cases escape? (raw[pos] :: raw.drop (pos + 1)) with
      | some spelled =>
        dsimp only
        rw [ih _ (by omega) (pos + 3) rfl, List.drop_drop]
        rfl
      | none =>
        dsimp only
        rw [ih _ (by omega) (pos + 1) rfl]
        rfl
    · rw [unescapeFrom, if_neg inside, List.drop_eq_nil_of_le (Nat.le_of_not_lt inside)]
      rfl

/-- A name goes up to the first byte that is not regular. -/
theorem nameAt_eq (within : pos ≤ input.length) :
    nameAt input pos =
      .ok (some (.value (.name (Text.Utf8.decodeLossy
        (unescapeName ((input.drop pos).takeWhile isRegular))))), runEnd input isRegular pos) := by
  unfold nameAt
  dsimp only
  rw [slice_runEnd within]
  dsimp only [bind, Except.bind]
  rw [unescapeFrom_eq]
  rfl

/-! ## Numbers -/

/-- Behind all bytes that pass a test comes none that passes it. -/
theorem fails_of_mem_head? {bytes : Bytes} (head : b ∈ (bytes.dropWhile test).head?) :
    test b = false := by
  have fails := List.head?_dropWhile_not test bytes
  rw [head] at fails
  exact fails

/-- The end of a number in a text that begins with no sign: the first sign or second point. -/
def numberEnd (body : Bytes) (pos : Nat) : Except Stop Nat :=
  if inside : pos < body.length then do
    let b ← byteAt body pos
    let before ← slice body 0 pos
    if isSign b ∨ b = ascii '.' ∧ ascii '.' ∈ before then return pos
    else numberEnd body (pos + 1)
  else return body.length
termination_by body.length - pos

/-- The number at a position. -/
def numberAt (input : Bytes) (start : Nat) : Except Stop (Option Lexeme × Nat) := do
  let stop := runEnd input isNumeric start
  let text ← slice input start stop
  let body := text.dropWhile isSign
  let number ← slice body 0 (← numberEnd body 0)
  match numeral? (text.takeWhile isSign ++ number) with
  | some numeral => return (some (.value (.number numeral)), stop)
  | none => throw (.fault (.invalidNumber (Text.Utf8.decodeLossy text) start))

/-- The end of a number cuts a text in two: no sign is in front of it, and behind it is nothing, a
sign or another point. -/
theorem numberEnd_cuts (front back : Bytes) (unsigned : ∀ b ∈ front, isSign b = false) :
    ∃ number rest, front ++ back = number ++ rest ∧
      numberEnd (front ++ back) front.length = .ok number.length ∧
      (∀ b ∈ number, isSign b = false) ∧
      ∀ b ∈ rest.head?, isSign b ∨ b = ascii '.' ∧ ascii '.' ∈ number := by
  -- The reader stands between `front`, which has no sign, and `back`.
  induction back generalizing front with
  | nil =>
    refine ⟨front, [], rfl, ?_, unsigned, nofun⟩
    rw [List.append_nil, numberEnd, dif_neg (Nat.lt_irrefl _)]
    rfl
  | cons b back ih =>
    have there : byteAt (front ++ b :: back) front.length = .ok b :=
      byteAt_of_getElem? (by simp)
    have before := slice_zero front (b :: back)
    have inside : front.length < (front ++ b :: back).length := by
      rw [List.length_append, List.length_cons]
      omega
    by_cases ends : isSign b ∨ b = ascii '.' ∧ ascii '.' ∈ front
    · refine ⟨front, b :: back, rfl, ?_, unsigned, ?_⟩
      · rw [numberEnd, dif_pos inside, there]
        dsimp only [bind, Except.bind]
        rw [before]
        dsimp only
        rw [if_pos ends]
        rfl
      · intro first member
        cases member
        exact ends
    · have unsigned' : ∀ c ∈ front ++ [b], isSign c = false := by
        intro c member
        rcases List.mem_append.mp member with old | new
        · exact unsigned c old
        · cases List.mem_singleton.mp new
          simpa using fun signed => ends (.inl signed)
      obtain ⟨number, rest, split, found, cut⟩ := ih (front ++ [b]) unsigned'
      rw [List.append_assoc, List.singleton_append] at split found
      rw [List.length_append, List.length_singleton] at found
      refine ⟨number, rest, split, ?_, cut⟩
      rw [numberEnd, dif_pos inside, there]
      dsimp only [bind, Except.bind]
      rw [before]
      dsimp only
      rw [if_neg ends, found]

/-- Behind a second point nothing is read of a number. -/
theorem takeWhile_fraction_cut {number : Bytes} (point : ascii '.' ∈ number) (more : Bytes) :
    (((number ++ ascii '.' :: more).dropWhile isDigit).drop 1).takeWhile isDigit =
      ((number.dropWhile isDigit).drop 1).takeWhile isDigit := by
  rw [dropWhile_append_cons (by rfl)]
  cases behind : number.dropWhile isDigit with
  | nil => cases List.dropWhile_eq_nil_iff.mp behind _ point
  | cons first fraction => exact takeWhile_append_cons (b := ascii '.') rfl fraction more

/-- What ends a number makes no difference to it: behind its signs it is cut at another sign or at a
second point. -/
theorem numeral?_cut {signs number : Bytes} (signed : ∀ b ∈ signs, isSign b)
    (unsigned : ∀ b ∈ number, isSign b = false)
    (begins : ∀ b ∈ (number ++ rest).head?, isSign b = false)
    (cut : ∀ b ∈ rest.head?, isSign b ∨ b = ascii '.' ∧ ascii '.' ∈ number) :
    numeral? (signs ++ number) = numeral? (signs ++ (number ++ rest)) := by
  cases rest with
  | nil => rw [List.append_nil]
  | cons b later =>
    cases number with
    | nil =>
      rcases cut b rfl with sign | ⟨-, point⟩
      · rw [begins b rfl] at sign
        cases sign
      · cases point
    | cons first number =>
      have body : (signs ++ (first :: number ++ b :: later)).dropWhile isSign =
          first :: number ++ b :: later := dropWhile_append_of_all signed begins
      have body' : (signs ++ (first :: number)).dropWhile isSign = first :: number :=
        dropWhile_append_of_all signed fun c head => unsigned c (List.mem_of_mem_head? head)
      have same : (signs ++ (first :: number ++ b :: later)).head? =
          (signs ++ (first :: number)).head? := by
        cases signs <;> rfl
      have all : ∀ c ∈ first :: number, !isSign c := fun c member => by rw [unsigned c member]; rfl
      -- What is read of the body are the digits in front of a point and those behind it.
      unfold numeral?
      rw [body, body', same, List.takeWhile_append_of_pos all, List.takeWhile_eq_self_iff.mpr all]
      rcases cut b rfl with sign | ⟨rfl, point⟩
      · rw [List.takeWhile_cons_of_neg (by rw [sign]; exact Bool.false_ne_true), List.append_nil]
      · rw [List.takeWhile_cons_of_pos rfl]
        dsimp only
        rw [takeWhile_append_cons rfl, takeWhile_fraction_cut point]

/-- A number goes up to the first byte that is not numeric, and is a fault if these bytes are none.
-/
theorem numberAt_eq (there : input[pos]? = some b) (numeric : isNumeric b) :
    numberAt input pos =
      let text := b :: (input.drop (pos + 1)).takeWhile isNumeric
      match numeral? text with
      | some numeral => .ok (some (.value (.number numeral)),
          input.length - ((input.drop (pos + 1)).dropWhile isNumeric).length)
      | none => .error (.fault (.invalidNumber (Text.Utf8.decodeLossy text) pos)) := by
  have within := Nat.le_of_lt (lt_length_of_getElem? there)
  unfold numberAt
  dsimp only
  rw [slice_runEnd within, runEnd_eq_sub _ within, drop_of_getElem? there,
    List.takeWhile_cons_of_pos numeric, List.dropWhile_cons_of_pos numeric]
  generalize b :: (input.drop (pos + 1)).takeWhile isNumeric = text
  obtain ⟨number, rest, split, found, unsigned, cut⟩ :=
    numberEnd_cuts [] (text.dropWhile isSign) nofun
  rw [List.nil_append] at split found
  rw [List.length_nil] at found
  have sliced : slice (text.dropWhile isSign) 0 number.length = .ok number := by
    rw [split]
    exact slice_zero number rest
  have signed : ∀ b ∈ text.takeWhile isSign, isSign b := fun b member =>
    List.mem_takeWhile_imp member
  have begins : ∀ b ∈ (number ++ rest).head?, isSign b = false := by
    rw [← split]
    exact fun b => fails_of_mem_head?
  have whole := numeral?_cut signed unsigned begins cut
  rw [← split, List.takeWhile_append_dropWhile] at whole
  dsimp only [bind, Except.bind]
  rw [found]
  dsimp only
  rw [sliced]
  dsimp only
  rw [whole]
  cases numeral? text <;> rfl

/-! ## Lexemes -/

/-- A string whose contents have been found with what follows them, one byte after the other and
none by its index, or the fault of one that does not end. -/
def stringAt (input : Bytes) (fault : SyntaxFault) (found? : Option (Bytes × Bytes)) :
    Except Stop (Option Lexeme × Nat) :=
  match found? with
  | some (contents, after) => .ok (some (.value (.string contents)), input.length - after.length)
  | none => .error (.fault fault)

/-- The word at a position. -/
def wordAt (input : Bytes) (start : Nat) : Except Stop (Option Lexeme × Nat) := do
  let stop := runEnd input isRegular start
  return (some (word (Text.Utf8.decodeLossy (← slice input start stop))), stop)

/-- The lexeme at a position, which begins with the byte `b`, and the position behind it; no lexeme
if that byte is a delimiter which begins none. -/
def lexemeFrom (input : Bytes) (start : Nat) (b : UInt8) : Except Stop (Option Lexeme × Nat) :=
  if b = ascii '(' then
    stringAt input (.unterminatedString start) (stringRest? .plain 0 (input.drop (start + 1)))
  else if b = ascii '<' ∧ input[start + 1]? = some (ascii '<') then
    .ok (some .dictionaryStart, start + 2)
  else if b = ascii '<' then
    stringAt input (.unterminatedHexString start) (hexStringRest? none (input.drop (start + 1)))
  else if b = ascii '>' ∧ input[start + 1]? = some (ascii '>') then
    .ok (some .dictionaryEnd, start + 2)
  else if b = ascii '[' then .ok (some .arrayStart, start + 1)
  else if b = ascii ']' then .ok (some .arrayEnd, start + 1)
  else if b = ascii '/' then nameAt input (start + 1)
  else if isNumeric b then numberAt input start
  else if isRegular b then wordAt input start
  else .ok (none, start + 1)

/-- A lexeme and the position at which the rest begins. -/
def placed (input : Bytes) : Except SyntaxFault (Lexeme × Bytes) → Except Stop (Option Lexeme × Nat)
  | .ok (lexeme, after) => .ok (some lexeme, input.length - after.length)
  | .error fault => .error (.fault fault)

theorem ok_eq_placed (lexeme : Lexeme) (within : pos ≤ input.length) :
    .ok (some lexeme, pos) = placed input (.ok (lexeme, input.drop pos)) := by
  unfold placed
  dsimp only
  rw [List.length_drop, Nat.sub_sub_self within]

/-- Whether a byte is a delimiter that begins nothing. -/
def Stray (b : UInt8) (rest : Bytes) : Prop :=
  b = ascii ')' ∨ b = ascii '\x7b' ∨ b = ascii '\x7d' ∨
    b = ascii '>' ∧ rest.head? ≠ some (ascii '>')

/-- A delimiter that begins nothing is passed over. -/
theorem skip_stray (stray : Stray b rest) : skip false (b :: rest) = skip false rest := by
  rcases stray with rfl | rfl | rfl | single
  · rfl
  · rfl
  · rfl
  · obtain ⟨rfl, -⟩ := id single
    exact if_pos (Or.inr (Or.inr (Or.inr single)))

theorem skip_visible (visible : isBlank b = false) (noComment : b ≠ ascii '%')
    (noStray : ¬Stray b rest) : skip false (b :: rest) = b :: rest := by
  simp only [skip, Bool.false_eq_true, if_false, visible, noComment]
  exact if_neg noStray

/-- By positions such a delimiter is one step ahead, with no lexeme. -/
theorem lexemeFrom_stray (stray : Stray b (input.drop (pos + 1))) :
    lexemeFrom input pos b = .ok (none, pos + 1) := by
  rcases stray with rfl | rfl | rfl | ⟨rfl, single⟩
  · rfl
  · rfl
  · rfl
  · rw [List.head?_drop] at single
    unfold lexemeFrom
    rw [if_neg (by decide), if_neg (by simp [ascii]), if_neg (by decide),
      if_neg fun pair => single pair.2]
    rfl

theorem stringAt_eq (input : Bytes) (fault : SyntaxFault) (found? : Option (Bytes × Bytes)) :
    stringAt input fault found? = placed input
      (match found? with
      | some (contents, after) => .ok (.value (.string contents), after)
      | none => .error fault) := by
  cases found? <;> rfl

/-- A word goes up to the first byte that is not regular. -/
theorem wordAt_eq (there : input[pos]? = some b) (regular : isRegular b) :
    wordAt input pos = .ok
      (some (word (Text.Utf8.decodeLossy (b :: (input.drop (pos + 1)).takeWhile isRegular))),
        input.length - ((input.drop (pos + 1)).dropWhile isRegular).length) := by
  have within := Nat.le_of_lt (lt_length_of_getElem? there)
  unfold wordAt
  dsimp only
  rw [slice_runEnd within, runEnd_eq_sub _ within, drop_of_getElem? there,
    List.takeWhile_cons_of_pos regular, List.dropWhile_cons_of_pos regular]
  rfl

/-- A byte that is neither blank nor regular nor stray is one that begins a lexeme of its own. -/
theorem isRegular_of_visible (visible : isBlank b = false) (noComment : b ≠ ascii '%')
    (noStray : ¬Stray b rest) (plain : b ≠ ascii '(' ∧ b ≠ ascii '<' ∧ b ≠ ascii '>' ∧
      b ≠ ascii '[' ∧ b ≠ ascii ']' ∧ b ≠ ascii '/') : isRegular b := by
  unfold Stray at noStray
  simp only [not_or] at noStray
  simp [isRegular, isDelimiter, visible, noComment, noStray, plain]

/-- What begins at a position is the lexeme that is read there from the rest of the stream. Both
readers choose by the same chain of cases, in which the one by positions looks the next byte up
where the other one looks at the head of the rest. -/
theorem lexemeFrom_visible (there : input[pos]? = some b) (visible : isBlank b = false)
    (noComment : b ≠ ascii '%') (noStray : ¬Stray b (input.drop (pos + 1))) :
    lexemeFrom input pos b = placed input (lexemeAt input.length b (input.drop (pos + 1))) := by
  have inside := lt_length_of_getElem? there
  have start : positionBefore input.length (input.drop (pos + 1)) = pos := by
    unfold positionBefore
    rw [List.length_drop]
    omega
  -- Both chains of cases are the same up to the last one, where only a regular byte is left.
  unfold lexemeFrom lexemeAt
  rw [List.head?_drop, List.drop_drop, start]
  by_cases literal : b = ascii '('
  · rw [if_pos literal, if_pos literal]
    exact stringAt_eq input _ _
  rw [if_neg literal, if_neg literal]
  by_cases opens : b = ascii '<' ∧ input[pos + 1]? = some (ascii '<')
  · rw [if_pos opens, if_pos opens]
    exact ok_eq_placed _ (lt_length_of_getElem? opens.2)
  rw [if_neg opens, if_neg opens]
  by_cases hex : b = ascii '<'
  · rw [if_pos hex, if_pos hex]
    exact stringAt_eq input _ _
  rw [if_neg hex, if_neg hex]
  by_cases closes : b = ascii '>'
  · have pair : input[pos + 1]? = some (ascii '>') :=
      Decidable.of_not_not fun single =>
        noStray (.inr (.inr (.inr ⟨closes, List.head?_drop ▸ single⟩)))
    rw [if_pos ⟨closes, pair⟩, if_pos closes]
    exact ok_eq_placed _ (lt_length_of_getElem? pair)
  rw [if_neg fun pair => closes pair.1, if_neg closes]
  by_cases begins : b = ascii '['
  · rw [if_pos begins, if_pos begins]
    exact ok_eq_placed _ inside
  rw [if_neg begins, if_neg begins]
  by_cases ends : b = ascii ']'
  · rw [if_pos ends, if_pos ends]
    exact ok_eq_placed _ inside
  rw [if_neg ends, if_neg ends]
  by_cases slash : b = ascii '/'
  · rw [if_pos slash, if_pos slash, nameAt_eq inside, runEnd_eq_sub _ inside]
    rfl
  rw [if_neg slash, if_neg slash]
  by_cases numeric : isNumeric b
  · rw [if_pos numeric, if_pos numeric, numberAt_eq there numeric]
    dsimp only
    cases numeral? (b :: (input.drop (pos + 1)).takeWhile isNumeric) <;> rfl
  rw [if_neg numeric, if_neg numeric]
  have regular : isRegular b :=
    isRegular_of_visible visible noComment noStray ⟨literal, hex, closes, begins, ends, slash⟩
  rw [if_pos regular, wordAt_eq there regular]
  rfl

/-! ## The position behind a lexeme -/

/-- What is behind a string in hexadecimal is the end of the bytes. -/
theorem hexStringRest?_suffix {high? : Option UInt8} {bytes contents after : Bytes}
    (found : hexStringRest? high? bytes = some (contents, after)) : after <:+ bytes := by
  induction bytes generalizing high? contents with
  | nil => cases found
  | cons b bytes ih =>
    simp only [hexStringRest?] at found
    split at found
    · cases found
      exact List.suffix_cons _ _
    · split at found
      · exact (ih found).trans (List.suffix_cons b bytes)
      · exact (ih found).trans (List.suffix_cons b bytes)
      · obtain ⟨⟨inner, later⟩, step, same⟩ := Option.map_eq_some_iff.mp found
        cases same
        exact (ih step).trans (List.suffix_cons b bytes)

/-- What is behind a string in parentheses is the end of the bytes. By recursion on the states of
the reader. -/
theorem stringRest?_suffix {state : StringState} {depth : Nat} {bytes contents after : Bytes}
    (found : stringRest? state depth bytes = some (contents, after)) : after <:+ bytes := by
  induction bytes generalizing state depth contents with
  | nil => cases found
  | cons b bytes ih =>
    have kept {before : Bytes} {next : StringState} {depth : Nat}
        (found : (stringRest? next depth bytes).map (fun pair => (before ++ pair.1, pair.2)) =
          some (contents, after)) : after <:+ b :: bytes := by
      obtain ⟨⟨inner, later⟩, step, same⟩ := Option.map_eq_some_iff.mp found
      cases same
      exact (ih step).trans (List.suffix_cons b bytes)
    have ended {before : Bytes} (found : some (before, bytes) = some (contents, after)) :
        after <:+ b :: bytes := by
      cases found
      exact List.suffix_cons _ _
    simp only [stringRest?] at found
    repeat' split at found
    all_goals first
      | exact kept found
      | exact ended found
      | exact (ih found).trans (List.suffix_cons b bytes)

/-- What is behind any lexeme is the end of the bytes. -/
theorem lexemeAt_suffix {size : Nat} {lexeme : Lexeme} {after : Bytes}
    (found : lexemeAt size b rest = .ok (lexeme, after)) : after <:+ rest := by
  simp only [lexemeAt] at found
  repeat' split at found
  all_goals simp only [Except.ok.injEq, Prod.mk.injEq, reduceCtorEq] at found
  all_goals obtain ⟨-, rfl⟩ := found
  all_goals first
    | exact stringRest?_suffix (by assumption)
    | exact hexStringRest?_suffix (by assumption)
    | exact List.dropWhile_suffix _
    | exact List.drop_suffix _ _
    | exact List.suffix_rfl

/-- At the byte where blanks and comments end either a delimiter stands that is skipped as well, or
the next lexeme, which moves the position on. -/
theorem lexemeFrom_ends (there : input[pos]? = some b) (visible : isBlank b = false)
    (noComment : b ≠ ascii '%') :
    (lexemeFrom input pos b = .ok (none, pos + 1) ∧
      skip false (input.drop pos) = skip false (input.drop (pos + 1))) ∨
    (∃ fault, lexemeFrom input pos b = .error (.fault fault) ∧
      lexeme? input.length (input.drop pos) = .error fault) ∨
    ∃ lexeme next, lexemeFrom input pos b = .ok (some lexeme, next) ∧
      (pos < next ∧ next ≤ input.length) ∧
      lexeme? input.length (input.drop pos) = .ok (some (lexeme, input.drop next)) := by
  have begins := drop_of_getElem? there
  by_cases stray : Stray b (input.drop (pos + 1))
  · rw [begins]
    exact .inl ⟨lexemeFrom_stray stray, skip_stray stray⟩
  · have read : lexeme? input.length (input.drop pos) =
        (lexemeAt input.length b (input.drop (pos + 1))).map some := by
      unfold lexeme?
      rw [begins, skip_visible visible noComment stray]
    rw [lexemeFrom_visible there visible noComment stray, read]
    cases found : lexemeAt input.length b (input.drop (pos + 1)) with
    | error fault => exact .inr (.inl ⟨fault, rfl, rfl⟩)
    | ok pair =>
      obtain ⟨lexeme, after⟩ := pair
      have inside := lt_length_of_getElem? there
      have shorter := length_after_lexemeAt found
      rw [List.length_drop] at shorter
      have within := (lexemeAt_suffix found).trans (List.drop_suffix _ _)
      refine .inr (.inr ⟨lexeme, input.length - after.length, rfl, ⟨by omega, by omega⟩, ?_⟩)
      rw [← List.suffix_iff_eq_drop.mp within]
      rfl

end PlacedText.Content.Cursor
