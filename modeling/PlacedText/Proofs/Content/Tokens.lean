import PlacedText.Proofs.Content.Counts
import PlacedText.Proofs.Content.CursorImages
import PlacedText.Proofs.Content.CursorLexemes
import PlacedText.Proofs.Content.RoundTrip

/-! # Tokens by their positions

An array or a dictionary is read in one piece with all that is in it, from the position behind its
bracket on. Each token ends behind the position it was looked for at (`reads_advance`), so there is
a number of steps that is enough for a stream of a size, however deep the brackets are, and the
operators are those that are read without positions (`tokenizeFrom_eq`).
-/

namespace PlacedText.Content

variable {input rest : Bytes} {pos mid steps : Nat}

/-- What reading goes on with behind a lexeme. -/
def readBehind (size : Nat) (progress : Progress) (lexeme : Lexeme) (rest : Bytes) :
    Except SyntaxFault (List (Operator Numeral)) :=
  if progress.beginsImage lexeme then
    readFrom size { progress with operands := [] } (skipImage rest)
  else
    match progress.take lexeme size rest with
    | .error fault => .error fault
    | .ok next => readFrom size next rest

theorem readFrom_lexeme {size : Nat} {bytes : Bytes} {lexeme : Lexeme}
    (lexed : lexeme? size bytes = .ok (some (lexeme, rest))) (progress : Progress) :
    readFrom size progress bytes = readBehind size progress lexeme rest := by
  rw [readFrom_eq, lexed]
  rfl

theorem readFrom_skipped {size : Nat} {bytes : Bytes} (same : skip false bytes = skip false rest)
    (progress : Progress) : readFrom size progress bytes = readFrom size progress rest := by
  have lexed : lexeme? size bytes = lexeme? size rest := by
    unfold lexeme?
    rw [same]
  rw [readFrom_eq, readFrom_eq size progress rest, lexed]

namespace Cursor

/-! ## Tokens -/

/-- What is read in one piece: an operand with all that is in it, a keyword, or the end of an array
or a dictionary that has not begun in it. -/
inductive Token where
  | value (operand : Operand Numeral)
  | keyword (word : String)
  | arrayEnd
  | dictionaryEnd

mutual

/-- The next token from a position on and the position behind it; no token at the end. -/
def token (input : Bytes) : (steps pos : Nat) → Except Stop (Option Token × Nat)
  | 0, _ => .error .outOfSteps
  | steps + 1, pos => do
    let start := skipBlanks input pos
    match input[start]? with
    | none => return (none, start)
    | some b =>
      match ← lexemeFrom input start b with
      | (none, next) => token input steps next
      | (some (.value operand), next) => return (some (.value operand), next)
      | (some (.keyword word), next) => return (some (.keyword word), next)
      | (some .arrayEnd, next) => return (some .arrayEnd, next)
      | (some .dictionaryEnd, next) => return (some .dictionaryEnd, next)
      | (some .arrayStart, next) =>
        let (operand, last) ← array input steps next []
        return (some (.value operand), last)
      | (some .dictionaryStart, next) =>
        let (operand, last) ← dictionary input steps next [] none
        return (some (.value operand), last)

/-- The rest of an array, given its items so far, last first. -/
def array (input : Bytes) : (steps pos : Nat) → (items : List (Operand Numeral)) →
    Except Stop (Operand Numeral × Nat)
  | 0, _, _ => .error .outOfSteps
  | steps + 1, pos, items => do
    match ← token input steps pos with
    | (none, _) => throw (.fault .unterminatedArray)
    | (some .arrayEnd, next) => return (.array items.reverse, next)
    | (some (.value operand), next) => array input steps next (operand :: items)
    | (some (.keyword _), next) => array input steps next items
    | (some .dictionaryEnd, next) => array input steps next items

/-- The rest of a dictionary, given its entries so far, last first, and the key that waits for its
value. -/
def dictionary (input : Bytes) : (steps pos : Nat) →
    (entries : List (String × Operand Numeral)) → (key? : Option String) →
    Except Stop (Operand Numeral × Nat)
  | 0, _, _, _ => .error .outOfSteps
  | steps + 1, pos, entries, key? => do
    match ← token input steps pos with
    | (none, _) => throw (.fault .unterminatedDictionary)
    | (some .dictionaryEnd, next) => return (.dictionary entries.reverse, next)
    | (some (.value operand), next) =>
      match key?, operand with
      | some key, _ => dictionary input steps next ((key, operand) :: entries) none
      | none, .name key => dictionary input steps next entries (some key)
      | none, _ => throw (.fault .keyNotName)
    | (some (.keyword _), next) => dictionary input steps next entries key?
    | (some .arrayEnd, next) => dictionary input steps next entries key?

end

/-- What a token does to what has been read. -/
def Token.lexeme : Token → Lexeme
  | .value operand => .value operand
  | .keyword word => .keyword word
  | .arrayEnd => .arrayEnd
  | .dictionaryEnd => .dictionaryEnd

/-- Whether an answer is the one that reading the stream from a position on begins with: the end of
the stream, a token that ends behind the position, or a fault. -/
inductive TokenRead (input : Bytes) (pos : Nat) : Except Stop (Option Token × Nat) → Prop where
  | ended (finish : ∀ progress : Progress,
      readFrom input.length progress (input.drop pos) = progress.finish) :
      TokenRead input pos (.ok (none, input.length))
  | token {found : Token} {next : Nat} (ahead : pos < next) (within : next ≤ input.length)
      (onward : ∀ progress : Progress, readFrom input.length progress (input.drop pos) =
        readBehind input.length progress found.lexeme (input.drop next))
      (word : ∀ name, found = .keyword name → EndsWord (input.drop next)) :
      TokenRead input pos (.ok (some found, next))
  | fault {fault : SyntaxFault} (fails : ∀ progress : Progress,
      readFrom input.length progress (input.drop pos) = .error fault) :
      TokenRead input pos (.error (.fault fault))

/-- Whether an answer is the operand that the innermost frame becomes, where reading the stream from
a position on begins inside of it. -/
inductive FrameRead (input : Bytes) (frame : Frame) (pos : Nat) :
    Except Stop (Operand Numeral × Nat) → Prop where
  | closed {operand : Operand Numeral} {next : Nat} (ahead : pos < next)
      (within : next ≤ input.length)
      (onward : ∀ progress : Progress,
        readFrom input.length (progress.within frame) (input.drop pos) =
          readBehind input.length progress (.value operand) (input.drop next)) :
      FrameRead input frame pos (.ok (operand, next))
  | fault {fault : SyntaxFault} (fails : ∀ progress : Progress,
      readFrom input.length (progress.within frame) (input.drop pos) = .error fault) :
      FrameRead input frame pos (.error (.fault fault))

/-- A token that is read behind skipped bytes is read in front of them. -/
theorem TokenRead.of_skipped {answer : Except Stop (Option Token × Nat)} (ahead : pos ≤ mid)
    (same : skip false (input.drop pos) = skip false (input.drop mid))
    (read : TokenRead input mid answer) : TokenRead input pos answer := by
  cases read with
  | ended finish =>
    exact .ended fun progress => (readFrom_skipped same progress).trans (finish progress)
  | token later within onward word =>
    exact .token (Nat.lt_of_le_of_lt ahead later) within
      (fun progress => (readFrom_skipped same progress).trans (onward progress)) word
  | fault fails =>
    exact .fault fun progress => (readFrom_skipped same progress).trans (fails progress)

/-- A frame is read from where it was begun if it is read with its first part filled in. -/
theorem FrameRead.of_frame {answer : Except Stop (Operand Numeral × Nat)} {frame frame' : Frame}
    (ahead : pos < mid)
    (same : ∀ progress : Progress,
      readFrom input.length (progress.within frame) (input.drop pos) =
        readFrom input.length (progress.within frame') (input.drop mid))
    (read : FrameRead input frame' mid answer) : FrameRead input frame pos answer := by
  cases read with
  | closed later within onward =>
    exact .closed (Nat.lt_trans ahead later) within fun progress =>
      (same progress).trans (onward progress)
  | fault fails => exact .fault fun progress => (same progress).trans (fails progress)

/-- A frame that a token opens is read whole. -/
theorem FrameRead.token {answer : Except Stop (Operand Numeral × Nat)} {frame : Frame}
    (ahead : pos < mid)
    (opens : ∀ progress : Progress, readFrom input.length progress (input.drop pos) =
      readFrom input.length (progress.within frame) (input.drop mid))
    (read : FrameRead input frame mid answer) :
    TokenRead input pos (answer >>= fun (operand, last) => .ok (some (.value operand), last)) := by
  cases read with
  | closed later within onward =>
    exact .token (Nat.lt_trans ahead later) within
      (fun progress => (opens progress).trans (onward progress)) nofun
  | fault fails => exact .fault fun progress => (opens progress).trans (fails progress)

/-! ## One step -/

/-- Whether so many steps are enough for the next token from wherever a position is. -/
def TokensRead (input : Bytes) (steps : Nat) : Prop :=
  ∀ pos ≤ input.length, 2 * (input.length - pos) < steps →
    TokenRead input pos (token input steps pos)

def ArraysRead (input : Bytes) (steps : Nat) : Prop :=
  ∀ pos ≤ input.length, 2 * (input.length - pos) + 1 < steps → ∀ items,
    FrameRead input (.array items) pos (array input steps pos items)

def DictionariesRead (input : Bytes) (steps : Nat) : Prop :=
  ∀ pos ≤ input.length, 2 * (input.length - pos) + 1 < steps → ∀ entries key?,
    FrameRead input (.dictionary entries key?) pos (dictionary input steps pos entries key?)

/-- Behind a keyword no other regular byte follows. -/
theorem endsWord_of_keyword {size : Nat} {bytes : Bytes} {name : String}
    (lexed : lexeme? size bytes = .ok (some (.keyword name, rest))) : EndsWord rest := by
  obtain ⟨b, later, found⟩ := exists_lexemeAt lexed
  simp only [lexemeAt] at found
  repeat' split at found
  all_goals simp only [Except.ok.injEq, Prod.mk.injEq, reduceCtorEq, false_and] at found
  obtain ⟨-, rfl⟩ := found
  exact fun c => fails_of_mem_head?

/-- One more step reads tokens: a lexeme, or what a bracket opens, with the steps that are left. -/
theorem tokensRead_succ (tokens : TokensRead input steps) (arrays : ArraysRead input steps)
    (dictionaries : DictionariesRead input steps) : TokensRead input (steps + 1) := by
  intro pos within enough
  have skipped := skip_blanks input pos
  have ahead := le_skipBlanks input pos
  have inside := skipBlanks_le within
  refine .of_skipped ahead skipped.symm ?_
  unfold token
  dsimp only
  cases there : input[skipBlanks input pos]? with
  | none =>
    have outside := List.getElem?_eq_none_iff.mp there
    rw [Nat.le_antisymm inside outside]
    refine .ended fun progress => ?_
    rw [List.drop_length, readFrom_eq]
    rfl
  | some b =>
    obtain ⟨visible, noComment⟩ := skipBlanks_ends there
    have start := lt_length_of_getElem? there
    dsimp only
    rcases lexemeFrom_ends there visible noComment with
      ⟨found, same⟩ | ⟨fault, found, fails⟩ | ⟨lexeme, next, found, ⟨later, room⟩, lexed⟩
    · rw [found]
      exact (tokens _ start (by omega)).of_skipped (Nat.le_succ _) same
    · rw [found]
      refine .fault fun progress => ?_
      rw [readFrom_eq, fails]
    · rw [found]
      have onward := readFrom_lexeme lexed
      cases lexeme with
      | value operand => exact .token later room onward nofun
      | keyword word => exact .token later room onward fun _ _ => endsWord_of_keyword lexed
      | arrayEnd => exact .token later room onward nofun
      | dictionaryEnd => exact .token later room onward nofun
      | arrayStart => exact (arrays next room (by omega) []).token later onward
      | dictionaryStart => exact (dictionaries next room (by omega) [] none).token later onward

/-- One more step reads arrays: a token is an item, or ends the array, or is passed over. -/
theorem arraysRead_succ (tokens : TokensRead input steps) (arrays : ArraysRead input steps) :
    ArraysRead input (steps + 1) := by
  intro pos within enough items
  have next := tokens pos within (by omega)
  unfold array
  generalize token input steps pos = answer at next
  cases next with
  | ended finish => exact .fault fun progress => finish (progress.within (.array items))
  | fault fails => exact .fault fun progress => fails (progress.within (.array items))
  | @token found next ahead room onward word =>
    cases found with
    | value operand =>
      exact (arrays next room (by omega) (operand :: items)).of_frame ahead fun progress =>
        onward (progress.within (.array items))
    | keyword word =>
      exact (arrays next room (by omega) items).of_frame ahead fun progress =>
        onward (progress.within (.array items))
    | arrayEnd => exact .closed ahead room fun progress => onward (progress.within (.array items))
    | dictionaryEnd =>
      exact (arrays next room (by omega) items).of_frame ahead fun progress =>
        onward (progress.within (.array items))

/-- One more step reads dictionaries: a token is a key, its value or the end. -/
theorem dictionariesRead_succ (tokens : TokensRead input steps)
    (dictionaries : DictionariesRead input steps) : DictionariesRead input (steps + 1) := by
  intro pos within enough entries key?
  have next := tokens pos within (by omega)
  unfold dictionary
  generalize token input steps pos = answer at next
  cases next with
  | ended finish => exact .fault fun progress => finish (progress.within (.dictionary entries key?))
  | fault fails => exact .fault fun progress => fails (progress.within (.dictionary entries key?))
  | @token found next ahead room onward word =>
    cases found with
    | value operand =>
      cases key? with
      | some key =>
        exact (dictionaries next room (by omega) ((key, operand) :: entries) none).of_frame ahead
          fun progress => onward (progress.within (.dictionary entries (some key)))
      | none =>
        cases operand with
        | name key =>
          exact (dictionaries next room (by omega) entries (some key)).of_frame ahead
            fun progress => onward (progress.within (.dictionary entries none))
        | _ => exact .fault fun progress => onward (progress.within (.dictionary entries none))
    | keyword word =>
      exact (dictionaries next room (by omega) entries key?).of_frame ahead fun progress =>
        onward (progress.within (.dictionary entries key?))
    | arrayEnd =>
      exact (dictionaries next room (by omega) entries key?).of_frame ahead fun progress =>
        onward (progress.within (.dictionary entries key?))
    | dictionaryEnd =>
      exact .closed ahead room fun progress => onward (progress.within (.dictionary entries key?))

/-- As many steps as given read tokens and frames. One induction carries the three, which read one
another. -/
theorem tokens_and_frames_read (input : Bytes) (steps : Nat) :
    TokensRead input steps ∧ ArraysRead input steps ∧ DictionariesRead input steps := by
  -- A frame needs one step more than the token it goes on with, and a token behind an opening
  -- bracket has two steps less than the one that begins with it.
  induction steps with
  | zero =>
    refine ⟨fun pos _ enough => ?_, fun pos _ enough => ?_, fun pos _ enough => ?_⟩
    all_goals exact absurd enough (Nat.not_lt_zero _)
  | succ steps ih =>
    obtain ⟨tokens, arrays, dictionaries⟩ := ih
    exact ⟨tokensRead_succ tokens arrays dictionaries, arraysRead_succ tokens arrays,
      dictionariesRead_succ tokens dictionaries⟩

/-! ## Streams -/

/-- The operators from a position on, behind what has been read so far, last first. -/
def tokenizeFrom (input : Bytes) : (steps pos : Nat) → (operands : List (Operand Numeral)) →
    (operators : List (Operator Numeral)) → Except Stop (List (Operator Numeral))
  | 0, _, _, _ => .error .outOfSteps
  | steps + 1, pos, operands, operators => do
    match ← token input steps pos with
    | (none, _) => return operators.reverse
    | (some (.value operand), next) =>
      tokenizeFrom input steps next (operand :: operands) operators
    | (some (.keyword word), next) =>
      if word = "BI" then tokenizeFrom input steps (← imageEnd input next) [] operators
      else tokenizeFrom input steps next [] (⟨word, operands.reverse⟩ :: operators)
    | (some .arrayEnd, next) => throw (.fault (.unbalancedDelimiter next))
    | (some .dictionaryEnd, next) => throw (.fault (.unbalancedDelimiter next))

/-- The operators of a stream. -/
def tokenize (input : Bytes) (steps : Nat) : Except Stop (List (Operator Numeral)) :=
  tokenizeFrom input steps 0 [] []

/-- Two steps for each byte are enough to read a stream, and they come to what the reader of lists
comes to. -/
theorem tokenizeFrom_eq (within : pos ≤ input.length)
    (enough : 2 * (input.length - pos) + 1 < steps) (operands : List (Operand Numeral))
    (operators : List (Operator Numeral)) :
    tokenizeFrom input steps pos operands operators =
      (readFrom input.length ⟨[], operands, operators⟩ (input.drop pos)).mapError .fault := by
  induction steps generalizing pos operands operators with
  | zero => exact absurd enough (Nat.not_lt_zero _)
  | succ steps ih =>
    have next := (tokens_and_frames_read input steps).1 pos within (by omega)
    unfold tokenizeFrom
    generalize token input steps pos = answer at next
    cases next with
    | ended finish => rw [finish]; rfl
    | fault fails => rw [fails]; rfl
    | @token found next ahead room onward word =>
      rw [onward]
      have position : input.length - (input.drop next).length = next := by
        rw [List.length_drop, Nat.sub_sub_self room]
      cases found with
      | value operand => exact ih room (by omega) (operand :: operands) operators
      | keyword name =>
        dsimp only [bind, Except.bind]
        by_cases image : name = "BI"
        · obtain ⟨last, found, ⟨later, inside⟩, behind⟩ := imageEnd_leads (word _ rfl) room
          subst image
          rw [if_pos rfl, found]
          dsimp only
          rw [ih inside (by omega), behind]
          rfl
        · have noImage : Progress.beginsImage ⟨[], operands, operators⟩ (.keyword name) = false :=
            decide_eq_false image
          unfold readBehind Token.lexeme
          rw [if_neg image, ih room (by omega), noImage]
          rfl
      | arrayEnd =>
        unfold readBehind
        dsimp only [Token.lexeme, Progress.beginsImage, Progress.take, Progress.endArray]
        rw [position]
        rfl
      | dictionaryEnd =>
        unfold readBehind
        dsimp only [Token.lexeme, Progress.beginsImage, Progress.take, Progress.endDictionary]
        rw [position]
        rfl

/-- **Reading moves on, stays inside and ends.** From every position that is not past the end the
next token is a fault, or there is none and the position is at the end, or the position moves on and
not past the end; each is what the whole stream is read as from there on. So reading by positions
comes to the operators of the stream or to its fault and to no other stop: no index is outside, and
two steps for each byte and two more are enough. The operators, their operands and all that is in
these are together no more than there are bytes. -/
theorem reads_advance (input : Bytes) :
    (∀ pos ≤ input.length, ∀ steps, 2 * (input.length - pos) < steps →
      (∃ fault, token input steps pos = .error (.fault fault) ∧
        ∀ progress, readFrom input.length progress (input.drop pos) = .error fault) ∨
      (token input steps pos = .ok (none, input.length) ∧
        ∀ progress, readFrom input.length progress (input.drop pos) = progress.finish) ∨
      ∃ found next, token input steps pos = .ok (some found, next) ∧
        (pos < next ∧ next ≤ input.length) ∧
        ∀ progress, readFrom input.length progress (input.drop pos) =
          readBehind input.length progress found.lexeme (input.drop next)) ∧
    (∀ steps, 2 * input.length + 1 < steps →
      tokenize input steps = (operators input).mapError .fault) ∧
    ∀ found, operators input = .ok found → countOperators found ≤ input.length := by
  refine ⟨fun pos within steps enough => ?_, fun steps enough => ?_, fun found read => ?_⟩
  · have next := (tokens_and_frames_read input steps).1 pos within enough
    generalize token input steps pos = answer at next
    cases next with
    | ended finish => exact .inr (.inl ⟨rfl, finish⟩)
    | token ahead room onward word => exact .inr (.inr ⟨_, _, rfl, ⟨ahead, room⟩, onward⟩)
    | fault fails => exact .inl ⟨_, rfl, fails⟩
  · exact tokenizeFrom_eq (Nat.zero_le _) enough [] []
  · exact countOperators_le read

/-- An array with a stray delimiter in front of it and an operator behind it. -/
theorem reads_advance_over_array :
    let input := Text.Utf8.encode ")[1] TJ"
    let read : List (Operator Numeral) := [⟨"TJ", [.array [.number ⟨false, 1, 0⟩]]⟩]
    (0 ≤ input.length ∧ 2 * (input.length - 0) < 15 ∧ 2 * input.length + 1 < 16 ∧
      operators input = .ok read) ∧
    (∃ found next, token input 15 0 = .ok (some found, next) ∧ 0 < next ∧ next ≤ input.length) ∧
    tokenize input 16 = .ok read ∧ countOperators read ≤ input.length := by
  intro input found
  have read : operators input = .ok found := by
    refine (readFrom_take rfl rfl rfl).trans ((readFrom_take rfl rfl rfl).trans
      ((readFrom_take rfl rfl rfl).trans ((readFrom_take rfl rfl rfl).trans ?_)))
    rw [readFrom_eq]
    rfl
  obtain ⟨tokens, whole, counted⟩ := reads_advance input
  refine ⟨⟨by decide, by decide, by decide, read⟩, ?_, ?_, counted found read⟩
  · rcases tokens 0 (by decide) 15 (by decide) with
      ⟨fault, -, fails⟩ | ⟨-, ends⟩ | ⟨first, next, token, advance, -⟩
    · cases read.symm.trans (fails .start)
    · have nothing : found = [] := Except.ok.inj (read.symm.trans (ends .start))
      exact absurd nothing (List.cons_ne_nil _ _)
    · exact ⟨first, next, token, advance⟩
  · rw [whole 16 (by decide), read]
    rfl

end Cursor

end PlacedText.Content
