import PlacedText.Content.Operand
import PlacedText.Fault.Basic
import PlacedText.Text.Hexadecimal

/-! # Lexemes of a content stream

A content stream is read lexeme by lexeme: simple operands, keywords, and the brackets of arrays and
dictionaries. Each lexeme takes at least one byte (`lexeme_shorter`).
-/

namespace PlacedText.Content

/-- The byte of an ASCII character. -/
def ascii (c : Char) : UInt8 := c.toNat.toUInt8

def isBlank (b : UInt8) : Bool :=
  b == 0x20 || b == 0x09 || b == 0x0d || b == 0x0a || b == 0x0c || b == 0x00

def isDelimiter (b : UInt8) : Bool :=
  b == ascii '(' || b == ascii ')' || b == ascii '<' || b == ascii '>' || b == ascii '[' ||
    b == ascii ']' || b == ascii '\x7b' || b == ascii '\x7d' || b == ascii '/' || b == ascii '%'

/-- The bytes that names and keywords are made of. -/
def isRegular (b : UInt8) : Bool := !isBlank b && !isDelimiter b

def isDigit (b : UInt8) : Bool := ascii '0' ≤ b && b ≤ ascii '9'

def isSign (b : UInt8) : Bool := b == ascii '+' || b == ascii '-'

/-- The bytes that numbers are made of. -/
def isNumeric (b : UInt8) : Bool := isDigit b || isSign b || b == ascii '.'

def isLineEnd (b : UInt8) : Bool := b == 0x0a || b == 0x0d

/-- The value of a hexadecimal digit of either case. -/
def hexDigit? (b : UInt8) : Option UInt8 :=
  (Text.hexDigit? (Char.ofNat b.toNat)).map Nat.toUInt8

/-- The value of an octal digit. -/
def octalDigit? (b : UInt8) : Option UInt8 :=
  if ascii '0' ≤ b ∧ b ≤ ascii '7' then some (b - ascii '0') else none

/-- Drops what stands between lexemes: blanks, comments, and delimiters that begin nothing. -/
def skip (inComment : Bool) : Bytes → Bytes
  | [] => []
  | b :: rest =>
    if inComment then skip (!isLineEnd b) rest
    else if isBlank b then skip false rest
    else if b = ascii '%' then skip true rest
    else if b = ascii ')' ∨ b = ascii '\x7b' ∨ b = ascii '\x7d' ∨
        (b = ascii '>' ∧ rest.head? ≠ some (ascii '>')) then skip false rest
    else b :: rest

/-! ## Names and numbers -/

/-- Resolves the escapes of a name: `#` with two hexadecimal digits is the byte they spell. -/
def unescapeName : Bytes → Bytes
  | b :: high :: low :: rest =>
    match if b = ascii '#' then hexDigit? high else none, hexDigit? low with
    | some high, some low => (high <<< 4 ||| low) :: unescapeName rest
    | _, _ => b :: unescapeName (high :: low :: rest)
  | bytes => bytes

/-- The number at the front of some digits, signs and points: a sign that is repeated counts once,
the first one, and a second point or a later sign ends the number. -/
def numeral? (text : Bytes) : Option Numeral :=
  let body := (text.dropWhile isSign).takeWhile fun b => !isSign b
  let whole := body.takeWhile isDigit
  let fraction := (body.dropWhile isDigit).drop 1 |>.takeWhile isDigit
  let digits := whole ++ fraction
  if digits.isEmpty then none
  else some {
    negative := text.head? == some (ascii '-')
    digits := digits.foldl (fun value b => 10 * value + (b - ascii '0').toNat) 0
    places := fraction.length }

/-! ## Strings -/

/-- The byte that a letter stands for behind a backslash. -/
def escapedLetter (b : UInt8) : UInt8 :=
  if b = ascii 'n' then 0x0a
  else if b = ascii 'r' then 0x0d
  else if b = ascii 't' then 0x09
  else if b = ascii 'b' then 0x08
  else if b = ascii 'f' then 0x0c
  else b

/-- Where the reader of a string stands between bytes. -/
inductive StringState where
  | plain
  /-- Behind a backslash. -/
  | escaped
  /-- Behind up to three octal digits of an escape. -/
  | octal (value : UInt8) (digits : Nat)
  /-- Behind an escaped carriage return, which a line feed may follow. -/
  | lineEnd

/-- The contents of a string and what follows it, given the number of parentheses that are open
inside it; nothing if the string does not end. An escaped line end disappears, one to three octal
digits spell a byte modulo 256, and a backslash before any other byte disappears. -/
def stringRest? : StringState → Nat → Bytes → Option (Bytes × Bytes)
  | _, _, [] => none
  | state, depth, b :: rest =>
    let keep (bytes : Bytes) (found? : Option (Bytes × Bytes)) : Option (Bytes × Bytes) :=
      found?.map fun (contents, after) => (bytes ++ contents, after)
    let plain (before : Bytes) : Option (Bytes × Bytes) :=
      if b = ascii '(' then keep (before ++ [b]) (stringRest? .plain (depth + 1) rest)
      else if b = ascii ')' then
        if depth = 0 then some (before, rest)
        else keep (before ++ [b]) (stringRest? .plain (depth - 1) rest)
      else if b = ascii '\\' then keep before (stringRest? .escaped depth rest)
      else keep (before ++ [b]) (stringRest? .plain depth rest)
    match state with
    | .plain => plain []
    | .escaped =>
      match octalDigit? b with
      | some digit => stringRest? (.octal digit 1) depth rest
      | none =>
        if b = 0x0d then stringRest? .lineEnd depth rest
        else if b = 0x0a then stringRest? .plain depth rest
        else keep [escapedLetter b] (stringRest? .plain depth rest)
    | .octal value digits =>
      match if digits < 3 then octalDigit? b else none with
      | some digit => stringRest? (.octal (value * 8 + digit) (digits + 1)) depth rest
      | none => plain [value]
    | .lineEnd => if b = 0x0a then stringRest? .plain depth rest else plain []

/-- The contents of a hexadecimal string and what follows it, given the digit that waits for a
partner; nothing if the string does not end. A last single digit is followed by a zero, and other
bytes between the digits are ignored. -/
def hexStringRest? : Option UInt8 → Bytes → Option (Bytes × Bytes)
  | _, [] => none
  | high?, b :: rest =>
    if b = ascii '>' then some ((high?.map fun (high : UInt8) => high <<< 4).toList, rest)
    else
      match hexDigit? b, high? with
      | none, _ => hexStringRest? high? rest
      | some digit, none => hexStringRest? (some digit) rest
      | some digit, some high =>
        (hexStringRest? none rest).map fun (contents, after) =>
          ((high <<< 4 ||| digit) :: contents, after)

/-! ## Lexemes -/

inductive Lexeme where
  /-- A number, a name, a string, a truth value or null. -/
  | value (operand : Operand Numeral)
  | keyword (word : String)
  | arrayStart
  | arrayEnd
  | dictionaryStart
  | dictionaryEnd

/-- A run of regular bytes is a truth value, null, or a keyword. -/
def word (text : String) : Lexeme :=
  if text = "true" then .value (.bool true)
  else if text = "false" then .value (.bool false)
  else if text = "null" then .value .null
  else .keyword text

/-- The position in a stream of a size at which a byte stands that is followed by these. -/
def positionBefore (size : Nat) (rest : Bytes) : Nat := size - (rest.length + 1)

/-- The lexeme that begins with the byte `b`, which nothing skips, and what follows it. The size is
that of the whole stream, for positions in faults. -/
def lexemeAt (size : Nat) (b : UInt8) (rest : Bytes) : Except SyntaxFault (Lexeme × Bytes) :=
  if b = ascii '(' then
    match stringRest? .plain 0 rest with
    | some (contents, after) => .ok (.value (.string contents), after)
    | none => .error (.unterminatedString (positionBefore size rest))
  else if b = ascii '<' ∧ rest.head? = some (ascii '<') then .ok (.dictionaryStart, rest.drop 1)
  else if b = ascii '<' then
    match hexStringRest? none rest with
    | some (contents, after) => .ok (.value (.string contents), after)
    | none => .error (.unterminatedHexString (positionBefore size rest))
  else if b = ascii '>' then .ok (.dictionaryEnd, rest.drop 1)
  else if b = ascii '[' then .ok (.arrayStart, rest)
  else if b = ascii ']' then .ok (.arrayEnd, rest)
  else if b = ascii '/' then
    let name := unescapeName (rest.takeWhile isRegular)
    .ok (.value (.name (Text.Utf8.decodeLossy name)), rest.dropWhile isRegular)
  else if isNumeric b then
    let text := b :: rest.takeWhile isNumeric
    match numeral? text with
    | some numeral => .ok (.value (.number numeral), rest.dropWhile isNumeric)
    | none => .error (.invalidNumber (Text.Utf8.decodeLossy text) (positionBefore size rest))
  else
    .ok (word (Text.Utf8.decodeLossy (b :: rest.takeWhile isRegular)), rest.dropWhile isRegular)

/-- The next lexeme and what follows it; nothing at the end of the stream. -/
def lexeme? (size : Nat) (bytes : Bytes) : Except SyntaxFault (Option (Lexeme × Bytes)) :=
  match skip false bytes with
  | [] => .ok none
  | b :: rest => (lexemeAt size b rest).map some

/-! ## Progress -/

theorem length_skip_le (inComment : Bool) (bytes : Bytes) :
    (skip inComment bytes).length ≤ bytes.length := by
  induction bytes generalizing inComment with
  | nil => simp [skip]
  | cons b rest ih =>
    simp only [skip]
    split
    · exact Nat.le_succ_of_le (ih _)
    · split
      · exact Nat.le_succ_of_le (ih _)
      · split
        · exact Nat.le_succ_of_le (ih _)
        · split
          · exact Nat.le_succ_of_le (ih _)
          · exact Nat.le_refl _

theorem length_dropWhile_le (test : UInt8 → Bool) (bytes : Bytes) :
    (bytes.dropWhile test).length ≤ bytes.length :=
  (List.dropWhile_sublist test).length_le

theorem hexStringRest_shorter {high? : Option UInt8} {bytes contents after : Bytes}
    (found : hexStringRest? high? bytes = some (contents, after)) :
    after.length < bytes.length := by
  induction bytes generalizing high? contents with
  | nil => simp [hexStringRest?] at found
  | cons b rest ih =>
    simp only [hexStringRest?] at found
    split at found
    · simp_all
    · split at found
      · exact Nat.lt_succ_of_lt (ih found)
      · exact Nat.lt_succ_of_lt (ih found)
      · simp only [Option.map_eq_some_iff, Prod.mk.injEq, Prod.exists] at found
        obtain ⟨inner, later, step, -, rfl⟩ := found
        exact Nat.lt_succ_of_lt (ih step)

theorem stringRest_shorter {state : StringState} {depth : Nat} {bytes contents after : Bytes}
    (found : stringRest? state depth bytes = some (contents, after)) :
    after.length < bytes.length := by
  induction bytes generalizing state depth contents with
  | nil => simp [stringRest?] at found
  | cons b rest ih =>
    have kept {before : Bytes} {next : StringState} {depth : Nat}
        (found : ((stringRest? next depth rest).map fun (contents, after) =>
          (before ++ contents, after)) = some (contents, after)) :
        after.length < (b :: rest).length := by
      simp only [Option.map_eq_some_iff, Prod.mk.injEq, Prod.exists] at found
      obtain ⟨inner, later, step, -, rfl⟩ := found
      exact Nat.lt_succ_of_lt (ih step)
    have ended {before : Bytes} (found : some (before, rest) = some (contents, after)) :
        after.length < (b :: rest).length := by
      simp_all
    simp only [stringRest?] at found
    repeat' split at found
    all_goals first
      | exact kept found
      | exact ended found
      | exact Nat.lt_succ_of_lt (ih found)

/-- A lexeme takes at least the byte that it begins with. -/
theorem length_after_lexemeAt {size : Nat} {b : UInt8} {rest after : Bytes} {lexeme : Lexeme}
    (found : lexemeAt size b rest = .ok (lexeme, after)) : after.length ≤ rest.length := by
  simp only [lexemeAt] at found
  repeat' split at found
  all_goals simp only [Except.ok.injEq, Prod.mk.injEq, reduceCtorEq] at found
  all_goals obtain ⟨-, rfl⟩ := found
  all_goals first
    | exact Nat.le_of_lt (stringRest_shorter (by assumption))
    | exact Nat.le_of_lt (hexStringRest_shorter (by assumption))
    | exact length_dropWhile_le _ _
    | simp

/-- The stream is shorter behind a lexeme. -/
theorem lexeme_shorter {size : Nat} {bytes after : Bytes} {lexeme : Lexeme}
    (found : lexeme? size bytes = .ok (some (lexeme, after))) : after.length < bytes.length := by
  have skipped := length_skip_le false bytes
  simp only [lexeme?] at found
  split at found
  · simp at found
  · next b rest start =>
    rw [start, List.length_cons] at skipped
    cases step : lexemeAt size b rest with
    | error fault => simp [step, Except.map] at found
    | ok pair =>
      obtain ⟨next, later⟩ := pair
      simp only [step, Except.map, Except.ok.injEq, Option.some.injEq, Prod.mk.injEq] at found
      obtain ⟨-, rfl⟩ := found
      have bounded := length_after_lexemeAt step
      omega

end PlacedText.Content
