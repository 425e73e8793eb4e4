import PlacedText.Content.Lexeme

/-! # Reading a content stream

The lexemes of a content stream become operators. Arrays and dictionaries are collected in frames;
inside of them keywords and the ends of the other kind of bracket are ignored. Inline images are
skipped.
-/

namespace PlacedText.Content

/-- An array or a dictionary that has been begun, its elements last first. -/
inductive Frame where
  | array (items : List (Operand Numeral))
  /-- The key waits for its value. -/
  | dictionary (entries : List (String × Operand Numeral)) (key? : Option String)

/-- What has been read: the open frames, innermost first, the operands that wait for their operator,
and the operators, all last first. -/
structure Progress where
  frames : List Frame
  operands : List (Operand Numeral)
  operators : List (Operator Numeral)

namespace Progress

def start : Progress := ⟨[], [], []⟩

/-- Takes an operand that is complete into the innermost frame, or among the operands. -/
def push (progress : Progress) (operand : Operand Numeral) : Except SyntaxFault Progress :=
  match progress.frames with
  | [] => .ok { progress with operands := operand :: progress.operands }
  | .array items :: outer =>
    .ok { progress with frames := .array (operand :: items) :: outer }
  | .dictionary entries (some key) :: outer =>
    .ok { progress with frames := .dictionary ((key, operand) :: entries) none :: outer }
  | .dictionary entries none :: outer =>
    match operand with
    | .name key => .ok { progress with frames := .dictionary entries (some key) :: outer }
    | _ => .error .keyNotName

/-- Closes the innermost frame if it is an array. The position of the fault is that after the
bracket: where `after` begins in a stream of that size. -/
def endArray (progress : Progress) (size : Nat) (after : Bytes) : Except SyntaxFault Progress :=
  match progress.frames with
  | [] => .error (.unbalancedDelimiter (size - after.length))
  | .array items :: outer => { progress with frames := outer }.push (.array items.reverse)
  | .dictionary .. :: _ => .ok progress

/-- Closes the innermost frame if it is a dictionary; a key without a value is dropped. The position
of the fault is that after the bracket. -/
def endDictionary (progress : Progress) (size : Nat) (after : Bytes) :
    Except SyntaxFault Progress :=
  match progress.frames with
  | [] => .error (.unbalancedDelimiter (size - after.length))
  | .dictionary entries _ :: outer =>
    { progress with frames := outer }.push (.dictionary entries.reverse)
  | .array _ :: _ => .ok progress

/-- Ends an operator with its operands; keywords inside a frame are ignored. -/
def keyword (progress : Progress) (name : String) : Progress :=
  match progress.frames with
  | [] =>
    { progress with
      operands := []
      operators := ⟨name, progress.operands.reverse⟩ :: progress.operators }
  | _ :: _ => progress

/-- What one lexeme does, in a stream of a size that goes on as given after it. -/
def take (progress : Progress) (lexeme : Lexeme) (size : Nat) (after : Bytes) :
    Except SyntaxFault Progress :=
  match lexeme with
  | .value operand => progress.push operand
  | .keyword name => .ok (progress.keyword name)
  | .arrayStart => .ok { progress with frames := .array [] :: progress.frames }
  | .dictionaryStart => .ok { progress with frames := .dictionary [] none :: progress.frames }
  | .arrayEnd => progress.endArray size after
  | .dictionaryEnd => progress.endDictionary size after

/-- The operators at the end of the stream, where no frame may be open. -/
def finish (progress : Progress) : Except SyntaxFault (List (Operator Numeral)) :=
  match progress.frames with
  | [] => .ok progress.operators.reverse
  | .array _ :: _ => .error .unterminatedArray
  | .dictionary .. :: _ => .error .unterminatedDictionary

/-- Whether a lexeme begins an inline image, which it does outside of arrays and dictionaries. -/
def beginsImage (progress : Progress) (lexeme : Lexeme) : Bool :=
  match lexeme with
  | .keyword name => progress.frames.isEmpty && name == "BI"
  | _ => false

end Progress

/-! ## Inline images -/

/-- What follows the first `ID` that has a blank before and behind it, the blank included. -/
def afterImageHeader? : Bytes → Option Bytes
  | b :: rest =>
    match rest with
    | i :: d :: blank :: data =>
      if isBlank b ∧ i = ascii 'I' ∧ d = ascii 'D' ∧ isBlank blank then some data
      else afterImageHeader? (i :: d :: blank :: data)
    | _ => none
  | [] => none

/-- What follows the first `EI` that has a blank before it and a blank, a delimiter or the end of
the stream behind it; nothing if there is none. -/
def afterImageData (afterBlank : Bool) : Bytes → Bytes
  | e :: rest =>
    match rest with
    | i :: after =>
      if afterBlank ∧ e = ascii 'E' ∧ i = ascii 'I' ∧
          after.head?.all fun b => isBlank b || isDelimiter b then after
      else afterImageData (isBlank e) (i :: after)
    | [] => []
  | [] => []

/-- What follows an inline image whose beginning has been read. -/
def skipImage (bytes : Bytes) : Bytes :=
  match afterImageHeader? bytes with
  | some data => afterImageData true data
  | none => []

theorem length_afterImageHeader {bytes data : Bytes}
    (found : afterImageHeader? bytes = some data) : data.length ≤ bytes.length := by
  fun_induction afterImageHeader? bytes with
  | case1 b i d blank data' marked =>
    simp only [Option.some.injEq] at found
    subst found
    simp only [List.length_cons]
    omega
  | case2 b i d blank data' unmarked ih => exact Nat.le_succ_of_le (ih found)
  | case3 => simp at found
  | case4 => simp at found

theorem length_afterImageData_le (afterBlank : Bool) (bytes : Bytes) :
    (afterImageData afterBlank bytes).length ≤ bytes.length := by
  fun_induction afterImageData afterBlank bytes with
  | case1 => simp only [List.length_cons]; omega
  | case2 afterBlank e i after unmarked ih => exact Nat.le_succ_of_le ih
  | case3 => simp
  | case4 => simp

theorem length_skipImage_le (bytes : Bytes) : (skipImage bytes).length ≤ bytes.length := by
  unfold skipImage
  split
  · next data found =>
    exact Nat.le_trans (length_afterImageData_le true data) (length_afterImageHeader found)
  · simp

/-! ## Streams -/

/-- Reads the rest of a stream of a known size. -/
def readFrom (size : Nat) (progress : Progress) (bytes : Bytes) :
    Except SyntaxFault (List (Operator Numeral)) :=
  match step : lexeme? size bytes with
  | .error fault => .error fault
  | .ok none => progress.finish
  | .ok (some (lexeme, rest)) =>
    have := lexeme_shorter step
    if progress.beginsImage lexeme then
      have := length_skipImage_le rest
      readFrom size { progress with operands := [] } (skipImage rest)
    else
      match progress.take lexeme size rest with
      | .error fault => .error fault
      | .ok next => readFrom size next rest
termination_by bytes.length

/-- The operators of a content stream. -/
def operators (bytes : Bytes) : Except SyntaxFault (List (Operator Numeral)) :=
  readFrom bytes.length .start bytes

end PlacedText.Content
