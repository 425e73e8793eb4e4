import PlacedText.Proofs.Content.Literal

/-! # How content is written

A writer of content has choices: between the cases of a hexadecimal digit, where blanks stand, and
which bytes of a name or a string are escaped. So each way of writing is a relation, between what is
written and the bytes that it may be written as (`WritesOperators`).
-/

namespace PlacedText.Content

/-! ## Names and strings -/

/-- Two hexadecimal digits of either case spell a byte. -/
def SpellsByte (high low b : UInt8) : Prop :=
  ∃ first second, hexDigit? high = some first ∧ hexDigit? low = some second ∧
    b = 16 * first + second

/-- The three octal digits of a byte. -/
def octalDigits (b : UInt8) : Bytes :=
  [ascii '0' + b / 64, ascii '0' + b / 8 % 8, ascii '0' + b % 8]

/-- The bytes that end or nest a string or escape another byte. -/
def isMark (b : UInt8) : Bool := b == ascii '(' || b == ascii ')' || b == ascii '\\'

/-- A name is written as itself, with `#` and the digits of a byte in place of the byte where the
writer chooses to, which it must for `#` and for what is not regular. -/
inductive WritesName : Bytes → Bytes → Prop
  | nil : WritesName [] []
  | plain {b : UInt8} {name text : Bytes} (regular : isRegular b) (unmarked : b ≠ ascii '#')
      (later : WritesName name text) : WritesName (b :: name) (b :: text)
  | escaped {high low b : UInt8} {name text : Bytes} (spells : SpellsByte high low b)
      (later : WritesName name text) : WritesName (b :: name) (ascii '#' :: high :: low :: text)

/-- A string is written as itself up to the parenthesis that closes it, with a backslash before each
mark, and with the octal digits of a byte in place of the byte where the writer chooses to. -/
inductive WritesString : Bytes → Bytes → Prop
  | close : WritesString [] [ascii ')']
  | plain {b : UInt8} {contents text : Bytes} (unmarked : isMark b = false)
      (later : WritesString contents text) : WritesString (b :: contents) (b :: text)
  | escaped {b : UInt8} {contents text : Bytes} (marked : isMark b)
      (later : WritesString contents text) :
      WritesString (b :: contents) (ascii '\\' :: b :: text)
  | octal {b : UInt8} {contents text : Bytes} (later : WritesString contents text) :
      WritesString (b :: contents) (ascii '\\' :: (octalDigits b ++ text))

/-- A string is written as the digits of its bytes up to the bracket that closes it, with blanks
wherever the writer chooses. -/
inductive WritesHex : Bytes → Bytes → Prop
  | close : WritesHex [] [ascii '>']
  | blank {b : UInt8} {contents text : Bytes} (blank : isBlank b)
      (later : WritesHex contents text) : WritesHex contents (b :: text)
  | byte {high low b : UInt8} {gap contents text : Bytes} (spells : SpellsByte high low b)
      (blanks : ∀ c ∈ gap, isBlank c) (later : WritesHex contents text) :
      WritesHex (b :: contents) (high :: (gap ++ low :: text))

/-! ## Operands -/

mutual

/-- How an operand is written. -/
inductive WritesOperand : Operand Literal → Bytes → Prop
  | number (literal : Literal) : WritesOperand (.number literal) literal.bytes
  | name {key : String} {text : Bytes} (written : WritesName (Text.Utf8.encode key) text) :
      WritesOperand (.name key) (ascii '/' :: text)
  | string {contents text : Bytes} (written : WritesString contents text) :
      WritesOperand (.string contents) (ascii '(' :: text)
  | hexString {contents text : Bytes} (written : WritesHex contents text) :
      WritesOperand (.string contents) (ascii '<' :: text)
  | array {items : List (Operand Literal)} {text : Bytes} (written : WritesItems items text) :
      WritesOperand (.array items) (ascii '[' :: (text ++ [ascii ']']))
  | dictionary {entries : List (String × Operand Literal)} {text : Bytes}
      (written : WritesEntries entries text) :
      WritesOperand (.dictionary entries)
        (ascii '<' :: ascii '<' :: (text ++ [ascii '>', ascii '>']))
  | bool (value : Bool) :
      WritesOperand (.bool value) (Text.Utf8.encode (if value then "true" else "false"))
  | null : WritesOperand .null (Text.Utf8.encode "null")

/-- The items of an array are written one after the other, with blanks wherever the writer chooses
and where else one would run into the next. -/
inductive WritesItems : List (Operand Literal) → Bytes → Prop
  | nil : WritesItems [] []
  | blank {b : UInt8} {items : List (Operand Literal)} {text : Bytes} (blank : isBlank b)
      (later : WritesItems items text) : WritesItems items (b :: text)
  | item {item : Operand Literal} {items : List (Operand Literal)} {word text : Bytes}
      (written : WritesOperand item word) (ends : EndsWord text)
      (later : WritesItems items text) : WritesItems (item :: items) (word ++ text)

/-- The entries of a dictionary are written one after the other, the name of each in front of its
value. -/
inductive WritesEntries : List (String × Operand Literal) → Bytes → Prop
  | nil : WritesEntries [] []
  | blank {b : UInt8} {entries : List (String × Operand Literal)} {text : Bytes}
      (blank : isBlank b) (later : WritesEntries entries text) : WritesEntries entries (b :: text)
  | entry {key : String} {value : Operand Literal} {entries : List (String × Operand Literal)}
      {name gap word text : Bytes} (named : WritesName (Text.Utf8.encode key) name)
      (blanks : ∀ b ∈ gap, isBlank b) (apart : EndsWord (gap ++ word))
      (written : WritesOperand value word) (ends : EndsWord text)
      (later : WritesEntries entries text) :
      WritesEntries ((key, value) :: entries) (ascii '/' :: name ++ (gap ++ (word ++ text)))

end

/-! ## Operators -/

/-- Whether a text can stand for an operator: it is a word of regular bytes that is no value and
does not begin an inline image. -/
structure IsKeyword (name : String) : Prop where
  visible : name ≠ ""
  regular : (Text.Utf8.encode name).all isRegular
  noNumber : (Text.Utf8.encode name).head?.any isNumeric = false
  noValue : name ∉ ["true", "false", "null"]
  noImage : name ≠ "BI"

/-- Operators are written one after the other, each behind its operands. -/
inductive WritesOperators : List (Operator Literal) → Bytes → Prop
  | nil : WritesOperators [] []
  | blank {b : UInt8} {operators : List (Operator Literal)} {text : Bytes} (blank : isBlank b)
      (later : WritesOperators operators text) : WritesOperators operators (b :: text)
  | operand {operand : Operand Literal} {name : String} {operands : List (Operand Literal)}
      {operators : List (Operator Literal)} {word text : Bytes}
      (written : WritesOperand operand word) (ends : EndsWord text)
      (later : WritesOperators (⟨name, operands⟩ :: operators) text) :
      WritesOperators (⟨name, operand :: operands⟩ :: operators) (word ++ text)
  | keyword {name : String} {operators : List (Operator Literal)} {text : Bytes}
      (keyword : IsKeyword name) (ends : EndsWord text) (later : WritesOperators operators text) :
      WritesOperators (⟨name, []⟩ :: operators) (Text.Utf8.encode name ++ text)

/-! ## Everything can be written -/

/-- The digit of a number below sixteen. -/
def hexDigitByte (digit : UInt8) : UInt8 :=
  if digit < 10 then ascii '0' + digit else ascii 'A' + (digit - 10)

/-- The digits of its two halves spell a byte. -/
theorem spellsByte_hexDigitByte (b : UInt8) :
    SpellsByte (hexDigitByte (b / 16)) (hexDigitByte (b % 16)) b := by
  obtain ⟨high, low, joined⟩ := forall_byte (P := fun b =>
    hexDigit? (hexDigitByte (b / 16)) = some (b / 16) ∧
      hexDigit? (hexDigitByte (b % 16)) = some (b % 16) ∧ b = 16 * (b / 16) + b % 16)
    (by decide +kernel) b
  exact ⟨_, _, high, low, joined⟩

/-- Every name can be spelled, with all of its bytes escaped. -/
theorem exists_writesName (name : Bytes) : ∃ text, WritesName name text := by
  induction name with
  | nil => exact ⟨_, .nil⟩
  | cons b name ih =>
    obtain ⟨text, written⟩ := ih
    exact ⟨_, .escaped (spellsByte_hexDigitByte b) written⟩

/-- Every string can be spelled, with all of its bytes in octal. -/
theorem exists_writesString (contents : Bytes) : ∃ text, WritesString contents text := by
  induction contents with
  | nil => exact ⟨_, .close⟩
  | cons b contents ih =>
    obtain ⟨text, written⟩ := ih
    exact ⟨_, .octal written⟩

/-- A blank, behind which another word may stand. -/
theorem endsWord_blank (text : Bytes) : EndsWord (0x20 :: text) := .of_isBlank (by decide)

mutual

/-- Every operand can be written. By recursion on the operand, with its items and its entries. -/
theorem exists_writesOperand (operand : Operand Literal) : ∃ text, WritesOperand operand text := by
  match operand with
  | .number literal => exact ⟨_, .number literal⟩
  | .name key =>
    obtain ⟨text, written⟩ := exists_writesName (Text.Utf8.encode key)
    exact ⟨_, .name written⟩
  | .string contents =>
    obtain ⟨text, written⟩ := exists_writesString contents
    exact ⟨_, .string written⟩
  | .array items =>
    obtain ⟨text, written⟩ := exists_writesItems items
    exact ⟨_, .array written⟩
  | .dictionary entries =>
    obtain ⟨text, written⟩ := exists_writesEntries entries
    exact ⟨_, .dictionary written⟩
  | .bool value => exact ⟨_, .bool value⟩
  | .null => exact ⟨_, .null⟩

/-- Every list of items can be written. -/
theorem exists_writesItems (items : List (Operand Literal)) : ∃ text, WritesItems items text := by
  match items with
  | [] => exact ⟨_, .nil⟩
  | item :: items =>
    obtain ⟨word, written⟩ := exists_writesOperand item
    obtain ⟨text, later⟩ := exists_writesItems items
    exact ⟨_, .item written (endsWord_blank text) (.blank (by decide) later)⟩

/-- All entries of a dictionary can be written. -/
theorem exists_writesEntries (entries : List (String × Operand Literal)) :
    ∃ text, WritesEntries entries text := by
  match entries with
  | [] => exact ⟨_, .nil⟩
  | (key, value) :: entries =>
    obtain ⟨name, named⟩ := exists_writesName (Text.Utf8.encode key)
    obtain ⟨word, written⟩ := exists_writesOperand value
    obtain ⟨text, later⟩ := exists_writesEntries entries
    have gap : ∀ b ∈ [0x20], isBlank b := List.forall_mem_singleton.mpr (by decide)
    exact ⟨_, .entry named gap (endsWord_blank word) written (endsWord_blank text)
      (.blank (by decide) later)⟩

end

/-- Another operator can be written in front of those that are. -/
theorem WritesOperators.exists_behind {operators : List (Operator Literal)} {text : Bytes}
    (later : WritesOperators operators text) {name : String} (keyword : IsKeyword name)
    (operands : List (Operand Literal)) :
    ∃ text, WritesOperators (⟨name, operands⟩ :: operators) text := by
  induction operands with
  | nil => exact ⟨_, .keyword keyword (endsWord_blank text) (.blank (by decide) later)⟩
  | cons operand operands ih =>
    obtain ⟨word, written⟩ := exists_writesOperand operand
    obtain ⟨text, behind⟩ := ih
    exact ⟨_, .operand written (endsWord_blank text) (.blank (by decide) behind)⟩

/-- Every list of operators whose names are keywords can be written. -/
theorem exists_writesOperators (operators : List (Operator Literal))
    (keywords : ∀ operator ∈ operators, IsKeyword operator.name) :
    ∃ text, WritesOperators operators text := by
  induction operators with
  | nil => exact ⟨_, .nil⟩
  | cons operator operators ih =>
    obtain ⟨text, later⟩ := ih fun operator member => keywords operator (.tail _ member)
    exact later.exists_behind (keywords operator (.head _)) operator.operands

end PlacedText.Content
