import PlacedText.Content.Lexeme

/-! # Words of a content stream

What is written in regular bytes is read whole where something else follows (`EndsWord`): as a
number if it begins like one (`lexeme?_numeric`), and as a truth value, null or a keyword otherwise
(`lexeme?_regular`).
-/

namespace PlacedText.Content

variable {size : Nat} {rest rest' word : Bytes} {b : UInt8}

/-! ## Where words end -/

/-- Whether a word ends where these bytes follow: they are none, or begin with a blank or a
delimiter. -/
def EndsWord (rest : Bytes) : Prop := ∀ b ∈ rest.head?, isRegular b = false

theorem EndsWord.nil : EndsWord [] := by
  intro b member
  cases member

theorem EndsWord.cons (irregular : isRegular b = false) : EndsWord (b :: rest) := by
  intro first member
  cases member
  exact irregular

theorem EndsWord.of_isBlank (blank : isBlank b) : EndsWord (b :: rest) :=
  .cons (by simp [isRegular, blank])

theorem EndsWord.append (first : EndsWord rest) (second : EndsWord rest') :
    EndsWord (rest ++ rest') := by
  cases rest with
  | nil => exact second
  | cons b later => exact .cons (first b rfl)

theorem takeWhile_append_of_all {test : UInt8 → Bool} (all : ∀ c ∈ word, test c)
    (ends : ∀ b ∈ rest.head?, test b = false) : (word ++ rest).takeWhile test = word := by
  rw [List.takeWhile_append_of_pos all]
  cases rest with
  | nil => simp
  | cons b later => rw [List.takeWhile_cons_of_neg (by simp [ends b rfl]), List.append_nil]

theorem dropWhile_append_of_all {test : UInt8 → Bool} (all : ∀ c ∈ word, test c)
    (ends : ∀ b ∈ rest.head?, test b = false) : (word ++ rest).dropWhile test = rest := by
  rw [List.dropWhile_append_of_pos all]
  cases rest with
  | nil => rfl
  | cons b later => rw [List.dropWhile_cons_of_neg (by simp [ends b rfl])]

/-! ## What begins a word -/

/-- What holds of every code holds of every byte. -/
theorem forall_byte {P : UInt8 → Prop} (all : ∀ code < 256, P (UInt8.ofNat code)) (b : UInt8) :
    P b := by
  have ofCode := all b.toNat b.toNat_lt
  rwa [UInt8.ofNat_toNat] at ofCode

theorem isRegular_of_isNumeric : isNumeric b → isRegular b :=
  forall_byte (P := fun b => isNumeric b → isRegular b) (by decide +kernel) b

/-- No number goes on behind the end of a word. -/
theorem EndsWord.not_isNumeric (ends : EndsWord rest) : ∀ b ∈ rest.head?, isNumeric b = false := by
  intro b member
  cases numeric : isNumeric b with
  | false => rfl
  | true =>
    have regular := isRegular_of_isNumeric numeric
    rw [ends b member] at regular
    cases regular

theorem skip_of_isRegular (regular : isRegular b) : skip false (b :: rest) = b :: rest := by
  simp only [isRegular, isDelimiter, Bool.and_eq_true, Bool.not_eq_true', Bool.or_eq_false_iff,
    beq_eq_false_iff_ne] at regular
  simp [skip, regular]

theorem lexeme?_of_isRegular (regular : isRegular b) :
    lexeme? size (b :: rest) = (lexemeAt size b rest).map some := by
  unfold lexeme?
  rw [skip_of_isRegular regular]

/-- A word of digits, signs and points is a number, or a fault if it cannot be read as one. -/
theorem lexeme?_numeric {first : UInt8} {later : Bytes}
    (numeric : ∀ c ∈ first :: later, isNumeric c) (ends : EndsWord rest) :
    lexeme? size (first :: later ++ rest) =
      match numeral? (first :: later) with
      | some numeral => .ok (some (.value (.number numeral), rest))
      | none => .error (.invalidNumber (Text.Utf8.decodeLossy (first :: later))
          (positionBefore size (later ++ rest))) := by
  have start := numeric first (.head later)
  have regular := isRegular_of_isNumeric start
  have onward : ∀ c ∈ later, isNumeric c := fun c member => numeric c (.tail _ member)
  rw [List.cons_append, lexeme?_of_isRegular regular]
  simp only [isRegular, isDelimiter, Bool.and_eq_true, Bool.not_eq_true', Bool.or_eq_false_iff,
    beq_eq_false_iff_ne] at regular
  simp only [lexemeAt, regular, false_and, if_false, start, if_true,
    takeWhile_append_of_all onward ends.not_isNumeric,
    dropWhile_append_of_all onward ends.not_isNumeric]
  cases numeral? (first :: later) <;> rfl

/-- A run of regular bytes that is no number is a word. -/
theorem lexeme?_regular {first : UInt8} {later : Bytes}
    (regular : ∀ c ∈ first :: later, isRegular c) (noNumber : isNumeric first = false)
    (ends : EndsWord rest) :
    lexeme? size (first :: later ++ rest) =
      .ok (some (Content.word (Text.Utf8.decodeLossy (first :: later)), rest)) := by
  have start := regular first (.head later)
  have onward : ∀ c ∈ later, isRegular c := fun c member => regular c (.tail _ member)
  rw [List.cons_append, lexeme?_of_isRegular start]
  simp only [isRegular, isDelimiter, Bool.and_eq_true, Bool.not_eq_true', Bool.or_eq_false_iff,
    beq_eq_false_iff_ne] at start
  simp only [lexemeAt, start, false_and, if_false, noNumber, Bool.false_eq_true,
    takeWhile_append_of_all onward ends, dropWhile_append_of_all onward ends]
  rfl

end PlacedText.Content
