import PlacedText.Proofs.Content.Lexemes
import PlacedText.Proofs.Content.Prefix
import PlacedText.Drawing.Recording

/-! # What is written is read back

Reading an operand takes it into the innermost frame or among the operands, however it was written
and whatever it contains (`WritesOperand.readFrom_eq`), so the operators that are written are the
operators that are read (`operators_of_writes`).
-/

namespace PlacedText

/-! ## The numbers among the operands -/

section Numbers

variable {ν μ ρ : Type} (f : ν → μ) (g : μ → ρ)

mutual

/-- Numbers may be changed in two steps or in one. -/
theorem Operand.map_map (operand : Operand ν) :
    (operand.map f).map g = operand.map (g ∘ f) := by
  match operand with
  | .array items => exact congrArg Operand.array (Operand.mapItems_mapItems items)
  | .dictionary entries =>
    exact congrArg Operand.dictionary (Operand.mapEntries_mapEntries entries)
  | .number _ | .name _ | .string _ | .bool _ | .null => rfl

theorem Operand.mapItems_mapItems (items : List (Operand ν)) :
    Operand.mapItems g (Operand.mapItems f items) = Operand.mapItems (g ∘ f) items := by
  match items with
  | [] => rfl
  | item :: items =>
    exact congrArg₂ List.cons (Operand.map_map item) (Operand.mapItems_mapItems items)

/-- The numbers of entries may be changed in two steps or in one. -/
theorem Operand.mapEntries_mapEntries (entries : List (String × Operand ν)) :
    Operand.mapEntries g (Operand.mapEntries f entries) =
      Operand.mapEntries (g ∘ f) entries := by
  match entries with
  | [] => rfl
  | (key, value) :: entries =>
    exact congrArg₂ List.cons (congrArg (Prod.mk key) (Operand.map_map value))
      (Operand.mapEntries_mapEntries entries)

end

theorem Operator.map_comp (operator : Operator ν) :
    (operator.map f).map g = operator.map (g ∘ f) := by
  simp [Operator.map, Function.comp_def, Operand.map_map]

end Numbers

namespace Content

variable {size : Nat} {progress next : Progress} {bytes rest text : Bytes}

/-! ## Words -/

/-- A word of regular bytes that is no number is read as the text it is. -/
theorem lexeme?_encode {name : String} (visible : name ≠ "")
    (regular : (Text.Utf8.encode name).all isRegular)
    (noNumber : (Text.Utf8.encode name).head?.any isNumeric = false) (ends : EndsWord rest) :
    lexeme? size (Text.Utf8.encode name ++ rest) = .ok (some (word name, rest)) := by
  obtain ⟨first, later, encoded⟩ :=
    List.exists_cons_of_ne_nil (Text.Utf8.encode_ne_nil (by simpa using visible))
  have text : Text.Utf8.decodeLossy (first :: later) = name := by
    rw [← encoded, Text.Utf8.decodeLossy_encode]
  rw [encoded] at regular noNumber ⊢
  rw [lexeme?_regular (List.all_eq_true.mp regular) noNumber ends, text]

theorem IsKeyword.lexeme?_eq {name : String} (keyword : IsKeyword name) (ends : EndsWord rest) :
    lexeme? size (Text.Utf8.encode name ++ rest) = .ok (some (.keyword name, rest)) := by
  have noValue := keyword.noValue
  simp only [List.mem_cons, List.not_mem_nil, or_false, not_or] at noValue
  have plain : word name = .keyword name := by simp [word, noValue]
  rw [lexeme?_encode keyword.visible keyword.regular keyword.noNumber ends, plain]

/-- A keyword ends an operator, and nothing is left of the operands. -/
theorem IsKeyword.readFrom_eq {name : String} (keyword : IsKeyword name) (ends : EndsWord rest)
    (operands : List (Operand Numeral)) (before : List (Operator Numeral)) :
    readFrom size ⟨[], operands, before⟩ (Text.Utf8.encode name ++ rest) =
      readFrom size ⟨[], [], ⟨name, operands.reverse⟩ :: before⟩ rest := by
  have noImage : Progress.beginsImage ⟨[], operands, before⟩ (.keyword name) = false := by
    simp [Progress.beginsImage, keyword.noImage]
  exact readFrom_take (keyword.lexeme?_eq ends) noImage rfl

/-- A truth value is read back as one. -/
theorem lexeme?_bool (value : Bool) (ends : EndsWord rest) :
    lexeme? size (Text.Utf8.encode (if value then "true" else "false") ++ rest) =
      .ok (some (.value (.bool value), rest)) := by
  cases value with
  | true =>
    exact lexeme?_encode (by decide) (by decide) (by decide) ends
  | false =>
    exact lexeme?_encode (by decide) (by decide) (by decide) ends

theorem lexeme?_null (ends : EndsWord rest) :
    lexeme? size (Text.Utf8.encode "null" ++ rest) = .ok (some (.value .null, rest)) :=
  lexeme?_encode (by decide) (by decide) (by decide) ends

/-! ## Brackets -/

/-- The same progress inside of a frame that has been begun. -/
def Progress.within (progress : Progress) (frame : Frame) : Progress :=
  { progress with frames := frame :: progress.frames }

theorem readFrom_arrayStart :
    readFrom size progress (ascii '[' :: rest) = readFrom size (progress.within (.array [])) rest :=
  readFrom_take rfl rfl rfl

theorem readFrom_arrayEnd {items : List (Operand Numeral)}
    (pushed : progress.push (.array items.reverse) = .ok next) :
    readFrom size (progress.within (.array items)) (ascii ']' :: rest) = readFrom size next rest :=
  readFrom_take rfl rfl pushed

theorem readFrom_dictionaryStart :
    readFrom size progress (ascii '<' :: ascii '<' :: rest) =
      readFrom size (progress.within (.dictionary [] none)) rest :=
  readFrom_take rfl rfl rfl

theorem readFrom_dictionaryEnd {entries : List (String × Operand Numeral)}
    (pushed : progress.push (.dictionary entries.reverse) = .ok next) :
    readFrom size (progress.within (.dictionary entries none)) (ascii '>' :: ascii '>' :: rest) =
      readFrom size next rest :=
  readFrom_take rfl rfl pushed

/-! ## Operands -/

mutual

/-- An operand that is read is taken as a value, however it was written. -/
theorem WritesOperand.readFrom_eq {operand : Operand Literal} {word : Bytes}
    (written : WritesOperand operand word) (progress : Progress) {next : Progress} {rest : Bytes}
    (ends : EndsWord rest) (pushed : progress.push (operand.map Literal.numeral) = .ok next) :
    readFrom size progress (word ++ rest) = readFrom size next rest := by
  match written with
  | .number literal => exact readFrom_value (literal.lexeme?_bytes ends) pushed
  | .name written => exact readFrom_value (written.lexeme?_eq ends) pushed
  | .string written => exact readFrom_value (written.lexeme?_eq rest) pushed
  | .hexString written => exact readFrom_value (written.lexeme?_eq rest) pushed
  | .bool value => exact readFrom_value (lexeme?_bool value ends) pushed
  | .null => exact readFrom_value (lexeme?_null ends) pushed
  | .array written =>
    rw [List.cons_append, List.append_assoc, List.singleton_append, readFrom_arrayStart,
      written.readFrom_eq progress [] (.cons (by decide))]
    exact readFrom_arrayEnd (by rwa [List.append_nil, List.reverse_reverse])
  | .dictionary written =>
    rw [List.cons_append, List.cons_append, List.append_assoc, List.cons_append,
      List.singleton_append, readFrom_dictionaryStart,
      written.readFrom_eq progress [] (.cons (by decide))]
    exact readFrom_dictionaryEnd (by rwa [List.append_nil, List.reverse_reverse])

/-- The items of an array are put behind those that were read before. -/
theorem WritesItems.readFrom_eq {items : List (Operand Literal)} {text : Bytes}
    (written : WritesItems items text) (progress : Progress) (before : List (Operand Numeral))
    {rest : Bytes} (ends : EndsWord rest) :
    readFrom size (progress.within (.array before)) (text ++ rest) =
      readFrom size
        (progress.within (.array ((Operand.mapItems Literal.numeral items).reverse ++ before)))
        rest := by
  match written with
  | .nil => rfl
  | .blank blank later =>
    rw [List.cons_append, readFrom_blank blank]
    exact later.readFrom_eq progress before ends
  | .item written apart later =>
    rw [List.append_assoc, written.readFrom_eq _ (apart.append ends) rfl]
    refine (later.readFrom_eq progress _ ends).trans ?_
    rw [Operand.mapItems, List.reverse_cons, List.append_assoc, List.singleton_append]

/-- The entries of a dictionary are put behind those that were read before. -/
theorem WritesEntries.readFrom_eq {entries : List (String × Operand Literal)} {text : Bytes}
    (written : WritesEntries entries text) (progress : Progress)
    (before : List (String × Operand Numeral)) {rest : Bytes} (ends : EndsWord rest) :
    readFrom size (progress.within (.dictionary before none)) (text ++ rest) =
      readFrom size
        (progress.within
          (.dictionary ((Operand.mapEntries Literal.numeral entries).reverse ++ before) none))
        rest := by
  match written with
  | .nil => rfl
  | .blank blank later =>
    rw [List.cons_append, readFrom_blank blank]
    exact later.readFrom_eq progress before ends
  | @WritesEntries.entry key value entries name gap word text named blanks apart written apart'
      later =>
    have keyed : lexeme? size (ascii '/' :: name ++ (gap ++ (word ++ text)) ++ rest) =
        .ok (some (.value (.name key), gap ++ (word ++ (text ++ rest)))) := by
      have ends' := (apart.append apart').append ends
      simp only [List.append_assoc] at ends'
      simp only [List.append_assoc, List.cons_append]
      exact named.lexeme?_eq ends'
    rw [readFrom_value keyed rfl, readFrom_blanks blanks,
      written.readFrom_eq _ (apart'.append ends) rfl]
    refine (later.readFrom_eq progress _ ends).trans ?_
    rw [Operand.mapEntries, List.reverse_cons, List.append_assoc, List.singleton_append]

end

/-! ## Operators -/

/-- Operands in front of those of the first operator. -/
def behindOperands (operands : List (Operand Numeral)) (operators : List (Operator Numeral)) :
    List (Operator Numeral) :=
  operators.modifyHead fun operator => ⟨operator.name, operands ++ operator.operands⟩

theorem behindOperands_nil (operators : List (Operator Numeral)) :
    behindOperands [] operators = operators := by
  cases operators <;> rfl

/-- Reading operators puts them behind those that were read before, and the operands that wait in
front of those of the first one. -/
theorem WritesOperators.readFrom_eq {operators : List (Operator Literal)}
    (written : WritesOperators operators text) (waiting : List (Operand Numeral))
    (before : List (Operator Numeral)) :
    readFrom size ⟨[], waiting, before⟩ text =
      .ok (before.reverse ++ behindOperands waiting.reverse
        (operators.map (Operator.map Literal.numeral))) := by
  induction written generalizing waiting before with
  | nil =>
    rw [Content.readFrom_eq]
    simp [lexeme?, skip, Progress.finish, behindOperands]
  | blank blank later ih => rw [readFrom_blank blank, ih]
  | operand written ends later ih =>
    rw [written.readFrom_eq _ ends rfl, ih]
    simp [behindOperands, Operator.map]
  | @keyword name operators text keyword ends later ih =>
    rw [keyword.readFrom_eq ends]
    refine (ih [] _).trans ?_
    rw [List.reverse_nil, behindOperands_nil, List.reverse_cons, List.append_assoc,
      List.singleton_append]
    simp [behindOperands, Operator.map]

/-- **What is written is read.** However operators are written, they are read as they are, each
number among their operands as the decimal that is written, which stands for the number that is
written. -/
theorem operators_of_writes {operators : List (Operator Literal)} {text : Bytes}
    (written : WritesOperators operators text) :
    Content.operators text = .ok (operators.map (Operator.map Literal.numeral)) ∧
      Interpreter.operators text = .ok (operators.map (Operator.map Literal.value)) := by
  have read : Content.operators text = .ok (operators.map (Operator.map Literal.numeral)) := by
    refine (written.readFrom_eq [] []).trans ?_
    rw [List.reverse_nil, List.reverse_nil, List.nil_append, behindOperands_nil]
  have values : (Numeral.value : Numeral → ℝ) ∘ Literal.numeral = Literal.value :=
    funext Literal.value_numeral
  refine ⟨read, ?_⟩
  unfold Interpreter.operators
  rw [read]
  simp [Except.map, Function.comp_def, Operator.map_comp, ← values]

/-- An operator whose operand is an array with a dictionary among its items. -/
def nestedOperators : List (Operator Literal) :=
  [⟨"TJ", [.array [.number ⟨true, [], some [5], by decide⟩, .string [0x48], .name "A ",
    .dictionary [("B", .string [0x28, 0x28])]]]⟩]

/-- A way to write these: `[-.5<4 8>/A#20<</B(\(\050)>>] TJ`. -/
def nestedText : Bytes :=
  [0x5b, 0x2d, 0x2e, 0x35, 0x3c, 0x34, 0x20, 0x38, 0x3e, 0x2f, 0x41, 0x23, 0x32, 0x30, 0x3c, 0x3c,
    0x2f, 0x42, 0x28, 0x5c, 0x28, 0x5c, 0x30, 0x35, 0x30, 0x29, 0x3e, 0x3e, 0x5d, 0x20, 0x54, 0x4a]

/-- An array with a number that begins with its point, a string in hexadecimal with a blank, a name
with an escape, and a dictionary. -/
theorem writesOperators_nested : WritesOperators nestedOperators nestedText := by
  have string : WritesString [0x28, 0x28] [0x5c, 0x28, 0x5c, 0x30, 0x35, 0x30, 0x29] :=
    .escaped (by decide) (.octal .close)
  have key : WritesName (Text.Utf8.encode "B") [0x42] := .plain (by decide) (by decide) .nil
  have entries : WritesEntries [("B", .string [0x28, 0x28])]
      [0x2f, 0x42, 0x28, 0x5c, 0x28, 0x5c, 0x30, 0x35, 0x30, 0x29] :=
    .entry key (List.forall_mem_nil _) (.cons (by decide)) (.string string) .nil .nil
  have name : WritesName (Text.Utf8.encode "A ") [0x41, 0x23, 0x32, 0x30] :=
    .plain (by decide) (by decide) (.escaped ⟨2, 0, by decide, by decide, by decide⟩ .nil)
  have hex : WritesHex [0x48] [0x34, 0x20, 0x38, 0x3e] :=
    .byte ⟨4, 8, by decide, by decide, by decide⟩ (List.forall_mem_singleton.mpr (by decide)) .close
  have keyword : IsKeyword "TJ" :=
    ⟨by decide, by decide, by decide, by decide, by decide⟩
  have items : WritesItems [.number ⟨true, [], some [5], by decide⟩, .string [0x48], .name "A ",
      .dictionary [("B", .string [0x28, 0x28])]] _ :=
    .item (.number _) (.cons (by decide)) (.item (.hexString hex) (.cons (by decide))
      (.item (.name name) (.cons (by decide)) (.item (.dictionary entries) .nil .nil)))
  exact .operand (.array items) (.of_isBlank (by decide))
    (.blank (by decide) (.keyword keyword .nil .nil))

theorem operators_of_writes_nested :
    WritesOperators nestedOperators nestedText ∧
      Content.operators nestedText =
        .ok (nestedOperators.map (Operator.map Literal.numeral)) ∧
      Interpreter.operators nestedText = .ok (nestedOperators.map (Operator.map Literal.value)) :=
  ⟨writesOperators_nested, operators_of_writes writesOperators_nested⟩

end Content

end PlacedText
