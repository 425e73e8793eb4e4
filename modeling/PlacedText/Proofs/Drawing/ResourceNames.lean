import PlacedText.Proofs.Content.RoundTrip
import PlacedText.Drawing.Recording

/-! # Names of resources

The bytes of a name in a content stream are decoded to text, whether or not they are valid, and the
text is encoded again to be looked up among the resources (`resourceKey`). So a name stands for the
entry with its own bytes if and only if they are valid, and entries with other bytes cannot be named
(`Interpreter.resources_of_writesName`).
-/

namespace PlacedText

/-- The bytes by which a name in a content stream is looked up among the resources. -/
def resourceKey (name : Bytes) : Bytes := Text.Utf8.encode (Text.Utf8.decodeLossy name)

/-- A name is looked up by its own bytes if and only if they encode some text. -/
theorem resourceKey_eq_self_iff {name : Bytes} :
    resourceKey name = name ↔ ∃ word, Text.Utf8.encode word = name := by
  constructor
  · exact fun same => ⟨_, same⟩
  · rintro ⟨word, rfl⟩
    exact congrArg Text.Utf8.encode (Text.Utf8.decodeLossy_encode word)

/-- Names are looked up by the same bytes if and only if they are decoded to the same text. -/
theorem resourceKey_inj {first second : Bytes} :
    resourceKey first = resourceKey second ↔
      Text.Utf8.decodeLossy first = Text.Utf8.decodeLossy second := by
  constructor
  · intro same
    have decoded := congrArg Text.Utf8.decodeLossy same
    rwa [resourceKey, resourceKey, Text.Utf8.decodeLossy_encode,
      Text.Utf8.decodeLossy_encode] at decoded
  · exact congrArg Text.Utf8.encode

/-! ## What is read -/

namespace Content

/-- The actions of a content stream. -/
def actions (α : Type) [Scalar α] (content : Bytes) : Except SyntaxFault (List (Action α)) :=
  (Interpreter.operators content).map fun operators => operators.flatMap Action.ofOperator

/-- `/name size Tf`, for a name that is written in some way. -/
def selectionText (text : Bytes) (size : Literal) : Bytes :=
  ascii '/' :: (text ++ 0x20 :: (size.bytes ++ 0x20 :: Text.Utf8.encode "Tf"))

/-- `/name Do`. -/
def invocationText (text : Bytes) : Bytes :=
  ascii '/' :: (text ++ 0x20 :: Text.Utf8.encode "Do")

variable {name text rest : Bytes}

/-- However a name is spelled, the operator that selects a font gets the name as it is decoded. -/
theorem toOption_operators_selectionText (written : WritesName name text) (size : Literal)
    (ends : EndsWord rest) :
    (operators (selectionText text size ++ rest)).toOption = (operators rest).toOption.map
      (⟨"Tf", [.name (Text.Utf8.decodeLossy name), .number size.numeral]⟩ :: ·) := by
  have blank : isBlank 0x20 := by decide
  have keyword : IsKeyword "Tf" := ⟨by decide, by decide, by decide, by decide, by decide⟩
  unfold operators selectionText Progress.start
  simp only [List.cons_append, List.append_assoc]
  rw [readFrom_value (written.lexeme?_decodeLossy (.of_isBlank blank)) rfl, readFrom_blank blank,
    readFrom_value (size.lexeme?_bytes (.of_isBlank blank)) rfl, readFrom_blank blank,
    keyword.readFrom_eq ends, toOption_readFrom_content]
  rfl

/-- However a name is spelled, the operator that draws an object gets the name as it is decoded. -/
theorem toOption_operators_invocationText (written : WritesName name text)
    (ends : EndsWord rest) :
    (operators (invocationText text ++ rest)).toOption = (operators rest).toOption.map
      (⟨"Do", [.name (Text.Utf8.decodeLossy name)]⟩ :: ·) := by
  have blank : isBlank 0x20 := by decide
  have keyword : IsKeyword "Do" := ⟨by decide, by decide, by decide, by decide, by decide⟩
  unfold operators invocationText Progress.start
  simp only [List.cons_append, List.append_assoc]
  rw [readFrom_value (written.lexeme?_decodeLossy (.of_isBlank blank)) rfl, readFrom_blank blank,
    keyword.readFrom_eq ends, toOption_readFrom_content]
  rfl

variable {α : Type} [Scalar α]

/-- Content with an operator in front has the actions of the operator in front of its own. -/
theorem toOption_actions {content content' : Bytes} {operator : Operator Numeral}
    (read : (operators content').toOption = (operators content).toOption.map (operator :: ·)) :
    (actions α content').toOption = (actions α content).toOption.map
      (Action.ofOperator (operator.map Numeral.value) ++ ·) := by
  unfold actions Interpreter.operators
  rw [toOption_map, toOption_map, toOption_map, toOption_map, read]
  simp only [Option.map_map, Function.comp_def, List.map_cons, List.flatMap_cons]

/-- **A name that is written in some way selects a font, or invokes an object, by its text.** -/
theorem actions_of_writesName (written : WritesName name text) (size : Literal)
    (ends : EndsWord rest) :
    (actions α (selectionText text size ++ rest)).toOption = (actions α rest).toOption.map
        (.selectFont (Text.Utf8.decodeLossy name) size.numeral.value :: ·) ∧
      (actions α (invocationText text ++ rest)).toOption = (actions α rest).toOption.map
        (.invoke (Text.Utf8.decodeLossy name) :: ·) :=
  ⟨toOption_actions (toOption_operators_selectionText written size ends),
    toOption_actions (toOption_operators_invocationText written ends)⟩

end Content

/-! ## What is looked up -/

namespace Interpreter

variable {α : Type} [Scalar α]

/-- The entry with some bytes in a category of resources. -/
def resourceAt? (interpreter : Interpreter) (resources : Dictionary) (category : String)
    (key : Bytes) : Option Object := do
  let entries ← interpreter.store.dictionary? resources category
  interpreter.store.entryAt? entries key

/-- Whether a name stands for the entries with some bytes among the resources. A font that a stream
has used under the name is found again; one that it has not used is the font of the entry, or else
is reported and replaced. Using it is to find it and to note whether it ends the program. -/
structure LooksUp (α : Type) [Scalar α] (interpreter : Interpreter) (resources : Dictionary)
    (name : String) (key : Bytes) : Prop where
  object : interpreter.externalObject? resources name =
    interpreter.resourceAt? resources "XObject" key >>= Object.stream?
  again : ∀ {index : Nat} {table : FontTable α} {font : Font α}, table[name]? = some font →
    interpreter.findFont resources index table name = pure (font, table)
  found : ∀ {index : Nat} {table : FontTable α} {dictionary : Dictionary}, table[name]? = none →
    interpreter.resourceAt? resources "Font" key >>= Store.entriesOf = some dictionary →
      interpreter.findFont resources index table name =
        let font := Font.ofDictionary interpreter.store dictionary name
        pure (font, table.insert name font)
  missing : ∀ {index : Nat} {table : FontTable α}, table[name]? = none →
    interpreter.resourceAt? resources "Font" key >>= Store.entriesOf = none →
      interpreter.findFont resources index table name = do
        interpreter.warn <|
          (Warning.of .missingFont "font not found in page resources").atOperator index name
        return (.fallback name, table.insert name (.fallback name))
  use : ∀ {index : Nat} {table : FontTable α},
    interpreter.useFont resources index table name = do
      let (font, table) ← interpreter.findFont resources index table name
      modify (Recording.noting font.abort?)
      return (font, table)

theorem fontDictionary?_eq (interpreter : Interpreter) (resources : Dictionary) (name : String) :
    interpreter.fontDictionary? resources name =
      interpreter.resourceAt? resources "Font" (Text.Utf8.encode name) >>= Store.entriesOf := by
  unfold fontDictionary? resourceAt?
  rw [bind_assoc]
  rfl

/-- A text stands for the entries with the bytes that encode it. -/
theorem looksUp (interpreter : Interpreter) (resources : Dictionary) (name : String) :
    interpreter.LooksUp α resources name (Text.Utf8.encode name) where
  object := by
    unfold externalObject? resourceAt?
    rw [bind_assoc]
    rfl
  again := by
    intro index table font known
    unfold findFont
    rw [known]
  found := by
    intro index table dictionary new present
    rw [← fontDictionary?_eq] at present
    unfold findFont
    rw [new, present]
  missing := by
    intro index table new absent
    rw [← fontDictionary?_eq] at absent
    unfold findFont
    rw [new, absent]
  use := rfl

/-- **What the names of a content stream stand for.** However the bytes of a name are written, the
name stands for the entries with the bytes that its text is encoded to. These are its own bytes if
and only if they are valid, names with the same text stand for the same entries, and no name stands
for an entry with bytes that are not valid. -/
theorem resources_of_writesName {name text : Bytes} (written : Content.WritesName name text) :
    (∀ {size : Content.Literal} {rest : Bytes}, Content.EndsWord rest →
      (Content.actions α (Content.selectionText text size ++ rest)).toOption =
          (Content.actions α rest).toOption.map
            (.selectFont (Text.Utf8.decodeLossy name) size.numeral.value :: ·) ∧
        (Content.actions α (Content.invocationText text ++ rest)).toOption =
          (Content.actions α rest).toOption.map (.invoke (Text.Utf8.decodeLossy name) :: ·)) ∧
    (∀ interpreter resources,
      LooksUp α interpreter resources (Text.Utf8.decodeLossy name) (resourceKey name)) ∧
    (resourceKey name = name ↔ ∃ word, Text.Utf8.encode word = name) ∧
    (∀ other, resourceKey other = resourceKey name ↔
      Text.Utf8.decodeLossy other = Text.Utf8.decodeLossy name) ∧
    ((∃ other, resourceKey other = name) → ∃ word, Text.Utf8.encode word = name) :=
  ⟨Content.actions_of_writesName written _, fun interpreter resources =>
    interpreter.looksUp resources _, resourceKey_eq_self_iff, fun _ => resourceKey_inj,
    fun ⟨_, same⟩ => ⟨_, same⟩⟩

/-- `/#FF`, the name of a byte that is not valid, stands for what `/#FE` stands for: the entry with
the three bytes of the replacement character. -/
theorem resources_of_writesName_of_invalid :
    Content.WritesName [0xff] [0x23, 0x46, 0x46] ∧ resourceKey [0xff] ≠ [0xff] ∧
      resourceKey [0xfe] = resourceKey [0xff] ∧
      ∀ interpreter resources,
        LooksUp Float interpreter resources (Text.Utf8.decodeLossy [0xff]) [0xef, 0xbf, 0xbd] := by
  have written : Content.WritesName [0xff] [0x23, 0x46, 0x46] :=
    .escaped ⟨15, 15, by decide, by decide, by decide⟩ .nil
  obtain ⟨-, looksUp, -, same, -⟩ := resources_of_writesName (α := Float) written
  have key : resourceKey [0xff] = [0xef, 0xbf, 0xbd] := by decide
  rw [key] at looksUp
  exact ⟨written, by decide, (same [0xfe]).mpr (by decide), looksUp⟩

end Interpreter

end PlacedText
