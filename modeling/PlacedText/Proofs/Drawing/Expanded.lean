import PlacedText.Proofs.Drawing.Expansion
import PlacedText.Proofs.Drawing.Likeness
import PlacedText.Proofs.Store.Related
import Mathlib.Logic.Relation

/-! # Documents with compound text operators written out

A document is rewritten in the content of its pages and forms, where compound text operators become
simple ones (`Store.ExpandsTo`). Everything else is found alike in both documents, so a rewritten
page draws what the page did before (`Store.interpret_expanded`).
-/

namespace PlacedText

open Effect

variable {α : Type}

/-! ## Streams -/

/-- What a stream may have for its length or its filters. -/
inductive Object.IsCoding : Option Object → Prop
  | missing : IsCoding none
  | length (value : Int) : IsCoding (some (.integer value))
  | filter (name : Bytes) : IsCoding (some (.name name))
  | filters (items : List Object) : IsCoding (some (.array items))

namespace Dictionary

/-- Whether dictionaries are the same, but for the length of a stream and its filters. -/
def SameButCoding (entries entries' : Dictionary) : Prop :=
  ∀ name, entries.find? name = entries'.find? name ∨
    (name = "Length" ∨ name = "Filter") ∧
      Object.IsCoding (entries.find? name) ∧ Object.IsCoding (entries'.find? name)

theorem SameButCoding.refl (entries : Dictionary) : entries.SameButCoding entries :=
  fun _ => .inl rfl

theorem SameButCoding.find? {entries entries' : Dictionary} (same : entries.SameButCoding entries')
    {name : String} (length : name ≠ "Length") (filter : name ≠ "Filter") :
    entries.find? name = entries'.find? name := by
  rcases same name with same | ⟨rfl | rfl, -⟩
  · exact same
  · exact absurd rfl length
  · exact absurd rfl filter

/-- Whether a stream with this dictionary is a form. -/
abbrev IsForm (entries : Dictionary) : Prop :=
  (entries.find? "Subtype" >>= Object.name?) = some (Text.Utf8.encode "Form")

end Dictionary

variable [Scalar α]

/-- Whether a stream is another one that is written out. The content of a form is as it was or
written out, and it is coded in its own way. Another stream may have other data, such as a part of
the content of a page, unless it is read as a character map. -/
structure Store.ExpandsStream (α : Type) [Scalar α] (store : Store)
    (stream stream' : Dictionary × Bytes) : Prop where
  entries : stream.1.SameButCoding stream'.1
  form : stream.1.IsForm → SameAnswer (Relation.ReflGen (Content.ExpandsTo α))
    (store.decoded stream.1 stream.2) (store.decoded stream'.1 stream'.2)
  map : ¬stream.1.IsForm → Font.characterMap? store stream = Font.characterMap? store stream'

namespace Store.ExpandsStream

variable {store : Store} {stream stream' : Dictionary × Bytes}

/-- Every stream is written out by itself. -/
theorem refl (stream : Dictionary × Bytes) : store.ExpandsStream α stream stream where
  entries := .refl _
  form := by
    intro _
    cases store.decoded stream.1 stream.2 with
    | ok content => exact .ok .refl
    | error fault => exact .error fault
  map := fun _ => rfl

/-- A stream that is written out is the same character map. -/
theorem characterMap? (expands : store.ExpandsStream α stream stream') :
    Font.characterMap? store stream = Font.characterMap? store stream' := by
  by_cases form : stream.1.IsForm
  · have contents := expands.form form
    unfold Font.characterMap?
    revert contents
    generalize store.decoded stream.1 stream.2 = answer
    generalize store.decoded stream'.1 stream'.2 = answer'
    rintro (_ | fault)
    · next contents =>
      cases contents with
      | refl => rfl
      | single expands =>
        change (CMap.ofStream _).toOption = (CMap.ofStream _).toOption
        rw [CMap.ofStream_expands expands]
    · rfl
  · exact expands.map form

end Store.ExpandsStream

/-! ## Objects -/

/-- Whether an object is the same, or a stream that is written out. -/
inductive Object.ExpandsTo (α : Type) [Scalar α] (store : Store) : Object → Object → Prop
  | same (object : Object) : ExpandsTo α store object object
  | stream {entries entries' : Dictionary} {data data' : Bytes}
      (expands : store.ExpandsStream α (entries, data) (entries', data')) :
      ExpandsTo α store (.stream entries data) (.stream entries' data')

namespace Object.ExpandsTo

variable {store : Store} {object object' : Object} (expands : object.ExpandsTo α store object')

/-- An object may be written out as a stream only, never as a reference. -/
theorem keepsReferences : Object.KeepsReferences (Object.ExpandsTo α store) where
  refl := .same
  eq_of_left := by
    rintro next _ ⟨_⟩
    rfl
  eq_of_right := by
    rintro next _ ⟨_⟩
    rfl

include expands

theorem entriesOf :
    Option.Rel Dictionary.SameButCoding (Store.entriesOf object) (Store.entriesOf object') := by
  cases expands with
  | same => exact rel_refl .refl _
  | stream expands => exact .some expands.entries

theorem dictionary? :
    Option.Rel Dictionary.SameButCoding object.dictionary? object'.dictionary? := by
  cases expands with
  | same => exact rel_refl .refl _
  | stream => exact .none

theorem stream? : Option.Rel (store.ExpandsStream α) object.stream? object'.stream? := by
  cases expands with
  | same => exact rel_refl .refl _
  | stream expands => exact .some expands

end Object.ExpandsTo

/-! ## Documents -/

namespace Store

variable {store other : Store} {found found' : Dictionary}

/-- Whether a document is another one with forms and pages written out, the streams of which are
decoded alike. -/
structure ExpandsTo (α : Type) [Scalar α] (store other : Store) : Prop where
  decoders : store.decompress = other.decompress
  objects : store.RelatedBy (Object.ExpandsTo α store) other

theorem value?_of_coding {name : String} (coding : Object.IsCoding (found.find? name)) :
    store.value? found name >>= entriesOf = none ∧
      store.value? found name >>= Object.stream? = none := by
  unfold Store.value?
  generalize found.find? name = value? at coding
  cases coding <;> exact ⟨rfl, rfl⟩

namespace ExpandsTo

variable (expands : store.ExpandsTo α other)

include expands

theorem resolve (object : Object) :
    (store.resolve object).ExpandsTo α store (other.resolve object) :=
  RelatedBy.resolve expands.objects Object.ExpandsTo.keepsReferences object

theorem value? {name : String} (same : found.find? name = found'.find? name) :
    Option.Rel (Object.ExpandsTo α store) (store.value? found name) (other.value? found' name) :=
  RelatedBy.value? expands.objects Object.ExpandsTo.keepsReferences same

/-- What does not tell how a stream is coded is read alike. -/
theorem readsAlike {keys : List String}
    (different : ∀ key ∈ keys, key ≠ "Length" ∧ key ≠ "Filter") :
    ReadsAlike keys store other Dictionary.SameButCoding (Object.ExpandsTo α store) where
  value := fun _ _ same key read =>
    expands.value? (same.find? (different key read).1 (different key read).2)
  same := by
    rintro _ _ (_ | _)
    · exact .inl rfl
    · exact .inr ⟨rfl, rfl⟩
  entries := fun _ _ inner => inner.entriesOf
  dictionary := fun _ _ inner => inner.dictionary?
  item := fun _ _ _ item _ => expands.resolve item

/-- Fonts are read alike, as a written-out stream keeps its entries but for its coding, and its data
where it is a character map. -/
theorem font_readsAlike :
    Font.ReadsAlike store other Dictionary.SameButCoding (Object.ExpandsTo α store) where
  toReadsAlike := expands.readsAlike (by decide)
  characterMap := by
    intro _ _ inner
    refine bind_eq_of_rel inner.stream? fun _ _ stream => ?_
    rw [stream.characterMap?]
    unfold Font.characterMap?
    rw [decoded_congr expands.decoders]

section

variable (same : found.SameButCoding found') (name : String)

include same

/-- What stands under any name is found alike, or is no dictionary or stream. -/
theorem value?_bind {β : Type} {related : β → β → Prop} {field : Object → Option β}
    (alike : ∀ object object', Object.ExpandsTo α store object object' →
      Option.Rel related (field object) (field object'))
    (plain : ∀ store : Store, ∀ own : Dictionary, Object.IsCoding (own.find? name) →
      store.value? own name >>= field = none) :
    Option.Rel related (store.value? found name >>= field)
      (other.value? found' name >>= field) := by
  rcases same name with same | ⟨-, coding, coding'⟩
  · exact rel_bind (expands.value? same) alike
  · rw [plain store found coding, plain other found' coding']
    exact .none

theorem dictionary? :
    Option.Rel Dictionary.SameButCoding (store.dictionary? found name)
      (other.dictionary? found' name) :=
  expands.value?_bind same name (fun _ _ inner => inner.entriesOf) fun _ _ coding =>
    (value?_of_coding coding).1

theorem stream? :
    Option.Rel (store.ExpandsStream α) (store.value? found name >>= Object.stream?)
      (other.value? found' name >>= Object.stream?) :=
  expands.value?_bind same name (fun _ _ inner => inner.stream?) fun _ _ coding =>
    (value?_of_coding coding).2

end

/-! ## Pages -/

/-- Dictionaries are not written out. -/
theorem dictionary_eq (id : Nat) : store.dictionary id = other.dictionary id := by
  have objects := RelatedBy.object expands.objects Object.ExpandsTo.keepsReferences id
  unfold Store.dictionary
  revert objects
  generalize store.object id = answer
  generalize other.object id = answer'
  rintro (_ | fault)
  · next inner => cases inner <;> rfl
  · rfl

/-- The search for an attribute climbs the same nodes. -/
theorem inheritedFrom (key : String) (page levels node : Nat) :
    SameAnswer (Option.Rel (Object.ExpandsTo α store)) (store.inheritedFrom key page levels node)
      (other.inheritedFrom key page levels node) := by
  induction levels generalizing node with
  | zero => exact .error _
  | succ levels ih =>
    unfold Store.inheritedFrom
    rw [← expands.dictionary_eq]
    cases store.dictionary node with
    | error fault => exact .error _
    | ok entries =>
      dsimp only
      cases entries.find? key with
      | some value =>
        exact .ok (.some (expands.resolve value))
      | none =>
        dsimp only
        split
        · exact ih _
        · exact .ok .none

/-- The resources of a page are the same. -/
theorem pageResources_eq (page : Nat) : store.pageResources page = other.pageResources page := by
  have inherited := expands.inheritedFrom "Resources" page maxTreeLevels page
  unfold Store.pageResources Store.inherited
  revert inherited
  generalize store.inheritedFrom "Resources" page maxTreeLevels page = answer
  generalize other.inheritedFrom "Resources" page maxTreeLevels page = answer'
  rintro (@⟨value?, value'?, inner⟩ | fault)
  · cases inner with
    | none => rfl
    | some inner => cases inner <;> rfl
  · rfl

end ExpandsTo

end Store

/-! ## Courses -/

namespace Interpreter

variable {store other : Store} {options : ExtractOptions} {found found' : Dictionary}
  (expands : store.ExpandsTo α other) (same : found.SameButCoding found')

include expands same

/-- A name selects the same font among resources that are written out. -/
theorem fontNamed_expanded :
    (fontNamed ⟨store, options⟩ found : FontBook α) = fontNamed ⟨other, options⟩ found' := by
  funext name
  have font : Option.Rel Dictionary.SameButCoding (fontDictionary? ⟨store, options⟩ found name)
      (fontDictionary? ⟨other, options⟩ found' name) :=
    rel_bind (expands.dictionary? same "Font") fun _ _ listed => expands.dictionary? listed name
  unfold fontNamed
  revert font
  generalize fontDictionary? ⟨store, options⟩ found name = font?
  generalize fontDictionary? ⟨other, options⟩ found' name = font'?
  rintro (inner | _)
  · exact expands.font_readsAlike.ofDictionary_related inner name
  · rfl

theorem externalObject_expanded (name : String) :
    Option.Rel (store.ExpandsStream α) (externalObject? ⟨store, options⟩ found name)
      (externalObject? ⟨other, options⟩ found' name) :=
  rel_bind (expands.dictionary? same "XObject") fun _ _ listed => expands.stream? listed name

variable {streamCourse streamCourse' : Dictionary → Bytes → Course α}
  (streams : ∀ own own' content content', own.SameButCoding own' →
    Relation.ReflGen (Content.ExpandsTo α) content content' →
      (streamCourse own content).SplitsInto (streamCourse' own' content'))

include streams

/-- A form that is written out is split. -/
theorem splits_form {form form' : Dictionary} {data data' : Bytes}
    (written : store.ExpandsStream α (form, data) (form', data')) (isForm : form.IsForm) :
    (formCourse ⟨store, options⟩ streamCourse found form data).SplitsInto
      (formCourse ⟨other, options⟩ streamCourse' found' form' data') := by
  have matrix : (formMatrix? ⟨store, options⟩ form : Option (Transform α)) =
      formMatrix? ⟨other, options⟩ form' :=
    formMatrix?_eq (expands.readsAlike (by decide)) written.entries
  have own := rel_getD (expands.dictionary? written.entries "Resources") same
  have contents := written.form isForm
  unfold formCourse
  rw [matrix]
  dsimp only at contents ⊢
  revert contents
  rw [← Store.decoded_congr expands.decoders]
  generalize store.decoded form data = answer
  generalize store.decoded form' data' = answer'
  rintro (content | fault)
  · exact (Course.SplitsInto.refl _).andThen
      ((streams _ _ _ _ own content).andThen (.refl _))
  · exact .refl _

/-- What an action draws is split: fonts and states are the same, and an external object is a form
on both sides or on neither. -/
theorem splits_action (action : Action α) :
    (actionCourse ⟨store, options⟩ streamCourse found action).SplitsInto
      (actionCourse ⟨other, options⟩ streamCourse' found' action) := by
  cases action with
  | change change => exact .refl _
  | selectFont name size =>
    unfold actionCourse
    rw [fontNamed_expanded expands same]
    exact .refl _
  | showText bytes =>
    unfold actionCourse
    rw [fontNamed_expanded expands same]
    exact .refl _
  | invoke name =>
    have objects : Option.Rel (store.ExpandsStream α)
        (externalObject? ⟨store, options⟩ found name)
        (externalObject? ⟨other, options⟩ found' name) :=
      externalObject_expanded expands same name
    unfold actionCourse objectCourse
    dsimp only
    revert objects
    generalize externalObject? ⟨store, options⟩ found name = object?
    generalize externalObject? ⟨other, options⟩ found' name = object'?
    rintro (@⟨⟨form, data⟩, ⟨form', data'⟩, written⟩ | _)
    · have subtype : form.find? "Subtype" = form'.find? "Subtype" :=
        written.entries.find? (by decide) (by decide)
      dsimp only
      rw [← subtype]
      split
      · next isForm => exact splits_form expands same streams written isForm
      · exact .refl _
    · exact .refl _

omit same streams in
/-- **A content stream is split where it is written out**, in itself or in the forms it draws. By
induction on the depth that is left; a stream that is not written out itself may draw forms that
are. -/
theorem splits_stream (levels : Nat) {content content' : Bytes} (same : found.SameButCoding found')
    (written : Relation.ReflGen (Content.ExpandsTo α) content content') :
    (Interpreter.streamCourse ⟨store, options⟩ levels found content : Course α).SplitsInto
      (Interpreter.streamCourse ⟨other, options⟩ levels found' content') := by
  induction levels generalizing found found' content content' with
  | zero => exact .refl _
  | succ levels ih =>
    have actions (action : Action α) :
        (actionCourse ⟨store, options⟩ (Interpreter.streamCourse ⟨store, options⟩ levels) found
          action).SplitsInto
            (actionCourse ⟨other, options⟩ (Interpreter.streamCourse ⟨other, options⟩ levels) found'
              action) :=
      splits_action expands same (fun _ _ _ _ same written => ih same written) action
    unfold Interpreter.streamCourse
    cases written with
    | refl =>
      cases (operators content : Except SyntaxFault (List (Operator α))) with
      | error fault => exact .refl _
      | ok operators =>
        exact Course.SplitsInto.all operators fun operator =>
          (Course.SplitsInto.refl _).andThen (Course.SplitsInto.all _ actions)
    | single written =>
      obtain ⟨operators, read, read'⟩ := written
      rw [read, read']
      exact splits_operators operators actions

end Interpreter

/-! ## Pages -/

/-- **Compound text operators agree with what they stand for.** If `x y TD`, `s '` and `w c s "` are
written out as `-y TL x y Td`, `T* s Tj` and `w Tw c Tc T* s Tj` in the content of a page and of
forms, the page shows the same glyphs and ends in the same drawing state, and with the same end of
the program or fault if it ends with one, unless there are too many operators then. -/
theorem Store.interpret_expanded {store other : Store} {options : ExtractOptions} {page : Nat}
    (expands : store.ExpandsTo α other)
    (content : SameAnswer (Content.ExpandsTo α) (store.pageContent page) (other.pageContent page))
    (within : ∀ executed, (other.interpret options page : Recording α × Option ReadFault).2 ≠
      some (Interpreter.overBudget ⟨other, options⟩ executed)) :
    let recorded : Recording α × Option ReadFault := store.interpret options page
    let recorded' : Recording α × Option ReadFault := other.interpret options page
    recorded.1.glyphs = recorded'.1.glyphs ∧ recorded.1.drawing = recorded'.1.drawing ∧
      recorded.1.abort? = recorded'.1.abort? ∧ recorded.2 = recorded'.2 := by
  have splits : (Interpreter.pageCourse (α := α) ⟨store, options⟩ page).SplitsInto
      (Interpreter.pageCourse ⟨other, options⟩ page) := by
    unfold Interpreter.pageCourse
    dsimp only
    rw [← expands.pageResources_eq]
    revert content
    generalize store.pageContent page = answer
    generalize other.pageContent page = answer'
    rintro (written | fault)
    · dsimp only
      cases store.pageResources page with
      | error fault => exact .refl _
      | ok resources =>
        exact Interpreter.splits_stream expands _ (.refl resources) (.single written)
    · exact .refl _
  obtain ⟨drawn, ended⟩ := interpret_of_splits splits within
  exact ⟨drawn.glyphs, drawn.drawing, drawn.abort, ended⟩

/-! ## A page with a form -/

namespace Store

variable {content form content' form' : Bytes}

/-- The resources of a page that draws a form. -/
def formResources : Dictionary :=
  [(Text.Utf8.encode "XObject", .dictionary [(Text.Utf8.encode "G", .reference 3)])]

/-- A document of one page with one form. -/
def ofForm (content form : Bytes) : Store :=
  .ofObjects
    [(1, .dictionary [(Text.Utf8.encode "Contents", .reference 2),
        (Text.Utf8.encode "Resources", .dictionary formResources)]),
      (2, .stream [] content),
      (3, .stream [(Text.Utf8.encode "Subtype", .name (Text.Utf8.encode "Form"))] form)] []

/-- The document is written out if its page and its form are. -/
theorem expandsTo_ofForm (written : Content.ExpandsTo α content content')
    (writtenForm : Content.ExpandsTo α form form') :
    (ofForm content form).ExpandsTo α (ofForm content' form') := by
  refine ⟨rfl, fun id => ?_⟩
  unfold ofForm Store.ofObjects
  simp only [List.foldl_cons, List.foldl_nil, Store.getElem?_insert]
  split
  · refine .some (.stream ⟨.refl _, fun _ => .ok (.single writtenForm), fun notForm => ?_⟩)
    exact absurd rfl notForm
  split
  · refine .some (.stream ⟨.refl _, (nomatch ·), fun _ => ?_⟩)
    change (CMap.ofStream content).toOption = (CMap.ofStream content').toOption
    rw [CMap.ofStream_expands written]
  split
  · exact .some (.same _)
  · exact .none

open Interpreter in
/-- The course of the page, which draws the form at its end. -/
theorem pageCourse_ofForm {before inner : List (Operator Numeral)}
    (read : Content.operators content = .ok (before ++ [⟨"Do", [.name "G"]⟩]))
    (readForm : Content.operators form = .ok inner) :
    let interpreter : Interpreter := ⟨ofForm content form, .standard⟩
    (interpreter.pageCourse 1 : Course α) =
      (interpreter.operatorsCourse (interpreter.streamCourse 10) formResources
        (before.map (Operator.map Numeral.value))).andThen
          ((Course.of [.operator, .change .save]).andThen
            ((interpreter.operatorsCourse (interpreter.streamCourse 9) formResources
              (inner.map (Operator.map Numeral.value))).andThen (.of [.change .restore]))) := by
  intro interpreter
  have page : interpreter.pageCourse (α := α) 1 =
      interpreter.streamCourse 11 formResources content := rfl
  have object : interpreter.objectCourse (interpreter.streamCourse (α := α) 10) formResources "G" =
      (Course.of [.change .save]).andThen
        ((interpreter.streamCourse 10 formResources form).andThen (.of [.change .restore])) := rfl
  have drawn : interpreter.operatorsCourse (interpreter.streamCourse 10) formResources
      [(⟨"Do", [.name "G"]⟩ : Operator α)] = ((Course.of [.operator]).andThen
        ((interpreter.objectCourse (interpreter.streamCourse 10) formResources "G").andThen
          (.of []))).andThen (.of []) := rfl
  have reads : (operators content : Except SyntaxFault (List (Operator α))) =
      .ok (before.map (Operator.map Numeral.value) ++ [⟨"Do", [.name "G"]⟩]) := by
    rw [operators, read, Except.map, List.map_append]
    rfl
  have readsForm : (operators form : Except SyntaxFault (List (Operator α))) =
      .ok (inner.map (Operator.map Numeral.value)) := by
    rw [operators, readForm]
    rfl
  rw [page, streamCourse, reads]
  dsimp only
  rw [operatorsCourse_append, drawn, object, streamCourse, readsForm, Course.andThen_nil,
    Course.andThen_nil, ← Course.andThen_assoc (.of [.operator])]
  rfl

end Store

namespace Content

/-- `/F 1 Tf 0 -1 TD(a)'/G Do` -/
def compoundText : Bytes :=
  [0x2f, 0x46, 0x20, 0x31, 0x20, 0x54, 0x66, 0x20, 0x30, 0x20, 0x2d, 0x31, 0x20, 0x54, 0x44, 0x28,
    0x61, 0x29, 0x27, 0x2f, 0x47, 0x20, 0x44, 0x6f]

/-- `/F 1 Tf 1 TL 0 -1 Td T*(a)Tj/G Do` -/
def simpleText : Bytes :=
  [0x2f, 0x46, 0x20, 0x31, 0x20, 0x54, 0x66, 0x20, 0x31, 0x20, 0x54, 0x4c, 0x20, 0x30, 0x20, 0x2d,
    0x31, 0x20, 0x54, 0x64, 0x20, 0x54, 0x2a, 0x28, 0x61, 0x29, 0x54, 0x6a, 0x2f, 0x47, 0x20, 0x44,
    0x6f]

/-- `1 2(b)"` -/
def compoundForm : Bytes :=
  [0x31, 0x20, 0x32, 0x28, 0x62, 0x29, 0x22]

/-- `1 Tw 2 Tc T*(b)Tj` -/
def simpleForm : Bytes :=
  [0x31, 0x20, 0x54, 0x77, 0x20, 0x32, 0x20, 0x54, 0x63, 0x20, 0x54, 0x2a, 0x28, 0x62, 0x29, 0x54,
    0x6a]

theorem operators_simpleText : Content.operators simpleText = .ok
    ([⟨"Tf", [.name "F", .number ⟨false, 1, 0⟩]⟩, ⟨"TL", [.number ⟨false, 1, 0⟩]⟩,
      ⟨"Td", [.number ⟨false, 0, 0⟩, .number ⟨true, 1, 0⟩]⟩, ⟨"T*", []⟩,
      ⟨"Tj", [.string [0x61]]⟩] ++ [⟨"Do", [.name "G"]⟩]) := by
  iterate 13 refine (Content.readFrom_take rfl rfl rfl).trans ?_
  rw [Content.readFrom_eq]
  rfl

theorem operators_simpleForm : Content.operators simpleForm = .ok
    [⟨"Tw", [.number ⟨false, 1, 0⟩]⟩, ⟨"Tc", [.number ⟨false, 2, 0⟩]⟩, ⟨"T*", []⟩,
      ⟨"Tj", [.string [0x62]]⟩] := by
  iterate 7 refine (Content.readFrom_take rfl rfl rfl).trans ?_
  rw [Content.readFrom_eq]
  rfl

/-- Two operators of the compound text are written out, the strings and numbers stay. -/
theorem expandsTo_simpleText : ExpandsTo ℝ compoundText simpleText := by
  have read : Content.operators compoundText = .ok [⟨"Tf", [.name "F", .number ⟨false, 1, 0⟩]⟩,
      ⟨"TD", [.number ⟨false, 0, 0⟩, .number ⟨true, 1, 0⟩]⟩, ⟨"'", [.string [0x61]]⟩,
      ⟨"Do", [.name "G"]⟩] := by
    iterate 10 refine (Content.readFrom_take rfl rfl rfl).trans ?_
    rw [Content.readFrom_eq]
    rfl
  refine ⟨_, by rw [Interpreter.operators, read]; rfl, ?_⟩
  rw [Interpreter.operators, operators_simpleText]
  simp [Except.map, Operator.map, Operand.map, Operator.expanded, Numeral.value]

/-- The form is written out by the operators that its compound ones abbreviate. -/
theorem expandsTo_simpleForm : ExpandsTo ℝ compoundForm simpleForm := by
  have read : Content.operators compoundForm =
      .ok [⟨"\"", [.number ⟨false, 1, 0⟩, .number ⟨false, 2, 0⟩, .string [0x62]]⟩] := by
    iterate 4 refine (Content.readFrom_take rfl rfl rfl).trans ?_
    rw [Content.readFrom_eq]
    rfl
  refine ⟨_, by rw [Interpreter.operators, read]; rfl, ?_⟩
  rw [Interpreter.operators, operators_simpleForm]
  rfl

end Content

/-- A page and its form, each with a string on a line of its own. -/
theorem Store.interpret_expanded_ofForm :
    let recorded : Recording ℝ × Option ReadFault :=
      (ofForm Content.compoundText Content.compoundForm).interpret .standard 1
    let recorded' : Recording ℝ × Option ReadFault :=
      (ofForm Content.simpleText Content.simpleForm).interpret .standard 1
    recorded.1.glyphs = recorded'.1.glyphs ∧ recorded.1.drawing = recorded'.1.drawing ∧
      recorded.1.abort? = recorded'.1.abort? ∧ recorded.2 = recorded'.2 ∧
      recorded'.1.glyphs.size = 2 := by
  intro recorded recorded'
  have course := pageCourse_ofForm (α := ℝ) Content.operators_simpleText
    Content.operators_simpleForm
  have counted : (Interpreter.pageCourse (α := ℝ)
      ⟨ofForm Content.simpleText Content.simpleForm, .standard⟩ 1).operators = 10 := by
    rw [course]
    rfl
  obtain ⟨ended, shown⟩ := interpret_of_le (α := ℝ) (counted.le.trans (by decide))
  have fault : recorded'.2 = none := by
    refine ended.trans ?_
    rw [course]
    rfl
  have size : recorded'.1.glyphs.size = 2 := by
    rw [shown.glyphs, course]
    rfl
  have contents : SameAnswer (Content.ExpandsTo ℝ)
      ((ofForm Content.compoundText Content.compoundForm).pageContent 1)
      ((ofForm Content.simpleText Content.simpleForm).pageContent 1) :=
    .ok Content.expandsTo_simpleText
  have within (executed : Nat) : recorded'.2 ≠ some (Interpreter.overBudget
      ⟨ofForm Content.simpleText Content.simpleForm, .standard⟩ executed) :=
    fun exceeded => nomatch fault.symm.trans exceeded
  obtain ⟨glyphs, drawing, abort, same⟩ := interpret_expanded
    (expandsTo_ofForm Content.expandsTo_simpleText Content.expandsTo_simpleForm) contents within
  exact ⟨glyphs, drawing, abort, same, size⟩

end PlacedText
