import PlacedText.Proofs.Drawing.Likeness
import PlacedText.Proofs.Store.Twins

/-! # Drawing from two edits of one store

Interpreters that find the same fonts and forms run the same computations, warnings and faults
included (`Interpreter.Mirrors.runStream_eq`), and they do if their stores are looked into alike
(`Interpreter.LooksAlike.mirrors`). So are the edits of one store that put something in front of the
content of a page (`Interpreter.looksAlike_of_twins`), so that a page of the same content is
interpreted the same in both (`Store.Twins.interpret_eq`).
-/

namespace PlacedText

open Effect

variable {α : Type} [Scalar α] {store : Store}

namespace Interpreter

/-! ## Mirrors run the same computations -/

section

variable {first second : Interpreter} {resources : Dictionary → Dictionary → Prop}
  {found found' : Dictionary} {runStream runStream' : Dictionary → Bytes → Interpretation α Unit}

/-- Whether two ways to run a stream are the same for related resources. -/
def RunAlike (resources : Dictionary → Dictionary → Prop)
    (runStream runStream' : Dictionary → Bytes → Interpretation α Unit) : Prop :=
  ∀ own own', resources own own' → runStream own = runStream' own'

namespace Mirrors

variable (mirrors : Mirrors α first second resources) (related : resources found found')

include mirrors

theorem warn_eq (warning : Warning) :
    (first.warn warning : Interpretation α Unit) = second.warn warning := by
  unfold warn
  rw [mirrors.options]

theorem charge_eq : (first.charge : Interpretation α Unit) = second.charge := by
  unfold charge overBudget
  rw [mirrors.options]

include related

/-- A font is looked up alike: it is entered in both tables, found in both or missing in both. -/
theorem findFont_eq (index : Nat) (fonts : FontTable α) (name : String) :
    first.findFont found index fonts name = second.findFont found' index fonts name := by
  have same := mirrors.font found found' related name
  unfold findFont
  cases fonts[name]? with
  | some font => rfl
  | none =>
    dsimp only
    rw [mirrors.warn_eq]
    revert same
    cases first.fontDictionary? found name with
    | none =>
      cases second.fontDictionary? found' name with
      | none => exact fun _ => rfl
      | some font' => exact fun same => nomatch same
    | some font =>
      cases second.fontDictionary? found' name with
      | none => exact fun same => nomatch same
      | some font' =>
        intro same
        have loaded : Font.ofDictionary first.store font name =
            Font.ofDictionary second.store font' name := Option.some.inj same
        dsimp only
        rw [loaded]

theorem useFont_eq (index : Nat) (fonts : FontTable α) (name : String) :
    first.useFont found index fonts name = second.useFont found' index fonts name := by
  unfold useFont
  rw [mirrors.findFont_eq related]

/-- An external object is drawn alike, if streams with related resources are run alike. -/
theorem invoke_eq (ran : RunAlike resources runStream runStream') (name : String) :
    first.invoke runStream found name = second.invoke runStream' found' name := by
  unfold invoke
  rw [← mirrors.externalObject found found' related name, mirrors.warn_eq]
  cases here : first.externalObject? found name with
  | none => rfl
  | some object =>
    obtain ⟨form, data⟩ := object
    have matrix := mirrors.formMatrix found found' related name form data here
    have own := mirrors.formResources found found' related name form data here
    have run := ran _ _ (rel_getD own related)
    unfold runForm
    dsimp only
    rw [matrix, run, Store.decoded_congr mirrors.decoders]

/-- An action is performed alike, if streams with related resources are run alike. -/
theorem perform_eq (ran : RunAlike resources runStream runStream') (index : Nat)
    (fonts : FontTable α) (action : Action α) :
    first.perform runStream found index fonts action =
      second.perform runStream' found' index fonts action := by
  cases action with
  | change change => rfl
  | selectFont name size =>
    unfold perform
    dsimp only
    rw [mirrors.useFont_eq related]
  | showText bytes =>
    unfold perform
    simp only [mirrors.useFont_eq related, mirrors.options]
  | invoke name =>
    unfold perform
    dsimp only
    rw [mirrors.invoke_eq related ran]

/-- Operators are run alike from any place in a stream. By induction on the operators. -/
theorem runOperators_eq (ran : RunAlike resources runStream runStream') (index : Nat)
    (fonts : FontTable α) (operators : List (Operator α)) :
    first.runOperators runStream found index fonts operators =
      second.runOperators runStream' found' index fonts operators := by
  induction operators generalizing index fonts with
  | nil => rfl
  | cons operator operators ih =>
    have performed : first.perform runStream found index =
        second.perform runStream' found' index :=
      funext fun fonts => funext fun action => mirrors.perform_eq related ran index fonts action
    unfold runOperators execute
    rw [mirrors.charge_eq, performed]
    simp only [ih]

omit related in
/-- **Interpreters that mirror each other run the same computations.** -/
theorem runStream_eq (levels : Nat) :
    RunAlike resources (first.runStream (α := α) levels) (second.runStream levels) := by
  induction levels with
  | zero =>
    intro own own' related
    funext content
    unfold runStream
    rw [mirrors.options]
  | succ levels ih =>
    intro own own' related
    funext content
    unfold runStream
    cases (operators content : Except SyntaxFault (List (Operator α))) with
    | error fault => rfl
    | ok operators => exact mirrors.runOperators_eq related ih 0 ∅ operators

end Mirrors

end

/-- A page of the same content and related resources is interpreted the same. -/
theorem Mirrors.interpret_eq {first second : Store} {options : ExtractOptions}
    {resources : Dictionary → Dictionary → Prop}
    (mirrors : Mirrors α ⟨first, options⟩ ⟨second, options⟩ resources) {page : Nat}
    (content : first.pageContent page = second.pageContent page)
    (found : SameAnswer resources (first.pageResources page) (second.pageResources page)) :
    (first.interpret options page : Recording α × Option ReadFault) =
      second.interpret options page := by
  have ran := mirrors.runStream_eq (options.maxDepth + 1)
  have same : (runPage ⟨first, options⟩ page : Interpretation α Unit) =
      runPage ⟨second, options⟩ page := by
    unfold runPage
    dsimp only
    rw [← content]
    revert found
    generalize first.pageResources page = answer
    generalize second.pageResources page = answer'
    rintro (@⟨own, own', related⟩ | fault)
    · dsimp only
      rw [ran own own' related]
    · rfl
  unfold Store.interpret
  rw [same]

/-! ## Looking up alike -/

/-- Whether related dictionaries of two stores are looked into alike: what is a dictionary under
some name is related again, what is a stream is the same, is decoded alike and its entries are read
alike, and they are loaded as the same font. -/
structure LooksAlike (α : Type) [Scalar α] (first second : Store)
    (related : Dictionary → Dictionary → Prop) : Prop where
  decoders : first.decompress = second.decompress
  dictionary : ∀ own own', related own own' → ∀ name,
    Option.Rel related (first.dictionary? own name) (second.dictionary? own' name)
  stream : ∀ own own', related own own' → ∀ name,
    first.value? own name >>= Object.stream? = second.value? own' name >>= Object.stream?
  form : ∀ own own', related own own' → ∀ name form data,
    first.value? own name >>= Object.stream? = some (form, data) → related form form ∧
      ∀ options, (formMatrix? ⟨first, options⟩ form : Option (Transform α)) =
        formMatrix? ⟨second, options⟩ form
  font : ∀ own own', related own own' → ∀ name,
    (Font.ofDictionary first own name : Font α) = Font.ofDictionary second own' name

namespace LooksAlike

variable {first second : Store} {related : Dictionary → Dictionary → Prop}
  {options : ExtractOptions} {resources resources' : Dictionary}
  (looks : LooksAlike α first second related) (same : related resources resources')

include looks same

/-- Twins name the same fonts, as no key of a font is that of the contents. -/
theorem fontDictionary (name : String) :
    ((fontDictionary? ⟨first, options⟩ resources name).map fun font =>
        (Font.ofDictionary first font name : Font α)) =
      (fontDictionary? ⟨second, options⟩ resources' name).map fun font =>
        Font.ofDictionary second font name := by
  have font : Option.Rel related (fontDictionary? ⟨first, options⟩ resources name)
      (fontDictionary? ⟨second, options⟩ resources' name) :=
    rel_bind (looks.dictionary resources resources' same "Font") fun fonts fonts' listed =>
      looks.dictionary fonts fonts' listed name
  revert font
  generalize fontDictionary? ⟨first, options⟩ resources name = font?
  generalize fontDictionary? ⟨second, options⟩ resources' name = font'?
  rintro (@⟨font, font', found⟩ | _)
  · rw [Option.map_some, Option.map_some, looks.font font font' found]
  · rfl

/-- An external object is the same, and is read alike. -/
theorem externalObject (name : String) :
    externalObject? ⟨first, options⟩ resources name =
        externalObject? ⟨second, options⟩ resources' name ∧
      ∀ form data, externalObject? ⟨first, options⟩ resources name = some (form, data) →
        related form form ∧ ∀ options, (formMatrix? ⟨first, options⟩ form : Option (Transform α)) =
          formMatrix? ⟨second, options⟩ form := by
  have category := looks.dictionary resources resources' same "XObject"
  unfold externalObject?
  dsimp only
  revert category
  generalize first.dictionary? resources "XObject" = objects?
  generalize second.dictionary? resources' "XObject" = objects'?
  rintro (@⟨objects, objects', listed⟩ | _)
  · exact ⟨looks.stream objects objects' listed name, looks.form objects objects' listed name⟩
  · exact ⟨rfl, fun form data found => nomatch found⟩

omit same in
/-- **Interpreters of stores that are looked into alike find the same.** -/
theorem mirrors (options : ExtractOptions) :
    Mirrors α ⟨first, options⟩ ⟨second, options⟩ related where
  options := rfl
  decoders := looks.decoders
  font := fun _ _ same name => looks.fontDictionary same name
  externalObject := fun _ _ same name => (looks.externalObject same name).1
  formMatrix := fun _ _ same name form data found =>
    ((looks.externalObject same name).2 form data found).2 options
  formResources := fun _ _ same name form data found =>
    looks.dictionary form form ((looks.externalObject same name).2 form data found).1 "Resources"

end LooksAlike

/-! ## Twins mirror each other -/

/-- A font is the same in two edits of the store that holds it. -/
theorem loadFont_twins {first second : Store} (twins : store.Twins first second)
    {font font' : Dictionary} (twin : font.Twin store font') (name : String) :
    (Font.ofDictionary first font name : Font α) = Font.ofDictionary second font' name := by
  cases twin with
  | same held =>
    rw [← Font.ofDictionary_alike twins.left twins.leftDecoders held (.refl _),
      Font.ofDictionary_alike twins.right twins.rightDecoders held (.refl _)]
  | page held items items' =>
    rw [← Font.ofDictionary_alike twins.left twins.leftDecoders held
        (Dictionary.sameElsewhere_set _ (.inl rfl) _),
      Font.ofDictionary_alike twins.right twins.rightDecoders held
        (Dictionary.sameElsewhere_set _ (.inl rfl) _)]

/-- **Two edits of one store are looked into alike.** -/
theorem looksAlike_of_twins {first second : Store} (twins : store.Twins first second) :
    LooksAlike α first second (Dictionary.Twin store) where
  decoders := twins.decoders
  dictionary := fun _ _ twin name => twins.dictionary? twin name
  stream := fun _ _ twin name => (twins.stream? twin name).1
  form := by
    intro _ _ twin name form data found
    have held := (twins.stream? twin name).2 form data found
    exact ⟨.same held, fun options =>
      (formMatrix_alike twins.left held).symm.trans (formMatrix_alike twins.right held)⟩
  font := fun _ _ twin name => loadFont_twins twins twin name

end Interpreter

/-- **A page of the same content is interpreted the same in two edits of one store.** -/
theorem Store.Twins.interpret_eq {first second : Store} (twins : store.Twins first second)
    {page : Nat} (content : first.pageContent page = second.pageContent page)
    (found : SameAnswer (Object.Twin store) (first.object page) (second.object page))
    (options : ExtractOptions) :
    (first.interpret options page : Recording α × Option ReadFault) =
      second.interpret options page :=
  ((Interpreter.looksAlike_of_twins (α := α) twins).mirrors options).interpret_eq content
    (twins.pageResources found)

end PlacedText
