import PlacedText.Proofs.Store.Difference
import PlacedText.Proofs.Store.PageContent
import PlacedText.Proofs.Store.Related

/-! # Stores that differ in rotations

Two stores with the same objects, but for dictionaries that are related in some way
(`Store.AlikeBy`): references lead to the same places in both, and fail alike. If dictionaries
differ in the number of degrees that they turn pages by, and in whether they turn them at all
(`Dictionary.SameButTurn`), everything but rotations is read the same. The rotation that a page
inherits is looked up to the same end, unless only one of the stores has one on the way
(`Store.AlikeBy.inheritedFrom_rotate`).
-/

namespace PlacedText

open Effect

/-! ## Dictionaries -/

namespace Dictionary

/-- Whether an entry is missing or turns a page by a number of degrees. -/
def IsTurn (own? : Option Object) : Prop :=
  ∀ value, own? = some value → ∃ degrees, value = .integer degrees

/-- Whether dictionaries have the same entries, but that both may turn a page by some degrees. -/
structure SameButDegrees (entries other : Dictionary) : Prop where
  rest : ∀ key, key ≠ Text.Utf8.encode "Rotate" → get? entries key = get? other key
  turn : entries.find? "Rotate" = other.find? "Rotate" ∨ ∃ degrees degrees',
    entries.find? "Rotate" = some (.integer degrees) ∧
      other.find? "Rotate" = some (.integer degrees')

/-- Whether dictionaries have the same entries, but that each may turn a page by some degrees or not
at all. -/
structure SameButTurn (entries other : Dictionary) : Prop where
  rest : ∀ key, key ≠ Text.Utf8.encode "Rotate" → get? entries key = get? other key
  turn : entries.find? "Rotate" = other.find? "Rotate" ∨
    IsTurn (entries.find? "Rotate") ∧ IsTurn (other.find? "Rotate")

theorem isTurn_integer (degrees : Int) : IsTurn (some (.integer degrees)) := by
  rintro _ ⟨⟩
  exact ⟨degrees, rfl⟩

/-- An entry that turns a page is nothing else. -/
theorem IsTurn.bind_eq_none {β : Type} {own? : Option Object} {field : Object → Option β}
    (turn : IsTurn own?) (plain : ∀ degrees, field (.integer degrees) = none) :
    own? >>= field = none := by
  cases own? with
  | none => rfl
  | some entry =>
    obtain ⟨degrees, rfl⟩ := turn entry rfl
    exact plain degrees

theorem SameButDegrees.refl (entries : Dictionary) : entries.SameButDegrees entries :=
  ⟨fun _ _ => rfl, .inl rfl⟩

variable {entries other : Dictionary}

theorem SameButDegrees.sameButTurn (same : entries.SameButDegrees other) :
    entries.SameButTurn other where
  rest := same.rest
  turn := same.turn.imp_right fun ⟨degrees, degrees', own, own'⟩ => by
    rw [own, own']
    exact ⟨isTurn_integer degrees, isTurn_integer degrees'⟩

namespace SameButTurn

theorem refl (entries : Dictionary) : entries.SameButTurn entries :=
  ⟨fun _ _ => rfl, .inl rfl⟩

theorem symm (same : entries.SameButTurn other) : other.SameButTurn entries :=
  ⟨fun key different => (same.rest key different).symm, same.turn.imp Eq.symm And.symm⟩

theorem sameElsewhere (same : entries.SameButTurn other) : entries.SameElsewhere other :=
  fun key ⟨_, rotation⟩ => same.rest key rotation

theorem find? (same : entries.SameButTurn other) {name : String}
    (different : Text.Utf8.encode name ≠ Text.Utf8.encode "Rotate") :
    entries.find? name = other.find? name :=
  same.rest _ different

/-- Another entry is put in both. -/
theorem set (same : entries.SameButTurn other) {name : String}
    (different : Text.Utf8.encode name ≠ Text.Utf8.encode "Rotate") (value : Object) :
    (entries.set name value).SameButTurn (other.set name value) where
  rest := by
    intro key rotation
    unfold Dictionary.set
    rw [get?_put, get?_put, same.rest key rotation]
  turn := by
    rw [find?_set_of_ne different, find?_set_of_ne different]
    exact same.turn

end SameButTurn

end Dictionary

/-! ## Objects and stores -/

/-- Objects that are the same, or dictionaries that are related. -/
inductive Object.AlikeBy (related : Dictionary → Dictionary → Prop) : Object → Object → Prop where
  | same (object : Object) : AlikeBy related object object
  | dictionary {entries other : Dictionary} (alike : related entries other) :
      AlikeBy related (.dictionary entries) (.dictionary other)

/-- Whether two stores have the same objects, but for dictionaries that are related, and decode
streams the same. -/
structure Store.AlikeBy (related : Dictionary → Dictionary → Prop) (store other : Store) :
    Prop where
  objects : Store.RelatedBy (Object.AlikeBy related) store other
  decoders : store.decompress = other.decompress

namespace Object.AlikeBy

variable {related : Dictionary → Dictionary → Prop} {object object' : Object}

/-- An object may differ from its counterpart as a dictionary only, never as a reference. -/
theorem keepsReferences : KeepsReferences (AlikeBy related) where
  refl := .same
  eq_of_left next object same := by
    cases same
    rfl
  eq_of_right next object same := by
    cases same
    rfl

theorem stream?_eq (alike : object.AlikeBy related object') : object.stream? = object'.stream? := by
  cases alike with
  | same => rfl
  | dictionary => rfl

theorem integer?_eq (alike : object.AlikeBy related object') :
    object.integer? = object'.integer? := by
  cases alike with
  | same => rfl
  | dictionary => rfl

theorem sameElsewhere (alike : object.AlikeBy Dictionary.SameButTurn object') :
    object.SameElsewhere object' := by
  cases alike with
  | same => exact .refl object
  | dictionary same => exact .dictionary same.sameElsewhere

/-- Objects that are alike have entries that are related, or both have none. -/
theorem entriesOf (reflexive : ∀ entries, related entries entries)
    (alike : object.AlikeBy related object') :
    Option.Rel related (Store.entriesOf object) (Store.entriesOf object') := by
  cases alike with
  | same =>
    cases Store.entriesOf object with
    | none => exact .none
    | some entries => exact .some (reflexive entries)
  | dictionary same => exact .some same

end Object.AlikeBy

namespace Store

variable {store other : Store} {entries entries' : Dictionary}
  {related weaker : Dictionary → Dictionary → Prop}

namespace AlikeBy

/-! ## Following references -/

/-- Dictionaries that are related more closely than asked for are related as asked for. -/
theorem mono (alike : store.AlikeBy related other)
    (implies : ∀ entries entries', related entries entries' → weaker entries entries') :
    store.AlikeBy weaker other := by
  refine ⟨fun id => ?_, alike.decoders⟩
  have here := alike.objects id
  revert here
  generalize store.objects[id]? = object?
  generalize other.objects[id]? = object'?
  rintro (same | _)
  · cases same with
    | same => exact .some (.same _)
    | dictionary same => exact .some (.dictionary (implies _ _ same))
  · exact .none

/-- Whatever differs by a turn in one direction differs by a turn in the other. -/
theorem symm (alike : store.AlikeBy Dictionary.SameButTurn other) :
    other.AlikeBy Dictionary.SameButTurn store := by
  refine ⟨fun id => ?_, alike.decoders.symm⟩
  have here := alike.objects id
  revert here
  generalize store.objects[id]? = object?
  generalize other.objects[id]? = object'?
  rintro (same | _)
  · cases same with
    | same => exact .some (.same _)
    | dictionary same => exact .some (.dictionary same.symm)
  · exact .none

section

variable (alike : store.AlikeBy related other)

include alike

/-- References lead to the same place, or nowhere for the same reason. -/
theorem locateFrom (hops id : Nat) :
    SameAnswer (fun place place' => place.1 = place'.1 ∧ place.2.AlikeBy related place'.2)
      (store.locateFrom hops id) (other.locateFrom hops id) :=
  RelatedBy.locateFrom alike.objects Object.AlikeBy.keepsReferences hops id

theorem object (id : Nat) :
    SameAnswer (Object.AlikeBy related) (store.object id) (other.object id) :=
  RelatedBy.object alike.objects Object.AlikeBy.keepsReferences id

theorem resolve (object : Object) :
    (store.resolve object).AlikeBy related (other.resolve object) :=
  RelatedBy.resolve alike.objects Object.AlikeBy.keepsReferences object

/-- A dictionary is found in both stores, with related entries, or missed in both with the same
fault. -/
theorem dictionary (reflexive : ∀ entries, related entries entries) (id : Nat) :
    SameAnswer related (store.dictionary id) (other.dictionary id) := by
  have found := alike.object id
  unfold Store.dictionary
  revert found
  generalize store.object id = answer
  generalize other.object id = answer'
  rintro (@⟨object, object', same⟩ | fault)
  · cases same with
    | same =>
      cases object with
      | dictionary entries => exact .ok (reflexive entries)
      | _ => exact .error _
    | dictionary same => exact .ok same
  · exact .error fault

end

/-! ## Everything but rotations -/

section

variable (alike : store.AlikeBy Dictionary.SameButTurn other)
  (same : entries.SameButTurn entries')

include alike

theorem foundAlike : store.FoundAlike other :=
  fun object _ => (alike.resolve object).sameElsewhere

include same

/-- What stands under any name is alike, but for numbers of degrees. -/
theorem value?_or (name : String) :
    Option.Rel (Object.AlikeBy Dictionary.SameButTurn) (store.value? entries name)
        (other.value? entries' name) ∨
      Dictionary.IsTurn (store.value? entries name) ∧
        Dictionary.IsTurn (other.value? entries' name) := by
  have resolved {own? found? : Option Object} (own : own? = found?) :
      Option.Rel (Object.AlikeBy Dictionary.SameButTurn) (own?.map store.resolve)
        (found?.map other.resolve) := by
    subst own
    cases own? with
    | none => exact .none
    | some entry => exact .some (alike.resolve entry)
  have turned {own? : Option Object} {own : Store} (turn : Dictionary.IsTurn own?) :
      Dictionary.IsTurn (own?.map own.resolve) := by
    intro value found
    obtain ⟨entry, present, rfl⟩ := Option.map_eq_some_iff.mp found
    obtain ⟨degrees, rfl⟩ := turn entry present
    exact ⟨degrees, rfl⟩
  unfold Store.value?
  by_cases rotation : Text.Utf8.encode name = Text.Utf8.encode "Rotate"
  · unfold Dictionary.find?
    rw [rotation]
    exact same.turn.imp resolved fun turns => ⟨turned turns.1, turned turns.2⟩
  · exact .inl (resolved (same.find? rotation))

/-- An entry that is a dictionary in one document is one in the other, the same but for a turn. -/
theorem dictionary? (held : store.HoldsDictionary entries) (name : String) :
    Option.Rel (fun inner inner' => store.HoldsDictionary inner ∧ inner.SameButTurn inner')
      (store.dictionary? entries name) (other.dictionary? entries' name) := by
  have found := alike.value?_or same name
  have owned := fun inner (found : store.dictionary? entries name = some inner) =>
    held.dictionary? found
  unfold Store.dictionary? at owned ⊢
  revert found owned
  generalize store.value? entries name = value?
  generalize other.value? entries' name = value'?
  rintro ((@⟨value, value', related⟩ | _) | ⟨turn, turn'⟩) owned
  · have inner := related.entriesOf Dictionary.SameButTurn.refl
    change Option.Rel _ (entriesOf value) (entriesOf value')
    revert inner owned
    change (∀ inner, entriesOf value = some inner → _) → _
    generalize entriesOf value = inner?
    generalize entriesOf value' = inner'?
    rintro owned (same | _)
    · exact .some ⟨owned _ rfl, same⟩
    · exact .none
  · exact .none
  · rw [turn.bind_eq_none fun _ => rfl, turn'.bind_eq_none fun _ => rfl]
    exact .none

/-- An entry that is a stream in one document is the same stream in the other, since streams do not
turn. -/
theorem stream? (name : String) : store.value? entries name >>= Object.stream? =
    other.value? entries' name >>= Object.stream? := by
  rcases alike.value?_or same name with found | ⟨turn, turn'⟩
  · revert found
    generalize store.value? entries name = value?
    generalize other.value? entries' name = value'?
    rintro (related | _)
    · exact related.stream?_eq
    · rfl
  · rw [turn.bind_eq_none fun _ => rfl, turn'.bind_eq_none fun _ => rfl]

end

/-! ## Pages -/

section

variable (alike : store.AlikeBy Dictionary.SameButTurn other)

include alike

/-- What a page inherits is alike, or fails to be found for the same reason. -/
theorem inheritedFrom {key : String}
    (different : Text.Utf8.encode key ≠ Text.Utf8.encode "Rotate") (page levels node : Nat) :
    SameAnswer (Option.Rel fun value value' =>
        store.Holds value ∧ value.AlikeBy Dictionary.SameButTurn value')
      (store.inheritedFrom key page levels node) (other.inheritedFrom key page levels node) := by
  induction levels generalizing node with
  | zero => exact .error _
  | succ levels ih =>
    have found := alike.dictionary Dictionary.SameButTurn.refl node
    have owned := fun own (found : store.dictionary node = .ok own) =>
      holdsDictionary_of_dictionary found
    unfold Store.inheritedFrom
    revert found owned
    generalize store.dictionary node = answer
    generalize other.dictionary node = answer'
    rintro (@⟨own, own', same⟩ | fault) owned
    · dsimp only
      rw [← same.find? different, ← same.find? (by decide)]
      cases present : own.find? key with
      | some value =>
        exact .ok (.some ⟨((owned own rfl).get present).resolve, alike.resolve value⟩)
      | none =>
        dsimp only
        split
        · next parent _ => exact ih parent
        · exact .ok .none
    · exact .error _

/-- A page has the same resources but for rotations. -/
theorem pageResources (page : Nat) :
    SameAnswer (fun own own' => store.HoldsDictionary own ∧ own.SameButTurn own')
      (store.pageResources page) (other.pageResources page) := by
  have inherited := alike.inheritedFrom (by decide : Text.Utf8.encode "Resources" ≠ _) page
    maxTreeLevels page
  unfold Store.pageResources Store.inherited
  revert inherited
  generalize store.inheritedFrom "Resources" page maxTreeLevels page = answer
  generalize other.inheritedFrom "Resources" page maxTreeLevels page = answer'
  rintro (@⟨value?, value'?, related⟩ | fault)
  · cases related with
    | none => exact .ok ⟨.inl rfl, .refl []⟩
    | @some value value' related =>
      obtain ⟨held, same⟩ := related
      cases same with
      | dictionary same => exact .ok ⟨held.dictionary rfl, same⟩
      | same =>
        cases value with
        | dictionary own => exact .ok ⟨held.dictionary rfl, .refl own⟩
        | _ => exact .error _
  · exact .error _

/-- The parts of the content of a page are alike piece by piece. -/
theorem contentParts (same : entries.SameButTurn entries') :
    List.Forall₂ (Object.AlikeBy Dictionary.SameButTurn) (store.contentParts entries)
      (other.contentParts entries') := by
  unfold Store.contentParts
  rw [← same.find? (by decide)]
  cases entries.find? "Contents" with
  | none => exact .nil
  | some contents =>
    have shown := alike.resolve contents
    dsimp only
    revert shown
    generalize store.resolve contents = object
    generalize other.resolve contents = object'
    rintro (_ | same)
    · cases object with
      | array items =>
        dsimp only
        rw [List.forall₂_map_left_iff, List.forall₂_map_right_iff, List.forall₂_same]
        exact fun item _ => alike.resolve item
      | _ => exact .cons (.same _) .nil
    · exact .cons (.dictionary same) .nil

/-- The content of a page does not depend on the rotations in a document. -/
theorem pageContent (page : Nat) : store.pageContent page = other.pageContent page := by
  have found := alike.dictionary Dictionary.SameButTurn.refl page
  unfold Store.pageContent
  revert found
  generalize store.dictionary page = answer
  generalize other.dictionary page = answer'
  rintro (same | fault)
  · refine joinParts_congr alike.decoders ((alike.contentParts same).imp ?_) []
    rintro _ _ (_ | _)
    · exact .inl rfl
    · exact .inr ⟨_, _, rfl, rfl⟩
  · rfl

/-! ## Rotations -/

/-- A rotation that is found in neither of the stores is not found for the same reason. -/
theorem inheritedFrom_rotate (page levels node : Nat) :
    (∃ value?, store.inheritedFrom "Rotate" page levels node = .ok value?) ∨
    (∃ value?, other.inheritedFrom "Rotate" page levels node = .ok value?) ∨
    ∃ fault, store.inheritedFrom "Rotate" page levels node = .error fault ∧
      other.inheritedFrom "Rotate" page levels node = .error fault := by
  induction levels generalizing node with
  | zero => exact .inr (.inr ⟨_, rfl, rfl⟩)
  | succ levels ih =>
    have found := alike.dictionary Dictionary.SameButTurn.refl node
    unfold Store.inheritedFrom
    revert found
    generalize store.dictionary node = answer
    generalize other.dictionary node = answer'
    rintro (@⟨own, own', same⟩ | fault)
    · have parents : own'.find? "Parent" = own.find? "Parent" := (same.find? (by decide)).symm
      dsimp only
      rw [parents]
      cases own.find? "Rotate" with
      | some value => exact .inl ⟨_, rfl⟩
      | none =>
        cases own'.find? "Rotate" with
        | some value => exact .inr (.inl ⟨_, rfl⟩)
        | none =>
          dsimp only
          split
          · next parent _ => exact ih parent
          · exact .inl ⟨_, rfl⟩
    · exact .inr (.inr ⟨_, rfl, rfl⟩)

end

/-- A rotation is found in both of two stores that differ in numbers of degrees only, or in neither.
-/
theorem inheritedFrom_degrees (alike : store.AlikeBy Dictionary.SameButDegrees other)
    (page levels node : Nat) :
    SameAnswer (fun _ _ => True) (store.inheritedFrom "Rotate" page levels node)
      (other.inheritedFrom "Rotate" page levels node) := by
  induction levels generalizing node with
  | zero => exact .error _
  | succ levels ih =>
    have found := alike.dictionary Dictionary.SameButDegrees.refl node
    unfold Store.inheritedFrom
    revert found
    generalize store.dictionary node = answer
    generalize other.dictionary node = answer'
    rintro (@⟨own, own', same⟩ | fault)
    · have parents : own'.find? "Parent" = own.find? "Parent" :=
        (same.rest _ (by decide)).symm
      dsimp only
      rw [parents]
      rcases same.turn with same | ⟨degrees, degrees', turn, turn'⟩
      · rw [← same]
        cases own.find? "Rotate" with
        | some value => exact .ok trivial
        | none =>
          dsimp only
          split
          · next parent _ => exact ih parent
          · exact .ok trivial
      · rw [turn, turn']
        exact .ok trivial
    · exact .error _

end AlikeBy

end Store

end PlacedText
