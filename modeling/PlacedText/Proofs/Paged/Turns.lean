import PlacedText.Proofs.Drawing.Turns
import PlacedText.Proofs.Paged.Rotation
import PlacedText.Proofs.Paged.Twins

/-! # Documents that differ in rotations

Two documents with the same pages and objects, but for dictionaries that are related in some way
(`PagedStore.AlikeBy`). If they differ in rotations only, the boxes, the content and the glyphs of
pages are the same, and stay so whatever is put in front of the content of a page.
-/

namespace PlacedText

open Effect

namespace PagedStore

variable {first second left right : PagedStore} {related weaker : Dictionary → Dictionary → Prop}
  {index page at' : Nat} {entries entries' : Dictionary}

/-- Whether two documents are the same, but for dictionaries that are related. -/
structure AlikeBy (related : Dictionary → Dictionary → Prop) (first second : PagedStore) :
    Prop where
  objects : first.store.AlikeBy related second.store
  maxId : first.store.maxId = second.store.maxId
  pageIds : first.pageIds = second.pageIds

namespace AlikeBy

theorem mono (alike : first.AlikeBy related second)
    (implies : ∀ entries entries', related entries entries' → weaker entries entries') :
    first.AlikeBy weaker second :=
  ⟨alike.objects.mono implies, alike.maxId, alike.pageIds⟩

theorem symm (alike : first.AlikeBy Dictionary.SameButTurn second) :
    second.AlikeBy Dictionary.SameButTurn first :=
  ⟨alike.objects.symm, alike.maxId.symm, alike.pageIds.symm⟩

/-- The numbers that were given out have to stay the same. -/
theorem sameDocument (alike : first.AlikeBy related second) (same : left.SameDocument first)
    (same' : right.SameDocument second) (maxId : left.store.maxId = right.store.maxId) :
    left.AlikeBy related right where
  objects := by
    refine ⟨fun id => ?_, same.decoders.trans (alike.objects.decoders.trans same'.decoders.symm)⟩
    rw [same.objects, same'.objects]
    exact alike.objects.objects id
  maxId := maxId
  pageIds := same.pageIds.trans (alike.pageIds.trans same'.pageIds.symm)

section

variable (alike : first.AlikeBy related second)

include alike

theorem pageId : first.pageId = second.pageId :=
  funext (pageId_congr alike.pageIds)

/-- A page that is found is found in the other document, in the same place. -/
theorem pageAt (reflexive : ∀ entries, related entries entries)
    (found : first.PageAt index page at' entries) :
    ∃ entries', second.PageAt index page at' entries' ∧ related entries entries' := by
  have located := alike.objects.locateFrom Store.maxHops page
  have here := found.found
  unfold Store.locate at here
  rw [here] at located
  generalize there : second.store.locateFrom Store.maxHops page = answer' at located
  cases located with
  | @ok _ place' same =>
    obtain ⟨place', object'⟩ := place'
    obtain ⟨rfl, same⟩ := same
    have id := alike.pageId ▸ found.id
    cases same with
    | same => exact ⟨entries, ⟨id, there⟩, reflexive entries⟩
    | dictionary same => exact ⟨_, ⟨id, there⟩, same⟩

/-- Related dictionaries may be put in the same place. -/
theorem putDictionary (same : related entries entries') (at' : Nat) :
    (first.putDictionary at' entries).AlikeBy related (second.putDictionary at' entries') where
  objects := by
    refine ⟨fun id => ?_, alike.objects.decoders⟩
    rw [getElem?_putDictionary, getElem?_putDictionary]
    split
    · exact .some (.dictionary same)
    · exact alike.objects.objects id
  maxId := congrArg (max · at') alike.maxId
  pageIds := alike.pageIds

end

/-! ## What is read of a page -/

section

variable (alike : first.AlikeBy Dictionary.SameButTurn second)

include alike

/-- A rectangle of a page is the same whatever the rotations are, for any key but theirs. -/
theorem rect? {key : String} (different : Text.Utf8.encode key ≠ Text.Utf8.encode "Rotate") :
    (first.rect? index key : Except ReadFault (Option (Rect Float))) = second.rect? index key := by
  unfold PagedStore.rect?
  rw [alike.pageId]
  dsimp only [bind, Except.bind]
  cases second.pageId index with
  | error fault => rfl
  | ok page =>
    have inherited := alike.objects.inheritedFrom different page Store.maxTreeLevels page
    dsimp only
    unfold Store.inherited
    revert inherited
    generalize first.store.inheritedFrom key page Store.maxTreeLevels page = answer
    generalize second.store.inheritedFrom key page Store.maxTreeLevels page = answer'
    rintro (@⟨value?, value'?, found⟩ | fault)
    · cases found with
      | none => rfl
      | some found =>
        dsimp only
        rw [Turned.rectOf?_alike alike.objects.foundAlike found.1 found.2.sameElsewhere]
    · rfl

theorem mediaBox : (first.mediaBox index : Except ReadFault (Rect Float)) =
    second.mediaBox index := by
  unfold PagedStore.mediaBox
  rw [alike.rect? (by decide)]

theorem cropBox : (first.cropBox index : Except ReadFault (Rect Float)) =
    second.cropBox index := by
  unfold PagedStore.cropBox
  rw [alike.rect? (by decide), alike.mediaBox]

theorem interpret (options : ExtractOptions) :
    first.interpret options index = second.interpret options index :=
  interpret_congr alike.pageIds fun page _ => alike.objects.interpret_eq options page

/-- The parts of the content are the same objects. -/
theorem ownParts (contents? : Option Object) :
    PagedStore.ownParts first.store contents? = PagedStore.ownParts second.store contents? := by
  unfold PagedStore.ownParts
  cases contents? with
  | none => rfl
  | some contents =>
    have shown := alike.objects.resolve contents
    dsimp only
    revert shown
    generalize first.store.resolve contents = object
    generalize second.store.resolve contents = object'
    rintro (_ | _)
    · rfl
    · rfl

/-- The same transform may be put in front of the content of a page. -/
theorem prepended (same : entries.SameButTurn entries') (at' : Nat) (t : Transform Float) :
    (first.prepended at' entries t).AlikeBy Dictionary.SameButTurn
      (second.prepended at' entries' t) := by
  have contents : first.contentsBehind entries = second.contentsBehind entries' := by
    unfold contentsBehind
    rw [← same.find? (by decide), alike.maxId, alike.ownParts]
  have withNew : (first.withNew (transformStream t)).AlikeBy Dictionary.SameButTurn
      (second.withNew (transformStream t)) := by
    refine ⟨⟨fun id => ?_, alike.objects.decoders⟩, ?_, alike.pageIds⟩
    · change Option.Rel _
        (first.store.insert (first.store.maxId + 1) (transformStream t)).objects[id]?
        (second.store.insert (second.store.maxId + 1) (transformStream t)).objects[id]?
      rw [Store.getElem?_insert, Store.getElem?_insert, alike.maxId]
      split
      · exact .some (.same _)
      · exact alike.objects.objects id
    · change max first.store.maxId (first.store.maxId + 1) =
        max second.store.maxId (second.store.maxId + 1)
      rw [alike.maxId]
  unfold PagedStore.prepended
  rw [contents]
  exact withNew.putDictionary (same.set (by decide) _) at'

end

end AlikeBy

/-! ## Rotations -/

/-- Whether the rotation of a page is found, its own, an inherited one or none. -/
def HasRotation (paged : PagedStore) (index : Nat) : Prop :=
  ∃ degrees, paged.rotation index = .ok degrees

/-- A page has a rotation just where the search for it does not fail. -/
theorem hasRotation_iff (id : first.pageId index = .ok page) :
    first.HasRotation index ↔ ∃ value?, first.store.inherited page "Rotate" = .ok value? := by
  unfold HasRotation
  rw [rotation_of_pageId id]
  cases first.store.inherited page "Rotate" with
  | error fault => exact iff_of_false nofun nofun
  | ok value? => exact iff_of_true ⟨_, rfl⟩ ⟨_, rfl⟩

/-- The rotation of a page that has an entry of its own. -/
theorem rotation_of_own (found : first.PageAt index page at' entries) {value : Object}
    (own : entries.find? "Rotate" = some value) : first.rotation index =
      .ok (rightAngle ((first.store.resolve value).integer?.getD 0)) := by
  rw [rotation_of_pageId found.id]
  unfold Store.inherited Store.maxTreeLevels Store.inheritedFrom
  rw [found.dictionary]
  dsimp only
  rw [own]
  rfl

namespace AlikeBy

/-- Rotations are found alike in documents that differ in numbers of degrees only. -/
theorem hasRotation_degrees (alike : first.AlikeBy Dictionary.SameButDegrees second) :
    first.HasRotation index ↔ second.HasRotation index := by
  unfold HasRotation PagedStore.rotation
  rw [alike.pageId]
  cases second.pageId index with
  | error fault => exact iff_of_false nofun nofun
  | ok page =>
    have found := alike.objects.inheritedFrom_degrees page Store.maxTreeLevels page
    dsimp only [bind, Except.bind]
    unfold Store.inherited
    revert found
    generalize first.store.inheritedFrom "Rotate" page Store.maxTreeLevels page = answer
    generalize second.store.inheritedFrom "Rotate" page Store.maxTreeLevels page = answer'
    rintro (_ | fault)
    · exact iff_of_true ⟨_, rfl⟩ ⟨_, rfl⟩
    · exact iff_of_false nofun nofun

variable (alike : first.AlikeBy Dictionary.SameButTurn second)

include alike

/-- Rotations that are found in both documents or in neither are found alike, with the same fault.
-/
theorem rotation (found : first.HasRotation index ↔ second.HasRotation index) :
    SameAnswer (fun _ _ => True) (first.rotation index) (second.rotation index) := by
  unfold HasRotation PagedStore.rotation at found
  unfold PagedStore.rotation
  rw [alike.pageId] at found ⊢
  cases id : second.pageId index with
  | error fault => exact .error fault
  | ok page =>
    have inherited := alike.objects.inheritedFrom_rotate page Store.maxTreeLevels page
    rw [id] at found
    dsimp only [bind, Except.bind] at found ⊢
    unfold Store.inherited at found ⊢
    revert inherited found
    generalize first.store.inheritedFrom "Rotate" page Store.maxTreeLevels page = answer
    generalize second.store.inheritedFrom "Rotate" page Store.maxTreeLevels page = answer'
    rintro found (⟨value?, rfl⟩ | ⟨value?, rfl⟩ | ⟨fault, rfl, rfl⟩)
    · obtain ⟨degrees, there⟩ := found.mp ⟨_, rfl⟩
      cases answer' with
      | error fault => cases there
      | ok value'? => exact .ok trivial
    · obtain ⟨degrees, there⟩ := found.mpr ⟨_, rfl⟩
      cases answer with
      | error fault => cases there
      | ok value'? => exact .ok trivial
    · exact .error fault

/-- A page has the same rotation in both documents, or none of its own but numbers of degrees. -/
theorem rotation_or_isTurn (found : first.PageAt index page at' entries)
    (found' : second.PageAt index page at' entries') (same : entries.SameButTurn entries') :
    first.rotation index = second.rotation index ∨
      Dictionary.IsTurn (entries.find? "Rotate") ∧ Dictionary.IsTurn (entries'.find? "Rotate") := by
  rcases same.turn with own | turns
  · cases here : entries.find? "Rotate" with
    | none =>
      rw [← own, here]
      exact .inr ⟨nofun, nofun⟩
    | some value =>
      rw [rotation_of_own found here, rotation_of_own found' (own ▸ here),
        (alike.objects.resolve value).integer?_eq]
      exact .inl rfl
  · exact .inr turns

end AlikeBy

end PagedStore

end PlacedText
