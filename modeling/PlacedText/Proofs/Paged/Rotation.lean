import PlacedText.Proofs.Paged.Orderly

/-! # Documents that differ in the rotation of a page

Suspending, resuming or setting the rotation of a page changes one entry of its dictionary
(`PagedStore.Turned`). Its content and its boxes are read as before.
-/

namespace PlacedText

open Effect

namespace PagedStore

section

variable {paged : PagedStore} {index page : Nat}

/-- The rotation of a page is the inherited number as a right angle, and zero without a number. -/
theorem rotation_of_pageId (id : paged.pageId index = .ok page) :
    paged.rotation index = (paged.store.inherited page "Rotate").map fun value? =>
      rightAngle ((value? >>= Object.integer?).getD 0) := by
  unfold PagedStore.rotation
  rw [id]
  dsimp only [bind, Except.bind]
  cases paged.store.inherited page "Rotate" with
  | error fault => rfl
  | ok value? => rfl

/-- A page that has a rotation is found. -/
theorem pageAt_of_rotation {degrees : Nat} (turned : paged.rotation index = .ok degrees) :
    ∃ page at' entries, paged.PageAt index page at' entries := by
  cases id : paged.pageId index with
  | error fault =>
    unfold PagedStore.rotation at turned
    rw [id] at turned
    cases turned
  | ok page =>
    rw [rotation_of_pageId id] at turned
    cases found : paged.store.dictionary page with
    | error fault =>
      unfold Store.inherited Store.maxTreeLevels Store.inheritedFrom at turned
      rw [found] at turned
      cases turned
    | ok entries =>
      obtain ⟨at', found⟩ := pageAt_of_dictionary id found
      exact ⟨page, at', entries, found⟩

end

variable {first second third : PagedStore} {index page at' : Nat}
  {entries entries' entries'' : Dictionary}

/-- Whether two documents differ at most in how one of their pages is rotated. -/
structure Turned (first second : PagedStore) (index page at' : Nat)
    (entries entries' : Dictionary) : Prop where
  here : first.PageAt index page at' entries
  there : second.PageAt index page at' entries'
  rest : ∀ key, key ≠ Text.Utf8.encode "Rotate" → entries.get? key = entries'.get? key
  others : ∀ id, id ≠ at' → second.store.objects[id]? = first.store.objects[id]?
  decoders : first.store.decompress = second.store.decompress
  pageIds : second.pageIds = first.pageIds

namespace Turned

theorem refl (found : first.PageAt index page at' entries) :
    first.Turned first index page at' entries entries :=
  ⟨found, found, fun _ _ => rfl, fun _ _ => rfl, rfl, rfl⟩

theorem symm (turned : first.Turned second index page at' entries entries') :
    second.Turned first index page at' entries' entries where
  here := turned.there
  there := turned.here
  rest := fun key different => (turned.rest key different).symm
  others := fun id different => (turned.others id different).symm
  decoders := turned.decoders.symm
  pageIds := turned.pageIds.symm

theorem trans (turned : first.Turned second index page at' entries entries')
    (turned' : second.Turned third index page at' entries' entries'') :
    first.Turned third index page at' entries entries'' where
  here := turned.here
  there := turned'.there
  rest := fun key different => (turned.rest key different).trans (turned'.rest key different)
  others := fun id different => (turned'.others id different).trans (turned.others id different)
  decoders := turned.decoders.trans turned'.decoders
  pageIds := turned'.pageIds.trans turned.pageIds

/-- The numbers that were given out do not matter. -/
theorem sameDocument (turned : first.Turned second index page at' entries entries')
    (same : third.SameDocument second) :
    first.Turned third index page at' entries entries' where
  here := turned.here
  there := same.pageAt turned.there
  rest := turned.rest
  others := by
    intro id different
    rw [same.objects]
    exact turned.others id different
  decoders := turned.decoders.trans same.decoders.symm
  pageIds := same.pageIds.trans turned.pageIds

/-- With its own rotation replaced a page is turned and nothing else. -/
theorem setRotate (found : first.PageAt index page at' entries) (value : Object) :
    first.Turned (first.putDictionary at' (entries.set "Rotate" value)) index page at' entries
      (entries.set "Rotate" value) where
  here := found
  there := found.putDictionary _
  rest := by
    intro key different
    unfold Dictionary.set
    rw [Dictionary.get?_put, if_neg (Ne.symm different)]
  others := by
    intro id different
    rw [getElem?_putDictionary, if_neg (Ne.symm different)]
  decoders := rfl
  pageIds := rfl

variable (turned : first.Turned second index page at' entries entries')

include turned

theorem changedAt : first.store.ChangedAt second.store at' entries entries' where
  decoders := turned.decoders
  here := turned.here.getElem?
  there := turned.there.getElem?
  others := by
    intro id different object present
    rw [turned.others id different]
    exact present

theorem sameElsewhere : entries.SameElsewhere entries' :=
  fun key ⟨_, rotation⟩ => turned.rest key rotation

/-- Edits of its rotation show in no other entry, whatever is referred to. -/
theorem similar : first.store.Similar second.store := by
  refine turned.changedAt.similar turned.sameElsewhere fun id fault _ failed => ?_
  cases found : second.store.locateFrom Store.maxHops id with
  | error fault' => exact ⟨fault', rfl⟩
  | ok place =>
    obtain ⟨_, before, _⟩ := turned.symm.changedAt.located found
    rw [failed] at before
    cases before

theorem alike (orderly : first.Orderly) : first.store.Alike second.store :=
  turned.changedAt.alike turned.sameElsewhere orderly.closed
    (orderly.apart index page at' entries turned.here)

/-- The parts of its content are the same. -/
theorem ownParts :
    PagedStore.ownParts second.store (entries'.find? "Contents") =
      PagedStore.ownParts first.store (entries.find? "Contents") := by
  have held := Store.holdsDictionary_of_dictionary turned.here.dictionary
  have own : entries.find? "Contents" = entries'.find? "Contents" := turned.rest _ (by decide)
  unfold PagedStore.ownParts
  rw [← own]
  cases present : entries.find? "Contents" with
  | none => rfl
  | some contents =>
    have related := turned.similar.found contents (held.get present)
    dsimp only
    revert related
    generalize first.store.resolve contents = shown
    generalize second.store.resolve contents = shown'
    rintro (_ | _)
    · rfl
    · rfl

/-- The content of a page does not depend on its rotation. -/
theorem pageContent {content : Bytes}
    (read : first.store.pageContent page = .ok content) :
    second.store.pageContent page = .ok content := by
  have held := Store.holdsDictionary_of_dictionary turned.here.dictionary
  have held' := Store.holdsDictionary_of_dictionary turned.there.dictionary
  obtain ⟨parts, partsHeld⟩ := contentParts_eq (SameDocument.refl first) held
  have parts' := (contentParts_eq (SameDocument.refl second) held').1
  rw [turned.ownParts] at parts'
  rw [Store.pageContent_of_dictionary turned.here.dictionary, parts] at read
  rw [Store.pageContent_of_dictionary turned.there.dictionary, parts',
    turned.similar.found.map_resolve partsHeld read]
  refine Eq.trans ?_ read
  exact Store.joinParts_congr turned.decoders.symm (List.forall₂_same.mpr fun _ _ => .inl rfl) []

/-! ## Boxes -/

variable {α : Type} [Scalar α] {key : String}

omit turned in
/-- A rectangle is the same if it is found alike. -/
theorem rectOf?_alike {store other : Store} (alike : store.FoundAlike other)
    {value value' : Object} (held : store.Holds value) (same : value.SameElsewhere value') :
    (rectOf? store value : Option (Rect α)) = rectOf? other value' := by
  unfold rectOf?
  rw [← same.array?]
  cases value with
  | array items =>
    have numbers := alike.numbers? (α := α) fun item member => held.item member
    simp only [Object.array?, Option.bind_eq_bind, Option.bind_some, numbers]
  | _ => simp only [Object.array?, Option.bind_eq_bind, Option.bind_none]

/-- A rectangle of a page that is found stays the same when the page is turned, for any key but
those of rotations and contents. -/
theorem rect? (different : Text.Utf8.encode key ≠ Text.Utf8.encode "Contents" ∧
    Text.Utf8.encode key ≠ Text.Utf8.encode "Rotate") {rect? : Option (Rect α)}
    (found : first.rect? index key = .ok rect?) : second.rect? index key = .ok rect? := by
  have alike := turned.similar
  unfold PagedStore.rect? at found ⊢
  rw [turned.here.id] at found
  rw [turned.there.id]
  dsimp only [bind, Except.bind] at found ⊢
  cases inherited : first.store.inherited page key with
  | error fault =>
    rw [inherited] at found
    cases found
  | ok value? =>
    obtain ⟨value'?, inherited', related⟩ := alike.inheritedFrom different inherited
    rw [inherited] at found
    rw [show second.store.inherited page key = .ok value'? from inherited']
    cases related with
    | none => exact found
    | some related =>
      dsimp only at found ⊢
      rw [← rectOf?_alike alike.found related.1 related.2]
      exact found

/-- The crop box of a page does not depend on its rotation. -/
theorem cropBox {box : Rect α} (found : first.cropBox index = .ok box) :
    second.cropBox index = .ok box := by
  unfold PagedStore.cropBox at found ⊢
  cases crop : (first.rect? index "CropBox" : Except ReadFault (Option (Rect α))) with
  | error fault =>
    rw [crop] at found
    cases found
  | ok rect? =>
    rw [crop] at found
    rw [turned.rect? (by decide) crop]
    dsimp only [bind, Except.bind] at found ⊢
    cases rect? with
    | some rect => exact found
    | none =>
      dsimp only at found ⊢
      unfold PagedStore.mediaBox at found ⊢
      cases media : (first.rect? index "MediaBox" : Except ReadFault (Option (Rect α))) with
      | error fault =>
        rw [media] at found
        cases found
      | ok rect? =>
        rw [media] at found
        rw [turned.rect? (by decide) media]
        cases rect? with
        | some rect => exact found
        | none => cases found

end Turned

end PagedStore

end PlacedText
