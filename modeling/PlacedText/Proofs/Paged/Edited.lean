import PlacedText.Proofs.Paged.Rotation

/-! # Documents with edited pages

What is left of processing a document with straightening: of some pages another rotation and a
stream in front of the content, and nothing else (`PagedStore.Edited`). If no page stands above
another one, the rotation of a page shows no edits but its own
(`PagedStore.Edited.rotation_of_kept`, `PagedStore.Edited.rotation_of_turned`).
-/

namespace PlacedText

open Effect

/-! ## Changes of a page -/

/-- What is changed of a page: its rotation, and the number and transform of a stream in front of
its content. -/
structure PageChange where
  rotation? : Option Nat
  front? : Option (Nat × Transform Float)

namespace PageChange

/-- Nothing is changed. -/
def none : PageChange := ⟨.none, .none⟩

/-- The entries of a page after a change of its rotation. -/
def turn (rotation? : Option Nat) (entries : Dictionary) : Dictionary :=
  match rotation? with
  | some degrees => entries.set "Rotate" (.integer degrees)
  | .none => entries

/-- The entries of a page after a change. The content of the page before is found in a store. -/
def apply (change : PageChange) (store : Store) (entries : Dictionary) : Dictionary :=
  match change.front? with
  | some (stream, _) =>
    (turn change.rotation? entries).set "Contents"
      (.array (.reference stream :: PagedStore.ownParts store (entries.find? "Contents")))
  | .none => turn change.rotation? entries

variable {change : PageChange} {store : Store} {entries : Dictionary} {key : String}

theorem find?_turn (rotation? : Option Nat)
    (different : Text.Utf8.encode "Rotate" ≠ Text.Utf8.encode key) :
    (turn rotation? entries).find? key = entries.find? key := by
  unfold turn
  split
  · exact Dictionary.find?_set_of_ne different
  · rfl

/-- A change shows under no other keys. -/
theorem find?_apply (rotation : Text.Utf8.encode "Rotate" ≠ Text.Utf8.encode key)
    (content : Text.Utf8.encode "Contents" ≠ Text.Utf8.encode key) :
    (change.apply store entries).find? key = entries.find? key := by
  unfold apply
  split
  · rw [Dictionary.find?_set_of_ne content, find?_turn _ rotation]
  · exact find?_turn _ rotation

/-- The streams after one more change of a page that had none. -/
theorem front_update {changes : Nat → PageChange} {index index' stream : Nat}
    {t : Transform Float} (plain : (changes index).front? = .none) :
    (Function.update changes index change index').front? = some (stream, t) ↔
      index' = index ∧ change.front? = some (stream, t) ∨
        (changes index').front? = some (stream, t) := by
  by_cases same : index' = index
  · subst same
    rw [Function.update_self, plain]
    simp
  · rw [Function.update_of_ne same]
    simp [same]

theorem find?_apply_rotate : (change.apply store entries).find? "Rotate" =
    (turn change.rotation? entries).find? "Rotate" := by
  unfold apply
  split
  · exact Dictionary.find?_set_of_ne (by decide)
  · rfl

end PageChange

/-! ## Pages that stand apart -/

/-- The nodes above a page of the page tree. -/
inductive Store.Above (store : Store) (page : Nat) : Nat → Prop where
  | parent {entries : Dictionary} {parent : Nat} (own : store.dictionary page = .ok entries)
    (refers : entries.find? "Parent" = some (.reference parent)) : Above store page parent
  | above {node : Nat} {entries : Dictionary} {parent : Nat} (below : Above store page node)
    (own : store.dictionary node = .ok entries)
    (refers : entries.find? "Parent" = some (.reference parent)) : Above store page parent

namespace PagedStore

/-- Whether no two pages of a document have the same dictionary and no page stands above another
one. -/
structure PagesApart (paged : PagedStore) : Prop where
  distinct : ∀ index index' page page' at' at'' entries entries', index ≠ index' →
    paged.PageAt index page at' entries → paged.PageAt index' page' at'' entries' → at' ≠ at''
  unrelated : ∀ index index' page page' at' at'' entries entries', index ≠ index' →
    paged.PageAt index page at' entries → paged.PageAt index' page' at'' entries' →
    ∀ node, paged.store.Above page node → ∀ object, paged.store.locate node ≠ .ok (at'', object)

/-- Whether a document is another one with changed pages. -/
structure Edited (paged after : PagedStore) (changes : Nat → PageChange) : Prop where
  pageIds : after.pageIds = paged.pageIds
  trailer : after.store.trailer = paged.store.trailer
  /-- The dictionary of a page is changed in its place. -/
  pages : ∀ index page at' entries, paged.PageAt index page at' entries →
    after.store.objects[at']? = some (.dictionary ((changes index).apply paged.store entries))
  /-- Every other object is what it was. -/
  others : ∀ (id : Nat) (object : Object), paged.store.objects[id]? = some object →
    (∀ index page entries, ¬paged.PageAt index page id entries) →
    after.store.objects[id]? = some object
  /-- New objects are the streams in front of the content of pages. -/
  streams : ∀ (id : Nat) (object : Object), id ∉ paged.store.objects →
    (after.store.objects[id]? = some object ↔
      ∃ index t, (changes index).front? = some (id, t) ∧ object = transformStream t)
  fresh : ∀ index id t, (changes index).front? = some (id, t) → id ∉ paged.store.objects
  /-- Each of them is that of one page. -/
  owned : ∀ index index' id t t', (changes index).front? = some (id, t) →
    (changes index').front? = some (id, t') → index = index'
  /-- Nothing is changed of what is no page. -/
  absent : ∀ index, (∀ page at' entries, ¬paged.PageAt index page at' entries) →
    changes index = .none

variable {paged after other : PagedStore} {changes : Nat → PageChange}
  {index page at' id hops : Nat} {entries : Dictionary}

namespace Edited

/-- A document is itself with nothing changed. -/
theorem refl (paged : PagedStore) : paged.Edited paged fun _ => .none where
  pageIds := rfl
  trailer := rfl
  pages := fun _ _ _ _ found => found.getElem?
  others := fun _ _ present _ => present
  streams := by
    intro id object absent
    constructor
    · intro present
      exact absurd (Store.mem_of_getElem? present) absent
    · rintro ⟨_, _, front, _⟩
      cases front
  fresh := fun _ _ _ front => nomatch front
  owned := fun _ _ _ _ _ front => nomatch front
  absent := fun _ _ => rfl

variable (edited : paged.Edited after changes)

include edited

/-! ## What is found after edits -/

theorem references (id next : Nat) (refers : paged.store.objects[id]? = some (.reference next)) :
    after.store.objects[id]? = some (.reference next) := by
  refine edited.others id _ refers fun index page entries found => ?_
  rw [found.getElem?] at refers
  cases refers

/-- Edits remove no object. -/
theorem mem (present : id ∈ paged.store.objects) : id ∈ after.store.objects := by
  obtain ⟨object, found⟩ := Option.isSome_iff_exists.mp
    (Std.ExtTreeMap.mem_iff_isSome_getElem?.mp present)
  by_cases isPage : ∃ index page entries, paged.PageAt index page id entries
  · obtain ⟨index, page, entries, here⟩ := isPage
    exact Store.mem_of_getElem? (edited.pages index page id entries here)
  · exact Store.mem_of_getElem? (edited.others id object found
      fun index page entries here => isPage ⟨index, page, entries, here⟩)

/-- What references lead to is where it was, changed if it is the dictionary of a page. -/
theorem located {object : Object} (found : paged.store.locateFrom hops id = .ok (at', object)) :
    (∃ index page entries, paged.PageAt index page at' entries ∧ object = .dictionary entries ∧
      after.store.locateFrom hops id =
        .ok (at', .dictionary ((changes index).apply paged.store entries))) ∨
    (∀ index page entries, ¬paged.PageAt index page at' entries) ∧
      after.store.locateFrom hops id = .ok (at', object) := by
  obtain ⟨present, plain⟩ := Store.getElem?_of_locateFrom found
  by_cases isPage : ∃ index page entries, paged.PageAt index page at' entries
  · obtain ⟨index, page, entries, here⟩ := isPage
    rw [here.getElem?] at present
    cases present
    exact .inl ⟨index, page, entries, here, rfl,
      Store.locateFrom_transfer edited.references found (edited.pages _ _ _ _ here) (by simp)⟩
  · have other : ∀ index page entries, ¬paged.PageAt index page at' entries :=
      fun index page entries here => isPage ⟨index, page, entries, here⟩
    exact .inr ⟨other,
      Store.locateFrom_transfer edited.references found (edited.others _ _ present other) plain⟩

/-- Where references led to no object, they lead to none or to one of the new streams. -/
theorem missed {fault : ObjectFault} (failed : paged.store.locateFrom hops id = .error fault) :
    (∃ fault', after.store.locateFrom hops id = .error fault') ∨
      ∃ at' t, after.store.locateFrom hops id = .ok (at', transformStream t) := by
  fun_induction Store.locateFrom paged.store hops id with
  | case1 hops id absent =>
    have new : id ∉ paged.store.objects := by
      rw [Std.ExtTreeMap.mem_iff_isSome_getElem?, absent]
      simp
    cases found : after.store.objects[id]? with
    | none =>
      unfold Store.locateFrom
      rw [found]
      exact .inl ⟨_, rfl⟩
    | some object =>
      obtain ⟨_, t, _, rfl⟩ := (edited.streams id object new).mp found
      exact .inr ⟨id, t, Store.locateFrom_of_getElem? found (Object.ofData_ne_reference _ _)⟩
  | case2 id next refers =>
    unfold Store.locateFrom
    rw [edited.references id next refers]
    dsimp only
    split
    · exact .inl ⟨_, rfl⟩
    · exact .inl ⟨_, rfl⟩
  | case3 id next refers =>
    unfold Store.locateFrom
    rw [edited.references id next refers]
    dsimp only
    split
    · exact .inl ⟨_, rfl⟩
    · exact .inl ⟨_, rfl⟩
  | case4 id next refers hops ih =>
    unfold Store.locateFrom
    rw [edited.references id next refers]
    exact ih failed
  | case5 => cases failed

theorem pageAt (found : paged.PageAt index page at' entries) :
    after.PageAt index page at' ((changes index).apply paged.store entries) where
  id := (pageId_congr edited.pageIds index).trans found.id
  found := Store.locateFrom_transfer edited.references found.found
    (edited.pages _ _ _ _ found) (by simp)

/-- A page of the edited document was one before. -/
theorem pageAt_back {own : Dictionary} (found : after.PageAt index page at' own) :
    ∃ entries, paged.PageAt index page at' entries := by
  have id := (pageId_congr edited.pageIds index).symm.trans found.id
  cases located : paged.store.locate page with
  | error fault =>
    rcases edited.missed located with ⟨fault', failed⟩ | ⟨place, t, new⟩
    · cases found.found.symm.trans failed
    · cases found.found.symm.trans new
  | ok place =>
    obtain ⟨place, object⟩ := place
    rcases edited.located located with ⟨_, _, entries, _, rfl, after'⟩ | ⟨_, after'⟩
    · cases found.found.symm.trans after'
      exact ⟨entries, id, located⟩
    · cases found.found.symm.trans after'
      exact ⟨own, id, located⟩

/-- A page that was not edited is found as it was. -/
theorem pageAt_of_plain (plain : changes index = .none) {degrees : Nat}
    (turned : after.rotation index = .ok degrees) :
    ∃ page at' entries, paged.PageAt index page at' entries ∧
      after.PageAt index page at' entries := by
  obtain ⟨page, at', own, there⟩ := pageAt_of_rotation turned
  obtain ⟨entries, found⟩ := edited.pageAt_back there
  have same := edited.pageAt found
  rw [plain] at same
  exact ⟨page, at', entries, found, same⟩

/-- What a reference leads to is what it was, or a dictionary if it was one, or one of the new
streams if it led nowhere. -/
theorem resolve (object : Object) :
    after.store.resolve object = paged.store.resolve object ∨
    (∃ entries entries', paged.store.resolve object = .dictionary entries ∧
      after.store.resolve object = .dictionary entries') ∨
    ∃ id t, paged.store.resolve object = .reference id ∧
      after.store.resolve object = transformStream t := by
  cases object with
  | reference id =>
    unfold Store.resolve Store.object Store.locate
    dsimp only
    cases found : paged.store.locateFrom Store.maxHops id with
    | error fault =>
      rcases edited.missed found with ⟨fault', failed⟩ | ⟨place, t, new⟩
      · rw [failed]
        exact .inl rfl
      · rw [new]
        exact .inr (.inr ⟨id, t, rfl, rfl⟩)
    | ok place =>
      obtain ⟨place, object⟩ := place
      rcases edited.located found with ⟨_, _, entries, _, rfl, found'⟩ | ⟨_, found'⟩
      · rw [found']
        exact .inr (.inl ⟨entries, _, rfl, rfl⟩)
      · rw [found']
        exact .inl rfl
  | _ => exact .inl rfl

/-- What is an integer stays one, since edits touch dictionaries only and add streams. -/
theorem integer?_resolve (object : Object) :
    (after.store.resolve object).integer? = (paged.store.resolve object).integer? := by
  rcases edited.resolve object with same | ⟨_, _, before, new⟩ | ⟨_, _, before, new⟩
  · rw [same]
  · rw [before, new]
    rfl
  · rw [before, new]
    rfl

/-- The content of pages has the parts that it had. -/
theorem ownParts_eq (contents? : Option Object) :
    ownParts after.store contents? = ownParts paged.store contents? := by
  cases contents? with
  | none => rfl
  | some contents =>
    unfold ownParts
    rcases edited.resolve contents with same | ⟨_, _, before, new⟩ | ⟨_, _, before, new⟩
    · simp only [same]
    · simp only [before, new]
    · simp only [before, new]
      rfl

/-- What is no dictionary before the edits is none behind them. -/
theorem dictionary_error {fault : ObjectFault} (failed : paged.store.dictionary id = .error fault) :
    ∃ fault', after.store.dictionary id = .error fault' := by
  unfold Store.dictionary Store.object Store.locate at failed ⊢
  cases found : paged.store.locateFrom Store.maxHops id with
  | error fault =>
    rcases edited.missed found with ⟨fault', failed⟩ | ⟨place, t, new⟩
    · rw [failed]
      exact ⟨fault', rfl⟩
    · rw [new]
      exact ⟨_, rfl⟩
  | ok place =>
    obtain ⟨place, object⟩ := place
    rw [found] at failed
    rcases edited.located found with ⟨_, _, entries, _, rfl, _⟩ | ⟨_, found'⟩
    · cases failed
    · rw [found']
      exact ⟨fault, failed⟩

/-! ## The rotation of a page -/

/-- The nodes that a page inherits from show no edits but its own. -/
theorem dictionary_of_reached (apart : paged.PagesApart)
    (found : paged.PageAt index page at' entries) {node : Nat}
    (reached : node = page ∨ paged.store.Above page node) {own : Dictionary}
    (held : paged.store.dictionary node = .ok own) :
    after.store.dictionary node = .ok own ∨
      after.store.dictionary node = .ok ((changes index).apply paged.store own) := by
  unfold Store.dictionary Store.object at held ⊢
  cases located : paged.store.locate node with
  | error fault =>
    rw [located] at held
    cases held
  | ok place =>
    obtain ⟨place, object⟩ := place
    rw [located] at held
    cases object with
    | dictionary _ =>
      cases held
      unfold Store.locate
      rcases edited.located located with ⟨index', page', own', here, same, after'⟩ | ⟨_, after'⟩
      · cases same
        by_cases own : index = index'
        · subst own
          rw [after']
          exact .inr rfl
        · rcases reached with rfl | above
          · cases located.symm.trans found.found
            exact absurd rfl (apart.distinct _ _ _ _ _ _ _ _ own found here)
          · exact absurd located (apart.unrelated _ _ _ _ _ _ _ _ own found here node above _)
      · rw [after']
        exact .inl rfl
    | _ => cases held

/-- The number that a page inherits for its rotation, if its own was not edited. -/
theorem inheritedRotation (apart : paged.PagesApart) (found : paged.PageAt index page at' entries)
    (kept : (changes index).rotation? = .none) (levels : Nat) {node : Nat}
    (reached : node = page ∨ paged.store.Above page node) :
    (after.store.inheritedFrom "Rotate" page levels node).toOption.map
        (fun value? => value? >>= Object.integer?) =
      (paged.store.inheritedFrom "Rotate" page levels node).toOption.map
        fun value? => value? >>= Object.integer? := by
  induction levels generalizing node with
  | zero => rfl
  | succ levels ih =>
    unfold Store.inheritedFrom
    cases held : paged.store.dictionary node with
    | error fault =>
      obtain ⟨fault', failed⟩ := edited.dictionary_error held
      rw [failed]
      rfl
    | ok own =>
      have shown : ∃ own', after.store.dictionary node = .ok own' ∧
          own'.find? "Rotate" = own.find? "Rotate" ∧ own'.find? "Parent" = own.find? "Parent" := by
        rcases edited.dictionary_of_reached apart found reached held with same | changed
        · exact ⟨own, same, rfl, rfl⟩
        · refine ⟨_, changed, ?_, PageChange.find?_apply (by decide) (by decide)⟩
          rw [PageChange.find?_apply_rotate, kept]
          rfl
      obtain ⟨own', held', rotate, parent⟩ := shown
      rw [held']
      dsimp only
      rw [rotate, parent]
      cases own.find? "Rotate" with
      | some value => exact congrArg some (edited.integer?_resolve value)
      | none =>
        dsimp only
        split
        · next parent refers =>
          refine ih (.inr ?_)
          rcases reached with rfl | above
          · exact .parent held refers
          · exact .above above held refers
        · rfl

/-- The rotation of a page is what it was if it was not edited. -/
theorem rotation_of_kept (apart : paged.PagesApart) (found : paged.PageAt index page at' entries)
    (kept : (changes index).rotation? = .none) {degrees : Nat} :
    after.rotation index = .ok degrees ↔ paged.rotation index = .ok degrees := by
  have inherited := edited.inheritedRotation apart found kept Store.maxTreeLevels (.inl rfl)
  rw [rotation_of_pageId found.id, rotation_of_pageId (edited.pageAt found).id]
  unfold Store.inherited
  revert inherited
  generalize after.store.inheritedFrom "Rotate" page Store.maxTreeLevels page = answer
  generalize paged.store.inheritedFrom "Rotate" page Store.maxTreeLevels page = answer'
  intro inherited
  cases answer with
  | error fault =>
    cases answer' with
    | error fault' => exact iff_of_false nofun nofun
    | ok value'? => cases inherited
  | ok value? =>
    cases answer' with
    | error fault' => cases inherited
    | ok value'? =>
      have same : (value? >>= Object.integer?) = (value'? >>= Object.integer?) :=
        Option.some.inj inherited
      simp only [Except.map, same]

/-- The rotation of a page that was rotated is what it was rotated to. -/
theorem rotation_of_turned (found : paged.PageAt index page at' entries) {degrees : Nat}
    (turned : (changes index).rotation? = some degrees) :
    after.rotation index = .ok (rightAngle degrees) := by
  have there := edited.pageAt found
  rw [rotation_of_pageId there.id]
  unfold Store.inherited Store.maxTreeLevels Store.inheritedFrom
  rw [there.dictionary]
  dsimp only
  rw [PageChange.find?_apply_rotate, turned]
  unfold PageChange.turn
  dsimp only
  rw [Dictionary.find?_set_self]
  rfl

/-! ## One more change -/

theorem mem_of_front {t : Transform Float} (front : (changes index).front? = some (id, t)) :
    id ∈ after.store.objects :=
  Store.mem_of_getElem?
    ((edited.streams id _ (edited.fresh index id t front)).mpr ⟨index, t, front, rfl⟩)

/-- With one more change of a page the new objects are the streams that there were and its own. -/
theorem change_streams (found : paged.PageAt index page at' entries)
    (plain : (changes index).front? = .none) {change : PageChange} {changed : Dictionary}
    (objects : ∀ id : Nat, other.store.objects[id]? =
      if at' = id then some (.dictionary changed)
      else match change.front? with
        | some (stream, t) =>
          if stream = id then some (transformStream t) else after.store.objects[id]?
        | .none => after.store.objects[id]?)
    (new : ∀ stream t, change.front? = some (stream, t) → stream ∉ after.store.objects) (id : Nat)
    (object : Object) (absent : id ∉ paged.store.objects) :
    other.store.objects[id]? = some object ↔ ∃ index' t,
      (Function.update changes index change index').front? = some (id, t) ∧
        object = transformStream t := by
  have elsewhere : at' ≠ id := by
    rintro rfl
    exact absent (Store.mem_of_getElem? found.getElem?)
  simp only [PageChange.front_update plain]
  rw [objects, if_neg elsewhere]
  split
  · next stream t front =>
    by_cases here : stream = id
    · subst here
      rw [if_pos rfl]
      constructor
      · intro same
        cases same
        exact ⟨index, t, .inl ⟨rfl, front⟩, rfl⟩
      · rintro ⟨index', t', ⟨rfl, own⟩ | before, rfl⟩
        · cases front.symm.trans own
          rfl
        · exact absurd (edited.mem_of_front before) (new stream t front)
    · rw [if_neg here, edited.streams id object absent]
      have other {t' : Transform Float} : change.front? ≠ some (id, t') := by
        rw [front]
        rintro ⟨⟩
        exact here rfl
      simp only [other, and_false, false_or]
  · next front =>
    rw [edited.streams id object absent, front]
    simp

/-- A page that was not given a stream may be changed, with a stream of its own that is new. -/
theorem change (apart : paged.PagesApart) (found : paged.PageAt index page at' entries)
    (plain : (changes index).front? = .none) {change : PageChange}
    (pageIds : other.pageIds = after.pageIds) (trailer : other.store.trailer = after.store.trailer)
    (objects : ∀ id : Nat, other.store.objects[id]? =
      if at' = id then some (.dictionary (change.apply paged.store entries))
      else match change.front? with
        | some (stream, t) =>
          if stream = id then some (transformStream t) else after.store.objects[id]?
        | .none => after.store.objects[id]?)
    (new : ∀ stream t, change.front? = some (stream, t) → stream ∉ after.store.objects) :
    paged.Edited other (Function.update changes index change) := by
  have kept {id : Nat} {object : Object} (elsewhere : at' ≠ id)
      (there : after.store.objects[id]? = some object) :
      other.store.objects[id]? = some object := by
    rw [objects, if_neg elsewhere]
    split
    · next stream t front =>
      have isNew := new stream t front
      rw [if_neg, there]
      rintro rfl
      exact isNew (Store.mem_of_getElem? there)
    · exact there
  exact {
    pageIds := pageIds.trans edited.pageIds
    trailer := trailer.trans edited.trailer
    pages := by
      intro index' page' place entries' here
      by_cases same : index' = index
      · subst same
        obtain ⟨rfl, rfl, rfl⟩ := found.unique here
        rw [objects, if_pos rfl, Function.update_self]
      · have elsewhere := apart.distinct _ _ _ _ _ _ _ _ (Ne.symm same) found here
        rw [Function.update_of_ne same]
        exact kept elsewhere (edited.pages _ _ _ _ here)
    others := by
      intro id object present noPage
      refine kept ?_ (edited.others id object present noPage)
      rintro rfl
      exact noPage _ _ _ found
    streams := edited.change_streams found plain objects new
    fresh := by
      intro index' id t front present
      rcases (PageChange.front_update plain).mp front with ⟨rfl, own⟩ | before
      · exact new id t own (edited.mem present)
      · exact edited.fresh index' id t before present
    owned := by
      intro first second id t t' front front'
      rcases (PageChange.front_update plain).mp front with ⟨rfl, own⟩ | before
      · rcases (PageChange.front_update plain).mp front' with ⟨rfl, _⟩ | before'
        · rfl
        · exact absurd (edited.mem_of_front before') (new id t own)
      · rcases (PageChange.front_update plain).mp front' with ⟨rfl, own'⟩ | before'
        · exact absurd (edited.mem_of_front before) (new id t' own')
        · exact edited.owned first second id t t' before before'
    absent := by
      intro index' none
      have other : index' ≠ index := by
        rintro rfl
        exact none _ _ _ found
      rw [Function.update_of_ne other]
      exact edited.absent index' none }

/-- The numbers that were given out do not matter. -/
theorem sameDocument (same : other.SameDocument after) : paged.Edited other changes where
  pageIds := same.pageIds.trans edited.pageIds
  trailer := same.trailer.trans edited.trailer
  pages := by
    rw [same.objects]
    exact edited.pages
  others := by
    rw [same.objects]
    exact edited.others
  streams := by
    rw [same.objects]
    exact edited.streams
  fresh := edited.fresh
  owned := edited.owned
  absent := edited.absent

/-- A page that was not edited may be rotated. -/
theorem turn (apart : paged.PagesApart) (found : paged.PageAt index page at' entries)
    (plain : changes index = .none) {rotation? : Option Nat}
    (same : other.SameDocument (after.putDictionary at' (PageChange.turn rotation? entries))) :
    paged.Edited other (Function.update changes index ⟨rotation?, .none⟩) := by
  apply edited.change apart found (congrArg PageChange.front? plain) same.pageIds same.trailer
  · intro id
    rw [same.objects, getElem?_putDictionary]
    rfl
  · intro stream t front
    cases front

/-- A page that has no stream of its own in front of its content may be given one. -/
theorem prepend (apart : paged.PagesApart) (found : paged.PageAt index page at' entries)
    {rotation? : Option Nat} (plain : changes index = ⟨rotation?, .none⟩) (t : Transform Float) :
    paged.Edited (after.prepended at' (PageChange.turn rotation? entries) t)
      (Function.update changes index ⟨rotation?, some (after.store.maxId + 1, t)⟩) := by
  have contents : after.contentsBehind (PageChange.turn rotation? entries) =
      .array (.reference (after.store.maxId + 1) ::
        ownParts paged.store (entries.find? "Contents")) := by
    unfold contentsBehind
    rw [PageChange.find?_turn _ (by decide), edited.ownParts_eq]
  refine edited.change apart found (congrArg PageChange.front? plain) ?_ ?_ ?_ ?_
  · rfl
  · rfl
  · intro id
    rw [getElem?_prepended, contents]
    rfl
  · rintro stream t' ⟨⟩ present
    rw [Std.ExtTreeMap.mem_iff_isSome_getElem?, Store.getElem?_next] at present
    cases present

end Edited

end PagedStore

end PlacedText
